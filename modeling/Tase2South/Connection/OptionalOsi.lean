import Tase2South.Config.Stack
import Tase2South.Connection.Addressing
import Tase2South.Connection.Calls

/-!
# Connections without an OSI section

The section `osi` of a connection is optional in the importer
(`src/tase2_client_config.cpp:302–305`) and becomes a pointer that may be null
(`src/tase2_client.cpp:186–188`). `CON_STATE_IDLE` asks for it before it calls
`m_setOsiConnectionParameters` (`src/tase2_client_connection.cpp:292–293`);
`prepareConnection` does not (`src/tase2_client_connection.cpp:698`).
-/

namespace Tase2South.Connection

open Tase2South.Base Tase2South.Json Tase2South.Config

/-- A connection has OSI parameters exactly when its group does. -/
theorem isSome_osiParameters_ofGroup (group : RedGroup) :
    (ConnectionParams.ofGroup group).osiParameters.isSome = group.isOsiParametersEnabled := by
  rw [ConnectionParams.ofGroup]
  cases group.isOsiParametersEnabled <;> rfl

/-! ### What a step respects -/

/-- On every endpoint created so far the OSI addresses of both sides were set, or not, as the
group says. -/
def OsiSetExactly (group : RedGroup) (calls : List LibCall) : Prop :=
  ∀ tls endpoint, .endpointCreate tls (some endpoint) ∈ calls →
    ((∃ p s t, .endpoint endpoint (.setRemoteAddresses p s t) ∈ calls) ↔
      group.isOsiParametersEnabled = true) ∧
    ((∃ p s t, .endpoint endpoint (.setLocalAddresses p s t) ∈ calls) ↔
      group.isOsiParametersEnabled = true)

/-- The step dereferences no absent OSI parameters, and leaves the OSI addresses of every
endpoint as the group says. -/
structure RespectsOsi (config : TASE2ClientConfig) (group : RedGroup)
    (s : TASE2ClientConnection) (a : Action) : Prop where
  given : step config s a ≠ .error .absentOsiParameters
  addresses : ∀ t, step config s a = .ok t → OsiSetExactly group t.session.calls

/-- Without a section, no attempt obtains an endpoint. -/
def OsiSafe (config : TASE2ClientConfig) (group : RedGroup) (s : TASE2ClientConnection)
    (a : Action) : Prop :=
  group.isOsiParametersEnabled = true ∨ ∀ env, a = .iterate env → s.connect = true →
    s.connectionState = .idle → obtainsEndpoint env.prepare config group.tls = false

/-- An attempt dereferences absent OSI parameters exactly when it has none and obtains an
endpoint. -/
theorem idleIteration_eq_absentOsiParameters_iff {config : TASE2ClientConfig} {env : IterationEnv}
    {s : TASE2ClientConnection} (hs : s.session.endpoint = none) :
    s.idleIteration config env = .error .absentOsiParameters ↔
      s.osiParameters = none ∧ obtainsEndpoint env.prepare config s.useTls = true := by
  constructor
  · intro h
    cases hobtains : obtainsEndpoint env.prepare config s.useTls with
    | false =>
      rw [idleIteration_of_refused hs hobtains] at h
      cases h
    | true =>
      cases hosi : s.osiParameters with
      | none => exact ⟨rfl, rfl⟩
      | some osiParams =>
        rw [← Session.isSome_endpoint_createEndpoint hs] at hobtains
        obtain ⟨endpoint, hendpoint⟩ := Option.isSome_iff_exists.mp hobtains
        rw [idleIteration_of_obtained hs hendpoint hosi] at h
        cases h
  · rintro ⟨hosi, hobtains⟩
    exact idleIteration_of_absentOsiParameters hs hobtains hosi

/-- Outside `CON_STATE_IDLE` nothing dereferences the OSI parameters. -/
theorem idle_of_absentOsiParameters {config : TASE2ClientConfig} {env : IterationEnv}
    {s : TASE2ClientConnection} (hs : PhaseInv s)
    (h : s.iteration config env = .error .absentOsiParameters) :
    s.connect = true ∧ s.connectionState = .idle := by
  rw [TASE2ClientConnection.iteration] at h
  split at h
  · next hconnect =>
    refine ⟨hconnect, ?_⟩
    cases hstate : s.connectionState with
    | idle => rfl
    | connecting =>
      simp only [hstate, TASE2ClientConnection.connectingIteration] at h
      split at h
      · cases h
      · split at h
        · cases h
        · split at h <;> cases h
    | connected =>
      simp only [hstate, TASE2ClientConnection.connectedIteration] at h
      split at h
      · cases h
      · split at h <;> cases h
    | closed => exact absurd hstate hs.entered.1
    | waitForReconnect => exact absurd hstate hs.entered.2
    | fatalError =>
      simp only [hstate] at h
      cases h
  · cases h

/-- A step dereferences absent OSI parameters exactly when it is an attempt without them that
obtains an endpoint. -/
theorem step_eq_absentOsiParameters_iff {config : TASE2ClientConfig} {s : TASE2ClientConnection}
    {a : Action} (hs : PhaseInv s) :
    step config s a = .error .absentOsiParameters ↔
      s.osiParameters = none ∧ ∃ env, a = .iterate env ∧ s.connect = true ∧
        s.connectionState = .idle ∧ obtainsEndpoint env.prepare config s.useTls = true := by
  constructor
  · intro h
    cases a with
    | connect => cases h
    | disconnect => cases h
    | iterate env =>
      obtain ⟨hconnect, hstate⟩ := idle_of_absentOsiParameters hs h
      rw [step, TASE2ClientConnection.iteration, if_pos hconnect] at h
      simp only [hstate] at h
      obtain ⟨hosi, hobtains⟩ :=
        (idleIteration_eq_absentOsiParameters_iff (hs.released hstate)).mp h
      exact ⟨hosi, env, rfl, hconnect, hstate, hobtains⟩
  · rintro ⟨hosi, env, rfl, hconnect, hstate, hobtains⟩
    rw [step, TASE2ClientConnection.iteration, if_pos hconnect]
    simp only [hstate]
    exact (idleIteration_eq_absentOsiParameters_iff (hs.released hstate)).mpr ⟨hosi, hobtains⟩

/-! ### Addresses in every run -/

/-- Every endpoint created so far has both OSI addresses, and the group has them to set. -/
def AddressedOnCreation (group : RedGroup) (calls : List LibCall) : Prop :=
  ∀ tls endpoint, .endpointCreate tls (some endpoint) ∈ calls →
    group.isOsiParametersEnabled = true ∧
    (∃ p s t, .endpoint endpoint (.setRemoteAddresses p s t) ∈ calls) ∧
    ∃ p s t, .endpoint endpoint (.setLocalAddresses p s t) ∈ calls

/-- A connection made from the group, at some point of a run. -/
structure OsiInv (group : RedGroup) (s : TASE2ClientConnection) : Prop where
  phase : PhaseInv s
  params : s.toConnectionParams = .ofGroup group
  addressed : AddressedOnCreation group s.session.calls

/-- Calls that create no endpoint leave every endpoint addressed. -/
theorem AddressedOnCreation.append {group : RedGroup} {calls new : List LibCall}
    (h : AddressedOnCreation group calls)
    (hnew : ∀ tls endpoint, .endpointCreate tls (some endpoint) ∉ new) :
    AddressedOnCreation group (calls ++ new) := by
  intro tls endpoint hc
  rcases List.mem_append.mp hc with hc | hc
  · obtain ⟨henabled, ⟨p, s, t, hremote⟩, ⟨p', s', t', hlocal⟩⟩ := h tls endpoint hc
    exact ⟨henabled, ⟨p, s, t, List.mem_append_left new hremote⟩,
      ⟨p', s', t', List.mem_append_left new hlocal⟩⟩
  · exact absurd hc (hnew tls endpoint)

/-- The set-up of an endpoint addresses both sides. -/
theorem addresses_mem_osiCalls (osiParams : OsiParameters) :
    (∃ p s t, .setRemoteAddresses p s t ∈ osiCalls osiParams) ∧
      ∃ p s t, .setLocalAddresses p s t ∈ osiCalls osiParams := by
  constructor
  · exact ⟨_, _, _, List.mem_append_right _ List.mem_cons_self⟩
  · exact ⟨_, _, _, List.mem_append_right _ (List.mem_cons_of_mem _ List.mem_cons_self)⟩

/-- An attempt that uses its endpoint addresses it. -/
theorem addressed_of_attempt {env : PrepareEnv} {config : TASE2ClientConfig} {group : RedGroup}
    {s : TASE2ClientConnection} {u t : Session} {useTls : Bool} {endpoint : Handle}
    {osiParams : OsiParameters} (hs : OsiInv group s)
    (hcreation : EndpointCreation env config s.session u useTls)
    (huse : EndpointUse s u t endpoint osiParams) : AddressedOnCreation group t.calls := by
  obtain ⟨created, hcreated, hresult⟩ := hcreation.result_eq
  obtain ⟨used, hused, hnone, hosi⟩ := huse.calls_eq
  have henabled : group.isOsiParametersEnabled = true := by
    rw [← isSome_osiParameters_ofGroup, ← hs.params, huse.given]
    rfl
  obtain ⟨⟨p, r, q, hremote⟩, ⟨p', r', q', hlocal⟩⟩ := addresses_mem_osiCalls osiParams
  have hsplit : t.calls = s.session.calls ++ (created ++ used) := by
    rw [hused, hcreated, List.append_assoc]
  intro tls e hc
  by_cases hold : .endpointCreate tls (some e) ∈ s.session.calls
  · obtain ⟨-, ⟨p, r, q, hremote⟩, ⟨p', r', q', hlocal⟩⟩ := hs.addressed tls e hold
    rw [hsplit]
    exact ⟨henabled, ⟨p, r, q, List.mem_append_left _ hremote⟩,
      ⟨p', r', q', List.mem_append_left _ hlocal⟩⟩
  · -- the only endpoint created is the one that is used
    have he : e = endpoint := by
      rw [hsplit, List.mem_append, List.mem_append] at hc
      rcases hc with hc | hc | hc
      · exact absurd hc hold
      · exact Option.some.inj ((hresult tls _ hc).trans huse.obtained)
      · exact absurd hc (hnone tls _)
    rw [he, hused]
    exact ⟨henabled, ⟨p, r, q, List.mem_append_right _ (hosi _ hremote)⟩,
      ⟨p', r', q', List.mem_append_right _ (hosi _ hlocal)⟩⟩

/-- Every step keeps the invariant. -/
theorem osiInv_step {config : TASE2ClientConfig} {group : RedGroup} {s t : TASE2ClientConnection}
    {a : Action} (hs : OsiInv group s) (h : step config s a = .ok t) : OsiInv group t where
  phase := phaseInv_step hs.phase h
  params := (toConnectionParams_of_step hs.phase h).trans hs.params
  addressed := by
    cases stepCalls hs.phase h with
    | routine hcontinues _ =>
      obtain ⟨new, hnew, hroutine⟩ := hcontinues
      rw [hnew.calls_eq]
      exact hs.addressed.append fun tls endpoint hc ↦ by cases hroutine _ hc
    | released held hheld hcontinues _ _ =>
      rw [hcontinues.calls_eq]
      refine hs.addressed.append fun tls endpoint hc ↦ ?_
      rcases List.mem_append.mp hc with hc | hc
      · cases hheld _ hc
      · exact endpointCreate_notMem_releaseCalls s.session _ _ hc
    | refused env _ _ hcreation hend =>
      obtain ⟨new, hcalls, hresult⟩ := hcreation.result_eq
      rw [hcalls]
      refine hs.addressed.append fun tls endpoint hc ↦ ?_
      have hnone := hresult tls _ hc
      rw [hend.1] at hnone
      cases hnone
    | attempted env _ _ u hcreation _ endpoint osiParams huse =>
      exact addressed_of_attempt hs hcreation huse

/-- Addressed endpoints are addressed as the group says. -/
theorem AddressedOnCreation.osiSetExactly {group : RedGroup} {calls : List LibCall}
    (h : AddressedOnCreation group calls) : OsiSetExactly group calls := by
  intro tls endpoint hc
  obtain ⟨henabled, hremote, hlocal⟩ := h tls endpoint hc
  exact ⟨iff_of_true hremote henabled, iff_of_true hlocal henabled⟩

/-- In a run, a step respects the missing section exactly when it is safe. -/
theorem OsiInv.respectsOsi_iff {config : TASE2ClientConfig} {group : RedGroup}
    {s : TASE2ClientConnection} (hs : OsiInv group s) (a : Action) :
    RespectsOsi config group s a ↔ OsiSafe config group s a := by
  have hparams : s.osiParameters = (ConnectionParams.ofGroup group).osiParameters := by
    rw [hs.params]
  have htls : s.useTls = group.tls := by
    rw [hs.params]
    rfl
  have hfault : step config s a = .error .absentOsiParameters ↔ _ :=
    step_eq_absentOsiParameters_iff hs.phase
  rw [hparams, htls] at hfault
  constructor
  · intro h
    by_cases henabled : group.isOsiParametersEnabled = true
    · exact .inl henabled
    · right
      intro env ha hconnect hstate
      by_contra hobtains
      rw [Bool.not_eq_false] at hobtains
      rw [← isSome_osiParameters_ofGroup, Bool.not_eq_true, Option.isSome_eq_false_iff,
        Option.isNone_iff_eq_none] at henabled
      exact h.given (hfault.mpr ⟨henabled, env, ha, hconnect, hstate, hobtains⟩)
  · intro h
    refine ⟨fun he ↦ ?_, fun t ht ↦ (osiInv_step hs ht).addressed.osiSetExactly⟩
    obtain ⟨hosi, env, ha, hconnect, hstate, hobtains⟩ := hfault.mp he
    rcases h with henabled | hsafe
    · rw [← isSome_osiParameters_ofGroup, hosi] at henabled
      cases henabled
    · rw [hsafe env ha hconnect hstate] at hobtains
      cases hobtains

/-- Every step of a run of a connection made from a group respects a missing OSI section exactly
when the group has the section or no attempt of the run obtains an endpoint. -/
theorem stepsMeet_respectsOsi_iff (config : TASE2ClientConfig) (group : RedGroup)
    (as : List Action) :
    StepsMeet (step config) (RespectsOsi config group) (.new (.ofGroup group)) as ↔
      StepsMeet (step config) (OsiSafe config group) (.new (.ofGroup group)) as := by
  apply stepsMeet_congr (step config) (fun s a hs ↦ OsiInv.respectsOsi_iff hs a)
    (fun _ _ _ hs _ h ↦ osiInv_step hs h)
  exact ⟨phaseInv_new _, rfl, fun _ _ h ↦ absurd h List.not_mem_nil⟩

/-! ### A connection without the section -/

/-- A connection with an address and a port only. -/
def plainConnection : Value := .object [("ip_addr", .string "127.0.0.1"), ("port", .int 102)]

/-- The connection is imported and connected; its endpoint is created, and then the absent OSI
parameters are dereferenced. -/
theorem not_respectsOsi_plain :
    ∃ group s, importGroup plainConnection = .ok group ∧
      run (step .fresh) (.new (.ofGroup group)) [.connect] = .ok s ∧
      step .fresh s (.iterate (.plain 0 false)) = .error .absentOsiParameters ∧
      ¬ RespectsOsi .fresh group s (.iterate (.plain 0 false)) := by
  refine ⟨{ ipAddr := "127.0.0.1", tcpPort := 102 }, _, ?_, rfl, rfl, fun h ↦ h.given rfl⟩
  decide

end Tase2South.Connection
