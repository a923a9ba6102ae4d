import Tase2South.Base.Ledger
import Tase2South.Connection.Calls

/-!
# TLS is never left out

What `prepareConnection` does for a connection with TLS,
`src/tase2_client_connection.cpp:494–675`, over whole runs of the connection: an endpoint is
created with a TLS configuration that has its own key and certificate, or not at all.
-/

namespace Tase2South.Connection

open Tase2South.Base Tase2South.Config

/-! ### A TLS configuration set up as configured -/

/-- Both own files are configured, and reading each of them ends well. -/
def OwnFilesLoaded (env : PrepareEnv) (config : TASE2ClientConfig) : Prop :=
  config.privateKey ≠ "" ∧ config.ownCertificate ≠ "" ∧
    env.ownKey = .loaded ∧ env.ownCert = .loaded

/-- The calls since its creation make the TLS configuration usable: both own files were loaded
into it, and its two checks are on exactly when they have certificates to check against. -/
structure SecureSetup (config : TASE2ClientConfig) (tls : Handle) (setup : List LibCall) :
    Prop where
  ownKey : ∃ dataDir : String, .tls tls (.setOwnKeyFromFile
    (dataDir ++ "/etc/certs/" ++ config.privateKey) true) ∈ setup
  ownCertificate : ∃ dataDir : String, .tls tls (.setOwnCertificateFromFile
    (certificatePath dataDir config.ownCertificate) true) ∈ setup
  onlyKnown : ∀ value, .tls tls (.setAllowOnlyKnownCertificates value) ∈ setup ↔
    value = !config.remoteCertificates.isEmpty
  chain : ∀ value, .tls tls (.setChainValidation value) ∈ setup ↔
    value = !config.caCertificates.isEmpty
  kept : .tls tls .destroy ∉ setup

/-- An endpoint is created with a TLS configuration that was created before and set up since. -/
def SecuredCall (config : TASE2ClientConfig) (before : List LibCall) (call : LibCall) : Prop :=
  ∀ tls result, call = .endpointCreate tls result → ∃ h earlier setup,
    tls = some h ∧ before = earlier ++ .tls h .create :: setup ∧ SecureSetup config h setup

/-- The own files are loaded exactly when the code finds its TLS configuration usable. -/
theorem tlsConfigOk_iff (env : PrepareEnv) (config : TASE2ClientConfig) :
    tlsConfigOk env config = true ↔ OwnFilesLoaded env config := by
  simp only [tlsConfigOk, OwnFilesLoaded, Bool.and_eq_true, Bool.not_eq_true', Bool.or_eq_false_iff,
    String.isEmpty_eq_false_iff, beq_iff_eq]
  tauto

/-- Own files that load are handed on. -/
theorem ownFiles_of_loaded {env : PrepareEnv} {config : TASE2ClientConfig} (tls : Handle)
    (h : OwnFilesLoaded env config) :
    .tls tls (.setOwnKeyFromFile (env.dataDir ++ "/etc/certs/" ++ config.privateKey) true) ∈
        ownFiles env config tls ∧
      .tls tls (.setOwnCertificateFromFile
        (certificatePath env.dataDir config.ownCertificate) true) ∈ ownFiles env config tls := by
  obtain ⟨hkey, hcert, hkeyLoaded, hcertLoaded⟩ := h
  simp [ownFiles, hkey, hcert, hkeyLoaded, hcertLoaded, loadFile]

/-- The calls on a TLS configuration before the endpoint is created with it, after its
creation. -/
def tlsSetup (env : PrepareEnv) (config : TASE2ClientConfig) (tls : Handle) : List LibCall :=
  ownFiles env config tls ++
    otherFiles env.dataDir tls config.remoteCertificates .setAllowOnlyKnownCertificates
      .addAllowedCertificateFromFile env.remoteCert ++
    otherFiles env.dataDir tls config.caCertificates .setChainValidation
      .addCACertificateFromFile env.caCert ++
    [.tls tls (.setRenegotiationTime 60000)]

/-- The calls of the set-up. -/
theorem mem_tlsSetup {env : PrepareEnv} {config : TASE2ClientConfig} {tls : Handle} {c : LibCall}
    (h : c ∈ tlsSetup env config tls) :
    (∃ file readable, c = .access file readable) ∨ ∃ call, c = .tls tls call ∧
      ((∃ file loaded, call = .setOwnKeyFromFile file loaded) ∨
        (∃ file loaded, call = .setOwnCertificateFromFile file loaded) ∨
        call = .setAllowOnlyKnownCertificates (!config.remoteCertificates.isEmpty) ∨
        (∃ file loaded, call = .addAllowedCertificateFromFile file loaded) ∨
        call = .setChainValidation (!config.caCertificates.isEmpty) ∨
        (∃ file loaded, call = .addCACertificateFromFile file loaded) ∨
        call = .setRenegotiationTime 60000) := by
  simp only [tlsSetup, List.mem_append, List.mem_singleton, or_assoc] at h
  rcases h with h | h | h | h
  · rcases mem_ownFiles h with hc | ⟨file, loaded, hc⟩ | ⟨file, loaded, hc⟩
    · exact .inl hc
    · exact .inr ⟨_, hc, .inl ⟨file, loaded, rfl⟩⟩
    · exact .inr ⟨_, hc, .inr (.inl ⟨file, loaded, rfl⟩)⟩
  · rcases mem_otherFiles h with hc | hc | ⟨file, loaded, hc⟩
    · exact .inr ⟨_, hc, .inr (.inr (.inl rfl))⟩
    · exact .inl hc
    · exact .inr ⟨_, hc, .inr (.inr (.inr (.inl ⟨file, loaded, rfl⟩)))⟩
  · rcases mem_otherFiles h with hc | hc | ⟨file, loaded, hc⟩
    · exact .inr ⟨_, hc, .inr (.inr (.inr (.inr (.inl rfl))))⟩
    · exact .inl hc
    · exact .inr ⟨_, hc, .inr (.inr (.inr (.inr (.inr (.inl ⟨file, loaded, rfl⟩)))))⟩
  · exact .inr ⟨_, h, .inr (.inr (.inr (.inr (.inr (.inr rfl)))))⟩

/-- The set-up is as configured when both own files load. -/
theorem secureSetup_tlsSetup {env : PrepareEnv} {config : TASE2ClientConfig} (tls : Handle)
    (h : OwnFilesLoaded env config) : SecureSetup config tls (tlsSetup env config tls) := by
  obtain ⟨hkey, hcert⟩ := ownFiles_of_loaded tls h
  have hown {c : LibCall} (hc : c ∈ ownFiles env config tls) : c ∈ tlsSetup env config tls :=
    List.mem_append_left _ (List.mem_append_left _ (List.mem_append_left _ hc))
  refine ⟨⟨env.dataDir, hown hkey⟩, ⟨env.dataDir, hown hcert⟩, fun value ↦ ?_, fun value ↦ ?_, ?_⟩
  · constructor
    · intro hc
      have hcall := mem_tlsSetup hc
      simpa using hcall
    · rintro rfl
      simp [tlsSetup, otherFiles]
  · constructor
    · intro hc
      have hcall := mem_tlsSetup hc
      simpa using hcall
    · rintro rfl
      simp [tlsSetup, otherFiles]
  · intro hc
    have hcall := mem_tlsSetup hc
    simp at hcall

/-! ### The calls of a run -/

/-- Every endpoint of the history was created securely. -/
def EndpointsSecured (config : TASE2ClientConfig) (calls : List LibCall) : Prop :=
  EachPreceded (SecuredCall config) calls

/-- Calls among which none creates an endpoint keep every endpoint secured. -/
theorem EndpointsSecured.append {config : TASE2ClientConfig} {calls new : List LibCall}
    (h : EndpointsSecured config calls) (hnew : ∀ tls result, .endpointCreate tls result ∉ new) :
    EndpointsSecured config (calls ++ new) := by
  refine EachPreceded.append h fun c hc before tls result heq ↦ ?_
  subst heq
  exact absurd hc (hnew tls result)

/-- With TLS, creating the endpoint keeps every endpoint secured. -/
theorem endpointsSecured_of_creation {env : PrepareEnv} {config : TASE2ClientConfig} {s t : Session}
    (h : EndpointCreation env config s t true) (hs : EndpointsSecured config s.calls) :
    EndpointsSecured config t.calls := by
  cases h with
  | unusable _ h =>
    rw [h.calls_eq]
    exact hs.append fun tls result hc ↦ by cases routine_tlsCalls env config s.nextHandle _ hc
  | secured hok last hlast h =>
    have hsetup : tlsCalls env config s.nextHandle ++
        [.tls s.nextHandle (.setRenegotiationTime 60000)] =
          .tls s.nextHandle .create :: tlsSetup env config s.nextHandle := by
      simp only [tlsCalls, tlsSetup, List.cons_append, List.append_assoc]
    have hcalls : t.calls = s.calls ++ (.tls s.nextHandle .create ::
        tlsSetup env config s.nextHandle) ++ [.endpointCreate (some s.nextHandle) t.endpoint] ++
          last := by
      rw [h.calls_eq, hsetup]
      simp only [List.append_assoc, List.cons_append, List.nil_append]
    have hbefore : EndpointsSecured config
        (s.calls ++ (.tls s.nextHandle .create :: tlsSetup env config s.nextHandle)) := by
      rw [← hsetup]
      refine hs.append fun tls result hc ↦ ?_
      rcases List.mem_append.mp hc with hc | hc
      · cases routine_tlsCalls env config s.nextHandle _ hc
      · cases List.mem_singleton.mp hc
    have hcreate : SecuredCall config
        (s.calls ++ (.tls s.nextHandle .create :: tlsSetup env config s.nextHandle))
        (.endpointCreate (some s.nextHandle) t.endpoint) := by
      rintro tls result heq
      cases heq
      exact ⟨s.nextHandle, s.calls, tlsSetup env config s.nextHandle, rfl, rfl,
        secureSetup_tlsSetup s.nextHandle ((tlsConfigOk_iff env config).mp hok)⟩
    rw [hcalls]
    exact EndpointsSecured.append (hbefore.concat hcreate) fun tls result hc ↦ by
      cases hlast _ hc

/-- A step of a connection with TLS keeps every endpoint secured. -/
theorem endpointsSecured_step {config : TASE2ClientConfig} {s t : TASE2ClientConnection}
    {a : Action} (hphase : PhaseInv s) (htls : s.useTls = true)
    (hs : EndpointsSecured config s.session.calls) (h : step config s a = .ok t) :
    EndpointsSecured config t.session.calls := by
  cases stepCalls hphase h with
  | routine hcontinues _ =>
    obtain ⟨new, hnew, hroutine⟩ := hcontinues
    rw [hnew.calls_eq]
    exact hs.append fun tls result hc ↦ by cases hroutine _ hc
  | released held hheld hcontinues _ _ =>
    rw [hcontinues.calls_eq]
    refine hs.append fun tls result hc ↦ ?_
    rcases List.mem_append.mp hc with hc | hc
    · cases hheld _ hc
    · exact endpointCreate_notMem_releaseCalls s.session tls result hc
  | refused env _ _ hcreation _ =>
    rw [htls] at hcreation
    exact endpointsSecured_of_creation hcreation hs
  | attempted env _ _ u hcreation _ endpoint osiParams huse =>
    rw [htls] at hcreation
    obtain ⟨new, hcalls, hnew, -⟩ := huse.calls_eq
    rw [hcalls]
    exact (endpointsSecured_of_creation hcreation hs).append hnew

/-! ### No downgrade in any reachable state -/

/-- No downgrade in a state: every endpoint so far was created securely, and whatever the
files and the library do, an attempt either creates its endpoint securely or, when the own files
do not load, fails without creating an endpoint and without a connect. -/
structure NoDowngrade (config : TASE2ClientConfig) (s : TASE2ClientConnection) : Prop where
  secured : EndpointsSecured config s.session.calls
  attempt : s.connectionState = .idle → ∀ env : PrepareEnv,
    EndpointsSecured config (s.session.createEndpoint env config s.useTls).calls
  otherwise : s.connect = true → s.connectionState = .idle → ∀ env : IterationEnv,
    ¬ OwnFilesLoaded env.prepare config → ∃ session new,
      s.session.prepareConnection env.prepare config s.useTls s.serverIp s.tcpPort
        s.osiParameters = .ok (false, session) ∧
      step config s (.iterate env) = .ok { s with session, connectionState := .fatalError } ∧
      session.calls = s.session.calls ++ new ∧
      (∀ tls result, .endpointCreate tls result ∉ new) ∧ ∀ client, .clientConnectEx client ∉ new

/-- The invariant of a connection with TLS. -/
structure TlsInv (config : TASE2ClientConfig) (s : TASE2ClientConnection) : Prop where
  phase : PhaseInv s
  useTls : s.useTls = true
  secured : EndpointsSecured config s.session.calls

/-- With TLS and without loaded own files, an attempt makes routine calls only. -/
theorem calls_createEndpoint_of_not_loaded {env : PrepareEnv} {config : TASE2ClientConfig}
    (h : ¬ OwnFilesLoaded env config) (s : Session) : ∃ new,
      (s.createEndpoint env config true).calls = s.calls ++ new ∧ ∀ c ∈ new, c.routine = true := by
  rw [← tlsConfigOk_iff] at h
  cases endpointCreation s env config true with
  | unusable _ hc => exact ⟨_, hc.calls_eq, routine_tlsCalls env config s.nextHandle⟩
  | secured hok _ _ _ => exact absurd hok h

/-- A connection that satisfies the invariant is not downgraded. -/
theorem TlsInv.noDowngrade {config : TASE2ClientConfig} {s : TASE2ClientConnection}
    (hs : TlsInv config s) : NoDowngrade config s := by
  refine ⟨hs.secured, fun _ env ↦ ?_, fun hconnect hidle env hfiles ↦ ?_⟩
  · rw [hs.useTls]
    exact endpointsSecured_of_creation (endpointCreation s.session env config true) hs.secured
  · -- no endpoint of an earlier attempt is left, so none is there when none is created
    have hnone := hs.phase.released hidle
    have hobtains : obtainsEndpoint env.prepare config s.useTls = false := by
      rw [← tlsConfigOk_iff, Bool.not_eq_true] at hfiles
      rw [obtainsEndpoint, hs.useTls, hfiles]
      rfl
    obtain ⟨new, hcalls, hroutine⟩ := calls_createEndpoint_of_not_loaded hfiles s.session
    refine ⟨s.session.createEndpoint env.prepare config s.useTls, new,
      Session.prepareConnection_of_refused hnone hobtains _ _ _, ?_, ?_, ?_, ?_⟩
    · rw [step, TASE2ClientConnection.iteration, if_pos hconnect]
      simp only [hidle]
      exact idleIteration_of_refused hnone hobtains
    · rw [hs.useTls]
      exact hcalls
    · intro tls result hmem
      exact absurd (hroutine _ hmem) (by simp [LibCall.routine])
    · intro client hmem
      exact absurd (hroutine _ hmem) (by simp [LibCall.routine])

/-- Every step keeps the invariant. -/
theorem tlsInv_step {config : TASE2ClientConfig} {s t : TASE2ClientConnection} {a : Action}
    (hs : TlsInv config s) (h : step config s a = .ok t) : TlsInv config t where
  phase := phaseInv_step hs.phase h
  useTls := by
    rw [toConnectionParams_of_step hs.phase h]
    exact hs.useTls
  secured := endpointsSecured_step hs.phase hs.useTls hs.secured h

/-- In every state that a connection configured with TLS reaches there is no downgrade. -/
theorem always_noDowngrade (config : TASE2ClientConfig) (params : ConnectionParams)
    (as : List Action) :
    Always (step config) (NoDowngrade config) (.new { params with useTls := true }) as :=
  always_of_stepsMeet (step config) (fun _ hs ↦ hs.noDowngrade)
    (fun _ _ _ hs _ h ↦ tlsInv_step hs h) ⟨phaseInv_new _, rfl, eachPreceded_nil⟩
    (stepsMeet_true _ _ as)

end Tase2South.Connection
