import Tase2South.Connection.State

/-!
# The flags and the state agree

`Connected ()`, `include/tase2_client_connection.hpp:42–46`, against `m_connectionState` and
the handles a connected connection needs. Every transition of `_conThread`, `Connect ()` and
`Disconnect ()` keeps the agreement, except the one for a lost link.
-/

namespace Tase2South.Connection

open Tase2South.Base Tase2South.Config

/-- `Connected ()` is the state `CON_STATE_CONNECTED`, and comes with an endpoint and a
client. -/
def FlagsAgree (s : TASE2ClientConnection) : Prop :=
  (s.connected = true ↔ s.connectionState = .connected) ∧
    (s.connected = true → s.session.endpoint.isSome ∧ s.session.tase2client.isSome)

/-- An iteration does not find the link of a connected connection lost. -/
def KeepsLink (s : TASE2ClientConnection) : Action → Prop
  | .iterate env => s.connect = true → s.connectionState = .connected →
      env.endpointConnected = true
  | .connect => True
  | .disconnect => True

/-- The agreement, with the handles that connecting has already produced. -/
structure FlagsInv (s : TASE2ClientConnection) : Prop where
  connected : s.connected = true ↔ s.connectionState = .connected
  ready : s.connectionState = .connecting ∨ s.connectionState = .connected →
    s.session.endpoint.isSome ∧ s.session.tase2client.isSome

/-- The invariant is the agreement and more. -/
theorem FlagsInv.agree {s : TASE2ClientConnection} (h : FlagsInv s) : FlagsAgree s :=
  ⟨h.connected, fun hc ↦ h.ready (.inr (h.connected.mp hc))⟩

/-! ### What preparing leaves -/

/-- Setting the OSI parameters only records calls. -/
theorem setOsiConnectionParameters_eq_ok {s t : Session}
    {osiParameters : Option OsiParameters}
    (h : s.setOsiConnectionParameters osiParameters = .ok t) :
    ∃ osiParams endpoint, osiParameters = some osiParams ∧ s.endpoint = some endpoint ∧
      t = s.record ((osiCalls osiParams).map (.endpoint endpoint)) := by
  unfold Session.setOsiConnectionParameters at h
  split at h
  · cases h
  · cases h
  · next osiParams endpoint he => exact ⟨osiParams, endpoint, rfl, he, (Except.ok.inj h).symm⟩

/-- A prepared connection has an endpoint and a client. -/
theorem ready_of_prepareConnection {s t : Session} {env : PrepareEnv}
    {config : TASE2ClientConfig} {useTls : Bool} {serverIp : String} {tcpPort : Int}
    {osiParameters : Option OsiParameters}
    (h : s.prepareConnection env config useTls serverIp tcpPort osiParameters = .ok (true, t)) :
    t.endpoint.isSome ∧ t.tase2client.isSome := by
  rw [Session.prepareConnection] at h
  dsimp only at h
  split at h
  · cases h
  · next endpoint he =>
    obtain ⟨u, hu, h⟩ := bind_eq_ok_iff.mp h
    obtain ⟨_, _, -, -, rfl⟩ := setOsiConnectionParameters_eq_ok hu
    simp only [pure_eq_ok, Except.ok.injEq, Prod.mk.injEq] at h
    obtain ⟨hclient, rfl⟩ := h
    refine ⟨?_, hclient⟩
    unfold Session.fresh
    split <;> simp [he]

/-! ### Every other transition keeps the agreement -/

/-- The endpoint and the client are the same. -/
structure SameHandles (s t : Session) : Prop where
  endpoint : t.endpoint = s.endpoint
  tase2client : t.tase2client = s.tase2client
  clientAssigned : t.clientAssigned = s.clientAssigned

private theorem SameHandles.trans {s t u : Session} (h : SameHandles s t) (k : SameHandles t u) :
    SameHandles s u where
  endpoint := k.endpoint.trans h.endpoint
  tase2client := k.tase2client.trans h.tase2client
  clientAssigned := k.clientAssigned.trans h.clientAssigned

private theorem sameHandles_fresh (s : Session) (created : Bool) :
    SameHandles s (s.fresh created).2 := by
  unfold Session.fresh
  split <;> exact ⟨rfl, rfl, rfl⟩

private theorem sameHandles_record (s : Session) (calls : List LibCall) :
    SameHandles s (s.record calls) := ⟨rfl, rfl, rfl⟩

/-- One pass of the transfer set loop keeps the endpoint and the client. -/
theorem sameHandles_configTransferSet (env : IterationEnv) (s : TASE2ClientConnection)
    (p : (String × DatasetTransferSet) × Nat) :
    SameHandles s.session (s.configTransferSet env p).session := by
  have hfresh := sameHandles_fresh s.session (env.transferSetReturned p.2)
  unfold TASE2ClientConnection.configTransferSet
  dsimp only
  have hasked := hfresh.trans (sameHandles_record _ [.getNextDSTransferSet s.session.tase2client
    "icc1" (s.session.fresh (env.transferSetReturned p.2)).1])
  split
  · exact hasked
  · have hnext := hasked.trans (sameHandles_fresh _ (env.dataSetReturned p.2))
    split
    · exact hnext.trans (sameHandles_record _ _)
    · exact (hnext.trans (sameHandles_record _ _)).trans (sameHandles_record _ _)

/-- Configuring transfer sets keeps the endpoint and the client. -/
theorem sameHandles_configDsts (env : IterationEnv) (s : TASE2ClientConnection) :
    SameHandles s.session (s.configDsts env).session := by
  unfold TASE2ClientConnection.configDsts
  induction env.dstsOrder.zipIdx generalizing s with
  | nil => exact ⟨rfl, rfl, rfl⟩
  | cons p ps ih => exact (sameHandles_configTransferSet env s p).trans (ih _)

/-- A new connection satisfies the invariant. -/
theorem flagsInv_new (params : ConnectionParams) : FlagsInv (.new params) := by
  constructor
  · simp [TASE2ClientConnection.new]
  · simp [TASE2ClientConnection.new]

/-- A disconnected connection satisfies the invariant, whatever it was before. -/
theorem flagsInv_disconnect (s : TASE2ClientConnection) : FlagsInv s.disconnect := by
  constructor
  · simp [TASE2ClientConnection.disconnect, TASE2ClientConnection.cleanUp]
  · simp [TASE2ClientConnection.disconnect, TASE2ClientConnection.cleanUp]

/-- Preparing a connection keeps the invariant. -/
theorem flagsInv_idleIteration {config : TASE2ClientConfig} {env : IterationEnv}
    {s t : TASE2ClientConnection} (hs : FlagsInv s) (hidle : s.connectionState = .idle)
    (h : s.idleIteration config env = .ok t) : FlagsInv t := by
  have hconn : s.connected = false := by
    have hn : ¬ s.connected = true := fun hc ↦ by
      have := hs.connected.mp hc
      simp [hidle] at this
    simpa using hn
  have hdestroy : s.destroyEndpoint.connected = false := by
    unfold TASE2ClientConnection.destroyEndpoint
    split <;> exact hconn
  rw [TASE2ClientConnection.idleIteration] at h
  obtain ⟨⟨prepared, session⟩, hp, h⟩ := bind_eq_ok_iff.mp h
  cases prepared with
  | false =>
    simp only [Bool.false_eq_true, if_false, pure_eq_ok] at h
    rw [← Except.ok.inj h]
    exact ⟨by simp [hdestroy], by simp⟩
  | true =>
    obtain ⟨hendpoint, hclient⟩ := ready_of_prepareConnection hp
    simp only [if_true] at h
    obtain ⟨session', hs', h⟩ := bind_eq_ok_iff.mp h
    have hsame : SameHandles session session' := by
      split at hs'
      · obtain ⟨_, _, -, -, rfl⟩ := setOsiConnectionParameters_eq_ok hs'
        exact ⟨rfl, rfl, rfl⟩
      · cases hs'
        exact ⟨rfl, rfl, rfl⟩
    rw [← Except.ok.inj h]
    split
    · refine ⟨by simp [hdestroy], fun _ ↦ ?_⟩
      simp only [Session.endpoint_record, Session.tase2client_record]
      rw [hsame.endpoint, hsame.tase2client]
      exact ⟨hendpoint, hclient⟩
    · exact ⟨by simp [hdestroy], by simp⟩

/-- Waiting for the connection keeps the invariant. -/
theorem flagsInv_connectingIteration {env : IterationEnv} {s t : TASE2ClientConnection}
    (hs : FlagsInv s) (hconnecting : s.connectionState = .connecting)
    (h : s.connectingIteration env = .ok t) : FlagsInv t := by
  rw [TASE2ClientConnection.connectingIteration] at h
  split at h
  · cases h
  · split at h
    · rw [← Except.ok.inj h]
      have hsame := sameHandles_configDsts env (s.configDatasets env)
      refine ⟨by simp, fun _ ↦ ?_⟩
      have hready := hs.ready (.inl hconnecting)
      simp only [TASE2ClientConnection.record, Session.endpoint_record,
        Session.tase2client_record]
      rw [hsame.endpoint, hsame.tase2client]
      exact hready
    · split at h
      · rw [← Except.ok.inj h]
        exact flagsInv_disconnect s
      · rw [← Except.ok.inj h]
        exact hs

/-- While the link stays, a connected iteration keeps the invariant. -/
theorem flagsInv_connectedIteration {config : TASE2ClientConfig} {env : IterationEnv}
    {s t : TASE2ClientConnection} (hs : FlagsInv s) (hlink : env.endpointConnected = true)
    (h : s.connectedIteration config env = .ok t) : FlagsInv t := by
  rw [TASE2ClientConnection.connectedIteration] at h
  split at h
  · cases h
  · rw [← Except.ok.inj h]
    obtain ⟨calls, next, heq, -⟩ := s.executePeriodicTasks_eq_record config env
    rw [heq]
    exact ⟨hs.connected, hs.ready⟩

/-- Every step that does not find the link lost keeps the invariant. -/
theorem flagsInv_step {config : TASE2ClientConfig} {s t : TASE2ClientConnection} {a : Action}
    (hs : FlagsInv s) (hlink : KeepsLink s a) (h : step config s a = .ok t) : FlagsInv t := by
  cases a with
  | connect =>
    rw [← Except.ok.inj h]
    exact ⟨hs.connected, hs.ready⟩
  | disconnect =>
    rw [← Except.ok.inj h]
    exact flagsInv_disconnect s
  | iterate env =>
    rw [step, TASE2ClientConnection.iteration] at h
    split at h
    · next hc =>
      cases hstate : s.connectionState with
      | idle =>
        simp only [hstate] at h
        exact flagsInv_idleIteration hs hstate h
      | connecting =>
        simp only [hstate] at h
        exact flagsInv_connectingIteration hs hstate h
      | connected =>
        simp only [hstate] at h
        exact flagsInv_connectedIteration hs (hlink hc hstate) h
      | closed =>
        simp only [hstate] at h
        rw [← Except.ok.inj h]
        have hn := hs.connected
        rw [hstate] at hn
        exact ⟨by simpa using hn, by simp⟩
      | waitForReconnect =>
        simp only [hstate] at h
        rw [← Except.ok.inj h]
        split
        · have hn := hs.connected
          rw [hstate] at hn
          exact ⟨by simpa using hn, by simp⟩
        · exact hs
      | fatalError =>
        simp only [hstate] at h
        rw [← Except.ok.inj h]
        exact hs
    · rw [← Except.ok.inj h]
      exact hs

/-- An iteration that finds the link lost ends in a state whose flags disagree. -/
theorem not_flagsAgree_of_lostLink {config : TASE2ClientConfig} {s : TASE2ClientConnection}
    {a : Action} (hs : FlagsInv s) (hlost : ¬ KeepsLink s a) :
    ∃ t, step config s a = .ok t ∧ ¬ FlagsAgree t := by
  cases a with
  | connect => exact absurd trivial hlost
  | disconnect => exact absurd trivial hlost
  | iterate env =>
    simp only [KeepsLink, Classical.not_imp] at hlost
    obtain ⟨hc, hstate, hlink⟩ := hlost
    have hn : s.session.endpoint.isNone = false := by
      have he := (hs.ready (.inr hstate)).1
      cases hx : s.session.endpoint with
      | none => simp [hx] at he
      | some e => rfl
    refine ⟨{ s.cleanUp with connectionState := .idle }, ?_, fun hagree ↦ ?_⟩
    · simp [step, TASE2ClientConnection.iteration, hc, hstate,
        TASE2ClientConnection.connectedIteration, hn, hlink]
    · have hconn := hagree.1.mp (hs.connected.mpr hstate)
      cases hconn

/-- In every run the flags and the state agree in every state reached, exactly when no
iteration finds the link of a connected connection lost. -/
theorem always_flagsAgree_iff (config : TASE2ClientConfig) (params : ConnectionParams)
    (actions : List Action) :
    Always (step config) FlagsAgree (.new params) actions ↔
      StepsMeet (step config) KeepsLink (.new params) actions :=
  always_iff_stepsMeet (step config) (fun _ h ↦ h.agree)
    (fun _ _ _ hs hc h ↦ flagsInv_step hs hc h)
    (fun _ _ hs hc ↦ not_flagsAgree_of_lostLink hs hc) (flagsInv_new params)

/-- A connection to the loopback address, with empty OSI parameters. -/
def loopback : ConnectionParams := ⟨"127.0.0.1", 10002, false, some {}⟩

/-- Connecting and then losing the link leaves `Connected ()` true in `CON_STATE_IDLE`. -/
theorem not_always_flagsAgree_lostLink :
    ¬ Always (step .fresh) FlagsAgree (.new loopback)
      [.connect, .iterate (.plain 0 false), .iterate (.plain 50 true),
        .iterate (.plain 100 false)] := by
  intro h
  have hlost := (((h.2 _ rfl).2 _ rfl).2 _ rfl).2 _ rfl
  exact absurd (hlost.1.mp rfl) (by decide)

end Tase2South.Connection
