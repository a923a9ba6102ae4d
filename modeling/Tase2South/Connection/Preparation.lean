import Tase2South.Base.Ledger
import Tase2South.Connection.ClientHandle
import Tase2South.Connection.Tls

/-!
# What preparing creates and cleaning up destroys

The TLS configuration, the endpoint and the client of `prepareConnection` and `cleanUp`,
`src/tase2_client_connection.cpp:424–702`. A TLS configuration that cannot be used is dropped,
and `cleanUp` looks at `m_client`, which is always set, before it uses `m_tase2client`.
-/

namespace Tase2South.Connection

open Tase2South.Base Tase2South.Config

/-- An object that preparing creates. -/
inductive SessionHandle where
  | tlsConfig (handle : Handle)
  | endpoint (handle : Handle)
  | client (handle : Handle)
  deriving DecidableEq

/-- What a call means for the objects of a session. -/
def sessionEntryOf : LibCall → Option (LedgerEntry SessionHandle)
  | .tls h .create => some (.acquire (.tlsConfig h))
  | .tls h .destroy => some (.release (.tlsConfig h))
  | .endpointCreate _ (some h) => some (.acquire (.endpoint h))
  | .endpointDestroy h => some (.release (.endpoint h))
  | .clientCreateEx _ (some h) => some (.acquire (.client h))
  | .clientDestroy (some h) => some (.release (.client h))
  | _ => none

/-- The history of the objects of a session in a list of calls. -/
def sessionLedger (calls : List LibCall) : List (LedgerEntry SessionHandle) :=
  calls.filterMap sessionEntryOf

/-- What `m_tlsConfig`, `m_endpoint` and `m_tase2client` hold. -/
def Session.handles (s : Session) : List SessionHandle :=
  s.tlsConfig.toList.map .tlsConfig ++ s.endpoint.toList.map .endpoint ++
    s.tase2client.toList.map .client

/-- A session without a TLS configuration, an endpoint and a client. -/
structure Session.Empty (s : Session) : Prop where
  endpoint : s.endpoint = none
  tase2client : s.tase2client = none
  tlsConfig : s.tlsConfig = none

/-- The calls made from one session to a later one. -/
def callsSince (s t : Session) : List LibCall := t.calls.drop s.calls.length

/-- A call on a client that is not there. -/
def LibCall.passesAbsent : LibCall → Bool
  | .clientConnectEx client => client.isNone
  | .clientDisconnect client => client.isNone
  | .clientDestroy client => client.isNone
  | .createDataSet client _ _ _ => client.isNone
  | .getNextDSTransferSet client _ _ => client.isNone
  | .getDataSet client _ _ _ => client.isNone
  | .writeValues client _ => client.isNone
  | .installDSTransferSetHandlers client => client.isNone
  | _ => false

/-- A connection whose session was prepared, after a `cleanUp`. -/
def cleanedUp (s : TASE2ClientConnection) (t : Session) : Session :=
  ({ s with session := t } : TASE2ClientConnection).cleanUp.session

/-- Preparing a session accounts for what it creates: each object is destroyed or held, and a
`cleanUp` destroys each that is held exactly once, leaves the three members absent, and passes no
absent handle. The connection was constructed where `m_tase2client` held `leftover`. -/
structure AccountsFor (leftover : Option Handle) (s : TASE2ClientConnection) (t : Session) :
    Prop where
  accounted : Accounted (sessionLedger (callsSince s.session t)) t.handles
  destroyed : ∀ r ∈ t.handles, releases (sessionLedger (callsSince t (cleanedUp s t))) r = 1
  absent : (cleanedUp s t).tlsConfig = none ∧ (cleanedUp s t).endpoint = none ∧
    (cleanedUp s t).clientMember leftover = none
  passed : ∀ c ∈ callsSince t (cleanedUp s t), c.passesAbsent = false

@[simp] theorem sessionLedger_append (calls new : List LibCall) :
    sessionLedger (calls ++ new) = sessionLedger calls ++ sessionLedger new :=
  List.filterMap_append

@[simp] theorem sessionLedger_nil : sessionLedger [] = [] := rfl

@[simp] theorem sessionLedger_cons (c : LibCall) (calls : List LibCall) :
    sessionLedger (c :: calls) = (sessionEntryOf c).toList ++ sessionLedger calls := by
  unfold sessionLedger
  cases h : sessionEntryOf c with
  | none => rw [List.filterMap_cons_none h, Option.toList_none, List.nil_append]
  | some entry => rw [List.filterMap_cons_some h, Option.toList_some, List.singleton_append]

private theorem sessionLedger_eq_nil {calls : List LibCall}
    (h : ∀ c ∈ calls, sessionEntryOf c = none) : sessionLedger calls = [] :=
  List.filterMap_eq_nil_iff.mpr h

/-- The calls that a session goes on with are those made since. -/
theorem Continues.callsSince_eq {s t : Session} {new : List LibCall} (h : Continues s t new) :
    callsSince s t = new := by
  rw [callsSince, h.calls_eq, List.drop_left]

/-! ### Cleaning up -/

/-- Cleaning up holds no TLS configuration afterwards. -/
theorem tlsConfig_releaseSession (s : Session) :
    (TASE2ClientConnection.releaseSession s).tlsConfig = none := by
  unfold TASE2ClientConnection.releaseSession
  cases he : s.endpoint <;> cases ht : s.tlsConfig <;> simp [he, ht]

/-- Cleaning up leaves `m_tase2client` absent when there was an endpoint, and else only when it had
been assigned or was absent from the start. -/
theorem clientMember_releaseSession {t : Session} (ht : t.endpoint = none → t.tase2client = none)
    (leftover : Option Handle) :
    (TASE2ClientConnection.releaseSession t).clientMember leftover = none ↔
      t.endpoint.isSome ∨ t.clientAssigned = true ∨ leftover = none := by
  unfold TASE2ClientConnection.releaseSession Session.clientMember
  cases hendpoint : t.endpoint with
  | none =>
    cases hassigned : t.clientAssigned <;> cases htls : t.tlsConfig <;>
      simp [htls, hassigned, ht hendpoint]
  | some endpoint => cases htls : t.tlsConfig <;> simp [htls]

private theorem sessionLedger_sets (dsts datasets : List Handle) :
    sessionLedger (dsts.map .transferSetDestroy ++ datasets.map .dataSetDestroy) = [] := by
  apply sessionLedger_eq_nil
  exact TASE2ClientConnection.forall_mem_destroyed (fun _ ↦ rfl) (fun _ ↦ rfl) dsts datasets

private theorem callsSince_cleanedUp (s : TASE2ClientConnection) (t : Session) :
    callsSince t (cleanedUp s t) =
      s.dsts.map .transferSetDestroy ++ s.datasets.map .dataSetDestroy ++ releaseCalls t :=
  (continues_cleanUp_sets { s with session := t }).callsSince_eq

/-- A session holds no object twice. -/
theorem nodup_handles (s : Session) : s.handles.Nodup := by
  unfold Session.handles
  cases s.tlsConfig <;> cases s.endpoint <;> cases s.tase2client <;> simp

/-- Releasing destroys the objects that are held, unless a client is held without an endpoint. -/
theorem sessionLedger_releaseCalls {t : Session}
    (ht : t.endpoint = none → t.tase2client = none) :
    sessionLedger (releaseCalls t) = t.handles.reverse.map .release := by
  unfold releaseCalls Session.handles
  cases hendpoint : t.endpoint with
  | none =>
    rw [ht hendpoint]
    cases t.tlsConfig <;> rfl
  | some endpoint => cases t.tase2client <;> cases t.tlsConfig <;> rfl

/-- Releasing passes an absent handle when an endpoint is held without a client. -/
theorem passesAbsent_releaseCalls (t : Session) :
    (∀ c ∈ releaseCalls t, c.passesAbsent = false) ↔
      (t.endpoint.isSome → t.tase2client.isSome) := by
  unfold releaseCalls
  cases t.endpoint <;> cases t.tase2client <;> cases t.tlsConfig <;>
    simp [LibCall.passesAbsent]

/-- What remains to be accounted for: the objects of the preparation, a client for an endpoint, and
what `m_tase2client` holds without one. -/
theorem accountsFor_iff_accounted {leftover : Option Handle} {s : TASE2ClientConnection}
    {t : Session} (ht : t.endpoint = none → t.tase2client = none) :
    AccountsFor leftover s t ↔ Accounted (sessionLedger (callsSince s.session t)) t.handles ∧
      (t.endpoint.isSome → t.tase2client.isSome) ∧
      (t.endpoint.isSome ∨ t.clientAssigned = true ∨ leftover = none) := by
  have hpassed : (∀ c ∈ callsSince t (cleanedUp s t), c.passesAbsent = false) ↔
      (t.endpoint.isSome → t.tase2client.isSome) := by
    rw [callsSince_cleanedUp, ← passesAbsent_releaseCalls, List.forall_mem_append,
      List.forall_mem_append, List.forall_mem_map, List.forall_mem_map]
    simp [LibCall.passesAbsent]
  have habsent : (cleanedUp s t).clientMember leftover = none ↔
      t.endpoint.isSome ∨ t.clientAssigned = true ∨ leftover = none :=
    clientMember_releaseSession (t := t.record _) ht leftover
  rw [← hpassed, ← habsent]
  constructor
  · intro h
    exact ⟨h.accounted, h.passed, h.absent.2.2⟩
  · rintro ⟨haccounted, hpassed, hmember⟩
    refine ⟨haccounted, fun r hr ↦ ?_, ⟨?_, ?_, hmember⟩, hpassed⟩
    · rw [callsSince_cleanedUp, sessionLedger_append, sessionLedger_sets, List.nil_append]
      rw [sessionLedger_releaseCalls ht, releases_map_release, List.count_reverse]
      exact List.count_eq_one_of_mem (nodup_handles t) hr
    · exact tlsConfig_releaseSession _
    · exact endpoint_releaseSession _

/-! ### Preparing -/

private theorem sessionLedger_otherFiles {tls : Handle} {enable : Bool → TlsCall}
    {add : String → Bool → TlsCall}
    (henable : ∀ value, sessionEntryOf (.tls tls (enable value)) = none)
    (hadd : ∀ file loaded, sessionEntryOf (.tls tls (add file loaded)) = none) (dataDir : String)
    (files : List String) (outcome : Nat → FileOutcome) :
    sessionLedger (otherFiles dataDir tls files enable add outcome) = [] := by
  apply sessionLedger_eq_nil
  intro c hc
  rcases mem_otherFiles hc with rfl | ⟨_, _, rfl⟩ | ⟨file, loaded, rfl⟩
  · exact henable _
  · rfl
  · exact hadd file loaded

/-- Setting up a TLS configuration creates it and destroys nothing. -/
theorem sessionLedger_tlsCalls (env : PrepareEnv) (config : TASE2ClientConfig) (tls : Handle) :
    sessionLedger (tlsCalls env config tls) = [.acquire (.tlsConfig tls)] := by
  have hown : sessionLedger (ownFiles env config tls) = [] := by
    apply sessionLedger_eq_nil
    intro c hc
    rcases mem_ownFiles hc with ⟨_, _, rfl⟩ | ⟨_, _, rfl⟩ | ⟨_, _, rfl⟩
    · rfl
    · rfl
    · rfl
  rw [tlsCalls, sessionLedger_append, sessionLedger_append, sessionLedger_cons, hown,
    sessionLedger_otherFiles (fun _ ↦ rfl) (fun _ _ ↦ rfl),
    sessionLedger_otherFiles (fun _ ↦ rfl) (fun _ _ ↦ rfl)]
  rfl

/-- An endpoint without TLS is held if it is created. -/
theorem accounted_createPlainEndpoint (s : Session) (env : PrepareEnv) :
    Accounted (sessionLedger (callsSince s (s.createPlainEndpoint env)))
      (s.createPlainEndpoint env).handles := by
  unfold Session.createPlainEndpoint Session.fresh callsSince Session.handles
  cases env.endpointCreated with
  | false => simp [sessionEntryOf, Accounted]
  | true => simp [sessionEntryOf, Accounted]

/-- A usable TLS configuration is held with its endpoint, or destroyed when the library creates
none. -/
theorem accounted_createTlsEndpoint {s : Session} {env : PrepareEnv} {config : TASE2ClientConfig}
    (hok : tlsConfigOk env config = true) :
    Accounted (sessionLedger (callsSince s (s.createTlsEndpoint env config)))
      (s.createTlsEndpoint env config).handles := by
  unfold Session.createTlsEndpoint Session.fresh callsSince Session.handles
  cases env.endpointCreated with
  | false => simp [sessionLedger_tlsCalls, sessionEntryOf, hok, Accounted]
  | true => simp [sessionLedger_tlsCalls, sessionEntryOf, hok, Accounted]

/-- A TLS configuration that cannot be used is dropped. -/
theorem not_accounted_createTlsEndpoint {s : Session} {env : PrepareEnv}
    {config : TASE2ClientConfig} (hs : s.tlsConfig = none)
    (hok : tlsConfigOk env config = false) :
    ¬ Accounted (sessionLedger (callsSince s (s.createTlsEndpoint env config)))
      (s.createTlsEndpoint env config).handles := by
  unfold Session.createTlsEndpoint callsSince Session.handles
  simp [sessionLedger_tlsCalls, hok, hs, Accounted]

/-- Creating the endpoint accounts for its objects exactly when a connection with TLS can use
its TLS configuration. -/
theorem accounted_createEndpoint_iff {s : Session} (hs : s.tlsConfig = none) (env : PrepareEnv)
    (config : TASE2ClientConfig) (useTls : Bool) :
    Accounted (sessionLedger (callsSince s (s.createEndpoint env config useTls)))
        (s.createEndpoint env config useTls).handles ↔
      (useTls = true → tlsConfigOk env config = true) := by
  cases useTls with
  | false =>
    have haccounted := accounted_createPlainEndpoint s env
    simpa [Session.createEndpoint] using haccounted
  | true =>
    rw [Session.createEndpoint, if_pos rfl]
    constructor
    · intro haccounted _
      by_contra hok
      rw [Bool.not_eq_true] at hok
      exact not_accounted_createTlsEndpoint hs hok haccounted
    · intro hok
      exact accounted_createTlsEndpoint (hok rfl)

/-- The rest of `prepareConnection` creates a client and holds it. -/
theorem accounted_createClient {s u : Session} {new : List LibCall} (hnew : Continues s u new)
    (hu : u.tase2client = none) (haccounted : Accounted (sessionLedger new) u.handles)
    (endpoint : Handle) (serverIp : String) (tcpPort : Int) (osiParams : OsiParameters)
    (env : PrepareEnv) {t : Session}
    (ht : t = (u.addressEndpoint endpoint serverIp tcpPort osiParams).createClient endpoint env) :
    Accounted (sessionLedger (callsSince s t)) t.handles := by
  have hcalls := continues_createClient u endpoint serverIp tcpPort osiParams env
  rw [← ht] at hcalls
  have hsetup : sessionLedger ((osiCalls osiParams).map (.endpoint endpoint)) = [] := by
    apply sessionLedger_eq_nil
    intro c hc
    obtain ⟨call, -, rfl⟩ := List.mem_map.mp hc
    rfl
  have hledger : sessionLedger (callsSince s t) =
      sessionLedger new ++ (t.tase2client.toList.map .client).map .acquire := by
    rw [(hnew.trans hcalls).callsSince_eq, sessionLedger_append, sessionLedger_append,
      sessionLedger_append, hsetup]
    cases t.tase2client <;> simp [sessionEntryOf]
  have htlsConfig : t.tlsConfig = u.tlsConfig := by
    rw [ht]
    unfold Session.createClient Session.fresh
    split <;> rfl
  have hendpoint : t.endpoint = u.endpoint := by
    rw [ht, Session.endpoint_createClient, Session.endpoint_addressEndpoint]
  have hhandles : t.handles = u.handles ++ t.tase2client.toList.map .client := by
    simp only [Session.handles, htlsConfig, hendpoint, hu, Option.toList_none, List.map_nil,
      List.append_nil]
  rw [hledger, hhandles]
  exact haccounted.append (accounted_acquire _)

/-! ### Reachable states -/

/-- Without an endpoint, no TLS configuration is held. -/
def TlsReleased (s : TASE2ClientConnection) : Prop :=
  s.session.endpoint = none → s.session.tlsConfig = none

/-- The endpoint part of `prepareConnection` keeps the TLS configuration with the endpoint. -/
theorem tlsConfig_createEndpoint {s : Session} {env : PrepareEnv} {config : TASE2ClientConfig}
    {useTls : Bool} (h : (s.createEndpoint env config useTls).endpoint = none) :
    (s.createEndpoint env config useTls).tlsConfig = s.tlsConfig := by
  unfold Session.createEndpoint Session.createTlsEndpoint Session.createPlainEndpoint
    Session.fresh at h ⊢
  cases useTls <;> cases hok : tlsConfigOk env config <;> cases hcreated : env.endpointCreated <;>
    simp [hok, hcreated] at h ⊢

/-- Every step keeps the invariant. -/
theorem tlsReleased_step {config : TASE2ClientConfig} {s t : TASE2ClientConnection} {a : Action}
    (hphase : PhaseInv s) (hs : TlsReleased s) (h : step config s a = .ok t) :
    TlsReleased t := by
  cases a with
  | connect =>
    rw [← Except.ok.inj h]
    exact hs
  | disconnect =>
    rw [← Except.ok.inj h]
    exact fun _ ↦ tlsConfig_releaseSession _
  | iterate env =>
    intro hnone
    cases outcome_iteration hphase h with
    | kept _ => exact hs hnone
    | refused _ hstate _ =>
      exact (tlsConfig_createEndpoint hnone).trans (hs (hphase.released hstate))
    | clientless _ _ endpoint hendpoint osiParams _ _ =>
      rw [endpoint_addressed hendpoint osiParams] at hnone
      cases hnone
    | issued _ _ endpoint hendpoint osiParams _ _ _ _ =>
      rw [Session.endpoint_record, Session.endpoint_record,
        endpoint_addressed hendpoint osiParams] at hnone
      cases hnone
    | established _ hstate _ =>
      have hready := (hphase.ready (.inl hstate)).1
      have hsame := (sameHandles_configDsts env (s.configDatasets env)).endpoint
      have hkept : s.session.endpoint = none := hsame.symm.trans hnone
      rw [hkept] at hready
      cases hready
    | timedOut _ _ _ => exact tlsConfig_releaseSession _
    | served _ _ _ =>
      obtain ⟨calls, next, heq, -⟩ := s.executePeriodicTasks_eq_record config env
      rw [heq] at hnone ⊢
      exact hs hnone
    | lost _ _ _ => exact tlsConfig_releaseSession _

/-- A connection that has an endpoint, or was connected, has assigned `m_tase2client`. -/
def ClientAssigned (s : TASE2ClientConnection) : Prop :=
  s.session.endpoint.isSome ∨ s.connected = true → s.session.clientAssigned = true

private theorem clientAssigned_cleanUp {s : TASE2ClientConnection}
    (hs : s.session.endpoint.isSome ∨ s.session.clientAssigned = true) :
    s.cleanUp.session.clientAssigned = true := by
  unfold TASE2ClientConnection.cleanUp TASE2ClientConnection.releaseSession
  cases hendpoint : s.session.endpoint with
  | none =>
    rw [hendpoint] at hs
    have hassigned := hs.resolve_left Bool.false_ne_true
    cases htls : s.session.tlsConfig <;> simp [hendpoint, htls, hassigned]
  | some endpoint => cases htls : s.session.tlsConfig <;> simp [hendpoint, htls]

/-- Every step keeps `m_tase2client` assigned. -/
theorem clientAssigned_step {config : TASE2ClientConfig} {s t : TASE2ClientConnection} {a : Action}
    (hphase : PhaseInv s) (hs : ClientAssigned s) (h : step config s a = .ok t) :
    ClientAssigned t := by
  cases a with
  | connect =>
    rw [← Except.ok.inj h]
    exact hs
  | disconnect =>
    rw [← Except.ok.inj h]
    intro hused
    have hreleased : s.disconnect.session.endpoint = none := endpoint_releaseSession _
    rw [hreleased] at hused
    rcases hused with hsome | hconnected
    · cases hsome
    · cases hconnected
  | iterate env =>
    intro hused
    cases outcome_iteration hphase h with
    | kept _ => exact hs hused
    | refused _ hstate hobtains =>
      have hnone := hphase.released hstate
      rw [← Session.isSome_endpoint_createEndpoint hnone] at hobtains
      have hassigned := Session.clientAssigned_createEndpoint s.session env.prepare config s.useTls
      rcases hused with hsome | hconnected
      · exact absurd (hobtains.symm.trans hsome) Bool.false_ne_true
      · exact hassigned.trans (hs (.inr hconnected))
    | clientless _ _ _ _ _ _ _ => rfl
    | issued _ _ _ _ _ _ _ _ _ => rfl
    | established _ hstate _ =>
      have hsame := sameHandles_configDsts env (s.configDatasets env)
      exact hsame.clientAssigned.trans (hs (.inl (hphase.ready (.inl hstate)).1))
    | timedOut _ hstate _ =>
      exact clientAssigned_cleanUp (.inl (hphase.ready (.inl hstate)).1)
    | served _ hstate _ =>
      obtain ⟨calls, next, heq, -⟩ := s.executePeriodicTasks_eq_record config env
      rw [heq]
      exact hs (.inl (hphase.ready (.inr hstate)).1)
    | lost _ hstate _ =>
      exact clientAssigned_cleanUp (.inl (hphase.ready (.inr hstate)).1)

/-- A reachable connection that has an endpoint, or was connected, reads from `m_tase2client` what
was assigned to it, and not what its storage held before the constructor. -/
theorem clientMember_of_reachable {config : TASE2ClientConfig} {params : ConnectionParams}
    {actions : List Action} {s : TASE2ClientConnection}
    (hrun : run (step config) (.new params) actions = .ok s)
    (hused : s.session.endpoint.isSome ∨ s.connected = true) (leftover : Option Handle) :
    s.session.clientMember leftover = s.session.tase2client := by
  have hstep : ∀ u a v, PhaseInv u ∧ ClientAssigned u → step config u a = .ok v →
      PhaseInv v ∧ ClientAssigned v := fun u a v hu h ↦
    ⟨phaseInv_step hu.1 h, clientAssigned_step hu.1 hu.2 h⟩
  have hnew : ClientAssigned (.new params) := by
    rintro (h | h)
    · cases h
    · cases h
  have hinv := run_invariant (step config) hstep ⟨phaseInv_new params, hnew⟩ hrun
  rw [Session.clientMember, if_pos (hinv.2 hused)]

/-- A reachable connection in `CON_STATE_IDLE` holds nothing. -/
theorem empty_of_idle {config : TASE2ClientConfig} {params : ConnectionParams}
    {actions : List Action} {s : TASE2ClientConnection}
    (hrun : run (step config) (.new params) actions = .ok s)
    (hidle : s.connectionState = .idle) : s.session.Empty := by
  have hstep : ∀ u a v, PhaseInv u ∧ TlsReleased u → step config u a = .ok v →
      PhaseInv v ∧ TlsReleased v := fun u a v hu h ↦
    ⟨phaseInv_step hu.1 h, tlsReleased_step hu.1 hu.2 h⟩
  have hinv := run_invariant (step config) hstep ⟨phaseInv_new params, fun _ ↦ rfl⟩ hrun
  have hendpoint := hinv.1.released hidle
  exact ⟨hendpoint, hinv.1.clientless hendpoint, hinv.2 hendpoint⟩

/-- When an attempt that gets no endpoint accounts for what it creates. -/
theorem accountsFor_iff_of_refused {config : TASE2ClientConfig} {env : PrepareEnv}
    {s : TASE2ClientConnection} (hs : s.session.Empty)
    (hobtains : obtainsEndpoint env config s.useTls = false) (leftover : Option Handle) :
    AccountsFor leftover s (s.attempted config env) ↔
      (s.useTls = true → tlsConfigOk env config = true) ∧
        (env.endpointCreated = true → env.clientCreated = true) ∧
        (env.endpointCreated = true ∨ s.session.clientAssigned = true ∨ leftover = none) := by
  have hnone : (s.attempted config env).endpoint.isSome = false := by
    rw [TASE2ClientConnection.attempted, Session.isSome_endpoint_createEndpoint hs.endpoint,
      hobtains]
  have hcreatedClient : (s.attempted config env).tase2client = none :=
    (Session.tase2client_createEndpoint _ _ _ _).trans hs.tase2client
  have hcreation : Accounted (sessionLedger (callsSince s.session (s.attempted config env)))
      (s.attempted config env).handles ↔ (s.useTls = true → tlsConfigOk env config = true) :=
    accounted_createEndpoint_iff hs.tlsConfig env config s.useTls
  have hassigned : (s.attempted config env).clientAssigned = s.session.clientAssigned :=
    Session.clientAssigned_createEndpoint _ _ _ _
  rw [accountsFor_iff_accounted fun _ ↦ hcreatedClient, hcreation, hnone, hassigned]
  -- with a usable TLS configuration, the endpoint is missing because the library created none
  have hrefused (hok : s.useTls = true → tlsConfigOk env config = true) :
      env.endpointCreated = false := by
    by_contra hcreated
    rw [Bool.not_eq_false] at hcreated
    rw [obtainsEndpoint_eq_true_iff.mpr ⟨hok, hcreated⟩] at hobtains
    cases hobtains
  constructor
  · rintro ⟨hok, -, hmember⟩
    refine ⟨hok, fun hcreated ↦ ?_, .inr (hmember.resolve_left Bool.false_ne_true)⟩
    rw [hrefused hok] at hcreated
    cases hcreated
  · rintro ⟨hok, -, hmember⟩
    refine ⟨hok, fun hsome ↦ absurd hsome Bool.false_ne_true, .inr (hmember.resolve_left ?_)⟩
    rw [hrefused hok]
    exact Bool.false_ne_true

/-- When an attempt that gets an endpoint accounts for what it creates. -/
theorem accountsFor_iff_of_obtained {config : TASE2ClientConfig} {env : PrepareEnv}
    {s : TASE2ClientConnection} (hs : s.session.Empty) {endpoint : Handle}
    (hobtains : (s.attempted config env).endpoint = some endpoint) (osiParams : OsiParameters)
    (leftover : Option Handle) :
    AccountsFor leftover s (s.addressed config env endpoint osiParams) ↔
      (s.useTls = true → tlsConfigOk env config = true) ∧
        (env.endpointCreated = true → env.clientCreated = true) ∧
        (env.endpointCreated = true ∨ s.session.clientAssigned = true ∨ leftover = none) := by
  have hkept := endpoint_addressed hobtains osiParams
  have hcreatedClient : (s.attempted config env).tase2client = none :=
    (Session.tase2client_createEndpoint _ _ _ _).trans hs.tase2client
  have hsome : obtainsEndpoint env config s.useTls = true := by
    rw [← Session.isSome_endpoint_createEndpoint hs.endpoint]
    exact Option.isSome_of_eq_some hobtains
  obtain ⟨hok, hcreated⟩ := obtainsEndpoint_eq_true_iff.mp hsome
  obtain ⟨new, hcalls, -⟩ := (endpointCreation s.session env config s.useTls).continues
  have haccounted := (accounted_createEndpoint_iff hs.tlsConfig env config s.useTls).mpr hok
  rw [hcalls.callsSince_eq] at haccounted
  have hheld : Accounted
      (sessionLedger (callsSince s.session (s.addressed config env endpoint osiParams)))
      (s.addressed config env endpoint osiParams).handles :=
    accounted_createClient hcalls hcreatedClient haccounted endpoint s.serverIp s.tcpPort
      osiParams env rfl
  have hasked : (s.addressed config env endpoint osiParams).tase2client.isSome =
      env.clientCreated := Session.isSome_tase2client_createClient _ endpoint env
  have hclientless : (s.addressed config env endpoint osiParams).endpoint = none →
      (s.addressed config env endpoint osiParams).tase2client = none := by
    intro h
    rw [hkept] at h
    cases h
  rw [accountsFor_iff_accounted hclientless, hasked, hkept]
  constructor
  · rintro ⟨-, hpassed, -⟩
    exact ⟨hok, fun _ ↦ hpassed rfl, .inl hcreated⟩
  · rintro ⟨-, hpassed, -⟩
    exact ⟨hheld, fun _ ↦ hpassed hcreated, .inl rfl⟩

/-- Preparing a connection in `CON_STATE_IDLE` accounts for what it creates exactly when a
connection with TLS has both own files loaded, the library creates the client with the endpoint,
and, where it creates no endpoint, `m_tase2client` has been assigned before or was null from the
start. -/
theorem accountsFor_iff {config : TASE2ClientConfig} {params : ConnectionParams}
    {actions : List Action} {s : TASE2ClientConnection}
    (hrun : run (step config) (.new params) actions = .ok s)
    (hidle : s.connectionState = .idle) {env : PrepareEnv} {prepared : Bool} {t : Session}
    (hprepare : s.session.prepareConnection env config s.useTls s.serverIp s.tcpPort
      s.osiParameters = .ok (prepared, t)) (leftover : Option Handle) :
    AccountsFor leftover s t ↔ (s.useTls = true → OwnFilesLoaded env config) ∧
      (env.endpointCreated = true → env.clientCreated = true) ∧
      (env.endpointCreated = true ∨ s.session.clientAssigned = true ∨ leftover = none) := by
  have hs := empty_of_idle hrun hidle
  rw [← tlsConfigOk_iff]
  cases hobtains : obtainsEndpoint env config s.useTls with
  | false =>
    rw [Session.prepareConnection_of_refused hs.endpoint hobtains] at hprepare
    cases hprepare
    exact accountsFor_iff_of_refused hs hobtains leftover
  | true =>
    rw [← Session.isSome_endpoint_createEndpoint hs.endpoint] at hobtains
    obtain ⟨endpoint, hcreated⟩ := Option.isSome_iff_exists.mp hobtains
    rw [Session.prepareConnection_of_obtained hcreated] at hprepare
    cases hosi : s.osiParameters with
    | none =>
      rw [hosi] at hprepare
      cases hprepare
    | some osiParams =>
      rw [hosi] at hprepare
      cases hprepare
      exact accountsFor_iff_of_obtained hs hcreated osiParams leftover

/-- A connection with TLS to the same server. -/
def secureLoopback : ConnectionParams := { loopback with useTls := true }

/-- The equivalence holds of a connection with TLS whose own files load, whatever `m_tase2client`
held when it was constructed. -/
theorem accountsFor_iff_secured : ∃ t,
    (TASE2ClientConnection.new secureLoopback).session.prepareConnection
        (IterationEnv.plain 0 false).prepare
        { TASE2ClientConfig.fresh with privateKey := "key.der", ownCertificate := "cert.der" }
        true "127.0.0.1" 10002 (some {}) = .ok (true, t) ∧
      AccountsFor (some 7) (.new secureLoopback) t := by
  obtain ⟨t, ht⟩ : ∃ t, (TASE2ClientConnection.new secureLoopback).session.prepareConnection
      (IterationEnv.plain 0 false).prepare
      { TASE2ClientConfig.fresh with privateKey := "key.der", ownCertificate := "cert.der" }
      true "127.0.0.1" 10002 (some {}) = .ok (true, t) := ⟨_, rfl⟩
  refine ⟨t, ht, (@accountsFor_iff _ secureLoopback [] _ rfl rfl _ _ _ ht (some 7)).mpr
    ⟨fun _ ↦ ?_, fun _ ↦ rfl, .inl rfl⟩⟩
  exact ⟨by decide, by decide, rfl, rfl⟩

/-- Without an own certificate the TLS configuration is dropped; when the library creates the
endpoint but no client, `cleanUp` disconnects and destroys an absent client; and when it creates no
endpoint for a new connection, `m_tase2client` still holds what was there before the constructor. -/
theorem not_accountsFor_dropped :
    (∃ t, (TASE2ClientConnection.new secureLoopback).session.prepareConnection
        (IterationEnv.plain 0 false).prepare .fresh true "127.0.0.1" 10002 (some {}) =
          .ok (false, t) ∧ ¬ AccountsFor none (.new secureLoopback) t) ∧
    (∃ t, (TASE2ClientConnection.new loopback).session.prepareConnection
        { (IterationEnv.plain 0 false).prepare with clientCreated := false } .fresh false
          "127.0.0.1" 10002 (some {}) = .ok (false, t) ∧ ¬ AccountsFor none (.new loopback) t) ∧
    ∃ t, (TASE2ClientConnection.new loopback).session.prepareConnection
        { (IterationEnv.plain 0 false).prepare with endpointCreated := false } .fresh false
          "127.0.0.1" 10002 (some {}) = .ok (false, t) ∧
            ¬ AccountsFor (some 7) (.new loopback) t := by
  refine ⟨?_, ?_, ?_⟩
  · refine ⟨Session.initial.createEndpoint (IterationEnv.plain 0 false).prepare .fresh true, rfl,
      fun h ↦ ?_⟩
    have hdropped := h.accounted (.tlsConfig 0) (by decide)
    exact absurd hdropped (by decide)
  · refine ⟨((Session.initial.createEndpoint (IterationEnv.plain 0 false).prepare .fresh
      false).addressEndpoint 0 "127.0.0.1" 10002 {}).createClient 0
        { (IterationEnv.plain 0 false).prepare with clientCreated := false }, rfl, fun h ↦ ?_⟩
    have hpassed := h.passed (.clientDestroy none) (by decide)
    cases hpassed
  · refine ⟨Session.initial.createEndpoint
      { (IterationEnv.plain 0 false).prepare with endpointCreated := false } .fresh false, rfl,
      fun h ↦ ?_⟩
    have hmember : some 7 = none := h.absent.2.2
    cases hmember

end Tase2South.Connection
