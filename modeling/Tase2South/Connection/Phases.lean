import Tase2South.Connection.Flags

/-!
# The phases of a connection

What one iteration of `_conThread` can do, `src/tase2_client_connection.cpp:259–410`, case by
case, and what the members of a connection are in each state whatever the links, the files and
the library do.
-/

namespace Tase2South.Connection

open Tase2South.Base Tase2South.Config

/-! ### Preparing, case by case -/

/-- Whether preparing obtains an endpoint: with TLS, only when the own key and certificate are
loaded. -/
def obtainsEndpoint (env : PrepareEnv) (config : TASE2ClientConfig) (useTls : Bool) : Bool :=
  (!useTls || tlsConfigOk env config) && env.endpointCreated

/-- An endpoint takes a usable TLS configuration, with TLS, and a library that creates one. -/
theorem obtainsEndpoint_eq_true_iff {env : PrepareEnv} {config : TASE2ClientConfig}
    {useTls : Bool} : obtainsEndpoint env config useTls = true ↔
      (useTls = true → tlsConfigOk env config = true) ∧ env.endpointCreated = true := by
  rw [obtainsEndpoint, Bool.and_eq_true]
  cases useTls with
  | false => simp
  | true => simp

namespace Session

/-- The endpoint part of `prepareConnection`, `src/tase2_client_connection.cpp:494–679`. -/
def createEndpoint (s : Session) (env : PrepareEnv) (config : TASE2ClientConfig)
    (useTls : Bool) : Session :=
  if useTls then s.createTlsEndpoint env config else s.createPlainEndpoint env

/-- The address part of `prepareConnection`, up to the creation of the client. -/
def addressEndpoint (s : Session) (endpoint : Handle) (serverIp : String) (tcpPort : Int)
    (osiParams : OsiParameters) : Session :=
  (s.record [.endpoint endpoint (.setRemoteIpAddress (cString serverIp)),
    .endpoint endpoint (.setRemoteTcpPort tcpPort)]).record
      ((osiCalls osiParams).map (.endpoint endpoint))

/-- The client part of `prepareConnection`. -/
def createClient (s : Session) (endpoint : Handle) (env : PrepareEnv) : Session :=
  { (s.fresh env.clientCreated).2.record
      [.clientCreateEx endpoint (s.fresh env.clientCreated).1] with
    tase2client := (s.fresh env.clientCreated).1, clientAssigned := true }

/-- Creating the endpoint leaves the client alone. -/
theorem tase2client_createEndpoint (s : Session) (env : PrepareEnv)
    (config : TASE2ClientConfig) (useTls : Bool) :
    (s.createEndpoint env config useTls).tase2client = s.tase2client := by
  unfold createEndpoint createTlsEndpoint createPlainEndpoint
  split
  · dsimp only
    split
    · cases env.endpointCreated <;> simp [fresh, record]
    · rfl
  · cases env.endpointCreated <;> simp [fresh, record]

/-- Creating the endpoint does not assign the client. -/
theorem clientAssigned_createEndpoint (s : Session) (env : PrepareEnv)
    (config : TASE2ClientConfig) (useTls : Bool) :
    (s.createEndpoint env config useTls).clientAssigned = s.clientAssigned := by
  unfold createEndpoint createTlsEndpoint createPlainEndpoint
  split
  · dsimp only
    split
    · cases env.endpointCreated <;> simp [fresh, record]
    · rfl
  · cases env.endpointCreated <;> simp [fresh, record]

/-- Without an endpoint before, there is one afterwards exactly when one is obtained. -/
theorem isSome_endpoint_createEndpoint {s : Session} (hs : s.endpoint = none)
    (env : PrepareEnv) (config : TASE2ClientConfig) (useTls : Bool) :
    (s.createEndpoint env config useTls).endpoint.isSome = obtainsEndpoint env config useTls := by
  unfold createEndpoint createTlsEndpoint createPlainEndpoint obtainsEndpoint
  cases useTls with
  | false => cases env.endpointCreated <;> simp [fresh, record]
  | true =>
    cases hok : tlsConfigOk env config with
    | false => simp [record, hs]
    | true => cases env.endpointCreated <;> simp [fresh, record]

@[simp] theorem isSome_fresh (s : Session) (created : Bool) :
    (s.fresh created).1.isSome = created := by
  cases created <;> rfl

@[simp] theorem endpoint_addressEndpoint (s : Session) (endpoint : Handle) (serverIp : String)
    (tcpPort : Int) (osiParams : OsiParameters) :
    (s.addressEndpoint endpoint serverIp tcpPort osiParams).endpoint = s.endpoint := rfl

@[simp] theorem endpoint_createClient (s : Session) (endpoint : Handle) (env : PrepareEnv) :
    (s.createClient endpoint env).endpoint = s.endpoint := by
  unfold createClient fresh
  split <;> rfl

@[simp] theorem isSome_tase2client_createClient (s : Session) (endpoint : Handle)
    (env : PrepareEnv) : (s.createClient endpoint env).tase2client.isSome = env.clientCreated :=
  isSome_fresh s env.clientCreated

/-- Without an endpoint, preparing fails. -/
theorem prepareConnection_of_refused {s : Session} (hs : s.endpoint = none) {env : PrepareEnv}
    {config : TASE2ClientConfig} {useTls : Bool}
    (h : obtainsEndpoint env config useTls = false) (serverIp : String) (tcpPort : Int)
    (osiParameters : Option OsiParameters) :
    s.prepareConnection env config useTls serverIp tcpPort osiParameters =
      .ok (false, s.createEndpoint env config useTls) := by
  rw [← isSome_endpoint_createEndpoint hs, Option.isSome_eq_false_iff,
    Option.isNone_iff_eq_none] at h
  rw [createEndpoint] at h ⊢
  simp only [prepareConnection, h, pure_eq_ok]

/-- With an endpoint, preparing needs the OSI parameters, and succeeds when the client is
created. -/
theorem prepareConnection_of_obtained {s : Session} {env : PrepareEnv}
    {config : TASE2ClientConfig} {useTls : Bool} {endpoint : Handle}
    (h : (s.createEndpoint env config useTls).endpoint = some endpoint) (serverIp : String)
    (tcpPort : Int) (osiParameters : Option OsiParameters) :
    s.prepareConnection env config useTls serverIp tcpPort osiParameters =
      match osiParameters with
      | none => .error .absentOsiParameters
      | some osiParams => .ok (env.clientCreated,
          ((s.createEndpoint env config useTls).addressEndpoint endpoint serverIp tcpPort
            osiParams).createClient endpoint env) := by
  rw [createEndpoint] at h ⊢
  simp only [prepareConnection, h]
  cases osiParameters with
  | none => rfl
  | some osiParams =>
    simp only [setOsiConnectionParameters, endpoint_record, h, ok_bind, pure_eq_ok, isSome_fresh]
    rfl

end Session

/-! ### One iteration, case by case -/

/-- The endpoint that an attempt starts with, in `CON_STATE_IDLE`. -/
def TASE2ClientConnection.attempted (s : TASE2ClientConnection) (config : TASE2ClientConfig)
    (env : PrepareEnv) : Session :=
  s.session.createEndpoint env config s.useTls

/-- The session of an attempt that has got its endpoint and asked for a client. -/
def TASE2ClientConnection.addressed (s : TASE2ClientConnection) (config : TASE2ClientConfig)
    (env : PrepareEnv) (endpoint : Handle) (osiParams : OsiParameters) : Session :=
  ((s.attempted config env).addressEndpoint endpoint s.serverIp s.tcpPort
    osiParams).createClient endpoint env

/-- What an iteration does: nothing; an attempt that gets no endpoint, no client, or as far as
the connect; a connection that is established, times out, is polled or is lost. -/
inductive IterationOutcome (config : TASE2ClientConfig) (env : IterationEnv)
    (s : TASE2ClientConnection) : TASE2ClientConnection → Prop
  | kept (hrest : s.connect = true → s.connectionState = .fatalError ∨
      s.connectionState = .connecting ∧ env.endpointConnected = false) :
    IterationOutcome config env s s
  | refused (hconnect : s.connect = true) (hstate : s.connectionState = .idle)
      (hobtains : obtainsEndpoint env.prepare config s.useTls = false) :
    IterationOutcome config env s { s with
      session := s.attempted config env.prepare, connectionState := .fatalError }
  | clientless (hconnect : s.connect = true) (hstate : s.connectionState = .idle)
      (endpoint : Handle) (hendpoint : (s.attempted config env.prepare).endpoint = some endpoint)
      (osiParams : OsiParameters) (hosi : s.osiParameters = some osiParams)
      (hclient : env.prepare.clientCreated = false) :
    IterationOutcome config env s { s with
      session := s.addressed config env.prepare endpoint osiParams
      connectionState := .fatalError }
  | issued (hconnect : s.connect = true) (hstate : s.connectionState = .idle)
      (endpoint : Handle) (hendpoint : (s.attempted config env.prepare).endpoint = some endpoint)
      (osiParams : OsiParameters) (hosi : s.osiParameters = some osiParams)
      (hclient : env.prepare.clientCreated = true) (state : ConState)
      (hissued : state = if env.errorOk then .connecting else .fatalError) :
    IterationOutcome config env s { s with
      session := ((s.addressed config env.prepare endpoint osiParams).record
        ((osiCalls osiParams).map (.endpoint endpoint))).record
          [.clientConnectEx (s.addressed config env.prepare endpoint osiParams).tase2client]
      connectionState := state
      connecting := true
      delayExpirationTime := deadline env.now 10000 }
  | established (hconnect : s.connect = true) (hstate : s.connectionState = .connecting)
      (hlink : env.endpointConnected = true) :
    IterationOutcome config env s
      { ((s.configDatasets env).configDsts env).record [.installDSTransferSetHandlers
          ((s.configDatasets env).configDsts env).session.tase2client] with
        connectionState := .connected, connecting := false, connected := true }
  | timedOut (hconnect : s.connect = true) (hstate : s.connectionState = .connecting)
      (hlink : env.endpointConnected = false) :
    IterationOutcome config env s s.disconnect
  | served (hconnect : s.connect = true) (hstate : s.connectionState = .connected)
      (hlink : env.endpointConnected = true) :
    IterationOutcome config env s (s.executePeriodicTasks config env)
  | lost (hconnect : s.connect = true) (hstate : s.connectionState = .connected)
      (hlink : env.endpointConnected = false) :
    IterationOutcome config env s { s.cleanUp with connectionState := .idle }

/-- What the members are in each state. -/
structure PhaseInv (s : TASE2ClientConnection) : Prop where
  resting : s.connect = false →
    s.connectionState = .idle ∧ s.connecting = false ∧ s.connected = false
  released : s.connectionState = .idle → s.session.endpoint = none
  clientless : s.session.endpoint = none → s.session.tase2client = none
  ready : s.connectionState = .connecting ∨ s.connectionState = .connected →
    s.session.endpoint.isSome ∧ s.session.tase2client.isSome
  reached : s.connectionState = .connected → s.connected = true
  entered : s.connectionState ≠ .closed ∧ s.connectionState ≠ .waitForReconnect

/-- Outside `CON_STATE_IDLE` a connection is enabled. -/
theorem PhaseInv.connect_of_ne_idle {s : TASE2ClientConnection} (hs : PhaseInv s)
    (h : s.connectionState ≠ .idle) : s.connect = true := by
  by_contra hoff
  exact h (hs.resting (Bool.eq_false_of_not_eq_true hoff)).1

private theorem destroyEndpoint_of_none {s : TASE2ClientConnection}
    (h : s.session.endpoint = none) : s.destroyEndpoint = s := by
  rw [TASE2ClientConnection.destroyEndpoint]
  split
  · rfl
  · next he => rw [h] at he; cases he

/-- An attempt without OSI parameters that obtains an endpoint dereferences them. -/
theorem idleIteration_of_absentOsiParameters {config : TASE2ClientConfig} {env : IterationEnv}
    {s : TASE2ClientConnection} (hs : s.session.endpoint = none)
    (hobtains : obtainsEndpoint env.prepare config s.useTls = true)
    (hosi : s.osiParameters = none) :
    s.idleIteration config env = .error .absentOsiParameters := by
  rw [← Session.isSome_endpoint_createEndpoint hs] at hobtains
  obtain ⟨endpoint, hendpoint⟩ := Option.isSome_iff_exists.mp hobtains
  rw [TASE2ClientConnection.idleIteration, destroyEndpoint_of_none hs]
  simp only [Session.prepareConnection_of_obtained hendpoint, hosi, error_bind]

/-- An attempt that obtains no endpoint ends at once. -/
theorem idleIteration_of_refused {config : TASE2ClientConfig} {env : IterationEnv}
    {s : TASE2ClientConnection} (hs : s.session.endpoint = none)
    (hobtains : obtainsEndpoint env.prepare config s.useTls = false) :
    s.idleIteration config env = .ok { s with
      session := s.attempted config env.prepare, connectionState := .fatalError } := by
  rw [TASE2ClientConnection.idleIteration, destroyEndpoint_of_none hs]
  dsimp only
  rw [Session.prepareConnection_of_refused hs hobtains]
  rfl

/-- An attempt that obtains an endpoint and has OSI parameters goes on to the client, and with a
client to the connect. -/
theorem idleIteration_of_obtained {config : TASE2ClientConfig} {env : IterationEnv}
    {s : TASE2ClientConnection} (hs : s.session.endpoint = none) {endpoint : Handle}
    (hendpoint : (s.attempted config env.prepare).endpoint = some endpoint)
    {osiParams : OsiParameters} (hosi : s.osiParameters = some osiParams) :
    s.idleIteration config env = .ok (if env.prepare.clientCreated then { s with
        session := ((s.addressed config env.prepare endpoint osiParams).record
          ((osiCalls osiParams).map (.endpoint endpoint))).record
            [.clientConnectEx (s.addressed config env.prepare endpoint osiParams).tase2client]
        connectionState := if env.errorOk then .connecting else .fatalError
        connecting := true
        delayExpirationTime := deadline env.now 10000 }
      else { s with
        session := s.addressed config env.prepare endpoint osiParams
        connectionState := .fatalError }) := by
  have hcreate : (s.session.createEndpoint env.prepare config s.useTls).endpoint =
      some endpoint := hendpoint
  rw [TASE2ClientConnection.idleIteration, destroyEndpoint_of_none hs]
  simp only [Session.prepareConnection_of_obtained hcreate, hosi, ok_bind]
  cases env.prepare.clientCreated with
  | false => rfl
  | true =>
    simp only [if_true, Option.isSome_some, Session.setOsiConnectionParameters,
      Session.endpoint_createClient, Session.endpoint_addressEndpoint, hcreate, ok_bind]
    cases env.errorOk with
    | false => rfl
    | true => rfl

/-- Every attempt has one of the outcomes. -/
theorem outcome_idleIteration {config : TASE2ClientConfig} {env : IterationEnv}
    {s t : TASE2ClientConnection} (hs : s.session.endpoint = none) (hconnect : s.connect = true)
    (hstate : s.connectionState = .idle) (h : s.idleIteration config env = .ok t) :
    IterationOutcome config env s t := by
  cases hobtains : obtainsEndpoint env.prepare config s.useTls with
  | false =>
    rw [idleIteration_of_refused hs hobtains] at h
    rw [← Except.ok.inj h]
    exact .refused hconnect hstate hobtains
  | true =>
    cases hosi : s.osiParameters with
    | none =>
      rw [idleIteration_of_absentOsiParameters hs hobtains hosi] at h
      cases h
    | some osiParams =>
      rw [← Session.isSome_endpoint_createEndpoint hs] at hobtains
      obtain ⟨endpoint, hendpoint⟩ := Option.isSome_iff_exists.mp hobtains
      rw [idleIteration_of_obtained hs hendpoint hosi] at h
      rw [← Except.ok.inj h]
      cases hclient : env.prepare.clientCreated with
      | false => exact .clientless hconnect hstate endpoint hendpoint osiParams hosi hclient
      | true => exact .issued hconnect hstate endpoint hendpoint osiParams hosi hclient _ rfl

/-- Every iteration has one of the outcomes. -/
theorem outcome_iteration {config : TASE2ClientConfig} {env : IterationEnv}
    {s t : TASE2ClientConnection} (hs : PhaseInv s) (h : s.iteration config env = .ok t) :
    IterationOutcome config env s t := by
  rw [TASE2ClientConnection.iteration] at h
  split at h
  · next hconnect =>
    cases hstate : s.connectionState with
    | idle =>
      simp only [hstate] at h
      exact outcome_idleIteration (hs.released hstate) hconnect hstate h
    | connecting =>
      simp only [hstate, TASE2ClientConnection.connectingIteration] at h
      split at h
      · cases h
      · split at h
        · next hlink =>
          rw [← Except.ok.inj h]
          exact .established hconnect hstate hlink
        · next hlink =>
          rw [Bool.not_eq_true] at hlink
          split at h
          · rw [← Except.ok.inj h]
            exact .timedOut hconnect hstate hlink
          · rw [← Except.ok.inj h]
            exact .kept fun _ ↦ .inr ⟨hstate, hlink⟩
    | connected =>
      simp only [hstate, TASE2ClientConnection.connectedIteration] at h
      split at h
      · cases h
      · split at h
        · next hlink =>
          rw [← Except.ok.inj h]
          exact .served hconnect hstate hlink
        · next hlink =>
          rw [Bool.not_eq_true] at hlink
          rw [← Except.ok.inj h]
          exact .lost hconnect hstate hlink
    | closed => exact absurd hstate hs.entered.1
    | waitForReconnect => exact absurd hstate hs.entered.2
    | fatalError =>
      simp only [hstate] at h
      rw [← Except.ok.inj h]
      exact .kept fun _ ↦ .inl hstate
  · next hconnect =>
    rw [← Except.ok.inj h]
    exact .kept fun hc ↦ absurd hc hconnect

/-! ### The invariant of the phases -/

/-- Releasing leaves no endpoint. -/
theorem endpoint_releaseSession (s : Session) :
    (TASE2ClientConnection.releaseSession s).endpoint = none := by
  unfold TASE2ClientConnection.releaseSession
  cases he : s.endpoint <;> cases ht : s.tlsConfig <;> simp [he, ht]

/-- Releasing leaves no client when there was none without an endpoint. -/
theorem tase2client_releaseSession {s : Session} (h : s.endpoint = none → s.tase2client = none) :
    (TASE2ClientConnection.releaseSession s).tase2client = none := by
  unfold TASE2ClientConnection.releaseSession
  cases he : s.endpoint <;> cases ht : s.tlsConfig <;> simp [he, ht, h]

/-- Cleaning up leaves neither an endpoint nor a client. -/
theorem released_cleanUp {s : TASE2ClientConnection} (hs : PhaseInv s) :
    s.cleanUp.session.endpoint = none ∧ s.cleanUp.session.tase2client = none :=
  ⟨endpoint_releaseSession _, tase2client_releaseSession hs.clientless⟩

/-- Configuring transfer sets changes the session and the two vectors only. -/
theorem configDsts_frame (env : IterationEnv) (s : TASE2ClientConnection) :
    { s.configDsts env with session := s.session, datasets := s.datasets, dsts := s.dsts } = s := by
  unfold TASE2ClientConnection.configDsts
  induction env.dstsOrder.zipIdx generalizing s with
  | nil => rfl
  | cons p ps ih =>
    rw [List.foldl_cons]
    have hps := ih (s.configTransferSet env p)
    have hp : { s.configTransferSet env p with
        session := s.session, datasets := s.datasets, dsts := s.dsts } = s := by
      unfold TASE2ClientConnection.configTransferSet
      dsimp only
      split
      · rfl
      · split <;> rfl
    rw [← hps] at hp
    exact hp

/-- A connection that is released satisfies the invariant. -/
theorem phaseInv_of_released {s : TASE2ClientConnection} (hstate : s.connectionState = .idle)
    (hresting : s.connect = false → s.connecting = false ∧ s.connected = false)
    (hendpoint : s.session.endpoint = none) (hclient : s.session.tase2client = none) :
    PhaseInv s where
  resting h := ⟨hstate, hresting h⟩
  released _ := hendpoint
  clientless _ := hclient
  ready h := by simp [hstate] at h
  reached h := by simp [hstate] at h
  entered := by simp [hstate]

/-- A connection with an endpoint and a client. -/
theorem phaseInv_of_ready {s : TASE2ClientConnection} (hconnect : s.connect = true)
    (hstate : s.connectionState = .connecting ∨
      s.connectionState = .connected ∧ s.connected = true)
    (hendpoint : s.session.endpoint.isSome) (hclient : s.session.tase2client.isSome) :
    PhaseInv s where
  resting h := by simp [hconnect] at h
  released h := by simp [h] at hstate
  clientless h := by simp [h] at hendpoint
  ready _ := ⟨hendpoint, hclient⟩
  reached h := by simpa [h] using hstate
  entered := by
    rcases hstate with h | ⟨h, -⟩
    · simp [h]
    · simp [h]

/-- A connection whose attempt failed satisfies the invariant. -/
theorem phaseInv_of_failed {s : TASE2ClientConnection} (hconnect : s.connect = true)
    (hstate : s.connectionState = .fatalError)
    (hclient : s.session.endpoint = none → s.session.tase2client = none) : PhaseInv s where
  resting h := by simp [hconnect] at h
  released h := by simp [hstate] at h
  clientless := hclient
  ready h := by simp [hstate] at h
  reached h := by simp [hstate] at h
  entered := by simp [hstate]

/-- A new connection satisfies the invariant. -/
theorem phaseInv_new (params : ConnectionParams) : PhaseInv (.new params) :=
  phaseInv_of_released rfl (fun _ ↦ ⟨rfl, rfl⟩) rfl rfl

/-- `Connect ()` keeps the invariant. -/
theorem phaseInv_connect {s : TASE2ClientConnection} (hs : PhaseInv s) :
    PhaseInv { s with connect := true } where
  resting h := by cases h
  released := hs.released
  clientless := hs.clientless
  ready := hs.ready
  reached := hs.reached
  entered := hs.entered

/-- `Disconnect ()` keeps the invariant. -/
theorem phaseInv_disconnect {s : TASE2ClientConnection} (hs : PhaseInv s) :
    PhaseInv s.disconnect :=
  phaseInv_of_released rfl (fun _ ↦ ⟨rfl, rfl⟩) (released_cleanUp hs).1 (released_cleanUp hs).2

/-- What an attempt has when it has got an endpoint. -/
theorem endpoint_addressed {s : TASE2ClientConnection} {config : TASE2ClientConfig}
    {env : PrepareEnv} {endpoint : Handle}
    (h : (s.attempted config env).endpoint = some endpoint) (osiParams : OsiParameters) :
    (s.addressed config env endpoint osiParams).endpoint = some endpoint := by
  rw [TASE2ClientConnection.addressed, Session.endpoint_createClient,
    Session.endpoint_addressEndpoint, h]

/-- Every iteration keeps the invariant. -/
theorem phaseInv_iteration {config : TASE2ClientConfig} {env : IterationEnv}
    {s t : TASE2ClientConnection} (hs : PhaseInv s) (h : s.iteration config env = .ok t) :
    PhaseInv t := by
  cases outcome_iteration hs h with
  | kept _ => exact hs
  | refused hconnect hstate _ =>
    refine phaseInv_of_failed hconnect rfl fun _ ↦ ?_
    have hclient : (s.attempted config env.prepare).tase2client = s.session.tase2client :=
      Session.tase2client_createEndpoint _ _ _ _
    rw [hclient]
    exact hs.clientless (hs.released hstate)
  | clientless hconnect _ endpoint hendpoint osiParams _ _ =>
    refine phaseInv_of_failed hconnect rfl fun h ↦ ?_
    rw [endpoint_addressed hendpoint osiParams] at h
    cases h
  | issued hconnect _ endpoint hendpoint osiParams _ hclient state hissued =>
    have hsome := endpoint_addressed hendpoint osiParams
    cases herror : env.errorOk with
    | true =>
      rw [herror] at hissued
      refine phaseInv_of_ready hconnect (.inl hissued) ?_ ?_
      · simp [hsome]
      · simp [TASE2ClientConnection.addressed, hclient]
    | false =>
      rw [herror] at hissued
      refine phaseInv_of_failed hconnect hissued fun h ↦ ?_
      simp [hsome] at h
  | established hconnect hstate _ =>
    have hsame := sameHandles_configDsts env (s.configDatasets env)
    have hready := hs.ready (.inl hstate)
    refine phaseInv_of_ready ?_ (.inr ⟨rfl, rfl⟩) ?_ ?_
    · exact (congrArg TASE2ClientConnection.connect
        (configDsts_frame env (s.configDatasets env))).trans hconnect
    · simp only [TASE2ClientConnection.record, Session.endpoint_record, hsame.endpoint]
      exact hready.1
    · simp only [TASE2ClientConnection.record, Session.tase2client_record, hsame.tase2client]
      exact hready.2
  | timedOut _ _ _ => exact phaseInv_disconnect hs
  | served _ _ _ =>
    obtain ⟨calls, next, heq, -⟩ := s.executePeriodicTasks_eq_record config env
    rw [heq]
    exact ⟨hs.resting, hs.released, hs.clientless, hs.ready, hs.reached, hs.entered⟩
  | lost hconnect _ _ =>
    refine phaseInv_of_released rfl (fun h ↦ ?_) (released_cleanUp hs).1 (released_cleanUp hs).2
    exact absurd hconnect (by simp [show s.connect = false from h])

/-- No step changes what a connection was constructed with. -/
theorem toConnectionParams_of_step {config : TASE2ClientConfig} {s t : TASE2ClientConnection}
    {a : Action} (hs : PhaseInv s) (h : step config s a = .ok t) :
    t.toConnectionParams = s.toConnectionParams := by
  cases a with
  | connect => exact Except.ok.inj h ▸ rfl
  | disconnect => exact Except.ok.inj h ▸ rfl
  | iterate env =>
    cases outcome_iteration hs h with
    | kept _ => rfl
    | refused _ _ _ => rfl
    | clientless _ _ _ _ _ _ _ => rfl
    | issued _ _ _ _ _ _ _ _ _ => rfl
    | established _ _ _ =>
      exact (congrArg TASE2ClientConnection.toConnectionParams
        (configDsts_frame env (s.configDatasets env))).trans rfl
    | timedOut _ _ _ => rfl
    | served _ _ _ =>
      obtain ⟨calls, next, heq, -⟩ := s.executePeriodicTasks_eq_record config env
      rw [heq]
      rfl
    | lost _ _ _ => rfl

/-- Every step keeps the invariant. -/
theorem phaseInv_step {config : TASE2ClientConfig} {s t : TASE2ClientConnection} {a : Action}
    (hs : PhaseInv s) (h : step config s a = .ok t) : PhaseInv t := by
  cases a with
  | connect => exact Except.ok.inj h ▸ phaseInv_connect hs
  | disconnect => exact Except.ok.inj h ▸ phaseInv_disconnect hs
  | iterate env => exact phaseInv_iteration hs h

/-- An iteration does not set `m_connect`, and while that stays set it keeps `m_connected`. -/
theorem connected_of_iteration {config : TASE2ClientConfig} {env : IterationEnv}
    {s t : TASE2ClientConnection} (hs : PhaseInv s) (h : s.iteration config env = .ok t)
    (hconnect : t.connect = true) :
    s.connect = true ∧ (s.connected = true → t.connected = true) := by
  cases outcome_iteration hs h with
  | kept _ => exact ⟨hconnect, id⟩
  | refused hc _ _ => exact ⟨hc, id⟩
  | clientless hc _ _ _ _ _ _ => exact ⟨hc, id⟩
  | issued hc _ _ _ _ _ _ _ _ => exact ⟨hc, id⟩
  | established hc _ _ => exact ⟨hc, fun _ ↦ rfl⟩
  | timedOut _ _ _ => cases hconnect
  | served hc _ _ =>
    refine ⟨hc, fun h ↦ ?_⟩
    obtain ⟨calls, next, heq, -⟩ := s.executePeriodicTasks_eq_record config env
    rw [heq]
    exact h
  | lost hc _ _ => exact ⟨hc, id⟩

end Tase2South.Connection
