import Tase2South.Base.Run
import Tase2South.Connection.Session

/-!
# The state machine of a connection

`TASE2ClientConnection`, `src/tase2_client_connection.cpp`: one iteration of `_conThread` is an
atomic step, interleaved with the `Connect ()` and `Disconnect ()` calls of the monitor. What
the clock, the endpoint and the library answer is an input of the step.
-/

namespace Tase2South.Connection

open Tase2South.Base Tase2South.Config

/-- `ConState`, `include/tase2_client_connection.hpp:99–106`. -/
inductive ConState where
  | idle
  | connecting
  | connected
  | closed
  | waitForReconnect
  | fatalError
  deriving DecidableEq, Repr

/-- The arguments of the constructor. -/
structure ConnectionParams where
  serverIp : String
  tcpPort : Int
  useTls : Bool
  osiParameters : Option OsiParameters

/-- The members of `TASE2ClientConnection`. -/
structure TASE2ClientConnection extends ConnectionParams where
  connect : Bool
  connecting : Bool
  connected : Bool
  connectionState : ConState
  session : Session
  datasets : List Handle
  dsts : List Handle
  delayExpirationTime : Nat
  nextPollingTime : Nat

/-- The constructor, `src/tase2_client_connection.cpp:12–20`. `m_tase2client` stays uninitialised,
and so does `m_delayExpirationTime`, which is set before it is read. -/
def TASE2ClientConnection.new (params : ConnectionParams) : TASE2ClientConnection where
  toConnectionParams := params
  connect := false
  connecting := false
  connected := false
  connectionState := .idle
  session := .initial
  datasets := []
  dsts := []
  delayExpirationTime := 0
  nextPollingTime := 0

/-- A time to wait for, as the code computes it: the sum of two `uint64_t`. -/
def deadline (now wait : Nat) : Nat := (now + wait) % 2 ^ 64

/-- The reading leaves room for the wait. The readings are milliseconds of `CLOCK_MONOTONIC`, which
starts near zero, so that those of a running system do. -/
def InClockRange (now wait : Nat) : Prop := now + wait < 2 ^ 64

instance (now wait : Nat) : Decidable (InClockRange now wait) :=
  inferInstanceAs (Decidable (now + wait < 2 ^ 64))

/-- In the range of the clock, a deadline is as far ahead as the wait. -/
theorem deadline_eq {now wait : Nat} (h : InClockRange now wait) :
    deadline now wait = now + wait := Nat.mod_eq_of_lt h

/-- What the outside decides in one iteration: the monotonic clock, whether the endpoint
reports `TASE2_ENDPOINT_STATE_CONNECTED`, the outcomes of preparing a connection, whether the
unassigned `error` equals `TASE2_CLIENT_ERROR_OK`, the orders in which the two maps are
visited, and which requests return a handle. -/
structure IterationEnv where
  now : Nat
  endpointConnected : Bool
  prepare : PrepareEnv
  errorOk : Bool
  datasetOrder : List (String × Dataset)
  dstsOrder : List (String × DatasetTransferSet)
  listCreated : Nat → Bool
  transferSetReturned : Nat → Bool
  dataSetReturned : Nat → Bool

/-- An iteration in which every file loads, every request returns a handle and no set is
configured. -/
def IterationEnv.plain (now : Nat) (endpointConnected : Bool) : IterationEnv where
  now := now
  endpointConnected := endpointConnected
  prepare := ⟨"/data", .loaded, .loaded, fun _ ↦ .loaded, fun _ ↦ .loaded, true, true⟩
  errorOk := true
  datasetOrder := []
  dstsOrder := []
  listCreated _ := true
  transferSetReturned _ := true
  dataSetReturned _ := true

namespace TASE2ClientConnection

/-- Record calls in the session. -/
def record (s : TASE2ClientConnection) (calls : List LibCall) : TASE2ClientConnection :=
  { s with session := s.session.record calls }

/-! ### Releasing -/

/-- The endpoint, client and TLS part of `cleanUp`, `src/tase2_client_connection.cpp:452–470`;
`m_client` is always set. -/
def releaseSession (s : Session) : Session :=
  let s := match s.endpoint with
    | some endpoint =>
      { s.record [.clientDisconnect s.tase2client, .clientDestroy s.tase2client,
          .endpointDestroy endpoint] with
        endpoint := none, tase2client := none, clientAssigned := true }
    | none => s
  match s.tlsConfig with
  | some tls => { s.record [.tls tls .destroy] with tlsConfig := none }
  | none => s

/-- `cleanUp`, `src/tase2_client_connection.cpp:424–471`; the directory pairs are never
filled. -/
def cleanUp (s : TASE2ClientConnection) : TASE2ClientConnection :=
  { s with
    session := releaseSession (s.session.record
      (s.dsts.map .transferSetDestroy ++ s.datasets.map .dataSetDestroy)) }

/-- What holds of every call that destroys a transfer set or a data set. -/
theorem forall_mem_destroyed {P : LibCall → Prop} (htransferSet : ∀ h, P (.transferSetDestroy h))
    (hdataSet : ∀ h, P (.dataSetDestroy h)) (dsts datasets : List Handle) :
    ∀ c ∈ dsts.map .transferSetDestroy ++ datasets.map .dataSetDestroy, P c := by
  intro c hc
  rcases List.mem_append.mp hc with hc | hc
  · obtain ⟨h, -, rfl⟩ := List.mem_map.mp hc
    exact htransferSet h
  · obtain ⟨h, -, rfl⟩ := List.mem_map.mp hc
    exact hdataSet h

/-- `Disconnect`, `src/tase2_client_connection.cpp:704–712`. -/
def disconnect (s : TASE2ClientConnection) : TASE2ClientConnection :=
  cleanUp { s with
    connecting := false, connected := false, connect := false, connectionState := .idle }

/-! ### Configuring a fresh connection -/

/-- The calls of one pass of the loop of `m_configDatasets`,
`src/tase2_client_connection.cpp:88–134`. -/
def datasetCalls (env : IterationEnv) (s : TASE2ClientConnection)
    (p : (String × Dataset) × Nat) : List LibCall :=
  let dataset := p.1.2
  if dataset.dynamic && env.listCreated p.2 then
    [.createDataSet s.session.tase2client (cString dataset.domain) (cString dataset.datasetRef)
      (dataset.entries.map cString)]
  else []

/-- `m_configDatasets`, `src/tase2_client_connection.cpp:85–135`. -/
def configDatasets (env : IterationEnv) (s : TASE2ClientConnection) : TASE2ClientConnection :=
  s.record (env.datasetOrder.zipIdx.flatMap (s.datasetCalls env))

/-- Configuring data sets only creates data sets. -/
theorem configDatasets_eq_record (env : IterationEnv) (s : TASE2ClientConnection) :
    ∃ calls, s.configDatasets env = s.record calls ∧ ∀ c ∈ calls, ∃ domain name entries,
      c = .createDataSet s.session.tase2client domain name entries := by
  refine ⟨_, rfl, fun c hc ↦ ?_⟩
  obtain ⟨p, -, hp⟩ := List.mem_flatMap.mp hc
  unfold datasetCalls at hp
  dsimp only at hp
  split at hp
  · exact ⟨_, _, _, List.mem_singleton.mp hp⟩
  · cases hp

/-- What `m_configDsts` writes for a transfer set, `src/tase2_client_connection.cpp:197–238`. -/
def transferSetToWrite (dsts : DatasetTransferSet) (ts dataSet : Handle) : ClientDSTransferSet where
  handle := ts
  domain := "icc1"
  dataSet := dataSet
  dataSetDomain := cString dsts.domain
  dataSetName := cString dsts.datasetRef
  interval := dsts.interval
  rbe := dsts.rbe
  critical := dsts.critical
  bufferTime := dsts.bufferTime
  integrityCheck := if dsts.rbe then 1 else 0
  startTime := dsts.startTime
  allChangesReported := dsts.allChangesReported
  dsConditionsRequested := dsts.dsConditions
  status := true

/-- One pass of the loop of `m_configDsts`, `src/tase2_client_connection.cpp:174–244`. -/
def configTransferSet (env : IterationEnv) (s : TASE2ClientConnection)
    (p : (String × DatasetTransferSet) × Nat) : TASE2ClientConnection :=
  let dsts := p.1.2
  let client := s.session.tase2client
  let (ts, session) := s.session.fresh (env.transferSetReturned p.2)
  let session := session.record [.getNextDSTransferSet client "icc1" ts]
  match ts with
  | none => { s with session }
  | some ts =>
    let (dataSet, session) := session.fresh (env.dataSetReturned p.2)
    let session := session.record
      [.getDataSet client (cString dsts.domain) (cString dsts.datasetRef) dataSet]
    match dataSet with
    | none => { s with session }
    | some dataSet =>
      { s with
        session := session.record [.writeValues client (transferSetToWrite dsts ts dataSet)]
        datasets := s.datasets ++ [dataSet]
        dsts := s.dsts ++ [ts] }

/-- Without a transfer set, a pass only records the request. -/
theorem configTransferSet_of_refused {env : IterationEnv} {s : TASE2ClientConnection}
    {p : (String × DatasetTransferSet) × Nat} (hts : env.transferSetReturned p.2 = false) :
    s.configTransferSet env p =
      s.record [.getNextDSTransferSet s.session.tase2client "icc1" none] := by
  simp [configTransferSet, Session.fresh, hts, record]

/-- Without the data set, a pass takes the transfer set and keeps nothing. -/
theorem configTransferSet_of_missing {env : IterationEnv} {s : TASE2ClientConnection}
    {p : (String × DatasetTransferSet) × Nat} (hts : env.transferSetReturned p.2 = true)
    (hds : env.dataSetReturned p.2 = false) :
    s.configTransferSet env p =
      { s with
        session := ({ s.session with nextHandle := s.session.nextHandle + 1 } : Session).record
          [.getNextDSTransferSet s.session.tase2client "icc1" (some s.session.nextHandle),
            .getDataSet s.session.tase2client (cString p.1.2.domain)
              (cString p.1.2.datasetRef) none] } := by
  simp [configTransferSet, Session.fresh, hts, hds, Session.record]

/-- With both handles, a pass writes the transfer set and keeps both. -/
theorem configTransferSet_of_found {env : IterationEnv} {s : TASE2ClientConnection}
    {p : (String × DatasetTransferSet) × Nat} (hts : env.transferSetReturned p.2 = true)
    (hds : env.dataSetReturned p.2 = true) :
    s.configTransferSet env p =
      { s with
        session := ({ s.session with nextHandle := s.session.nextHandle + 2 } : Session).record
          [.getNextDSTransferSet s.session.tase2client "icc1" (some s.session.nextHandle),
            .getDataSet s.session.tase2client (cString p.1.2.domain)
              (cString p.1.2.datasetRef) (some (s.session.nextHandle + 1)),
            .writeValues s.session.tase2client (transferSetToWrite p.1.2 s.session.nextHandle
              (s.session.nextHandle + 1))]
        datasets := s.datasets ++ [s.session.nextHandle + 1]
        dsts := s.dsts ++ [s.session.nextHandle] } := by
  simp [configTransferSet, Session.fresh, hts, hds, Session.record]

/-- `m_configDsts`, `src/tase2_client_connection.cpp:171–245`. -/
def configDsts (env : IterationEnv) (s : TASE2ClientConnection) : TASE2ClientConnection :=
  env.dstsOrder.zipIdx.foldl (configTransferSet env) s

/-! ### Iterations -/

/-- `executePeriodicTasks`, `src/tase2_client_connection.cpp:247–257`. -/
def executePeriodicTasks (config : TASE2ClientConfig) (env : IterationEnv)
    (s : TASE2ClientConnection) : TASE2ClientConnection :=
  if 0 < config.pollingInterval ∧ s.nextPollingTime ≤ env.now then
    { s.record [.handleAllValues] with
      nextPollingTime := deadline env.now config.pollingInterval.toNat }
  else s

/-- The periodic tasks poll at most, and set the next polling time. -/
theorem executePeriodicTasks_eq_record (config : TASE2ClientConfig) (env : IterationEnv)
    (s : TASE2ClientConnection) :
    ∃ calls next, s.executePeriodicTasks config env =
        { s.record calls with nextPollingTime := next } ∧
      ∀ c ∈ calls, c = .handleAllValues := by
  unfold executePeriodicTasks
  split
  · exact ⟨[.handleAllValues], _, rfl, fun _ hc ↦ List.mem_singleton.mp hc⟩
  · refine ⟨[], s.nextPollingTime, ?_, fun _ hc ↦ by cases hc⟩
    simp [record, Session.record]

/-- The endpoint that is left over in `CON_STATE_IDLE`,
`src/tase2_client_connection.cpp:274–281`. -/
def destroyEndpoint (s : TASE2ClientConnection) : TASE2ClientConnection :=
  match s.session.endpoint with
  | none => s
  | some endpoint =>
    { s with session := { s.session.record [.endpointDestroy endpoint] with endpoint := none } }

/-- `CON_STATE_IDLE`, `src/tase2_client_connection.cpp:272–326`. -/
def idleIteration (config : TASE2ClientConfig) (env : IterationEnv)
    (s : TASE2ClientConnection) : Except ConnFault TASE2ClientConnection := do
  let s := s.destroyEndpoint
  let (prepared, session) ← s.session.prepareConnection env.prepare config s.useTls s.serverIp
    s.tcpPort s.osiParameters
  if prepared then
    let s := { s with
      session
      connectionState := .connecting
      connecting := true
      delayExpirationTime := deadline env.now 10000 }
    let session ← (if s.osiParameters.isSome then
      session.setOsiConnectionParameters s.osiParameters else .ok session)
    let s := { s with session := session.record [.clientConnectEx session.tase2client] }
    return if env.errorOk then s else { s with connectionState := .fatalError }
  else
    return { s with session, connectionState := .fatalError }

/-- `CON_STATE_CONNECTING`, `src/tase2_client_connection.cpp:328–358`. -/
def connectingIteration (env : IterationEnv) (s : TASE2ClientConnection) :
    Except ConnFault TASE2ClientConnection :=
  if s.session.endpoint.isNone then .error .absentEndpoint
  else if env.endpointConnected then
    let s := (s.configDatasets env).configDsts env
    .ok { s.record [.installDSTransferSetHandlers s.session.tase2client] with
      connectionState := .connected, connecting := false, connected := true }
  else if s.delayExpirationTime < env.now then
    .ok s.disconnect
  else
    .ok s

/-- `CON_STATE_CONNECTED`, `src/tase2_client_connection.cpp:360–373`: a lost link leaves
`m_connected` as it is. -/
def connectedIteration (config : TASE2ClientConfig) (env : IterationEnv)
    (s : TASE2ClientConnection) : Except ConnFault TASE2ClientConnection :=
  if s.session.endpoint.isNone then .error .absentEndpoint
  else if env.endpointConnected then
    .ok (s.executePeriodicTasks config env)
  else
    .ok { s.cleanUp with connectionState := .idle }

/-- One iteration of the loop of `_conThread`, `src/tase2_client_connection.cpp:264–399`. -/
def iteration (config : TASE2ClientConfig) (env : IterationEnv) (s : TASE2ClientConnection) :
    Except ConnFault TASE2ClientConnection :=
  if s.connect then
    match s.connectionState with
    | .idle => s.idleIteration config env
    | .connecting => s.connectingIteration env
    | .connected => s.connectedIteration config env
    | .closed => .ok { s with
        delayExpirationTime := deadline env.now 10000, connectionState := .waitForReconnect }
    | .waitForReconnect =>
      .ok (if s.delayExpirationTime ≤ env.now then { s with connectionState := .idle } else s)
    | .fatalError => .ok s
  else .ok s

end TASE2ClientConnection

/-- What happens to a connection: an iteration of its thread, or a call of the monitor. -/
inductive Action where
  | iterate (env : IterationEnv)
  | connect
  | disconnect

/-- One atomic step of a connection. -/
def step (config : TASE2ClientConfig) (s : TASE2ClientConnection) :
    Action → Except ConnFault TASE2ClientConnection
  | .iterate env => s.iteration config env
  | .connect => .ok { s with connect := true }
  | .disconnect => .ok s.disconnect

/-- The end of `_conThread`, `src/tase2_client_connection.cpp:400–403`. -/
def finish (s : TASE2ClientConnection) : TASE2ClientConnection := s.cleanUp

end Tase2South.Connection
