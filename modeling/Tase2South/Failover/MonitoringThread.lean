import Mathlib.Logic.Function.Basic
import Tase2South.Connection.Addressing
import Tase2South.Connection.Phases

/-!
# The monitoring thread

`TASE2Client::_monitoringThread`, `src/tase2_client.cpp:207–285`, with the threads of the
connections. Each statement of the monitor is an atomic step, and so is each iteration of a
connection; the steps may come in any order. The monitor never looks at the connections that it
is not about to enable.
-/

namespace Tase2South.Failover

open Tase2South.Base Tase2South.Config Tase2South.Connection

/-- The statement of `_monitoringThread` that comes next. -/
inductive MonitorPoint (n : Nat) where
  /-- `if (m_started)`, line 209. -/
  | begin
  /-- `clientConnection->Start ()`, line 214. -/
  | start (i : Fin n)
  /-- `while (m_started)`, line 224. -/
  | loopTest
  /-- `if (m_active_connection == nullptr || m_active_connection->Disconnected ())`, line 228. -/
  | failoverTest
  /-- `clientConnection->Connect ()`, line 239. -/
  | connect (i : Fin n)
  /-- `m_active_connection = clientConnection`, line 241. -/
  | assign (i : Fin n)
  /-- `while (!clientConnection->Connected ())` with the test of the time, line 251. -/
  | awaitConnected (i : Fin n)
  /-- `clientConnection->Disconnect ()`, line 256. -/
  | disconnect (i : Fin n)
  /-- `m_active_connection = nullptr`, line 257. -/
  | clear (i : Fin n)
  /-- `if (m_active_connection)`, line 263. -/
  | activeTest (i : Fin n)
  /-- `delete clientConnection`, line 281. -/
  | delete (i : Fin n)
  /-- The thread has returned. -/
  | ended
  deriving DecidableEq

/-- Whether the thread of a connection runs, and whether the connection still exists. -/
inductive ThreadState where
  | created
  | running
  | deleted
  deriving DecidableEq, Repr

/-- The members of `TASE2Client` that its threads use, and where the monitor stands. -/
structure ClientState (n : Nat) where
  connections : Fin n → TASE2ClientConnection
  threads : Fin n → ThreadState
  active : Option (Fin n)
  started : Bool
  point : MonitorPoint n

/-- What `start` leaves, `src/tase2_client.cpp:165–195`: new connections, and the thread of the
monitor at its begin. -/
def ClientState.new {n : Nat} (params : Fin n → ConnectionParams) : ClientState n where
  connections i := .new (params i)
  threads _ := .created
  active := none
  started := true
  point := .begin

/-- `prepareConnections`, `src/tase2_client.cpp:177–195`. -/
def ClientState.prepareConnections (config : TASE2ClientConfig) :
    ClientState config.connections.length :=
  .new fun i ↦ .ofGroup (config.connections.get i)

/-- `Disconnected ()`, `include/tase2_client_connection.hpp:30–34`. -/
def disconnected (s : TASE2ClientConnection) : Bool := !s.connecting && !s.connected

/-! ### The order of the statements -/

section

variable {n : Nat}

/-- A loop over the connections that starts with the first, if there is one. -/
def MonitorPoint.first (body : Fin n → MonitorPoint n) (done : MonitorPoint n) : MonitorPoint n :=
  if h : 0 < n then body ⟨0, h⟩ else done

/-- The loop goes on with the connection after this one, if there is one. -/
def MonitorPoint.next (i : Fin n) (body : Fin n → MonitorPoint n) (done : MonitorPoint n) :
    MonitorPoint n :=
  if h : i + 1 < n then body ⟨i + 1, h⟩ else done

/-- What holds wherever a loop over the connections may start. -/
theorem MonitorPoint.first_induction {P : MonitorPoint n → Prop} {body : Fin n → MonitorPoint n}
    {done : MonitorPoint n} (hbody : ∀ i, P (body i)) (hdone : P done) :
    P (MonitorPoint.first body done) := by
  unfold MonitorPoint.first
  split
  · exact hbody _
  · exact hdone

/-- What holds wherever a loop over the connections may go on. -/
theorem MonitorPoint.next_induction {P : MonitorPoint n → Prop} {i : Fin n}
    {body : Fin n → MonitorPoint n} {done : MonitorPoint n} (hbody : ∀ j, P (body j))
    (hdone : P done) : P (MonitorPoint.next i body done) := by
  unfold MonitorPoint.next
  split
  · exact hbody _
  · exact hdone

namespace ClientState

/-- Change one connection. -/
def update (s : ClientState n) (i : Fin n) (connection : TASE2ClientConnection) : ClientState n :=
  { s with connections := Function.update s.connections i connection }

/-- `delete clientConnection`: a thread that runs is stopped, and cleans up at its end,
`src/tase2_client_connection.cpp:473–489`. -/
def delete (s : ClientState n) (i : Fin n) : ClientState n :=
  { s.update i (if s.threads i = .running then finish (s.connections i) else s.connections i) with
    threads := Function.update s.threads i .deleted }

/-- One statement of the monitor; the time decides whether waiting has timed out. -/
def monitor (s : ClientState n) (timedOut : Bool) : ClientState n :=
  match s.point with
  | .begin => { s with point := if s.started then .first .start .loopTest else .loopTest }
  | .start i => { s with
      threads := Function.update s.threads i .running, point := .next i .start .loopTest }
  | .loopTest => { s with point := if s.started then .failoverTest else .first .delete .ended }
  | .failoverTest => { s with
      point := if s.active.all fun i ↦ disconnected (s.connections i) then
        .first .connect .loopTest else .loopTest }
  | .connect i => { s.update i { s.connections i with connect := true } with point := .assign i }
  | .assign i => { s with active := some i, point := .awaitConnected i }
  | .awaitConnected i => { s with
      point := if (s.connections i).connected then .activeTest i
        else if timedOut then .disconnect i else .awaitConnected i }
  | .disconnect i => { s.update i (s.connections i).disconnect with point := .clear i }
  | .clear i => { s with active := none, point := .activeTest i }
  | .activeTest i => { s with
      point := if s.active.isSome then .loopTest else .next i .connect .loopTest }
  | .delete i => { s.delete i with point := .next i .delete .ended }
  | .ended => s

end ClientState

/-- Changing one connection leaves where the monitor stands. -/
@[simp] theorem point_update (s : ClientState n) (i : Fin n) (c : TASE2ClientConnection) :
    (s.update i c).point = s.point := rfl

@[simp] theorem active_update (s : ClientState n) (i : Fin n) (c : TASE2ClientConnection) :
    (s.update i c).active = s.active := rfl

@[simp] theorem threads_update (s : ClientState n) (i : Fin n) (c : TASE2ClientConnection) :
    (s.update i c).threads = s.threads := rfl

@[simp] theorem connections_update_self (s : ClientState n) (i : Fin n)
    (c : TASE2ClientConnection) : (s.update i c).connections i = c := by
  rw [ClientState.update]
  exact Function.update_self ..

@[simp] theorem connections_update_of_ne (s : ClientState n) {i j : Fin n} (h : j ≠ i)
    (c : TASE2ClientConnection) : (s.update i c).connections j = s.connections j := by
  rw [ClientState.update]
  exact Function.update_of_ne h ..

end

/-! ### The threads of the connections -/

/-- Whether an iteration calls `handleAllValues`, `src/tase2_client_connection.cpp:247–257`. -/
def polls (config : TASE2ClientConfig) (env : IterationEnv) (s : TASE2ClientConnection) : Bool :=
  s.connect && s.connectionState == .connected && s.session.endpoint.isSome &&
    env.endpointConnected && decide (0 < config.pollingInterval ∧ s.nextPollingTime ≤ env.now)

/-- What ends the process: a fault of a connection, or a poll with something to read through a
null `m_active_connection`, `src/tase2_client.cpp:470–475`. -/
inductive ThreadFault where
  | connection (fault : ConnFault)
  | absentConnection
  deriving DecidableEq, Repr

section

variable {n : Nat}

/-- One iteration of a connection whose thread runs. -/
def ClientState.iterate (config : TASE2ClientConfig) (s : ClientState n) (i : Fin n)
    (env : IterationEnv) : Except ThreadFault (ClientState n) :=
  if s.threads i = .running then
    if polls config env (s.connections i) ∧ s.active = none ∧
        config.polledDatapoints.map ≠ ∅ then
      .error .absentConnection
    else
      match (s.connections i).iteration config env with
      | .ok connection => .ok (s.update i connection)
      | .error fault => .error (.connection fault)
  else .ok s

/-- What happens to a client: a statement of the monitor, an iteration of a connection, or
`m_started = false` in `stop`, `src/tase2_client.cpp:155`. -/
inductive ThreadAction (n : Nat) where
  | monitor (timedOut : Bool)
  | iterate (i : Fin n) (env : IterationEnv)
  | stop

/-- One atomic step of a client and its threads. -/
def threadStep (config : TASE2ClientConfig) (s : ClientState n) :
    ThreadAction n → Except ThreadFault (ClientState n)
  | .monitor timedOut => .ok (s.monitor timedOut)
  | .iterate i env => s.iterate config i env
  | .stop => .ok { s with started := false }

/-- An iteration that returns changes its own connection, if its thread runs. -/
theorem iterate_eq_ok {config : TASE2ClientConfig} {s t : ClientState n} {i : Fin n}
    {env : IterationEnv} (h : s.iterate config i env = .ok t) :
    s.threads i ≠ .running ∧ t = s ∨ s.threads i = .running ∧ ∃ connection,
      (s.connections i).iteration config env = .ok connection ∧ t = s.update i connection := by
  unfold ClientState.iterate at h
  split at h
  · next hrunning =>
    split at h
    · cases h
    · split at h
      · next connection hc =>
        exact .inr ⟨hrunning, connection, hc, (Except.ok.inj h).symm⟩
      · cases h
  · next hstopped => exact .inl ⟨hstopped, (Except.ok.inj h).symm⟩

end

end Tase2South.Failover
