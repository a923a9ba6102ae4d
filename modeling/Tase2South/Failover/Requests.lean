import Tase2South.Client.Commands
import Tase2South.Connection.ClientHandle
import Tase2South.Failover.Polling

/-!
# Requests over the active connection

An operation may arrive in any state of the threads, `src/tase2_client.cpp:287–378`. It goes
through `m_tase2client` of the active connection
(`src/tase2_client_connection.cpp:729–771`), and the only test is that there is one.
-/

namespace Tase2South.Failover

open Tase2South.Base Tase2South.Config Tase2South.Connection Tase2South.Client

/-! ### Operations -/

/-- The operations of `TASE2Client` that control the server. -/
inductive ControlOperation (F : Type) where
  | command (domain name : String) (value : Int) (select : Bool)
  | setPointReal (domain name : String) (value : F) (select : Bool)
  | setPointDiscrete (domain name : String) (value : Int) (select : Bool)

/-- The point that an operation is for. -/
def ControlOperation.point {F : Type} : ControlOperation F → String × String
  | .command domain name _ _ => (domain, name)
  | .setPointReal domain name _ _ => (domain, name)
  | .setPointDiscrete domain name _ _ => (domain, name)

section

variable {PV F : Type} (lib : PointLib PV F)

/-- An operation performed by the function of the client for its kind. -/
def perform (client : TASE2Client PV F) (now : Nat) :
    ControlOperation F → Except ClientFault (Bool × List (ClientEvent PV F))
  | .command domain name value select => client.sendCommand lib now domain name value select
  | .setPointReal domain name value select =>
    client.sendSetPointReal lib now domain name value select
  | .setPointDiscrete domain name value select =>
    client.sendSetPointDiscrete lib now domain name value select

/-- Each control operation sends one request for its point. -/
theorem perform_eq (client : TASE2Client PV F) (now : Nat) (op : ControlOperation F) :
    ∃ request created,
      perform lib client now op =
        client.sendControl lib now op.point.1 op.point.2 request created := by
  cases op with
  | command domain name value select => exact ⟨_, _, rfl⟩
  | setPointReal domain name value select => exact ⟨_, _, rfl⟩
  | setPointDiscrete domain name value select => exact ⟨_, _, rfl⟩

end

/-! ### The handle behind the active connection -/

variable {n : Nat}

/-- The client as its calls see it, with what the library answers over each connection. -/
def ClientState.view {PV F : Type} (s : ClientState n) (config : TASE2ClientConfig)
    (registered : Bool) (answers : Fin n → ActiveConnection PV F) : TASE2Client PV F where
  config := config
  registered := registered
  active := s.active.map answers

/-- The connection exists, and its client was created and has not been destroyed. -/
def LiveHandle (s : ClientState n) (i : Fin n) : Prop :=
  s.threads i ≠ .deleted ∧ HoldsLiveClient (s.connections i)

/-- A request is passed on only through a live handle, and while the active connection has
none, the operation returns false. -/
structure Guarded {PV F : Type} (s : ClientState n)
    (outcome : Except ClientFault (Bool × List (ClientEvent PV F))) : Prop where
  live : ∀ result events, outcome = .ok (result, events) → requests events ≠ [] →
    ∃ i, s.active = some i ∧ LiveHandle s i
  refused : ∀ i, s.active = some i → ¬ LiveHandle s i → ∃ events, outcome = .ok (false, events)

/-- The connection exists and is past its preparation: connecting or connected, or failed with
its client created. -/
def PastPreparation (s : ClientState n) (i : Fin n) : Prop :=
  s.threads i ≠ .deleted ∧
    ((s.connections i).connectionState = .connecting ∨
      (s.connections i).connectionState = .connected ∨
      (s.connections i).connectionState = .fatalError ∧
        (s.connections i).session.tase2client.isSome)

/-- The invariant of the scan, with the life of the clients. -/
structure HandleInv (s : ClientState n) : Prop where
  scan : ScanInv s
  clients : ∀ i, s.threads i ≠ .deleted → ClientInv (s.connections i).session

/-- The handle of a connection is live exactly when the connection is past its preparation. -/
theorem HandleInv.liveHandle_iff {s : ClientState n} (hs : HandleInv s) (i : Fin n) :
    LiveHandle s i ↔ PastPreparation s i := by
  apply and_congr_right
  intro hexists
  have hphase := hs.scan.phases i hexists
  rw [holdsLiveClient_iff (hs.clients i hexists)]
  cases hstate : (s.connections i).connectionState with
  | idle => simp [hphase.clientless (hphase.released hstate)]
  | connecting => simp [(hphase.ready (.inl hstate)).2]
  | connected => simp [(hphase.ready (.inr hstate)).2]
  | closed => exact absurd hstate hphase.entered.1
  | waitForReconnect => exact absurd hstate hphase.entered.2
  | fatalError => simp

/-! ### Every step -/

/-- A client that was just started satisfies the invariant. -/
theorem handleInv_new (params : Fin n → ConnectionParams) : HandleInv (.new params) where
  scan := scanInv_new params
  clients i _ := clientInv_new (params i)

/-- A step of one connection keeps the invariant of the clients of all. -/
theorem clients_update (config : TASE2ClientConfig) {s : ClientState n} (hs : HandleInv s)
    {i : Fin n} (hi : s.threads i ≠ .deleted) (a : Action) {c : TASE2ClientConnection}
    (h : step config (s.connections i) a = .ok c) (j : Fin n) (hj : s.threads j ≠ .deleted) :
    ClientInv ((s.update i c).connections j).session := by
  by_cases hji : j = i
  · subst hji
    rw [connections_update_self]
    exact clientInv_step (hs.scan.phases j hj) (hs.clients j hj) h
  · rw [connections_update_of_ne s hji]
    exact hs.clients j hj

/-- Every step keeps the invariant. -/
theorem handleInv_step {config : TASE2ClientConfig} {s t : ClientState n} {a : ThreadAction n}
    (hs : HandleInv s) (h : threadStep config s a = .ok t) : HandleInv t := by
  refine ⟨scanInv_step hs.scan h, ?_⟩
  cases a with
  | stop =>
    rw [← Except.ok.inj h]
    exact hs.clients
  | iterate i env =>
    rcases iterate_eq_ok h with ⟨-, rfl⟩ | ⟨hrunning, c, hc, rfl⟩
    · exact hs.clients
    · have hexists : s.threads i ≠ .deleted := by simp [hrunning]
      exact clients_update config hs hexists (.iterate env) hc
  | monitor timedOut =>
    rw [← Except.ok.inj h]
    cases hpoint : s.point with
    | start i =>
      have hbefore : s.point.beforeTeardown := by rw [hpoint]; trivial
      simp only [ClientState.monitor, hpoint]
      exact fun j _ ↦ hs.clients j (hs.scan.whole hbefore j)
    | connect i =>
      have hbefore : s.point.beforeTeardown := by rw [hpoint]; trivial
      simp only [ClientState.monitor, hpoint]
      exact clients_update config hs (hs.scan.whole hbefore i) .connect rfl
    | disconnect i =>
      have hbefore : s.point.beforeTeardown := by rw [hpoint]; trivial
      simp only [ClientState.monitor, hpoint]
      exact clients_update config hs (hs.scan.whole hbefore i) .disconnect rfl
    | delete i =>
      simp only [ClientState.monitor, hpoint]
      intro j hj
      by_cases hji : j = i
      · subst hji
        exact absurd (Function.update_self ..) hj
      · rw [show (s.delete i).connections j = _ from connections_update_of_ne s hji _]
        exact hs.clients j (by simpa [ClientState.delete, hji] using hj)
    | _ =>
      simp only [ClientState.monitor, hpoint]
      exact hs.clients

/-- An operation is guarded exactly when its point is not exchanged, there is no active
connection, or that is past its preparation. -/
theorem guarded_perform_iff {PV F : Type} (lib : PointLib PV F) (config : TASE2ClientConfig)
    {s : ClientState n} (hs : HandleInv s) (registered : Bool)
    (answers : Fin n → ActiveConnection PV F) (now : Nat) (op : ControlOperation F) :
    Guarded s (perform lib (s.view config registered answers) now op) ↔
      config.getExchangeDefinitionByRef (op.point.1 ++ ":" ++ op.point.2) = none ∨
        s.active = none ∨ ∃ i, s.active = some i ∧ PastPreparation s i := by
  obtain ⟨request, created, hop⟩ := perform_eq lib (s.view config registered answers) now op
  by_cases hthrough : (s.view config registered answers).GetsThrough op.point.1 op.point.2
  · obtain ⟨connection, events, -, hsend, hrequests⟩ :=
      sendControl_of_getsThrough lib now request created hthrough
    rw [hsend] at hop
    obtain ⟨hdefined, hactive⟩ := hthrough
    obtain ⟨i, hi⟩ : ∃ i, s.active = some i := by
      rw [ClientState.view, Option.isSome_map] at hactive
      exact Option.isSome_iff_exists.mp hactive
    have hexchanged : config.getExchangeDefinitionByRef (op.point.1 ++ ":" ++ op.point.2) ≠ none :=
      Option.isSome_iff_ne_none.mp hdefined
    simp only [hexchanged, hi, false_or, reduceCtorEq, Option.some.injEq, exists_eq_left']
    rw [← hs.liveHandle_iff i]
    constructor
    · intro h
      obtain ⟨j, hj, hlive⟩ := h.live _ _ hop (by simp [hrequests])
      rw [Option.some.inj (hi.symm.trans hj)]
      exact hlive
    · intro hlive
      refine ⟨fun _ _ _ _ ↦ ⟨i, hi, hlive⟩, fun j hj hdead ↦ ?_⟩
      rw [Option.some.inj (hi.symm.trans hj)] at hlive
      exact absurd hlive hdead
  · rw [sendControl_of_not_getsThrough lib now request created hthrough] at hop
    refine iff_of_true ⟨fun result events h hne ↦ ?_, fun _ _ _ ↦ ⟨[], hop⟩⟩ ?_
    · rw [hop] at h
      cases h
      exact absurd rfl hne
    · by_contra hnone
      rw [not_or, not_or] at hnone
      refine hthrough ⟨Option.isSome_iff_ne_none.mpr hnone.1, ?_⟩
      rw [ClientState.view, Option.isSome_map]
      exact Option.isSome_iff_ne_none.mpr hnone.2.1

/-- In every state that a run reaches, and for every operation that arrives there, requests pass
through a live handle only, exactly when the point is not exchanged, there is no active
connection, or that is past its preparation. -/
theorem always_guarded_iff {PV F : Type} (lib : PointLib PV F) (config : TASE2ClientConfig)
    (params : Fin n → ConnectionParams) (actions : List (ThreadAction n)) :
    Always (threadStep config) (fun s ↦ ∀ (registered : Bool)
        (answers : Fin n → ActiveConnection PV F) (now : Nat) (op : ControlOperation F),
      Guarded s (perform lib (s.view config registered answers) now op) ↔
        config.getExchangeDefinitionByRef (op.point.1 ++ ":" ++ op.point.2) = none ∨
          s.active = none ∨ ∃ i, s.active = some i ∧ PastPreparation s i)
      (.new params) actions :=
  always_of_stepsMeet (threadStep config)
    (fun _ hs registered answers now op ↦
      guarded_perform_iff lib config hs registered answers now op)
    (fun _ _ _ hs _ h ↦ handleInv_step hs h) (handleInv_new params)
    (stepsMeet_true (threadStep config) _ actions)

/-! ### An operation that comes before the preparation -/

/-- The only connection has just been made the active one: a command is passed on through a
client that was never created. -/
theorem not_guarded_unprepared :
    ∃ s, run (threadStep onePointConfig) (.new fun _ ↦ loopback)
        (enablingRun ++ [.monitor false]) = .ok s ∧
      ¬ Guarded s (perform .tagged (s.view onePointConfig true fun _ ↦
        ⟨fun _ _ ↦ none, fun _ ↦ true⟩) 0 (.command "icc1" "point1" 1 false)) := by
  have hrun : run (threadStep onePointConfig) (.new fun _ ↦ loopback)
    (enablingRun ++ [.monitor false]) = .ok _ := rfl
  have hs := run_invariant (threadStep onePointConfig) (fun _ _ _ hs h ↦ handleInv_step hs h)
    (handleInv_new fun _ ↦ loopback) hrun
  refine ⟨_, hrun, fun h ↦ ?_⟩
  rcases (guarded_perform_iff .tagged onePointConfig hs _ _ _ _).mp h with
    hnone | hnone | ⟨i, hi, -, hstate⟩
  · exact absurd hnone (by decide)
  · cases hnone
  · cases hi
    rcases hstate with hstate | hstate | ⟨hstate, -⟩ <;> cases hstate

end Tase2South.Failover
