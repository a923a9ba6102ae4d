import Mathlib.Data.Fin.Tuple.Basic
import Tase2South.Failover.Exclusion

/-!
# One pass of the scan

The scan of `_monitoringThread`, `src/tase2_client.cpp:228–268`: entered at the failover test
without a usable active connection, left at the next test of `m_started`. Meanwhile the threads
of the connections and `stop` take their steps in any order.
-/

namespace Tase2South.Failover

open Tase2South.Base Tase2South.Config Tase2South.Connection

variable {n : Nat}

/-! ### What a pass does -/

/-- What the scan does with a connection, and how its wait for it ends. -/
inductive ScanEvent (n : Nat) where
  | connects (i : Fin n)
  | reported (i : Fin n)
  | timedOut (i : Fin n)
  | disconnects (i : Fin n)
  deriving DecidableEq

/-- The event of a step; a wait that goes on is none. -/
def scanEvent (s : ClientState n) : ThreadAction n → List (ScanEvent n)
  | .monitor timedOut =>
    match s.point with
    | .connect i => [.connects i]
    | .awaitConnected i =>
      if (s.connections i).connected then [.reported i]
      else if timedOut then [.timedOut i] else []
    | .disconnect i => [.disconnects i]
    | _ => []
  | _ => []

/-- The events of a run. -/
def scanEvents (config : TASE2ClientConfig) (s : ClientState n)
    (actions : List (ThreadAction n)) : List (ScanEvent n) :=
  trace (threadStep config) (fun s a _ ↦ scanEvent s a) s actions

/-- The statements of the monitor in a run that lead on to another one: all but the waits that go
on. -/
def statements (config : TASE2ClientConfig) (s : ClientState n)
    (actions : List (ThreadAction n)) : List (MonitorPoint n) :=
  trace (threadStep config) (fun s _ t ↦ if t.point = s.point then [] else [s.point]) s actions

/-- Which connections report `Connected ()` in time is as the waits of the run ended. -/
def Assigned (inTime : Fin n → Bool) : ScanEvent n → Prop
  | .reported i => inTime i = true
  | .timedOut i => inTime i = false
  | _ => True

instance (inTime : Fin n → Bool) : DecidablePred (Assigned inTime)
  | .connects _ => inferInstanceAs (Decidable True)
  | .reported i => inferInstanceAs (Decidable (inTime i = true))
  | .timedOut i => inferInstanceAs (Decidable (inTime i = false))
  | .disconnects _ => inferInstanceAs (Decidable True)

/-- The scan of the connections that are left: each is connected, and disconnected after its
timeout, until one reports in time. -/
def scanOf (inTime : Fin n → Bool) : List (Fin n) → List (ScanEvent n)
  | [] => []
  | i :: is =>
    .connects i ::
      if inTime i then [.reported i]
      else .timedOut i :: .disconnects i :: scanOf inTime is

/-- The steps of the run are within one pass: none starts at the test of `m_started`. -/
def WithinPass (config : TASE2ClientConfig) (s : ClientState n)
    (actions : List (ThreadAction n)) : Prop :=
  StepsMeet (threadStep config) (fun u _ ↦ u.point ≠ .loopTest) s actions

/-- What a pass leaves: the first connection in time is the active one; the pass connected the
connections up to it, and disconnected each earlier one after its timeout; every connection but
the active one is at rest; no later one was touched. -/
structure ScanOutcome (s t : ClientState n) (inTime : Fin n → Bool)
    (events : List (ScanEvent n)) : Prop where
  active : t.active = Fin.find? inTime
  events_eq : events = scanOf inTime (List.finRange n)
  resting : ∀ i, t.active ≠ some i →
    (t.connections i).connect = false ∧ (t.connections i).connectionState = .idle ∧
      (t.connections i).connecting = false ∧ (t.connections i).connected = false ∧
        (t.connections i).session.endpoint = none
  untouched : ∀ i j, inTime i = true → i < j → t.connections j = s.connections j

/-- Every pass leaves what it should, whichever connections report in time; and a pass ends: it
has a bounded number of statements apart from waits that go on, and is over when the waits that
are left time out. -/
structure Scans (config : TASE2ClientConfig) (s : ClientState n) : Prop where
  outcome : ∀ actions t inTime, run (threadStep config) s actions = .ok t →
    WithinPass config s actions → t.point = .loopTest →
      (∀ e ∈ scanEvents config s actions, Assigned inTime e) →
        ScanOutcome s t inTime (scanEvents config s actions)
  bounded : ∀ actions, WithinPass config s actions →
    (statements config s actions).length ≤ 6 * n + 1
  ends : ∀ actions u, run (threadStep config) s actions = .ok u → WithinPass config s actions →
    ∃ k ≤ 6 * n + 1, ∃ t, run (threadStep config) u (List.replicate k (.monitor true)) = .ok t ∧
      t.point = .loopTest

/-! ### Where a pass stands -/

/-- The connections below the first number did not report in time; those from the second on are
disabled and as they were. -/
structure Tried (inTime : Fin n → Bool) (before now : Fin n → TASE2ClientConnection)
    (failed touched : Nat) : Prop where
  failed : ∀ j : Fin n, j < failed → inTime j = false
  untouched : ∀ j : Fin n, touched ≤ j → now j = before j
  disabled : ∀ j : Fin n, touched ≤ j → (now j).connect = false

/-- What holds at each statement of a pass that started in a state. -/
def ScanAt (inTime : Fin n → Bool) (s u : ClientState n) : Prop :=
  match u.point with
  | .failoverTest =>
    (u.active.all fun i ↦ disconnected (u.connections i)) = true ∧
      Tried inTime s.connections u.connections 0 0
  | .connect i => Tried inTime s.connections u.connections i i
  | .assign i => Tried inTime s.connections u.connections i (i + 1)
  | .awaitConnected i => u.active = some i ∧ Tried inTime s.connections u.connections i (i + 1)
  | .disconnect i => Tried inTime s.connections u.connections (i + 1) (i + 1)
  | .clear i => Tried inTime s.connections u.connections (i + 1) (i + 1)
  | .activeTest i => u.active = (if inTime i then some i else none) ∧
      Tried inTime s.connections u.connections i (i + 1)
  | .loopTest => u.active = Fin.find? inTime ∧
      ∀ i, u.active = some i → Tried inTime s.connections u.connections i (i + 1)
  | _ => False

/-- The events that are still to come at a statement. -/
def owedEvents (inTime : Fin n → Bool) : MonitorPoint n → List (ScanEvent n)
  | .failoverTest => scanOf inTime (List.finRange n)
  | .connect i => scanOf inTime ((List.finRange n).drop i)
  | .assign i => (scanOf inTime ((List.finRange n).drop i)).tail
  | .awaitConnected i => (scanOf inTime ((List.finRange n).drop i)).tail
  | .disconnect i => .disconnects i :: scanOf inTime ((List.finRange n).drop (i + 1))
  | .clear i => scanOf inTime ((List.finRange n).drop (i + 1))
  | .activeTest i => if inTime i then [] else scanOf inTime ((List.finRange n).drop (i + 1))
  | _ => []

/-- A bound on the statements that are still to come. -/
def MonitorPoint.rank : MonitorPoint n → Nat
  | .failoverTest => 6 * n + 1
  | .connect i => 6 * (n - i)
  | .assign i => 6 * (n - i) - 1
  | .awaitConnected i => 6 * (n - i) - 2
  | .disconnect i => 6 * (n - i) - 3
  | .clear i => 6 * (n - i) - 4
  | .activeTest i => 6 * (n - i) - 5
  | _ => 0

/-- The connection at a place comes next in the list. -/
theorem drop_finRange (i : Fin n) :
    (List.finRange n).drop i = i :: (List.finRange n).drop (i + 1) := by
  have hlength : (i : Nat) < (List.finRange n).length := by
    rw [List.length_finRange]
    exact i.isLt
  rw [List.drop_eq_getElem_cons hlength, List.getElem_finRange]
  rfl

/-- What the scan owes before it tries a connection. -/
theorem scanOf_drop (inTime : Fin n → Bool) (i : Fin n) :
    scanOf inTime ((List.finRange n).drop i) = .connects i ::
      if inTime i then [.reported i]
      else .timedOut i :: .disconnects i :: scanOf inTime ((List.finRange n).drop (i + 1)) := by
  rw [drop_finRange, scanOf]

section

variable {inTime : Fin n → Bool} {s u : ClientState n}

/-- A connection that did not report in time either. -/
theorem Tried.fail {i : Fin n} {touched : Nat}
    (h : Tried inTime s.connections u.connections i touched)
    (hi : inTime i = false) : Tried inTime s.connections u.connections (i + 1) touched where
  failed j hj := by
    rcases Nat.lt_succ_iff_lt_or_eq.mp hj with hlt | heq
    · exact h.failed j hlt
    · rw [Fin.ext heq]
      exact hi
  untouched := h.untouched
  disabled := h.disabled

/-- The connection before the untouched ones may change. -/
theorem Tried.update {i : Fin n} {failed touched : Nat}
    (h : Tried inTime s.connections u.connections failed touched) (hi : touched ≤ i + 1)
    (c : TASE2ClientConnection) :
    Tried inTime s.connections (u.update i c).connections failed (i + 1) where
  failed := h.failed
  untouched j hj := by
    rw [connections_update_of_ne u (fun heq ↦ by subst heq; omega)]
    exact h.untouched j (by omega)
  disabled j hj := by
    rw [connections_update_of_ne u (fun heq ↦ by subst heq; omega)]
    exact h.disabled j (by omega)

/-- An iteration of any connection leaves the untouched ones as they are: they are disabled. -/
theorem Tried.iterate {config : TASE2ClientConfig} {env : IterationEnv} {i : Fin n}
    {c : TASE2ClientConnection} {failed touched : Nat}
    (h : Tried inTime s.connections u.connections failed touched)
    (hc : (u.connections i).iteration config env = .ok c) :
    Tried inTime s.connections (u.update i c).connections failed touched := by
  have hsame : ∀ j : Fin n, touched ≤ j → (u.update i c).connections j = u.connections j := by
    intro j hj
    by_cases heq : j = i
    · subst heq
      rw [TASE2ClientConnection.iteration, h.disabled j hj] at hc
      rw [connections_update_self, ← Except.ok.inj hc]
    · exact connections_update_of_ne u heq c
  refine ⟨h.failed, fun j hj ↦ ?_, fun j hj ↦ ?_⟩
  · rw [hsame j hj]
    exact h.untouched j hj
  · rw [hsame j hj]
    exact h.disabled j hj

/-! ### The steps of a pass -/

/-- An iteration of a connection changes nothing about where the pass stands. -/
theorem scanAt_iterate {config : TASE2ClientConfig} {env : IterationEnv} {i : Fin n}
    {v : ClientState n} (hu : ScanAt inTime s u) (h : u.iterate config i env = .ok v) :
    ScanAt inTime s v ∧ v.point = u.point := by
  rcases iterate_eq_ok h with ⟨-, rfl⟩ | ⟨-, c, hc, rfl⟩
  · exact ⟨hu, rfl⟩
  · refine ⟨?_, rfl⟩
    unfold ScanAt at hu ⊢
    rw [point_update, active_update]
    cases hpoint : u.point with
    | failoverTest =>
      rw [hpoint] at hu
      obtain ⟨htest, htried⟩ := hu
      have hlater := htried.iterate hc
      refine ⟨?_, hlater⟩
      have hsame : (u.update i c).connections = u.connections := by
        funext j
        rw [hlater.untouched j (Nat.zero_le _), htried.untouched j (Nat.zero_le _)]
      rw [hsame]
      exact htest
    | connect j =>
      rw [hpoint] at hu
      exact hu.iterate hc
    | assign j =>
      rw [hpoint] at hu
      exact hu.iterate hc
    | awaitConnected j =>
      rw [hpoint] at hu
      exact ⟨hu.1, hu.2.iterate hc⟩
    | disconnect j =>
      rw [hpoint] at hu
      exact hu.iterate hc
    | clear j =>
      rw [hpoint] at hu
      exact hu.iterate hc
    | activeTest j =>
      rw [hpoint] at hu
      exact ⟨hu.1, hu.2.iterate hc⟩
    | loopTest =>
      rw [hpoint] at hu
      exact ⟨hu.1, fun j hj ↦ (hu.2 j hj).iterate hc⟩
    | _ =>
      rw [hpoint] at hu
      exact hu.elim

/-- A pass goes on with a step: it stands at the next statement, and the events of the step are
what it owed. -/
structure GoesOn (inTime : Fin n → Bool) (s u v : ClientState n) (events : List (ScanEvent n)) :
    Prop where
  scanAt : ScanAt inTime s v
  owed : owedEvents inTime u.point = events ++ owedEvents inTime v.point

private theorem goesOn_failoverTest (hpoint : u.point = .failoverTest) (hu : ScanAt inTime s u)
    (timedOut : Bool) :
    GoesOn inTime s u (u.monitor timedOut) (scanEvent u (.monitor timedOut)) := by
  simp only [ScanAt, hpoint] at hu
  obtain ⟨htest, htried⟩ := hu
  have hnext : (u.monitor timedOut).point = MonitorPoint.first .connect .loopTest := by
    simp only [ClientState.monitor, hpoint, htest, if_true]
  have hframe : (u.monitor timedOut).connections = u.connections ∧
      (u.monitor timedOut).active = u.active := by
    simp only [ClientState.monitor, hpoint, and_self]
  have hkept : Tried inTime s.connections (u.monitor timedOut).connections 0 0 :=
    hframe.1 ▸ htried
  unfold MonitorPoint.first at hnext
  by_cases hn : 0 < n
  · rw [dif_pos hn] at hnext
    constructor
    · simp only [ScanAt, hnext]
      exact hkept
    · rw [hpoint, hnext]
      simp only [owedEvents, scanEvent, hpoint, List.nil_append, List.drop_zero]
  · have hzero : n = 0 := by omega
    subst hzero
    rw [dif_neg hn] at hnext
    constructor
    · simp only [ScanAt, hnext]
      exact ⟨Subsingleton.elim _ _, fun i ↦ i.elim0⟩
    · rw [hpoint, hnext]
      simp only [owedEvents, scanEvent, hpoint, List.nil_append, List.finRange_zero, scanOf]

private theorem goesOn_awaitConnected {i : Fin n} (hpoint : u.point = .awaitConnected i)
    (hu : ScanAt inTime s u) {timedOut : Bool}
    (hassigned : ∀ e ∈ scanEvent u (.monitor timedOut), Assigned inTime e) :
    GoesOn inTime s u (u.monitor timedOut) (scanEvent u (.monitor timedOut)) := by
  simp only [ScanAt, hpoint] at hu
  obtain ⟨hactive, htried⟩ := hu
  simp only [scanEvent, hpoint] at hassigned
  by_cases hconnected : (u.connections i).connected = true
  · rw [if_pos hconnected] at hassigned
    have hi : inTime i = true := hassigned (.reported i) (List.mem_singleton.mpr rfl)
    simp only [ClientState.monitor, scanEvent, hpoint, hconnected, if_true]
    constructor
    · simp only [ScanAt, hi, if_true]
      exact ⟨hactive, htried⟩
    · simp only [owedEvents, hpoint, scanOf_drop, hi, if_true, List.tail_cons, List.append_nil]
  · cases timedOut with
    | true =>
      rw [if_neg hconnected, if_pos rfl] at hassigned
      have hi : inTime i = false := hassigned (.timedOut i) (List.mem_singleton.mpr rfl)
      simp only [ClientState.monitor, scanEvent, hpoint, hconnected, if_true, if_false,
        Bool.false_eq_true]
      constructor
      · exact htried.fail hi
      · simp only [owedEvents, hpoint, scanOf_drop, hi, Bool.false_eq_true, if_false,
          List.tail_cons, List.singleton_append]
    | false =>
      simp only [ClientState.monitor, scanEvent, hpoint, hconnected, if_false,
        Bool.false_eq_true]
      constructor
      · exact ⟨hactive, htried⟩
      · simp only [owedEvents, hpoint, List.nil_append]

/-- The first connection in time. -/
theorem find?_of_tried {i : Fin n} {touched : Nat}
    (h : Tried inTime s.connections u.connections i touched) (hi : inTime i = true) :
    Fin.find? inTime = some i :=
  Fin.find?_eq_some_iff.mpr ⟨hi, fun j hj ↦ h.failed j hj⟩

private theorem goesOn_activeTest {i : Fin n} (hpoint : u.point = .activeTest i)
    (hu : ScanAt inTime s u) (timedOut : Bool) :
    GoesOn inTime s u (u.monitor timedOut) (scanEvent u (.monitor timedOut)) := by
  simp only [ScanAt, hpoint] at hu
  obtain ⟨hactive, htried⟩ := hu
  cases hi : inTime i with
  | true =>
    rw [hi, if_pos rfl] at hactive
    simp only [ClientState.monitor, scanEvent, hpoint, hactive, Option.isSome_some, if_true]
    constructor
    · refine ⟨(find?_of_tried htried hi).symm, fun j hj ↦ ?_⟩
      rw [← Option.some.inj hj]
      exact htried
    · simp only [owedEvents, hpoint, hi, if_true, List.append_nil]
  | false =>
    rw [hi, if_neg Bool.false_ne_true] at hactive
    have hfailed := htried.fail hi
    have hnext : (u.monitor timedOut).point = MonitorPoint.next i .connect .loopTest := by
      simp only [ClientState.monitor, hpoint, hactive, Option.isSome_none, Bool.false_eq_true,
        if_false]
    have hframe : (u.monitor timedOut).connections = u.connections ∧
        (u.monitor timedOut).active = none := by
      simp only [ClientState.monitor, hpoint, hactive, and_self]
    unfold MonitorPoint.next at hnext
    by_cases hlast : i + 1 < n
    · rw [dif_pos hlast] at hnext
      constructor
      · simp only [ScanAt, hnext]
        exact hframe.1 ▸ hfailed
      · rw [hpoint, hnext]
        simp only [owedEvents, scanEvent, hpoint, hi, Bool.false_eq_true, if_false,
          List.nil_append]
    · rw [dif_neg hlast] at hnext
      constructor
      · simp only [ScanAt, hnext, hframe.2]
        refine ⟨(Fin.find?_eq_none_iff.mpr fun j ↦ ?_).symm, fun j hj ↦ by cases hj⟩
        exact hfailed.failed j (by omega)
      · rw [hpoint, hnext]
        have hnil : (List.finRange n).drop (i + 1) = [] := by
          rw [List.drop_eq_nil_iff, List.length_finRange]
          omega
        simp only [owedEvents, scanEvent, hpoint, hi, Bool.false_eq_true, if_false, hnil, scanOf,
          List.append_nil]

/-- Every statement of the monitor goes on with the pass, when its waits end as they are assigned
to. -/
theorem goesOn_monitor (hu : ScanAt inTime s u) (hpass : u.point ≠ .loopTest) {timedOut : Bool}
    (hassigned : ∀ e ∈ scanEvent u (.monitor timedOut), Assigned inTime e) :
    GoesOn inTime s u (u.monitor timedOut) (scanEvent u (.monitor timedOut)) := by
  cases hpoint : u.point with
  | failoverTest => exact goesOn_failoverTest hpoint hu timedOut
  | connect i =>
    simp only [ScanAt, hpoint] at hu
    simp only [ClientState.monitor, scanEvent, hpoint]
    constructor
    · exact hu.update (Nat.le_succ _) { u.connections i with connect := true }
    · simp only [owedEvents, hpoint, scanOf_drop, List.tail_cons, List.singleton_append]
  | assign i =>
    simp only [ScanAt, hpoint] at hu
    simp only [ClientState.monitor, scanEvent, hpoint]
    constructor
    · exact ⟨rfl, hu⟩
    · simp only [owedEvents, hpoint, List.nil_append]
  | awaitConnected i => exact goesOn_awaitConnected hpoint hu hassigned
  | disconnect i =>
    simp only [ScanAt, hpoint] at hu
    simp only [ClientState.monitor, scanEvent, hpoint]
    constructor
    · exact hu.update le_rfl (u.connections i).disconnect
    · simp only [owedEvents, hpoint, List.singleton_append]
  | clear i =>
    simp only [ScanAt, hpoint] at hu
    have hi : inTime i = false := hu.failed i (Nat.lt_succ_self i)
    simp only [ClientState.monitor, scanEvent, hpoint]
    constructor
    · simp only [ScanAt, hi, Bool.false_eq_true, if_false, true_and]
      exact ⟨fun j hj ↦ hu.failed j (by omega), hu.untouched, hu.disabled⟩
    · simp only [owedEvents, hpoint, hi, Bool.false_eq_true, if_false, List.nil_append]
  | activeTest i => exact goesOn_activeTest hpoint hu timedOut
  | loopTest => exact absurd hpoint hpass
  | _ =>
    simp only [ScanAt, hpoint] at hu

/-- Every step within a pass goes on with it. -/
theorem goesOn_step {config : TASE2ClientConfig} {v : ClientState n} {a : ThreadAction n}
    (hu : ScanAt inTime s u) (hpass : u.point ≠ .loopTest) (h : threadStep config u a = .ok v)
    (hassigned : ∀ e ∈ scanEvent u a, Assigned inTime e) :
    GoesOn inTime s u v (scanEvent u a) := by
  cases a with
  | monitor timedOut =>
    rw [← Except.ok.inj h]
    exact goesOn_monitor hu hpass hassigned
  | iterate i env =>
    obtain ⟨hv, hpoint⟩ := scanAt_iterate hu h
    refine ⟨hv, ?_⟩
    rw [hpoint]
    rfl
  | stop =>
    rw [← Except.ok.inj h]
    exact ⟨hu, rfl⟩

end

/-! ### A pass ends -/

/-- The statements of a pass. -/
def MonitorPoint.scanning : MonitorPoint n → Prop
  | .failoverTest => True
  | .connect _ => True
  | .assign _ => True
  | .awaitConnected _ => True
  | .disconnect _ => True
  | .clear _ => True
  | .activeTest _ => True
  | .loopTest => True
  | _ => False

/-- A statement of a pass is followed by another one of lower rank, unless it is a wait that goes
on. -/
theorem rank_monitor {u : ClientState n} (hu : u.point.scanning) (hpass : u.point ≠ .loopTest)
    (timedOut : Bool) :
    (u.monitor timedOut).point.scanning ∧
      ((u.monitor timedOut).point.rank < u.point.rank ∨
        timedOut = false ∧ (u.monitor timedOut).point = u.point) := by
  cases hpoint : u.point with
  | failoverTest =>
    simp only [ClientState.monitor, hpoint, MonitorPoint.first]
    split
    · split
      · exact ⟨trivial, .inl (by simp only [MonitorPoint.rank]; omega)⟩
      · exact ⟨trivial, .inl (by simp only [MonitorPoint.rank]; omega)⟩
    · exact ⟨trivial, .inl (by simp only [MonitorPoint.rank]; omega)⟩
  | connect i =>
    simp only [ClientState.monitor, hpoint]
    exact ⟨trivial, .inl (by simp only [MonitorPoint.rank]; omega)⟩
  | assign i =>
    simp only [ClientState.monitor, hpoint]
    exact ⟨trivial, .inl (by simp only [MonitorPoint.rank]; omega)⟩
  | awaitConnected i =>
    simp only [ClientState.monitor, hpoint]
    split
    · exact ⟨trivial, .inl (by simp only [MonitorPoint.rank]; omega)⟩
    · split
      · exact ⟨trivial, .inl (by simp only [MonitorPoint.rank]; omega)⟩
      · next htime => exact ⟨trivial, .inr ⟨Bool.eq_false_of_not_eq_true htime, rfl⟩⟩
  | disconnect i =>
    simp only [ClientState.monitor, hpoint]
    exact ⟨trivial, .inl (by simp only [MonitorPoint.rank]; omega)⟩
  | clear i =>
    simp only [ClientState.monitor, hpoint]
    exact ⟨trivial, .inl (by simp only [MonitorPoint.rank]; omega)⟩
  | activeTest i =>
    simp only [ClientState.monitor, hpoint, MonitorPoint.next]
    split
    · exact ⟨trivial, .inl (by simp only [MonitorPoint.rank]; omega)⟩
    · split
      · exact ⟨trivial, .inl (by simp only [MonitorPoint.rank]; omega)⟩
      · exact ⟨trivial, .inl (by simp only [MonitorPoint.rank]; omega)⟩
  | loopTest => exact absurd hpoint hpass
  | _ =>
    rw [hpoint] at hu
    exact hu.elim

/-- The other steps leave the monitor where it is. -/
theorem point_of_step {config : TASE2ClientConfig} {u v : ClientState n} {a : ThreadAction n}
    (h : threadStep config u a = .ok v) :
    v.point = u.point ∨ ∃ timedOut, a = .monitor timedOut ∧ v = u.monitor timedOut := by
  cases a with
  | monitor timedOut => exact .inr ⟨timedOut, rfl, (Except.ok.inj h).symm⟩
  | iterate i env =>
    rcases iterate_eq_ok h with ⟨-, rfl⟩ | ⟨-, c, -, rfl⟩
    · exact .inl rfl
    · exact .inl rfl
  | stop => exact .inl (Except.ok.inj h ▸ rfl)

/-- A step within a pass stays in it, and the rank pays for each statement that leads on. -/
theorem rank_step {config : TASE2ClientConfig} {u v : ClientState n} {a : ThreadAction n}
    (hu : u.point.scanning) (hpass : u.point ≠ .loopTest) (h : threadStep config u a = .ok v) :
    v.point.scanning ∧
      (if v.point = u.point then [] else [u.point]).length + v.point.rank ≤ u.point.rank := by
  rcases point_of_step h with hsame | ⟨timedOut, -, rfl⟩
  · rw [hsame, if_pos rfl]
    exact ⟨hu, by simp⟩
  · obtain ⟨hscanning, hless | ⟨-, hsame⟩⟩ := rank_monitor hu hpass timedOut
    · refine ⟨hscanning, ?_⟩
      rw [if_neg fun heq ↦ absurd hless (by rw [heq]; exact lt_irrefl _), List.length_singleton]
      omega
    · rw [hsame, if_pos rfl]
      exact ⟨hu, by simp⟩

/-- When every wait times out, a pass is over after as many statements as its rank allows. -/
theorem exists_end_of_scanning (config : TASE2ClientConfig) {u : ClientState n}
    (hu : u.point.scanning) : ∃ k ≤ u.point.rank, ∃ t,
      run (threadStep config) u (List.replicate k (.monitor true)) = .ok t ∧
        t.point = .loopTest := by
  induction hrank : u.point.rank using Nat.strong_induction_on generalizing u with
  | _ rank ih =>
    by_cases hend : u.point = .loopTest
    · exact ⟨0, Nat.zero_le _, u, rfl, hend⟩
    · obtain ⟨hscanning, hless | ⟨hfalse, -⟩⟩ := rank_monitor hu hend true
      · obtain ⟨k, hk, t, hrun, ht⟩ := ih _ (hrank ▸ hless) hscanning rfl
        refine ⟨k + 1, by omega, t, ?_, ht⟩
        rw [List.replicate_succ]
        exact (run_cons_eq_ok_iff _).mpr ⟨u.monitor true, rfl, hrun⟩
      · cases hfalse

/-! ### Every pass -/

/-- Where a scan starts: at the failover test, with no usable active connection. -/
theorem scanAt_entered {inTime : Fin n → Bool} {s : ClientState n} (hs : ScanInv s)
    (hpoint : s.point = .failoverTest)
    (hunusable : (s.active.all fun i ↦ disconnected (s.connections i)) = true) :
    ScanAt inTime s s := by
  have hsettled : s.point.settled := by rw [hpoint]; trivial
  have hdisabled := hs.disabled_of_disconnected hsettled fun i hi ↦ by
    rw [hi, Option.all_some, disconnected, Bool.and_eq_true, Bool.not_eq_true'] at hunusable
    simpa using hunusable.2
  simp only [ScanAt, hpoint]
  exact ⟨hunusable, fun j hj ↦ absurd hj (Nat.not_lt_zero _), fun _ _ ↦ rfl,
    fun j _ ↦ hdisabled j⟩

/-- What a pass leaves. -/
theorem scanOutcome_of_pass {config : TASE2ClientConfig} {inTime : Fin n → Bool}
    {s t : ClientState n} {actions : List (ThreadAction n)} (hs : ScanInv s)
    (hentered : ScanAt inTime s s) (hpoint : s.point = .failoverTest)
    (hrun : run (threadStep config) s actions = .ok t) (hpass : WithinPass config s actions)
    (hover : t.point = .loopTest)
    (hassigned : ∀ e ∈ scanEvents config s actions, Assigned inTime e) :
    ScanOutcome s t inTime (scanEvents config s actions) := by
  have hend : ScanAt inTime s t ∧ owedEvents inTime s.point =
      scanEvents config s actions ++ owedEvents inTime t.point := by
    refine trace_of_owed (threadStep config) _ (ScanAt inTime s)
      (fun u ↦ owedEvents inTime u.point) (fun u a v hu hwithin h hlabel ↦ ?_) hentered hpass hrun
      hassigned
    have hgoes := goesOn_step hu hwithin h hlabel
    exact ⟨hgoes.scanAt, hgoes.owed⟩
  have hinv : ScanInv t :=
    run_invariant (threadStep config) (fun _ _ _ hu h ↦ scanInv_step hu h) hs hrun
  obtain ⟨hat, howed⟩ := hend
  simp only [ScanAt, hover] at hat
  obtain ⟨hactive, htried⟩ := hat
  have hexclusive := hinv.exclusive (by rw [hover]; trivial)
  constructor
  · exact hactive
  · rw [hpoint, hover] at howed
    simp only [owedEvents, List.append_nil] at howed
    exact howed.symm
  · intro i hi
    have hdisabled : (t.connections i).connect = false := by
      rw [Bool.eq_false_iff]
      intro hconnect
      refine hi ((candidate_of_settled ?_).symm.trans (hinv.only i hconnect))
      rw [hover]
      trivial
    exact ⟨hdisabled, hexclusive.resting i hdisabled⟩
  · intro i j hi hj
    obtain ⟨k, hk⟩ := Option.isSome_iff_exists.mp (Fin.isSome_find?_of_eq_true hi)
    have hki : k ≤ i := by
      by_contra hlt
      have hfalse := (Fin.find?_eq_some_iff.mp hk).2 i (by omega)
      rw [hi] at hfalse
      cases hfalse
    exact (htried k (hactive.trans hk)).untouched j (by omega)

/-- From every reachable state in which the scan starts, every pass leaves the first connection
that reports in time as the active one, with the earlier ones disconnected and the later ones
untouched; and every pass ends. -/
theorem scans_of_reachable {config : TASE2ClientConfig} {params : Fin n → ConnectionParams}
    {earlier : List (ThreadAction n)} {s : ClientState n}
    (hreach : run (threadStep config) (.new params) earlier = .ok s)
    (hpoint : s.point = .failoverTest)
    (hunusable : (s.active.all fun i ↦ disconnected (s.connections i)) = true) :
    Scans config s := by
  have hs : ScanInv s :=
    run_invariant (threadStep config) (fun _ _ _ hu h ↦ scanInv_step hu h) (scanInv_new params)
      hreach
  have hscanning : s.point.scanning := by rw [hpoint]; trivial
  have hrank : s.point.rank = 6 * n + 1 := by rw [hpoint]; rfl
  constructor
  · intro actions t inTime hrun hpass hover hassigned
    exact scanOutcome_of_pass hs (scanAt_entered hs hpoint hunusable) hpoint hrun hpass hover
      hassigned
  · intro actions hpass
    rw [← hrank]
    exact length_trace_le (threadStep config) _ (fun u ↦ u.point.scanning) (fun u ↦ u.point.rank)
      (fun _ _ _ hu hwithin h ↦ rank_step hu hwithin h) hscanning hpass
  · intro actions u hrun hpass
    have hkeep : ∀ (v : ClientState n) a w, v.point.scanning ∧ v.point.rank ≤ 6 * n + 1 →
        v.point ≠ .loopTest → threadStep config v a = .ok w →
          w.point.scanning ∧ w.point.rank ≤ 6 * n + 1 := by
      intro v a w hv hwithin h
      obtain ⟨hnext, hpaid⟩ := rank_step hv.1 hwithin h
      exact ⟨hnext, by omega⟩
    have hu := run_invariant_of_stepsMeet (threadStep config) hkeep ⟨hscanning, hrank.le⟩ hpass
      hrun
    obtain ⟨k, hk, t, hend, hover⟩ := exists_end_of_scanning config hu.1
    exact ⟨k, hk.trans hu.2, t, hend, hover⟩

/-- Two connections, and the monitor at its first failover test. -/
def enteringRun : List (ThreadAction 2) :=
  [.monitor false, .monitor false, .monitor false, .monitor false]

/-- The first connection times out, and the second one is established in time. -/
def backupRun : List (ThreadAction 2) :=
  [.monitor false, .monitor false, .monitor false, .monitor false, .monitor true, .monitor false,
    .monitor false, .monitor false, .monitor false, .monitor false, .iterate 1 (.plain 0 false),
    .iterate 1 (.plain 50 true), .monitor false, .monitor false]

/-- The first scan over two connections makes the backup active, which alone reports in time. -/
theorem scans_of_reachable_two : ∃ s t,
    run (threadStep .fresh) (.new fun _ ↦ loopback) enteringRun = .ok s ∧
      run (threadStep .fresh) s backupRun = .ok t ∧
        ScanOutcome s t (fun i ↦ i == 1) (scanEvents .fresh s backupRun) := by
  refine ⟨_, _, rfl, rfl, ?_⟩
  have hscans := @scans_of_reachable _ .fresh (fun _ ↦ loopback) enteringRun _ rfl rfl rfl
  refine hscans.outcome backupRun _ _ rfl ?_ rfl ?_
  · unfold WithinPass backupRun
    iterate 14 refine (stepsMeet_cons_iff _ rfl).mpr ⟨by decide, ?_⟩
    trivial
  · decide

end Tase2South.Failover
