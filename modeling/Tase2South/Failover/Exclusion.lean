import Tase2South.Base.Run
import Tase2South.Failover.MonitoringThread

/-!
# At most one connection is enabled

Mutual exclusion of the redundant connections, `src/tase2_client.cpp:224–276`. The monitor
enables a connection without a look at the others; that they are disabled follows from where it
stands in its scan, and from the flags that a connection keeps while it reconnects.
-/

namespace Tase2South.Failover

open Tase2South.Base Tase2South.Config Tase2South.Connection

variable {n : Nat}

/-- At most one connection has `m_connect` set, and one without it is in `CON_STATE_IDLE` with
both flags false and without an endpoint. -/
structure Exclusive (s : ClientState n) : Prop where
  atMostOne : ∀ i j, (s.connections i).connect = true → (s.connections j).connect = true → i = j
  resting : ∀ i, (s.connections i).connect = false →
    (s.connections i).connectionState = .idle ∧ (s.connections i).connecting = false ∧
      (s.connections i).connected = false ∧ (s.connections i).session.endpoint = none

/-- The monitor is in its loop, or has not reached it yet. -/
def MonitorPoint.beforeTeardown : MonitorPoint n → Prop
  | .delete _ => False
  | .ended => False
  | _ => True

/-! ### The invariant -/

/-- The connection that may have `m_connect` set: the one the monitor tries, or else the active
one. -/
def ClientState.candidate (s : ClientState n) : Option (Fin n) :=
  match s.point with
  | .connect _ => none
  | .assign i => some i
  | .awaitConnected i => some i
  | .disconnect i => some i
  | .clear _ => none
  | _ => s.active

/-- The monitor is not trying a connection. -/
def MonitorPoint.settled : MonitorPoint n → Prop
  | .connect _ => False
  | .assign _ => False
  | .awaitConnected _ => False
  | .disconnect _ => False
  | .clear _ => False
  | _ => True

section

variable {body : Fin n → MonitorPoint n} {done : MonitorPoint n}

/-- A loop that starts over the connections stays within what its body and its end have. -/
theorem MonitorPoint.settled_first (hbody : ∀ i, (body i).settled) (hdone : done.settled) :
    (MonitorPoint.first body done).settled :=
  MonitorPoint.first_induction (P := MonitorPoint.settled) hbody hdone

/-- A loop that goes on over the connections stays within what its body and its end have. -/
theorem MonitorPoint.settled_next {i : Fin n} (hbody : ∀ j, (body j).settled)
    (hdone : done.settled) : (MonitorPoint.next i body done).settled :=
  MonitorPoint.next_induction (P := MonitorPoint.settled) hbody hdone

/-- A loop that starts over the connections is before the teardown if its body and its end are. -/
theorem MonitorPoint.beforeTeardown_first (hbody : ∀ i, (body i).beforeTeardown)
    (hdone : done.beforeTeardown) : (MonitorPoint.first body done).beforeTeardown :=
  MonitorPoint.first_induction (P := MonitorPoint.beforeTeardown) hbody hdone

/-- A loop that goes on over the connections is before the teardown if its body and its end are. -/
theorem MonitorPoint.beforeTeardown_next {i : Fin n} (hbody : ∀ j, (body j).beforeTeardown)
    (hdone : done.beforeTeardown) : (MonitorPoint.next i body done).beforeTeardown :=
  MonitorPoint.next_induction (P := MonitorPoint.beforeTeardown) hbody hdone

end

/-- What holds of the connections and of `m_active_connection` at each statement of the
monitor. -/
structure ScanInv (s : ClientState n) : Prop where
  phases : ∀ i, s.threads i ≠ .deleted → PhaseInv (s.connections i)
  whole : s.point.beforeTeardown → ∀ i, s.threads i ≠ .deleted
  only : ∀ i, (s.connections i).connect = true → s.candidate = some i
  awaited : ∀ i, s.point = .awaitConnected i ∨ s.point = .disconnect i → s.active = some i
  linked : s.point.settled → ∀ i, s.active = some i → (s.connections i).connect = true →
    (s.connections i).connected = true

/-- The invariant gives the exclusion until the loop of the monitor ends. -/
theorem ScanInv.exclusive {s : ClientState n} (h : ScanInv s) (hloop : s.point.beforeTeardown) :
    Exclusive s where
  atMostOne i j hi hj := Option.some.inj ((h.only i hi).symm.trans (h.only j hj))
  resting i hi := by
    have hphase := h.phases i (h.whole hloop i)
    obtain ⟨hstate, hconnecting, hconnected⟩ := hphase.resting hi
    exact ⟨hstate, hconnecting, hconnected, hphase.released hstate⟩

/-- A client that was just started satisfies the invariant. -/
theorem scanInv_new (params : Fin n → ConnectionParams) : ScanInv (.new params) where
  phases i _ := phaseInv_new (params i)
  whole _ i := by simp [ClientState.new]
  only i hi := by cases hi
  awaited i h := by rcases h with h | h <;> cases h
  linked _ i hi := by cases hi

/-! ### Steps of the connections -/

private theorem phases_update {s : ClientState n} {P : TASE2ClientConnection → Prop}
    (hs : ∀ j, s.threads j ≠ .deleted → P (s.connections j)) {i : Fin n}
    {c : TASE2ClientConnection} (hc : P c) (j : Fin n) (hj : s.threads j ≠ .deleted) :
    P ((s.update i c).connections j) := by
  by_cases h : j = i
  · subst h
    rw [connections_update_self]
    exact hc
  · rw [connections_update_of_ne s h]
    exact hs j hj

/-- Changing one connection so that the invariant holds of it keeps the invariant. -/
theorem ScanInv.update {s : ClientState n} (hs : ScanInv s) {i : Fin n}
    {c : TASE2ClientConnection} (hphase : PhaseInv c)
    (hconnect : c.connect = true → (s.connections i).connect = true ∧
      ((s.connections i).connected = true → c.connected = true)) : ScanInv (s.update i c) where
  phases := phases_update hs.phases hphase
  whole := hs.whole
  only j hj := by
    show s.candidate = some j
    by_cases h : j = i
    · subst h
      rw [connections_update_self] at hj
      exact hs.only j (hconnect hj).1
    · rw [connections_update_of_ne s h] at hj
      exact hs.only j hj
  awaited := hs.awaited
  linked hsettled j hactive hj := by
    by_cases h : j = i
    · subst h
      rw [connections_update_self] at hj ⊢
      obtain ⟨hc, hkeep⟩ := hconnect hj
      exact hkeep (hs.linked hsettled j hactive hc)
    · rw [connections_update_of_ne s h] at hj ⊢
      exact hs.linked hsettled j hactive hj

/-- Every iteration of a connection keeps the invariant. -/
theorem scanInv_iterate {config : TASE2ClientConfig} {s t : ClientState n} {i : Fin n}
    {env : IterationEnv} (hs : ScanInv s) (h : s.iterate config i env = .ok t) : ScanInv t := by
  rcases iterate_eq_ok h with ⟨-, rfl⟩ | ⟨hrunning, c, hc, rfl⟩
  · exact hs
  · have hphase := hs.phases i (by simp [hrunning])
    exact hs.update (phaseInv_iteration hphase hc) (connected_of_iteration hphase hc)

/-! ### Steps of the monitor -/

/-- Between statements at which the monitor tries nothing, the active connection is the one that
may be enabled. -/
theorem candidate_of_settled {s : ClientState n} (h : s.point.settled) :
    s.candidate = s.active := by
  unfold ClientState.candidate
  cases hpoint : s.point <;> rw [hpoint] at h <;> first | rfl | exact h.elim

/-- The monitor moves between statements at which it tries nothing. -/
theorem ScanInv.rest {s : ClientState n} (hs : ScanInv s) {point : MonitorPoint n}
    (hfrom : s.point.settled) (hto : point.settled)
    (hwhole : point.beforeTeardown → s.point.beforeTeardown) :
    ScanInv { s with point := point } where
  phases := hs.phases
  whole h := hs.whole (hwhole h)
  only i hi := by
    rw [candidate_of_settled (s := { s with point := point }) hto]
    exact (candidate_of_settled hfrom).symm.trans (hs.only i hi)
  awaited i h := by rcases h with rfl | rfl <;> exact hto.elim
  linked _ := hs.linked hfrom

/-- While no connection is enabled, the monitor may stand anywhere but at its wait. -/
theorem scanInv_of_disabled {s : ClientState n} (hphases : ∀ i, PhaseInv (s.connections i))
    (hwhole : ∀ i, s.threads i ≠ .deleted) (hnone : ∀ i, (s.connections i).connect = false)
    (hpoint : ∀ i, s.point ≠ .awaitConnected i ∧ s.point ≠ .disconnect i) : ScanInv s where
  phases i _ := hphases i
  whole _ := hwhole
  only i hi := by simp [hnone i] at hi
  awaited i h := by rcases h with h | h <;> simp [h] at hpoint
  linked _ i _ hi := by simp [hnone i] at hi

/-- In a settled state without an active connection that links, none is enabled. -/
theorem ScanInv.disabled_of_disconnected {s : ClientState n} (hs : ScanInv s)
    (hsettled : s.point.settled)
    (h : ∀ i, s.active = some i → (s.connections i).connected = false) (i : Fin n) :
    (s.connections i).connect = false := by
  cases hc : (s.connections i).connect with
  | false => rfl
  | true =>
    have hactive := (candidate_of_settled hsettled).symm.trans (hs.only i hc)
    have hlinked := hs.linked hsettled i hactive hc
    rw [h i hactive] at hlinked
    cases hlinked

/-- Deleting a connection keeps the invariant once the monitor has left its loop. -/
theorem scanInv_delete {s : ClientState n} (hs : ScanInv s) (hloop : ¬ s.point.beforeTeardown)
    (hsettled : s.point.settled) (i : Fin n) : ScanInv (s.delete i) := by
  have hflags : ∀ j, ((s.delete i).connections j).connect = (s.connections j).connect ∧
      ((s.delete i).connections j).connected = (s.connections j).connected := by
    intro j
    by_cases h : j = i
    · subst h
      rw [show (s.delete j).connections j = _ from connections_update_self s j _]
      split <;> exact ⟨rfl, rfl⟩
    · rw [show (s.delete i).connections j = _ from connections_update_of_ne s h _]
      exact ⟨rfl, rfl⟩
  constructor
  · intro j hj
    by_cases h : j = i
    · subst h
      exact absurd (Function.update_self ..) hj
    · rw [show (s.delete i).connections j = _ from connections_update_of_ne s h _]
      exact hs.phases j (by simpa [ClientState.delete, h] using hj)
  · exact fun h ↦ absurd h hloop
  · intro j hj
    rw [(hflags j).1] at hj
    exact hs.only j hj
  · exact hs.awaited
  · intro _ j hactive hj
    rw [(hflags j).1] at hj
    rw [(hflags j).2]
    exact hs.linked hsettled j hactive hj

private theorem scanInv_start {s : ClientState n} (hs : ScanInv s) {i : Fin n}
    (hpoint : s.point = .start i) (timedOut : Bool) : ScanInv (s.monitor timedOut) := by
  have hsettled : s.point.settled := by rw [hpoint]; trivial
  have hbefore : s.point.beforeTeardown := by rw [hpoint]; trivial
  simp only [ClientState.monitor, hpoint]
  have hstarted : ScanInv { s with threads := Function.update s.threads i .running } :=
    { phases := fun j _ ↦ hs.phases j (hs.whole hbefore j)
      whole := fun _ j ↦ by
        by_cases h : j = i
        · subst h
          simp
        · simpa [h] using hs.whole hbefore j
      only := hs.only
      awaited := hs.awaited
      linked := hs.linked }
  refine hstarted.rest hsettled ?_ fun _ ↦ hbefore
  exact MonitorPoint.settled_next (fun _ ↦ trivial) trivial

private theorem scanInv_failoverTest {s : ClientState n} (hs : ScanInv s)
    (hpoint : s.point = .failoverTest) (timedOut : Bool) : ScanInv (s.monitor timedOut) := by
  have hsettled : s.point.settled := by rw [hpoint]; trivial
  have hbefore : s.point.beforeTeardown := by rw [hpoint]; trivial
  simp only [ClientState.monitor, hpoint]
  split
  · next htest =>
    -- the failover test is what makes the scan start with all connections disabled
    have hnone := hs.disabled_of_disconnected hsettled fun i hi ↦ by
      simp [hi, disconnected] at htest
      exact htest.2
    refine scanInv_of_disabled (fun i ↦ hs.phases i (hs.whole hbefore i)) (hs.whole hbefore)
      hnone ?_
    exact MonitorPoint.first_induction
      (P := fun point ↦ ∀ i, point ≠ .awaitConnected i ∧ point ≠ .disconnect i)
      (fun _ _ ↦ by simp) fun _ ↦ by simp
  · exact hs.rest hsettled trivial fun _ ↦ hbefore

private theorem scanInv_connect {s : ClientState n} (hs : ScanInv s) {i : Fin n}
    (hpoint : s.point = .connect i) (timedOut : Bool) : ScanInv (s.monitor timedOut) := by
  have hbefore : s.point.beforeTeardown := by rw [hpoint]; trivial
  have hnone : ∀ j, (s.connections j).connect ≠ true := fun j hj ↦ by
    have hcandidate := hs.only j hj
    simp [ClientState.candidate, hpoint] at hcandidate
  simp only [ClientState.monitor, hpoint]
  constructor
  · exact phases_update hs.phases (phaseInv_connect (hs.phases i (hs.whole hbefore i)))
  · exact fun _ ↦ hs.whole hbefore
  · intro j hj
    by_cases h : j = i
    · exact congrArg some h.symm
    · rw [show _ = s.connections j from connections_update_of_ne s h _] at hj
      exact absurd hj (hnone j)
  · intro j h
    rcases h with h | h <;> cases h
  · exact fun h ↦ h.elim

private theorem scanInv_assign {s : ClientState n} (hs : ScanInv s) {i : Fin n}
    (hpoint : s.point = .assign i) (timedOut : Bool) : ScanInv (s.monitor timedOut) := by
  have hbefore : s.point.beforeTeardown := by rw [hpoint]; trivial
  have hcandidate : s.candidate = some i := by simp [ClientState.candidate, hpoint]
  simp only [ClientState.monitor, hpoint]
  constructor
  · exact hs.phases
  · exact fun _ ↦ hs.whole hbefore
  · intro j hj
    exact hcandidate.symm.trans (hs.only j hj)
  · intro j h
    rcases h with h | h
    · cases h
      rfl
    · cases h
  · exact fun h ↦ h.elim

/-- From its wait the monitor moves on with the connection it waits for. -/
theorem ScanInv.moveOn {s : ClientState n} (hs : ScanInv s) {i : Fin n}
    (hpoint : s.point = .awaitConnected i) (point : MonitorPoint n)
    (hcandidate : ({ s with point := point } : ClientState n).candidate = some i)
    (hwait : ∀ j, point = .awaitConnected j ∨ point = .disconnect j → j = i)
    (hlinked : point.settled → (s.connections i).connected = true) :
    ScanInv { s with point := point } := by
  have hbefore : s.point.beforeTeardown := by rw [hpoint]; trivial
  have hactive := hs.awaited i (.inl hpoint)
  have hfrom : s.candidate = some i := by simp [ClientState.candidate, hpoint]
  constructor
  · exact hs.phases
  · exact fun _ ↦ hs.whole hbefore
  · intro j hj
    exact hcandidate.trans (hfrom.symm.trans (hs.only j hj))
  · intro j h
    rw [hwait j h]
    exact hactive
  · intro hsettled j hj _
    rw [show j = i from Option.some.inj (hj.symm.trans hactive)]
    exact hlinked hsettled

private theorem scanInv_awaitConnected {s : ClientState n} (hs : ScanInv s) {i : Fin n}
    (hpoint : s.point = .awaitConnected i) (timedOut : Bool) : ScanInv (s.monitor timedOut) := by
  simp only [ClientState.monitor, hpoint]
  split
  · next hconnected =>
    apply hs.moveOn hpoint (.activeTest i) (hs.awaited i (.inl hpoint)) _ fun _ ↦ hconnected
    intro j h
    rcases h with h | h <;> cases h
  · split
    · apply hs.moveOn hpoint (.disconnect i) rfl _ fun h ↦ h.elim
      intro j h
      rcases h with h | h
      · cases h
      · cases h
        rfl
    · apply hs.moveOn hpoint (.awaitConnected i) rfl _ fun h ↦ h.elim
      intro j h
      rcases h with h | h
      · cases h
        rfl
      · cases h

private theorem scanInv_disconnect {s : ClientState n} (hs : ScanInv s) {i : Fin n}
    (hpoint : s.point = .disconnect i) (timedOut : Bool) : ScanInv (s.monitor timedOut) := by
  have hbefore : s.point.beforeTeardown := by rw [hpoint]; trivial
  have hcandidate : s.candidate = some i := by simp [ClientState.candidate, hpoint]
  simp only [ClientState.monitor, hpoint]
  refine scanInv_of_disabled (fun j ↦ ?_) (hs.whole hbefore) (fun j ↦ ?_) fun _ ↦ by simp
  · exact phases_update hs.phases (phaseInv_disconnect (hs.phases i (hs.whole hbefore i))) j
      (hs.whole hbefore j)
  · by_cases h : j = i
    · subst h
      exact congrArg TASE2ClientConnection.connect (connections_update_self s j _)
    · cases hc : (s.connections j).connect with
      | true => exact absurd (Option.some.inj (hcandidate.symm.trans (hs.only j hc))).symm h
      | false =>
        rw [← hc]
        exact congrArg TASE2ClientConnection.connect (connections_update_of_ne s h _)

private theorem scanInv_clear {s : ClientState n} (hs : ScanInv s) {i : Fin n}
    (hpoint : s.point = .clear i) (timedOut : Bool) : ScanInv (s.monitor timedOut) := by
  have hbefore : s.point.beforeTeardown := by rw [hpoint]; trivial
  simp only [ClientState.monitor, hpoint]
  refine scanInv_of_disabled (fun j ↦ hs.phases j (hs.whole hbefore j)) (hs.whole hbefore)
    (fun j ↦ ?_) fun _ ↦ by simp
  cases hc : (s.connections j).connect with
  | true =>
    have hcandidate := hs.only j hc
    simp [ClientState.candidate, hpoint] at hcandidate
  | false => rfl

private theorem scanInv_activeTest {s : ClientState n} (hs : ScanInv s) {i : Fin n}
    (hpoint : s.point = .activeTest i) (timedOut : Bool) : ScanInv (s.monitor timedOut) := by
  have hsettled : s.point.settled := by rw [hpoint]; trivial
  have hbefore : s.point.beforeTeardown := by rw [hpoint]; trivial
  simp only [ClientState.monitor, hpoint]
  split
  · exact hs.rest hsettled trivial fun _ ↦ hbefore
  · next hactive =>
    have hnone := hs.disabled_of_disconnected hsettled fun j hj ↦ by
      rw [hj] at hactive
      exact absurd rfl hactive
    refine scanInv_of_disabled (fun j ↦ hs.phases j (hs.whole hbefore j)) (hs.whole hbefore)
      hnone ?_
    exact MonitorPoint.next_induction
      (P := fun point ↦ ∀ j, point ≠ .awaitConnected j ∧ point ≠ .disconnect j)
      (fun _ _ ↦ by simp) fun _ ↦ by simp

/-- Every statement of the monitor keeps the invariant. -/
theorem scanInv_monitor {s : ClientState n} (hs : ScanInv s) (timedOut : Bool) :
    ScanInv (s.monitor timedOut) := by
  cases hpoint : s.point with
  | begin =>
    have hsettled : s.point.settled := by rw [hpoint]; trivial
    have hbefore : s.point.beforeTeardown := by rw [hpoint]; trivial
    simp only [ClientState.monitor, hpoint]
    refine hs.rest hsettled ?_ fun _ ↦ hbefore
    split
    · exact MonitorPoint.settled_first (fun _ ↦ trivial) trivial
    · trivial
  | start i => exact scanInv_start hs hpoint timedOut
  | loopTest =>
    have hsettled : s.point.settled := by rw [hpoint]; trivial
    have hbefore : s.point.beforeTeardown := by rw [hpoint]; trivial
    simp only [ClientState.monitor, hpoint]
    refine hs.rest hsettled ?_ fun _ ↦ hbefore
    split
    · trivial
    · exact MonitorPoint.settled_first (fun _ ↦ trivial) trivial
  | failoverTest => exact scanInv_failoverTest hs hpoint timedOut
  | connect i => exact scanInv_connect hs hpoint timedOut
  | assign i => exact scanInv_assign hs hpoint timedOut
  | awaitConnected i => exact scanInv_awaitConnected hs hpoint timedOut
  | disconnect i => exact scanInv_disconnect hs hpoint timedOut
  | clear i => exact scanInv_clear hs hpoint timedOut
  | activeTest i => exact scanInv_activeTest hs hpoint timedOut
  | delete i =>
    have hsettled : s.point.settled := by rw [hpoint]; trivial
    simp only [ClientState.monitor, hpoint]
    refine (scanInv_delete hs (by rw [hpoint]; exact id) hsettled i).rest hsettled ?_ ?_
    · exact MonitorPoint.settled_next (fun _ ↦ trivial) trivial
    · exact MonitorPoint.next_induction (P := fun point ↦ point.beforeTeardown → _)
        (fun _ h ↦ h.elim) fun h ↦ h.elim
  | ended =>
    simp only [ClientState.monitor, hpoint]
    exact hs

/-! ### Runs -/

/-- Every step of a client and its threads keeps the invariant. -/
theorem scanInv_step {config : TASE2ClientConfig} {s t : ClientState n} {a : ThreadAction n}
    (hs : ScanInv s) (h : threadStep config s a = .ok t) : ScanInv t := by
  cases a with
  | monitor timedOut =>
    rw [← Except.ok.inj h]
    exact scanInv_monitor hs timedOut
  | iterate i env => exact scanInv_iterate hs h
  | stop =>
    rw [← Except.ok.inj h]
    exact ⟨hs.phases, hs.whole, hs.only, hs.awaited, hs.linked⟩

/-- In every run, with any number of connections, at most one connection is enabled in every
state reached until the loop of the monitor ends, and the others are at rest. -/
theorem always_exclusive (config : TASE2ClientConfig) (params : Fin n → ConnectionParams)
    (actions : List (ThreadAction n)) :
    Always (threadStep config) (fun s ↦ s.point.beforeTeardown → Exclusive s) (.new params)
      actions :=
  always_of_stepsMeet (threadStep config) (fun _ h ↦ h.exclusive)
    (fun _ _ _ hs _ h ↦ scanInv_step hs h) (scanInv_new params)
    (stepsMeet_true (threadStep config) _ actions)

end Tase2South.Failover
