import Tase2South.Connection.Preparation
import Tase2South.Connection.Protocol
import Tase2South.Failover.Recovery
import Tase2South.Failover.Scan

/-!
# Stopping a client

`stop` and the end of `_monitoringThread`, `src/tase2_client.cpp:147–163` and
`src/tase2_client.cpp:278–285`: the monitor leaves its loop and deletes the connections one after
another, while the threads of the others still run and `m_active_connection` stays as it is.
-/

namespace Tase2South.Failover

open Tase2South.Base Tase2South.Config Tase2South.Connection

variable {n : Nat}

/-! ### What a step changes -/

/-- A step changes no connection; starts one; changes one as its own steps do; or deletes one. -/
inductive StepEffect (config : TASE2ClientConfig) (s t : ClientState n) : Prop
  | kept (hconnections : t.connections = s.connections) (hthreads : t.threads = s.threads)
  | started (i : Fin n) (hpoint : s.point = .start i) (hconnections : t.connections = s.connections)
      (hthreads : t.threads = Function.update s.threads i .running)
  | stepped (i : Fin n) (hexists : s.threads i = .running ∨ s.point.beforeTeardown) (a : Action)
      (hrunning : ∀ env, a = .iterate env → s.threads i = .running)
      (c : TASE2ClientConnection) (hc : step config (s.connections i) a = .ok c)
      (hconnections : t.connections = Function.update s.connections i c)
      (hthreads : t.threads = s.threads)
  | deleted (i : Fin n) (hpoint : s.point = .delete i)
      (hconnections : t.connections = Function.update s.connections i
        (if s.threads i = .running then finish (s.connections i) else s.connections i))
      (hthreads : t.threads = Function.update s.threads i .deleted)

private theorem stepEffect_monitor (config : TASE2ClientConfig) (s : ClientState n)
    (timedOut : Bool) : StepEffect config s (s.monitor timedOut) := by
  unfold ClientState.monitor
  cases hpoint : s.point with
  | start i => exact .started i hpoint rfl rfl
  | connect i =>
    exact .stepped i (.inr (by rw [hpoint]; trivial)) .connect (by simp) _ rfl rfl rfl
  | disconnect i =>
    exact .stepped i (.inr (by rw [hpoint]; trivial)) .disconnect (by simp) _ rfl rfl rfl
  | delete i => exact .deleted i hpoint rfl rfl
  | _ => exact .kept rfl rfl

/-- What a step can do to the connections. -/
theorem stepEffect {config : TASE2ClientConfig} {s t : ClientState n} {a : ThreadAction n}
    (h : threadStep config s a = .ok t) : StepEffect config s t := by
  cases a with
  | monitor timedOut =>
    rw [← Except.ok.inj h]
    exact stepEffect_monitor config s timedOut
  | iterate i env =>
    rcases iterate_eq_ok h with ⟨-, rfl⟩ | ⟨hrunning, c, hc, rfl⟩
    · exact .kept rfl rfl
    · exact .stepped i (.inl hrunning) (.iterate env) (fun _ _ ↦ hrunning) c hc rfl rfl
  | stop =>
    rw [← Except.ok.inj h]
    exact .kept rfl rfl

/-- What the steps of a connection keep, the client keeps of every connection that exists. -/
theorem existing_step {config : TASE2ClientConfig} {I : Fin n → TASE2ClientConnection → Prop}
    (hI : ∀ i c d a, I i c → step config c a = .ok d → I i d) {s t : ClientState n}
    {a : ThreadAction n} (hs : ScanInv s) (h : threadStep config s a = .ok t)
    (hexisting : ∀ i, s.threads i ≠ .deleted → I i (s.connections i)) (i : Fin n)
    (hi : t.threads i ≠ .deleted) : I i (t.connections i) := by
  cases stepEffect h with
  | kept hconnections hthreads =>
    rw [hconnections]
    rw [hthreads] at hi
    exact hexisting i hi
  | started j hpoint hconnections hthreads =>
    rw [hconnections]
    exact hexisting i (hs.whole (by rw [hpoint]; trivial) i)
  | stepped j hexists b hrunning c hc hconnections hthreads =>
    rw [hthreads] at hi
    rw [hconnections]
    by_cases hij : i = j
    · subst hij
      rw [Function.update_self]
      exact hI i _ _ _ (hexisting i hi) hc
    · rw [Function.update_of_ne hij]
      exact hexisting i hi
  | deleted j hpoint hconnections hthreads =>
    by_cases hij : i = j
    · subst hij
      rw [hthreads, Function.update_self] at hi
      exact absurd rfl hi
    · rw [hthreads, Function.update_of_ne hij] at hi
      rw [hconnections, Function.update_of_ne hij]
      exact hexisting i hi

/-! ### The connections that are left -/

/-- A deleted connection has released what it had, and its calls are complete. -/
structure Gone (params : ConnectionParams) (c : TASE2ClientConnection) : Prop where
  endpoint : c.session.endpoint = none
  client : c.session.tase2client = none
  tlsConfig : c.session.tlsConfig = none
  complete : KeepsOrder params c.session.calls fun l ↦
    l.stage = .closed ∧ l.endpoint = none ∧ l.client = none

/-- A connection that has called nothing and holds nothing. -/
structure Untouched (c : TASE2ClientConnection) : Prop where
  session : c.session = .initial
  dsts : c.dsts = []
  datasets : c.datasets = []

/-- A connection that has called nothing may be deleted as it is. -/
theorem Untouched.gone {params : ConnectionParams} {c : TASE2ClientConnection}
    (hc : Untouched c) : Gone params c := by
  constructor
  · rw [hc.session]
    rfl
  · rw [hc.session]
    rfl
  · rw [hc.session]
    rfl
  · rw [hc.session]
    exact ⟨.initial, (leads_nil_iff _).mpr rfl, rfl, rfl, rfl⟩

/-- A connection whose thread ends releases what it has. -/
theorem gone_finish {params : ConnectionParams} {c : TASE2ClientConnection}
    (hc : ProtocolInv params c) : Gone params (finish c) where
  endpoint := (released_cleanUp hc.phase).1
  client := (released_cleanUp hc.phase).2
  tlsConfig := tlsConfig_releaseSession _
  complete := hc.keepsOrder_finish

/-- The calls of the monitor leave a connection without a thread untouched. -/
theorem Untouched.step {config : TASE2ClientConfig} {c d : TASE2ClientConnection} {a : Action}
    (hc : Untouched c) (ha : ∀ env, a ≠ .iterate env) (h : step config c a = .ok d) :
    Untouched d := by
  cases a with
  | iterate env => exact absurd rfl (ha env)
  | connect =>
    rw [← Except.ok.inj h]
    exact ⟨hc.session, hc.dsts, hc.datasets⟩
  | disconnect =>
    rw [← Except.ok.inj h]
    refine ⟨?_, hc.dsts, hc.datasets⟩
    simp [TASE2ClientConnection.disconnect, TASE2ClientConnection.cleanUp,
      TASE2ClientConnection.releaseSession, Session.record, Session.initial, hc.session, hc.dsts,
      hc.datasets]

/-- The monitor deletes the connections in their order. -/
def ClientState.deleting (s : ClientState n) : Prop :=
  match s.point with
  | .delete i => ∀ j, s.threads j = .deleted ↔ j < i
  | .ended => ∀ j, s.threads j = .deleted
  | _ => True

/-- What holds of a client and its connections until the last one is deleted. -/
structure TeardownInv (params : Fin n → ConnectionParams) (s : ClientState n) : Prop where
  scan : ScanInv s
  protocol : ∀ i, s.threads i ≠ .deleted → ProtocolInv (params i) (s.connections i)
  untouched : ∀ i, s.threads i = .created → Untouched (s.connections i)
  gone : ∀ i, s.threads i = .deleted → Gone (params i) (s.connections i)
  deleting : s.deleting

/-- A client that was just started satisfies the invariant. -/
theorem teardownInv_new (params : Fin n → ConnectionParams) : TeardownInv params (.new params) where
  scan := scanInv_new params
  protocol i _ := protocolInv_new (params i)
  untouched _ _ := ⟨rfl, rfl, rfl⟩
  gone _ h := by cases h
  deleting := trivial

section

variable {config : TASE2ClientConfig} {params : Fin n → ConnectionParams} {s t : ClientState n}
  {a : ThreadAction n}

private theorem untouched_step (hs : TeardownInv params s) (h : threadStep config s a = .ok t)
    (i : Fin n) (hi : t.threads i = .created) : Untouched (t.connections i) := by
  cases stepEffect h with
  | kept hconnections hthreads =>
    rw [hconnections]
    exact hs.untouched i (hthreads ▸ hi)
  | started j hpoint hconnections hthreads =>
    rw [hconnections]
    by_cases hij : i = j
    · subst hij
      rw [hthreads, Function.update_self] at hi
      cases hi
    · rw [hthreads, Function.update_of_ne hij] at hi
      exact hs.untouched i hi
  | stepped j hexists b hrunning c hc hconnections hthreads =>
    rw [hthreads] at hi
    rw [hconnections]
    by_cases hij : i = j
    · subst hij
      rw [Function.update_self]
      refine (hs.untouched i hi).step (fun env hb ↦ ?_) hc
      rw [hrunning env hb] at hi
      cases hi
    · rw [Function.update_of_ne hij]
      exact hs.untouched i hi
  | deleted j hpoint hconnections hthreads =>
    by_cases hij : i = j
    · subst hij
      rw [hthreads, Function.update_self] at hi
      cases hi
    · rw [hthreads, Function.update_of_ne hij] at hi
      rw [hconnections, Function.update_of_ne hij]
      exact hs.untouched i hi

/-- A connection that is about to be deleted goes. -/
theorem TeardownInv.gone_delete (hs : TeardownInv params s) {i : Fin n}
    (hi : s.threads i ≠ .deleted) : Gone (params i)
      (if s.threads i = .running then finish (s.connections i) else s.connections i) := by
  cases hthread : s.threads i with
  | created =>
    rw [if_neg (by simp)]
    exact (hs.untouched i hthread).gone
  | running =>
    rw [if_pos rfl]
    exact gone_finish (hs.protocol i hi)
  | deleted => exact absurd hthread hi

/-- The connection at which the monitor stands in its last loop still exists. -/
theorem TeardownInv.exists_of_delete (hs : TeardownInv params s) {i : Fin n}
    (hpoint : s.point = .delete i) : s.threads i ≠ .deleted := by
  have hdeleting := hs.deleting
  simp only [ClientState.deleting, hpoint] at hdeleting
  exact fun h ↦ lt_irrefl i ((hdeleting i).mp h)

private theorem gone_step (hs : TeardownInv params s) (h : threadStep config s a = .ok t)
    (i : Fin n) (hi : t.threads i = .deleted) : Gone (params i) (t.connections i) := by
  cases stepEffect h with
  | kept hconnections hthreads =>
    rw [hconnections]
    exact hs.gone i (hthreads ▸ hi)
  | started j hpoint hconnections hthreads =>
    rw [hconnections]
    by_cases hij : i = j
    · subst hij
      rw [hthreads, Function.update_self] at hi
      cases hi
    · rw [hthreads, Function.update_of_ne hij] at hi
      exact hs.gone i hi
  | stepped j hexists b hrunning c hc hconnections hthreads =>
    rw [hthreads] at hi
    have hij : i ≠ j := by
      rintro rfl
      rcases hexists with hexists | hbefore
      · rw [hexists] at hi
        cases hi
      · exact hs.scan.whole hbefore i hi
    rw [hconnections, Function.update_of_ne hij]
    exact hs.gone i hi
  | deleted j hpoint hconnections hthreads =>
    rw [hconnections]
    by_cases hij : i = j
    · subst hij
      rw [Function.update_self]
      exact hs.gone_delete (hs.exists_of_delete hpoint)
    · rw [hthreads, Function.update_of_ne hij] at hi
      rw [Function.update_of_ne hij]
      exact hs.gone i hi

/-- Before its last loop the monitor has deleted nothing. -/
theorem deleting_of_beforeTeardown (h : s.point.beforeTeardown) : s.deleting := by
  cases hpoint : s.point with
  | delete i =>
    rw [hpoint] at h
    exact h.elim
  | ended =>
    rw [hpoint] at h
    exact h.elim
  | _ =>
    simp only [ClientState.deleting, hpoint]

private theorem deleting_loopTest (hs : ScanInv s) (hpoint : s.point = .loopTest)
    (timedOut : Bool) : (s.monitor timedOut).deleting := by
  have hexist := hs.whole (by rw [hpoint]; trivial)
  simp only [ClientState.monitor, hpoint]
  split
  · exact deleting_of_beforeTeardown trivial
  · unfold MonitorPoint.first
    split
    · exact fun j ↦ iff_of_false (hexist j) (Nat.not_lt_zero _)
    · next hn => exact fun j ↦ absurd j.pos hn

private theorem deleting_delete (hs : TeardownInv params s) {i : Fin n}
    (hpoint : s.point = .delete i) (timedOut : Bool) : (s.monitor timedOut).deleting := by
  have hdeleted := hs.deleting
  simp only [ClientState.deleting, hpoint] at hdeleted
  have hnext : ∀ j, Function.update s.threads i .deleted j = .deleted ↔ (j : Nat) < i + 1 := by
    intro j
    by_cases hij : j = i
    · subst hij
      simp
    · rw [Function.update_of_ne hij, hdeleted j, Fin.lt_def]
      have hne : (j : Nat) ≠ i := fun h ↦ hij (Fin.ext h)
      omega
  simp only [ClientState.monitor, hpoint, MonitorPoint.next]
  split
  · exact hnext
  · next hlast => exact fun j ↦ (hnext j).mpr (by omega)

private theorem deleting_step (hs : TeardownInv params s) (h : threadStep config s a = .ok t) :
    t.deleting := by
  cases a with
  | stop =>
    rw [← Except.ok.inj h]
    exact hs.deleting
  | iterate i env =>
    rcases iterate_eq_ok h with ⟨-, rfl⟩ | ⟨-, c, -, rfl⟩
    · exact hs.deleting
    · exact hs.deleting
  | monitor timedOut =>
    rw [← Except.ok.inj h]
    cases hpoint : s.point with
    | loopTest => exact deleting_loopTest hs.scan hpoint timedOut
    | delete i => exact deleting_delete hs hpoint timedOut
    | ended =>
      have hdeleted := hs.deleting
      simp only [ClientState.deleting, ClientState.monitor, hpoint] at hdeleted ⊢
      exact hdeleted
    | begin =>
      apply deleting_of_beforeTeardown
      simp only [ClientState.monitor, hpoint]
      split
      · exact MonitorPoint.beforeTeardown_first (fun _ ↦ trivial) trivial
      · trivial
    | start i =>
      apply deleting_of_beforeTeardown
      simp only [ClientState.monitor, hpoint]
      exact MonitorPoint.beforeTeardown_next (fun _ ↦ trivial) trivial
    | failoverTest =>
      apply deleting_of_beforeTeardown
      simp only [ClientState.monitor, hpoint]
      split
      · exact MonitorPoint.beforeTeardown_first (fun _ ↦ trivial) trivial
      · trivial
    | awaitConnected i =>
      apply deleting_of_beforeTeardown
      simp only [ClientState.monitor, hpoint]
      split
      · trivial
      · split <;> trivial
    | activeTest i =>
      apply deleting_of_beforeTeardown
      simp only [ClientState.monitor, hpoint]
      split
      · trivial
      · exact MonitorPoint.beforeTeardown_next (fun _ ↦ trivial) trivial
    | _ =>
      apply deleting_of_beforeTeardown
      simp only [ClientState.monitor, hpoint]
      trivial

/-- Every step of a client and its threads keeps the invariant. -/
theorem teardownInv_step (hs : TeardownInv params s) (h : threadStep config s a = .ok t) :
    TeardownInv params t where
  scan := scanInv_step hs.scan h
  protocol := existing_step (fun i _ _ _ (hc : ProtocolInv (params i) _) hstep ↦
    protocolInv_step hc hstep) hs.scan h hs.protocol
  untouched := untouched_step hs h
  gone := gone_step hs h
  deleting := deleting_step hs h

end

/-! ### No step uses a deleted connection -/

/-- The connections that a step uses through a pointer: that of the statement, those of
`m_active_connection` at the failover test and during a poll, and the one whose thread runs. -/
def ClientState.uses (config : TASE2ClientConfig) (s : ClientState n) :
    ThreadAction n → List (Fin n)
  | .monitor _ =>
    match s.point with
    | .start i => [i]
    | .failoverTest => s.active.toList
    | .connect i => [i]
    | .assign i => [i]
    | .awaitConnected i => [i]
    | .disconnect i => [i]
    | .delete i => [i]
    | _ => []
  | .iterate i env =>
    if s.threads i = .running then
      i :: (if polls config env (s.connections i) then s.active.toList else [])
    else []
  | .stop => []

/-- Every connection that a step uses exists. -/
def UsesExisting (config : TASE2ClientConfig) (s : ClientState n) (a : ThreadAction n) : Prop :=
  ∀ i ∈ s.uses config a, s.threads i ≠ .deleted

/-- The statements of the monitor use connections that exist. -/
theorem TeardownInv.usesExisting_monitor {config : TASE2ClientConfig}
    {params : Fin n → ConnectionParams} {s : ClientState n} (hs : TeardownInv params s)
    (timedOut : Bool) : UsesExisting config s (.monitor timedOut) := by
  intro i hi
  by_cases hbefore : s.point.beforeTeardown
  · exact hs.scan.whole hbefore i
  · cases hpoint : s.point with
    | delete j =>
      simp only [ClientState.uses, hpoint, List.mem_singleton] at hi
      rw [hi]
      exact hs.exists_of_delete hpoint
    | ended => simp [ClientState.uses, hpoint] at hi
    | _ => exact absurd (by rw [hpoint]; trivial) hbefore

/-- A poll goes through a connection that exists, also when the others are being deleted. -/
theorem TeardownInv.usesExisting_iterate {config : TASE2ClientConfig}
    {params : Fin n → ConnectionParams} {s : ClientState n} (hs : TeardownInv params s) (i : Fin n)
    (env : IterationEnv) : UsesExisting config s (.iterate i env) := by
  intro j hj
  by_cases hbefore : s.point.beforeTeardown
  · exact hs.scan.whole hbefore j
  · simp only [ClientState.uses] at hj
    split at hj
    · next hrunning =>
      rcases List.mem_cons.mp hj with rfl | hj
      · simp [hrunning]
      · split at hj
        · next hpolls =>
          -- a connection that polls is enabled, and so it is the active one itself
          have hconnect : (s.connections i).connect = true := by
            simp only [polls, Bool.and_eq_true] at hpolls
            exact hpolls.1.1.1.1
          have hactive := hs.scan.active_of_connect hconnect fun h ↦
            hbefore (by rw [h]; trivial)
          rw [hactive, Option.toList_some, List.mem_singleton] at hj
          rw [hj, hrunning]
          simp
        · cases hj
    · cases hj

/-- In every run, with any number of connections, no step uses a connection that was deleted: not
the monitor, which deletes each connection once, and not the threads that still run while the
other connections are deleted. -/
theorem stepsMeet_usesExisting (config : TASE2ClientConfig) (params : Fin n → ConnectionParams)
    (actions : List (ThreadAction n)) :
    StepsMeet (threadStep config) (UsesExisting config) (.new params) actions := by
  refine stepsMeet_of_invariant (threadStep config) (fun s a hs ↦ ?_)
    (fun _ _ _ hs h ↦ teardownInv_step hs h) (teardownInv_new params) actions
  cases a with
  | monitor timedOut => exact hs.usesExisting_monitor timedOut
  | iterate i env => exact hs.usesExisting_iterate i env
  | stop => exact fun _ h ↦ by cases h

/-! ### Every stopped client comes to its end -/

/-- A bound on the statements that a stopped monitor has left. -/
def MonitorPoint.left : MonitorPoint n → Nat
  | .begin => n + 2
  | .start i => (n - i) + (n + 1)
  | .delete i => n - i
  | .ended => 0
  | point => point.rank + (n + 1)

/-- A wait that has not been answered times out. -/
def WaitTimesOut (s : ClientState n) : ThreadAction n → Prop
  | .monitor timedOut => ∀ i, s.point = .awaitConnected i →
      (s.connections i).connected = true ∨ timedOut = true
  | .iterate _ _ => True
  | .stop => True

/-- A statement of the monitor. -/
def ThreadAction.isMonitor : ThreadAction n → Bool
  | .monitor _ => true
  | _ => false

/-- A wait that has not been answered and times out ends as if the time were always over. -/
theorem monitor_of_waitTimesOut {s : ClientState n} {timedOut : Bool}
    (h : WaitTimesOut s (.monitor timedOut)) : s.monitor timedOut = s.monitor true := by
  cases hpoint : s.point with
  | awaitConnected i =>
    rcases h i hpoint with hconnected | rfl
    · simp only [ClientState.monitor, hpoint, hconnected, if_true]
    · rfl
  | _ => simp only [ClientState.monitor, hpoint]

/-- During a pass, the bound is the rank and what comes after the pass. -/
theorem left_of_scanning {point : MonitorPoint n} (h : point.scanning) :
    point.left = point.rank + (n + 1) := by
  cases point with
  | begin => exact h.elim
  | start i => exact h.elim
  | delete i => exact h.elim
  | ended => exact h.elim
  | _ => rfl

/-- Each statement of a stopped monitor leaves it fewer statements. -/
theorem left_monitor {s : ClientState n} (hstopped : s.started = false) {timedOut : Bool}
    (hwait : WaitTimesOut s (.monitor timedOut)) :
    (s.monitor timedOut).point.left ≤ s.point.left - 1 := by
  rw [monitor_of_waitTimesOut hwait]
  cases hpoint : s.point with
  | begin =>
    simp only [ClientState.monitor, hpoint, hstopped, Bool.false_eq_true, if_false,
      MonitorPoint.left, MonitorPoint.rank]
    omega
  | start i =>
    have hi := i.isLt
    simp only [ClientState.monitor, hpoint, MonitorPoint.next]
    split
    · simp only [MonitorPoint.left]
      omega
    · simp only [MonitorPoint.left, MonitorPoint.rank]
      omega
  | loopTest =>
    simp only [ClientState.monitor, hpoint, hstopped, Bool.false_eq_true, if_false,
      MonitorPoint.first]
    split
    · simp only [MonitorPoint.left, MonitorPoint.rank]
      omega
    · exact Nat.zero_le _
  | delete i =>
    simp only [ClientState.monitor, hpoint, MonitorPoint.next]
    split
    · simp only [MonitorPoint.left]
      omega
    · exact Nat.zero_le _
  | ended =>
    simp only [ClientState.monitor, hpoint, MonitorPoint.left]
    omega
  | _ =>
    -- within a pass, where the rank of the scan goes down
    have hscanning : s.point.scanning := by rw [hpoint]; trivial
    obtain ⟨hnext, hless | ⟨hfalse, -⟩⟩ := rank_monitor hscanning (by simp [hpoint]) true
    · rw [← hpoint, left_of_scanning hscanning, left_of_scanning hnext]
      omega
    · cases hfalse

/-- A client whose threads have ended: every connection is deleted and has released what it had. -/
structure ShutDown (params : Fin n → ConnectionParams) (s : ClientState n) : Prop where
  ended : s.point = .ended
  deleted : ∀ i, s.threads i = .deleted
  gone : ∀ i, Gone (params i) (s.connections i)

/-- A monitor with no statement left has ended. -/
theorem TeardownInv.shutDown {params : Fin n → ConnectionParams} {s : ClientState n}
    (hs : TeardownInv params s) (hleft : s.point.left = 0) : ShutDown params s := by
  have hended : s.point = .ended := by
    cases hpoint : s.point with
    | ended => rfl
    | delete i =>
      have hi := i.isLt
      rw [hpoint, MonitorPoint.left] at hleft
      omega
    | _ =>
      simp only [hpoint, MonitorPoint.left] at hleft
      omega
  have hdeleted := hs.deleting
  simp only [ClientState.deleting, hended] at hdeleted
  exact ⟨hended, hdeleted, fun i ↦ hs.gone i (hdeleted i)⟩

/-- No monitor has more statements left. -/
theorem left_le (point : MonitorPoint n) : point.left ≤ 7 * n + 2 := by
  cases point with
  | begin =>
    simp only [MonitorPoint.left]
    omega
  | ended => exact Nat.zero_le _
  | _ =>
    simp only [MonitorPoint.left, MonitorPoint.rank]
    omega

/-- No step starts a client that was asked to stop. -/
theorem started_eq_false {n : Nat} {config : TASE2ClientConfig} {s t : ClientState n}
    {a : ThreadAction n} (h : threadStep config s a = .ok t) (hs : s.started = false) :
    t.started = false := by
  cases a with
  | monitor timedOut =>
    rw [← Except.ok.inj h]
    exact (started_monitor s timedOut).trans hs
  | iterate i iteration =>
    rcases iterate_eq_ok h with ⟨-, rfl⟩ | ⟨-, c, -, rfl⟩
    · exact hs
    · exact hs
  | stop => rw [← Except.ok.inj h]

/-- A step of a stopped client adds nothing to what its monitor has left, and a statement of the
monitor takes something from it. -/
theorem left_step {config : TASE2ClientConfig} {params : Fin n → ConnectionParams}
    {s t : ClientState n} {a : ThreadAction n} (hs : TeardownInv params s ∧ s.started = false)
    (hwait : WaitTimesOut s a) (h : threadStep config s a = .ok t) :
    (TeardownInv params t ∧ t.started = false) ∧ t.point.left ≤ s.point.left ∧
      (a.isMonitor = true → t.point.left ≤ s.point.left - 1) := by
  refine ⟨⟨teardownInv_step hs.1 h, started_eq_false h hs.2⟩, ?_⟩
  cases a with
  | monitor timedOut =>
    have hleft := left_monitor hs.2 hwait
    rw [← Except.ok.inj h]
    exact ⟨by omega, fun _ ↦ hleft⟩
  | iterate i env =>
    rcases iterate_eq_ok h with ⟨-, rfl⟩ | ⟨-, c, -, rfl⟩
    · exact ⟨le_rfl, by simp [ThreadAction.isMonitor]⟩
    · exact ⟨le_rfl, by simp [ThreadAction.isMonitor]⟩
  | stop =>
    rw [← Except.ok.inj h]
    exact ⟨le_rfl, by simp [ThreadAction.isMonitor]⟩

/-- From every reachable state in which the client is stopped, every run that goes through and in
which waits that are not answered time out, however its steps interleave, shuts the client down
within `7 n + 2` statements of the monitor: every connection is deleted and holds no endpoint, no
client and no TLS configuration, and its calls are in order and leave no endpoint and no client
open. A run that faults, at a poll through a null `m_active_connection` or at absent OSI parameters,
is none of these. -/
theorem shutDown_of_stopped {config : TASE2ClientConfig} {params : Fin n → ConnectionParams}
    {earlier actions : List (ThreadAction n)} {s t : ClientState n}
    (hreach : run (threadStep config) (.new params) earlier = .ok s) (hstopped : s.started = false)
    (hrun : run (threadStep config) s actions = .ok t)
    (hwaits : StepsMeet (threadStep config) WaitTimesOut s actions)
    (hmany : 7 * n + 2 ≤ actions.countP ThreadAction.isMonitor) : ShutDown params t := by
  have hs : TeardownInv params s := run_invariant (threadStep config)
    (fun _ _ _ hu h ↦ teardownInv_step hu h) (teardownInv_new params) hreach
  obtain ⟨⟨ht, -⟩, hleft⟩ := rank_le_of_ticks (threadStep config)
    (fun u ↦ TeardownInv params u ∧ u.started = false) (fun u ↦ u.point.left)
    (fun _ _ _ hu hwait h ↦ left_step hu hwait h) ⟨hs, hstopped⟩ hwaits hrun
  have hmost := left_le s.point
  have hticks : 7 * n + 2 ≤ actions.countP fun a ↦ a.isMonitor := hmany
  exact ht.shutDown (by omega)

/-- A client that is stopped while its connection is established shuts down. -/
theorem shutDown_of_stopped_established : ∃ t,
    run (threadStep .fresh) (.new fun _ ↦ loopback)
        (establishingRun ++ [.stop] ++ List.replicate 9 (.monitor true)) = .ok t ∧
      ShutDown (fun _ ↦ loopback) t := by
  refine ⟨_, rfl, ?_⟩
  refine @shutDown_of_stopped _ .fresh (fun _ ↦ loopback) (establishingRun ++ [.stop])
    (List.replicate 9 (.monitor true)) _ _ rfl rfl rfl ?_ (by decide)
  refine stepsMeet_of_forall _ (fun a ha s ↦ ?_) _
  rw [List.eq_of_mem_replicate ha]
  exact fun _ _ ↦ .inr rfl

end Tase2South.Failover
