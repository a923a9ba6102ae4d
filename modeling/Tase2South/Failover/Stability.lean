import Tase2South.Failover.Polling

/-!
# No failover without a lost link

The failover test, `src/tase2_client.cpp:224–276`, with the reconnect of a connection that has lost
its link, `src/tase2_client_connection.cpp:328–373`: `m_connected` stays set while it reconnects, so
the monitor leaves an established connection only after that has timed out.
-/

namespace Tase2South.Failover

open Tase2South.Base Tase2South.Config Tase2South.Connection

variable {n : Nat}

/-! ### Giving up -/

/-- The iteration finds that the connect has timed out,
`src/tase2_client_connection.cpp:350–357`. -/
structure GivesUp (env : IterationEnv) (c : TASE2ClientConnection) : Prop where
  connect : c.connect = true
  connecting : c.connectionState = .connecting
  link : env.endpointConnected = false
  expired : c.delayExpirationTime < env.now

/-- The step is an iteration of the given connection that gives up. -/
def GivesUpOn (i : Fin n) (s : ClientState n) (a : ThreadAction n) : Prop :=
  ∃ env, a = .iterate i env ∧ s.threads i = .running ∧ GivesUp env (s.connections i)

section

variable {config : TASE2ClientConfig} {env : IterationEnv} {c d : TASE2ClientConnection}

/-- Giving up disconnects. -/
theorem iteration_of_givesUp (hs : PhaseInv c) (h : GivesUp env c) :
    c.iteration config env = .ok c.disconnect := by
  have hendpoint := (hs.ready (.inl h.connecting)).1
  rw [TASE2ClientConnection.iteration, if_pos h.connect, h.connecting]
  simp only [TASE2ClientConnection.connectingIteration, h.link, Bool.false_eq_true, if_false,
    if_pos h.expired]
  rw [if_neg (by simpa using Option.isSome_iff_ne_none.mp hendpoint)]

/-- A connection that waits for its link is left as it is. -/
theorem iteration_of_waiting (hs : PhaseInv c) (hconnecting : c.connectionState = .connecting)
    (hlink : env.endpointConnected = false) (h : ¬ GivesUp env c) :
    c.iteration config env = .ok c := by
  have hendpoint := (hs.ready (.inl hconnecting)).1
  have hconnect := hs.connect_of_ne_idle (by rw [hconnecting]; decide)
  have htime : ¬ c.delayExpirationTime < env.now := fun ht ↦ h ⟨hconnect, hconnecting, hlink, ht⟩
  rw [TASE2ClientConnection.iteration, if_pos hconnect, hconnecting]
  simp only [TASE2ClientConnection.connectingIteration, hlink, Bool.false_eq_true, if_false,
    if_neg htime]
  rw [if_neg (by simpa using Option.isSome_iff_ne_none.mp hendpoint)]

end

/-! ### What a reconnect goes back to -/

/-- After the given steps, an iteration of the given connection runs in the given state. -/
def IteratesIn (config : TASE2ClientConfig) (s : ClientState n) (i : Fin n)
    (before : List (ThreadAction n)) (state : ConState) : Prop :=
  ∃ t, run (threadStep config) s before = .ok t ∧ t.threads i = .running ∧
    (t.connections i).connect = true ∧ (t.connections i).connectionState = state

/-- Among the steps, an iteration in `CON_STATE_CONNECTED` finds the link lost. -/
def LosesLink (config : TASE2ClientConfig) (s : ClientState n) (i : Fin n)
    (as : List (ThreadAction n)) : Prop :=
  ∃ before lost after, as = before ++ .iterate i lost :: after ∧ lost.endpointConnected = false ∧
    IteratesIn config s i before .connected

/-- Among the steps, an iteration in `CON_STATE_CONNECTED` finds the link lost, and a later one in
`CON_STATE_IDLE` makes the attempt. -/
def LosesThenTries (config : TASE2ClientConfig) (s : ClientState n) (i : Fin n)
    (as : List (ThreadAction n)) (lost attempt : IterationEnv) : Prop :=
  ∃ before mid after, as = before ++ .iterate i lost :: mid ++ .iterate i attempt :: after ∧
    lost.endpointConnected = false ∧ IteratesIn config s i before .connected ∧
    IteratesIn config s i (before ++ .iterate i lost :: mid) .idle

/-- A connection that was established and is now without its link has lost it in an iteration; one
that waits for it has made its attempt after that. -/
def LostBefore (config : TASE2ClientConfig) (s : ClientState n) (i : Fin n)
    (as : List (ThreadAction n)) (c : TASE2ClientConnection) : Prop :=
  match c.connectionState with
  | .idle => LosesLink config s i as
  | .connecting => ∃ lost attempt, LosesThenTries config s i as lost attempt ∧
      c.delayExpirationTime = deadline attempt.now 10000
  | _ => True

section

variable {config : TASE2ClientConfig} {s : ClientState n} {i : Fin n}
  {as : List (ThreadAction n)}

/-- A link that was lost stays so after a later step. -/
theorem LosesLink.concat (h : LosesLink config s i as) (a : ThreadAction n) :
    LosesLink config s i (as ++ [a]) := by
  obtain ⟨before, lost, after, rfl, hlost⟩ := h
  exact ⟨before, lost, after ++ [a], by simp, hlost⟩

/-- An attempt that was made stays so after a later step. -/
theorem LosesThenTries.concat {lost attempt : IterationEnv}
    (h : LosesThenTries config s i as lost attempt) (a : ThreadAction n) :
    LosesThenTries config s i (as ++ [a]) lost attempt := by
  obtain ⟨before, mid, after, rfl, hlost⟩ := h
  exact ⟨before, mid, after ++ [a], by simp, hlost⟩

/-- What a connection goes back to stays so after a later step. -/
theorem LostBefore.concat {c : TASE2ClientConnection} (h : LostBefore config s i as c)
    (a : ThreadAction n) : LostBefore config s i (as ++ [a]) c := by
  unfold LostBefore at h ⊢
  cases hstate : c.connectionState with
  | idle =>
    simp only [hstate] at h ⊢
    exact h.concat a
  | connecting =>
    simp only [hstate] at h ⊢
    obtain ⟨lost, attempt, htries, htime⟩ := h
    exact ⟨lost, attempt, htries.concat a, htime⟩
  | _ => trivial

/-- In a state that is neither idle nor connecting there is nothing to go back to. -/
theorem lostBefore_of_state {c : TASE2ClientConnection} (hidle : c.connectionState ≠ .idle)
    (hconnecting : c.connectionState ≠ .connecting) : LostBefore config s i as c := by
  unfold LostBefore
  cases hstate : c.connectionState with
  | idle => exact absurd hstate hidle
  | connecting => exact absurd hstate hconnecting
  | _ => trivial

/-- Every iteration that does not give up keeps the connection enabled, and its history. -/
theorem lostBefore_iteration {env : IterationEnv} {c d : TASE2ClientConnection} (hs : PhaseInv c)
    (hconnect : c.connect = true) (hlost : LostBefore config s i as c)
    (hiterates : IteratesIn config s i as c.connectionState) (hwaits : ¬ GivesUp env c)
    (h : c.iteration config env = .ok d) :
    d.connect = true ∧ LostBefore config s i (as ++ [.iterate i env]) d := by
  cases outcome_iteration hs h with
  | kept _ => exact ⟨hconnect, hlost.concat _⟩
  | refused _ _ _ => exact ⟨hconnect, lostBefore_of_state (by simp) (by simp)⟩
  | clientless _ _ _ _ _ _ _ => exact ⟨hconnect, lostBefore_of_state (by simp) (by simp)⟩
  | issued _ hstate _ _ _ _ _ state hissued =>
    refine ⟨hconnect, ?_⟩
    cases hok : env.errorOk with
    | false =>
      rw [hok] at hissued
      exact lostBefore_of_state (by simp [hissued]) (by simp [hissued])
    | true =>
      rw [hok, if_pos rfl] at hissued
      simp only [LostBefore, hstate] at hlost
      obtain ⟨before, lost, mid, rfl, hlink, hconnected⟩ := hlost
      rw [hstate] at hiterates
      simp only [LostBefore, hissued]
      exact ⟨lost, env, ⟨before, mid, [], rfl, hlink, hconnected, hiterates⟩, rfl⟩
  | established _ _ _ =>
    refine ⟨?_, lostBefore_of_state (by simp) (by simp)⟩
    exact (congrArg TASE2ClientConnection.connect
      (configDsts_frame env (c.configDatasets env))).trans hconnect
  | timedOut _ hstate hlink =>
    have hkept : c.iteration config env = .ok c := iteration_of_waiting hs hstate hlink hwaits
    rw [h] at hkept
    rw [Except.ok.inj hkept]
    exact ⟨hconnect, hlost.concat _⟩
  | served _ hstate _ =>
    obtain ⟨calls, next, heq, -⟩ := c.executePeriodicTasks_eq_record config env
    rw [heq]
    refine ⟨hconnect, lostBefore_of_state ?_ ?_⟩
    · simp [TASE2ClientConnection.record, hstate]
    · simp [TASE2ClientConnection.record, hstate]
  | lost _ hstate hlink =>
    rw [hstate] at hiterates
    exact ⟨hconnect, as, env, [], rfl, hlink, hiterates⟩

end

/-! ### The system meanwhile -/

/-- The monitor is not in its scan: it tests, or deletes the connections. -/
def MonitorPoint.outsideScan : MonitorPoint n → Prop
  | .loopTest => True
  | .failoverTest => True
  | .delete _ => True
  | .ended => True
  | _ => False

/-- Outside its scan the monitor tries nothing. -/
theorem MonitorPoint.outsideScan.settled {point : MonitorPoint n} (h : point.outsideScan) :
    point.settled := by
  cases point <;> trivial

/-- The connection is still the active one, and as long as the monitor is in its loop the others
are as they were. -/
structure Stays (s : ClientState n) (i : Fin n) (t : ClientState n) : Prop where
  active : t.active = some i
  others : t.point.beforeTeardown → ∀ j, j ≠ i → t.connections j = s.connections j

/-- What holds of a run that goes on from an established connection. -/
structure StayingInv (config : TASE2ClientConfig) (s : ClientState n) (i : Fin n)
    (as : List (ThreadAction n)) (t : ClientState n) : Prop extends Stays s i t where
  reached : run (threadStep config) s as = .ok t
  scan : ScanInv t
  outside : t.point.outsideScan
  connect : (t.connections i).connect = true
  lostBefore : LostBefore config s i as (t.connections i)

section

variable {config : TASE2ClientConfig} {s t u : ClientState n} {i : Fin n}
  {as : List (ThreadAction n)}

/-- The failover test does not open the scan. -/
theorem StayingInv.not_disconnected (ht : StayingInv config s i as t) :
    (t.active.all fun j ↦ disconnected (t.connections j)) = false := by
  have hlinked := ht.scan.linked ht.outside.settled i ht.active ht.connect
  rw [ht.active, Option.all_some, disconnected, hlinked]
  simp

/-- The other connections are disabled. -/
theorem StayingInv.connect_eq_false (ht : StayingInv config s i as t) {j : Fin n} (hj : j ≠ i) :
    (t.connections j).connect = false := by
  by_contra hc
  have honly := ht.scan.only j (Bool.eq_true_of_not_eq_false hc)
  rw [candidate_of_settled ht.outside.settled, ht.active] at honly
  exact hj (Option.some.inj honly).symm

private theorem outsideScan_monitor (ht : StayingInv config s i as t) (timedOut : Bool) :
    (t.monitor timedOut).point.outsideScan := by
  have houtside := ht.outside
  cases hpoint : t.point with
  | loopTest =>
    simp only [ClientState.monitor, hpoint]
    split
    · trivial
    · exact MonitorPoint.first_induction (P := MonitorPoint.outsideScan) (fun _ ↦ trivial) trivial
  | failoverTest =>
    simp only [ClientState.monitor, hpoint, ht.not_disconnected, Bool.false_eq_true, if_false]
    trivial
  | delete j =>
    simp only [ClientState.monitor, hpoint]
    exact MonitorPoint.next_induction (P := MonitorPoint.outsideScan) (fun _ ↦ trivial) trivial
  | ended =>
    simp only [ClientState.monitor, hpoint]
    trivial
  | _ =>
    rw [hpoint] at houtside
    exact houtside.elim

/-- Outside the scan the monitor changes a connection only by deleting it, and then its session. -/
private theorem connections_monitor (ht : StayingInv config s i as t) (timedOut : Bool) :
    (t.monitor timedOut).active = t.active ∧
      ((t.monitor timedOut).connections = t.connections ∧
          ((t.monitor timedOut).point.beforeTeardown → t.point.beforeTeardown) ∨
        ∃ j, (t.monitor timedOut).connections = (t.delete j).connections ∧
          ¬ (t.monitor timedOut).point.beforeTeardown) := by
  have houtside := ht.outside
  cases hpoint : t.point with
  | loopTest =>
    simp only [ClientState.monitor, hpoint]
    exact ⟨trivial, .inl ⟨trivial, fun _ ↦ trivial⟩⟩
  | failoverTest =>
    simp only [ClientState.monitor, hpoint]
    exact ⟨trivial, .inl ⟨trivial, fun _ ↦ trivial⟩⟩
  | delete j =>
    simp only [ClientState.monitor, hpoint]
    refine ⟨rfl, .inr ⟨j, rfl, ?_⟩⟩
    exact MonitorPoint.next_induction (P := fun point ↦ ¬ point.beforeTeardown) (fun _ ↦ id) id
  | ended =>
    simp only [ClientState.monitor, hpoint]
    exact ⟨trivial, .inl ⟨trivial, id⟩⟩
  | _ =>
    rw [hpoint] at houtside
    exact houtside.elim

private theorem stayingInv_monitor (ht : StayingInv config s i as t) (timedOut : Bool) :
    StayingInv config s i (as ++ [.monitor timedOut]) (t.monitor timedOut) := by
  have hreached : run (threadStep config) s (as ++ [.monitor timedOut]) =
      .ok (t.monitor timedOut) := run_concat_eq_ok (threadStep config) ht.reached rfl
  have hscan := scanInv_monitor ht.scan timedOut
  have houtside := outsideScan_monitor ht timedOut
  have hlost := ht.lostBefore.concat (.monitor timedOut)
  obtain ⟨hactive, hkept | ⟨j, hdeleted, hafter⟩⟩ := connections_monitor ht timedOut
  · obtain ⟨hconnections, hbefore⟩ := hkept
    rw [← hconnections] at hlost
    refine ⟨⟨hactive.trans ht.active, fun h k hk ↦ ?_⟩, hreached, hscan, houtside, ?_, hlost⟩
    · rw [hconnections]
      exact ht.others (hbefore h) k hk
    · rw [hconnections]
      exact ht.connect
  · have hsame : ((t.delete j).connections i).connect = true ∧
        LostBefore config s i (as ++ [.monitor timedOut]) ((t.delete j).connections i) := by
      simp only [ClientState.delete]
      by_cases hij : i = j
      · subst hij
        rw [connections_update_self]
        split
        · exact ⟨ht.connect, hlost⟩
        · exact ⟨ht.connect, hlost⟩
      · rw [connections_update_of_ne t hij]
        exact ⟨ht.connect, hlost⟩
    rw [← hdeleted] at hsame
    exact ⟨⟨hactive.trans ht.active, fun h ↦ absurd h hafter⟩, hreached, hscan, houtside, hsame.1,
      hsame.2⟩

private theorem stayingInv_iterate (ht : StayingInv config s i as t) {j : Fin n}
    {env : IterationEnv} (hwaits : ¬ GivesUpOn i t (.iterate j env))
    (h : t.iterate config j env = .ok u) :
    StayingInv config s i (as ++ [.iterate j env]) u := by
  have hreached := run_concat_eq_ok (threadStep config) ht.reached (a := .iterate j env) h
  have hscan := scanInv_iterate ht.scan h
  rcases iterate_eq_ok h with ⟨-, rfl⟩ | ⟨hrunning, c, hc, rfl⟩
  · exact ⟨ht.toStays, hreached, hscan, ht.outside, ht.connect, ht.lostBefore.concat _⟩
  · have hphase := ht.scan.phases j (by simp [hrunning])
    by_cases hij : j = i
    · subst hij
      obtain ⟨hconnect, hlost⟩ := lostBefore_iteration hphase ht.connect ht.lostBefore
        ⟨t, ht.reached, hrunning, ht.connect, rfl⟩ (fun hg ↦ hwaits ⟨env, rfl, hrunning, hg⟩) hc
      refine ⟨⟨ht.active, fun hbefore k hk ↦ ?_⟩, hreached, hscan, ht.outside, ?_, ?_⟩
      · rw [connections_update_of_ne t hk]
        exact ht.others hbefore k hk
      · rwa [connections_update_self]
      · rwa [connections_update_self]
    · have hkept : c = t.connections j := by
        rw [TASE2ClientConnection.iteration, if_neg (by simp [ht.connect_eq_false hij])] at hc
        exact (Except.ok.inj hc).symm
      have hi : (t.update j c).connections i = t.connections i :=
        connections_update_of_ne t (Ne.symm hij) c
      refine ⟨⟨ht.active, fun hbefore k hk ↦ ?_⟩, hreached, hscan, ht.outside, ?_, ?_⟩
      · by_cases hkj : k = j
        · subst hkj
          rw [connections_update_self, hkept]
          exact ht.others hbefore k hk
        · rw [connections_update_of_ne t hkj]
          exact ht.others hbefore k hk
      · rw [hi]
        exact ht.connect
      · rw [hi]
        exact ht.lostBefore.concat _

/-- A step that does not give up keeps the invariant. -/
theorem stayingInv_step {a : ThreadAction n} (ht : StayingInv config s i as t)
    (hwaits : ¬ GivesUpOn i t a) (h : threadStep config t a = .ok u) :
    StayingInv config s i (as ++ [a]) u := by
  cases a with
  | monitor timedOut =>
    rw [← Except.ok.inj h]
    exact stayingInv_monitor ht timedOut
  | iterate j env => exact stayingInv_iterate ht hwaits h
  | stop =>
    have hreached := run_concat_eq_ok (threadStep config) ht.reached h
    have hscan := scanInv_step ht.scan h
    rw [← Except.ok.inj h] at hreached hscan ⊢
    exact ⟨⟨ht.active, ht.others⟩, hreached, hscan, ht.outside, ht.connect,
      ht.lostBefore.concat _⟩

/-- An established active connection outside the scan is one from which a run goes on. -/
theorem stayingInv_of_established (hs : ScanInv s) (hactive : s.active = some i)
    (houtside : s.point.outsideScan) (hphase : PhaseInv (s.connections i))
    (hestablished : (s.connections i).connectionState = .connected) :
    StayingInv config s i [] s where
  active := hactive
  others _ _ _ := rfl
  reached := rfl
  scan := hs
  outside := houtside
  connect := hphase.connect_of_ne_idle (by rw [hestablished]; decide)
  lostBefore := lostBefore_of_state (by simp [hestablished]) (by simp [hestablished])

/-- An iteration that gives up goes back to a lost link and to an attempt that was made more than
ten seconds ago, and opens the failover test. -/
theorem StayingInv.opens {env : IterationEnv} (ht : StayingInv config s i as t)
    (hg : GivesUpOn i t (.iterate i env)) : ∃ lost attempt u,
      LosesThenTries config s i as lost attempt ∧ deadline attempt.now 10000 < env.now ∧
      threadStep config t (.iterate i env) = .ok u ∧ u.active = some i ∧
      disconnected (u.connections i) = true := by
  obtain ⟨env', heq, hrunning, hg⟩ := hg
  obtain rfl : env = env' := (ThreadAction.iterate.inj heq).2
  have hlost := ht.lostBefore
  simp only [LostBefore, hg.connecting] at hlost
  obtain ⟨lost, attempt, htries, htime⟩ := hlost
  have hphase := ht.scan.phases i (by simp [hrunning])
  have hpolls : polls config env (t.connections i) = false := by
    simp [polls, hg.connecting]
  refine ⟨lost, attempt, t.update i (t.connections i).disconnect, htries, htime ▸ hg.expired, ?_,
    ht.active, ?_⟩
  · simp only [threadStep, ClientState.iterate, hrunning, if_true, hpolls, Bool.false_eq_true,
      false_and, if_false, iteration_of_givesUp hphase hg]
  · rw [connections_update_self]
    rfl

end

/-- From every reachable state in which the active connection is established and the monitor is
outside its scan: as long as that connection does not give up a reconnect, it stays the active one
and the others are not touched; and when it gives up, an iteration in `CON_STATE_CONNECTED` has lost
its link since then, one in `CON_STATE_IDLE` has made an attempt after that, ten seconds have passed
since in the range of the clock, and the next failover test opens. -/
theorem stays_until_givesUp {config : TASE2ClientConfig} {params : Fin n → ConnectionParams}
    {as bs : List (ThreadAction n)} {s : ClientState n} {i : Fin n}
    (hreach : run (threadStep config) (.new params) as = .ok s) (hactive : s.active = some i)
    (houtside : s.point = .loopTest ∨ s.point = .failoverTest)
    (hestablished : (s.connections i).connectionState = .connected)
    (hwaits : StepsMeet (threadStep config) (fun t a ↦ ¬ GivesUpOn i t a) s bs) :
    Always (threadStep config) (Stays s i) s bs ∧
      ∀ t env, run (threadStep config) s bs = .ok t → GivesUpOn i t (.iterate i env) →
        ∃ lost attempt u, LosesThenTries config s i bs lost attempt ∧
          deadline attempt.now 10000 < env.now ∧
          (InClockRange attempt.now 10000 → attempt.now + 10000 < env.now) ∧
          threadStep config t (.iterate i env) = .ok u ∧ u.active = some i ∧
          disconnected (u.connections i) = true := by
  have hs := run_invariant (threadStep config) (fun _ _ _ hu h ↦ scanInv_step hu h)
    (scanInv_new params) hreach
  have hwhole : s.point.beforeTeardown ∧ s.point.outsideScan := by
    rcases houtside with h | h
    · rw [h]
      exact ⟨trivial, trivial⟩
    · rw [h]
      exact ⟨trivial, trivial⟩
  have hstart : StayingInv config s i [] s := stayingInv_of_established hs hactive hwhole.2
    (hs.phases i (hs.whole hwhole.1 i)) hestablished
  constructor
  · have hkeep : ∀ t a u, (∃ cs, StayingInv config s i cs t) → ¬ GivesUpOn i t a →
        threadStep config t a = .ok u → ∃ cs, StayingInv config s i cs u := by
      rintro t a u ⟨cs, ht⟩ hc h
      exact ⟨cs ++ [a], stayingInv_step ht hc h⟩
    exact always_of_stepsMeet (threadStep config) (fun _ ⟨_, ht⟩ ↦ ht.toStays) hkeep
      ⟨[], hstart⟩ hwaits
  · intro t env hrun hg
    have ht := run_history (threadStep config) (fun _ _ _ _ ht hc h ↦ stayingInv_step ht hc h)
      hstart hwaits hrun
    obtain ⟨lost, attempt, u, htries, hdeadline, hopens⟩ := ht.opens hg
    exact ⟨lost, attempt, u, htries, hdeadline,
      fun hrange ↦ lt_of_eq_of_lt (deadline_eq hrange).symm hdeadline, hopens⟩

/-! ### A reconnect that times out -/

/-- The connection is made the active one and established, and the monitor goes on. -/
def settledRun : List (ThreadAction 1) :=
  enablingRun ++ [.monitor false, .iterate ⟨0, Nat.one_pos⟩ (.plain 0 false),
    .iterate ⟨0, Nat.one_pos⟩ (.plain 50 true), .monitor false, .monitor false]

/-- The connection loses its link, tries again, and the monitor goes on. -/
def retryingRun : List (ThreadAction 1) :=
  [.iterate ⟨0, Nat.one_pos⟩ (.plain 100 false), .iterate ⟨0, Nat.one_pos⟩ (.plain 150 false),
    .monitor false]

/-- A reconnect that is given up after ten seconds was lost and tried before. -/
theorem stays_until_givesUp_retried : ∃ s t,
    run (threadStep .fresh) (.new fun _ ↦ loopback) settledRun = .ok s ∧
      run (threadStep .fresh) s retryingRun = .ok t ∧
      Always (threadStep .fresh) (Stays s 0) s retryingRun ∧
      ∃ lost attempt u, LosesThenTries .fresh s 0 retryingRun lost attempt ∧
        deadline attempt.now 10000 < 10151 ∧
        (InClockRange attempt.now 10000 → attempt.now + 10000 < 10151) ∧
        threadStep .fresh t (.iterate 0 (.plain 10151 false)) = .ok u ∧ u.active = some 0 ∧
        disconnected (u.connections 0) = true := by
  obtain ⟨hstays, hopens⟩ := @stays_until_givesUp _ .fresh (fun _ ↦ loopback) settledRun
    retryingRun _ 0 rfl rfl (.inl rfl) rfl (by
      refine ⟨?_, fun _ h ↦ ?_⟩
      · rintro ⟨env, -, -, hg⟩
        exact absurd hg.connecting (by decide)
      · cases h
        refine ⟨?_, fun _ h ↦ ?_⟩
        · rintro ⟨env, -, -, hg⟩
          exact absurd hg.connecting (by decide)
        · cases h
          refine ⟨?_, fun _ _ ↦ trivial⟩
          rintro ⟨env, h, -⟩
          cases h)
  exact ⟨_, _, rfl, rfl, hstays, hopens _ (.plain 10151 false) rfl
    ⟨_, rfl, rfl, rfl, rfl, rfl, by decide⟩⟩

end Tase2South.Failover
