import Tase2South.Base.Run
import Tase2South.Connection.Preparation

/-!
# The rate of the polls

`executePeriodicTasks`, `src/tase2_client_connection.cpp:247–257`, over whole runs of a
connection: links are lost and made again, and the next polling time stays. A poll is a call of
`handleAllValues`; the next one is due an interval later, as long as the clock is read within its
range.
-/

namespace Tase2South.Connection

open Tase2South.Base Tase2South.Config

/-! ### The polls of a run -/

/-- The time of the poll of a step, if it polls. -/
def pollTime (s : TASE2ClientConnection) (a : Action) (t : TASE2ClientConnection) : List Nat :=
  match a with
  | .iterate env =>
    if .handleAllValues ∈ callsSince s.session t.session then [env.now] else []
  | _ => []

/-- The times of the polls of a run. -/
def pollTimes (config : TASE2ClientConfig) (s : TASE2ClientConnection) (actions : List Action) :
    List Nat :=
  trace (step config) pollTime s actions

/-- An iteration finds the connection connected, its link up and a poll due. -/
def PollDue (config : TASE2ClientConfig) (s : TASE2ClientConnection) (env : IterationEnv) : Prop :=
  s.connectionState = .connected ∧ env.endpointConnected = true ∧ 0 < config.pollingInterval ∧
    s.nextPollingTime ≤ env.now

/-- An iteration that finds a poll due reads the clock within its range, with room for the
interval. -/
def PollFits (config : TASE2ClientConfig) (s : TASE2ClientConnection) : Action → Prop
  | .iterate env => PollDue config s env → InClockRange env.now config.pollingInterval.toNat
  | _ => True

/-- The polls of a run are at least an interval apart; where it ends, an iteration in
`CON_STATE_CONNECTED` with the link up polls if the previous poll is an interval ago or there was
none; without an interval there is no poll. -/
structure PollsOnTime (config : TASE2ClientConfig) (params : ConnectionParams)
    (actions : List Action) : Prop where
  spaced : (pollTimes config (.new params) actions).IsChain fun earlier later ↦
    earlier + config.pollingInterval.toNat ≤ later
  due : ∀ t, run (step config) (.new params) actions = .ok t → ∀ env : IterationEnv,
    t.connectionState = .connected → env.endpointConnected = true → 0 < config.pollingInterval →
      (∀ last ∈ (pollTimes config (.new params) actions).getLast?,
        last + config.pollingInterval.toNat ≤ env.now) →
          ∃ u, step config t (.iterate env) = .ok u ∧ pollTime t (.iterate env) u = [env.now]
  never : config.pollingInterval ≤ 0 → pollTimes config (.new params) actions = []

/-! ### Calls that do not poll -/

/-- The session goes on without a poll. -/
def WithoutPoll (s t : Session) : Prop :=
  ∃ new, t.calls = s.calls ++ new ∧ .handleAllValues ∉ new

private theorem withoutPoll_of_calls_eq {s t : Session} (h : t.calls = s.calls) :
    WithoutPoll s t := ⟨[], by rw [h, List.append_nil], List.not_mem_nil⟩

private theorem withoutPoll_record (s : Session) {calls : List LibCall}
    (h : .handleAllValues ∉ calls) : WithoutPoll s (s.record calls) := ⟨calls, rfl, h⟩

/-- A session that goes on twice without a poll goes on without one. -/
theorem WithoutPoll.trans {s t u : Session} (h : WithoutPoll s t) (k : WithoutPoll t u) :
    WithoutPoll s u := by
  obtain ⟨new, hcalls, hnew⟩ := h
  obtain ⟨new', hcalls', hnew'⟩ := k
  refine ⟨new ++ new', by rw [hcalls', hcalls, List.append_assoc], fun hmem ↦ ?_⟩
  rcases List.mem_append.mp hmem with hmem | hmem
  · exact hnew hmem
  · exact hnew' hmem

/-- What a session without a poll has called since then is no poll. -/
theorem WithoutPoll.notMem {s t : Session} (h : WithoutPoll s t) :
    .handleAllValues ∉ callsSince s t := by
  obtain ⟨new, hcalls, hnew⟩ := h
  rw [callsSince, hcalls, List.drop_left]
  exact hnew

/-- Creating the endpoint does not poll. -/
theorem withoutPoll_createEndpoint (s : Session) (env : PrepareEnv) (config : TASE2ClientConfig)
    (useTls : Bool) : WithoutPoll s (s.createEndpoint env config useTls) := by
  obtain ⟨rest, hcalls, hrest⟩ := calls_createEndpoint s env config useTls
  refine ⟨_, hcalls, fun hmem ↦ ?_⟩
  rcases List.mem_append.mp hmem with hmem | hmem
  · cases useTls with
    | false => cases hmem
    | true => rcases mem_tlsCalls hmem with ⟨_, _, h⟩ | ⟨_, h⟩ <;> cases h
  · rcases hrest _ hmem with ⟨_, h⟩ | ⟨_, h⟩ | ⟨_, _, h⟩ <;> cases h

private theorem withoutPoll_addressed (s : TASE2ClientConnection) (config : TASE2ClientConfig)
    (env : PrepareEnv) (endpoint : Handle) (osiParams : OsiParameters) :
    WithoutPoll s.session (s.addressed config env endpoint osiParams) := by
  have hclient : WithoutPoll (s.attempted config env) (s.addressed config env endpoint osiParams) :=
    ⟨_, (continues_createClient _ endpoint s.serverIp s.tcpPort osiParams env).calls_eq, by simp⟩
  exact (withoutPoll_createEndpoint s.session env config s.useTls).trans hclient

/-- Configuring data sets and transfer sets does not poll. -/
theorem withoutPoll_sets (env : IterationEnv) (s : TASE2ClientConnection) :
    WithoutPoll s.session ((s.configDatasets env).configDsts env).session := by
  obtain ⟨new, hcalls, hnew⟩ := configures_sets env s
  refine ⟨new, hcalls.calls_eq, fun hmem ↦ ?_⟩
  cases hnew _ hmem

/-- Cleaning up does not poll. -/
theorem withoutPoll_cleanUp (s : TASE2ClientConnection) :
    WithoutPoll s.session s.cleanUp.session := by
  refine ⟨_, (continues_cleanUp_sets s).calls_eq, ?_⟩
  unfold releaseCalls
  cases s.session.endpoint <;> cases s.session.tlsConfig <;> simp

/-! ### The poll of a step -/

/-- A step without a poll leaves the next polling time, and no poll was due. -/
structure Waits (config : TASE2ClientConfig) (s t : TASE2ClientConnection) (a : Action) : Prop where
  silent : pollTime s a t = []
  nextPollingTime_eq : t.nextPollingTime = s.nextPollingTime
  notDue : ∀ env, a = .iterate env → ¬ PollDue config s env

/-- A step that polls does so when a poll is due, and sets the next polling time. -/
structure Polls (config : TASE2ClientConfig) (s t : TASE2ClientConnection) (a : Action)
    (env : IterationEnv) : Prop where
  iterates : a = .iterate env
  isDue : PollDue config s env
  poll : pollTime s a t = [env.now]
  nextPollingTime_eq : t.nextPollingTime = deadline env.now config.pollingInterval.toNat

private theorem pollTime_of_withoutPoll {s t : TASE2ClientConnection} {env : IterationEnv}
    (h : WithoutPoll s.session t.session) : pollTime s (.iterate env) t = [] := by
  rw [pollTime, if_neg h.notMem]

private theorem waits_of_withoutPoll {config : TASE2ClientConfig} {s t : TASE2ClientConnection}
    {env : IterationEnv} (h : WithoutPoll s.session t.session)
    (hnext : t.nextPollingTime = s.nextPollingTime)
    (hdue : s.connectionState ≠ .connected ∨ env.endpointConnected = false) :
    Waits config s t (.iterate env) where
  silent := pollTime_of_withoutPoll h
  nextPollingTime_eq := hnext
  notDue := by
    rintro env' ⟨⟩ ⟨hstate, hlink, -⟩
    rcases hdue with hdue | hdue
    · exact hdue hstate
    · rw [hdue] at hlink
      cases hlink

/-- The periodic tasks poll exactly when a poll is due. -/
theorem polls_executePeriodicTasks {config : TASE2ClientConfig} {env : IterationEnv}
    {s : TASE2ClientConnection} (hdue : PollDue config s env) :
    Polls config s (s.executePeriodicTasks config env) (.iterate env) env := by
  obtain ⟨hstate, hlink, hinterval, htime⟩ := hdue
  have htasks : s.executePeriodicTasks config env = { s.record [.handleAllValues] with
      nextPollingTime := deadline env.now config.pollingInterval.toNat } := by
    rw [TASE2ClientConnection.executePeriodicTasks, if_pos ⟨hinterval, htime⟩]
  rw [htasks]
  refine ⟨rfl, ⟨hstate, hlink, hinterval, htime⟩, ?_, rfl⟩
  rw [pollTime, if_pos]
  rw [callsSince]
  simp [TASE2ClientConnection.record]

private theorem waits_executePeriodicTasks {config : TASE2ClientConfig} {env : IterationEnv}
    {s : TASE2ClientConnection} (hstate : s.connectionState = .connected)
    (hlink : env.endpointConnected = true) (hdue : ¬ PollDue config s env) :
    Waits config s (s.executePeriodicTasks config env) (.iterate env) := by
  have hkept : s.executePeriodicTasks config env = s := by
    rw [TASE2ClientConnection.executePeriodicTasks, if_neg]
    exact fun htime ↦ hdue ⟨hstate, hlink, htime⟩
  rw [hkept]
  refine ⟨pollTime_of_withoutPoll (withoutPoll_of_calls_eq rfl), rfl, ?_⟩
  rintro env' ⟨⟩
  exact hdue

/-- A connected iteration with the link up executes the periodic tasks. -/
theorem step_of_connected (config : TASE2ClientConfig) {env : IterationEnv}
    {s : TASE2ClientConnection} (hs : PhaseInv s) (hstate : s.connectionState = .connected)
    (hlink : env.endpointConnected = true) :
    step config s (.iterate env) = .ok (s.executePeriodicTasks config env) := by
  have hconnect : s.connect = true := hs.connect_of_ne_idle (by simp [hstate])
  have hendpoint : s.session.endpoint.isNone = false :=
    Option.isNone_eq_false_iff.mpr (hs.ready (.inr hstate)).1
  rw [step, TASE2ClientConnection.iteration, if_pos hconnect]
  simp only [hstate, TASE2ClientConnection.connectedIteration, hendpoint, hlink,
    Bool.false_eq_true, if_false, if_true]

/-- Every step waits or polls. -/
theorem waits_or_polls {config : TASE2ClientConfig} {s t : TASE2ClientConnection} {a : Action}
    (hs : PhaseInv s) (h : step config s a = .ok t) :
    Waits config s t a ∨ ∃ env, Polls config s t a env := by
  cases a with
  | connect =>
    rw [← Except.ok.inj h]
    exact .inl ⟨rfl, rfl, nofun⟩
  | disconnect =>
    rw [← Except.ok.inj h]
    exact .inl ⟨rfl, rfl, nofun⟩
  | iterate env =>
    cases outcome_iteration hs h with
    | kept hrest =>
      refine .inl (waits_of_withoutPoll (withoutPoll_of_calls_eq rfl) rfl (.inl fun hstate ↦ ?_))
      have hconnect := hs.connect_of_ne_idle (by simp [hstate])
      rcases hrest hconnect with hfatal | ⟨hconnecting, -⟩
      · rw [hfatal] at hstate
        cases hstate
      · rw [hconnecting] at hstate
        cases hstate
    | refused _ hstate _ =>
      exact .inl (waits_of_withoutPoll (withoutPoll_createEndpoint _ _ _ _) rfl
        (.inl (by simp [hstate])))
    | clientless _ hstate endpoint _ osiParams _ _ =>
      exact .inl (waits_of_withoutPoll (withoutPoll_addressed s config env.prepare endpoint
        osiParams) rfl (.inl (by simp [hstate])))
    | issued _ hstate endpoint _ osiParams _ _ _ _ =>
      have hosi : LibCall.handleAllValues ∉ (osiCalls osiParams).map (.endpoint endpoint) := by
        simp
      refine .inl (waits_of_withoutPoll ?_ rfl (.inl (by simp [hstate])))
      exact ((withoutPoll_addressed s config env.prepare endpoint osiParams).trans
        (withoutPoll_record _ hosi)).trans (withoutPoll_record _ (by simp))
    | established _ hstate _ =>
      refine .inl (waits_of_withoutPoll ?_ ?_ (.inl (by simp [hstate])))
      · exact (withoutPoll_sets env s).trans (withoutPoll_record _ (by simp))
      · exact (congrArg TASE2ClientConnection.nextPollingTime
          (configDsts_frame env (s.configDatasets env))).trans rfl
    | timedOut _ hstate _ =>
      exact .inl (waits_of_withoutPoll (withoutPoll_cleanUp s) rfl (.inl (by simp [hstate])))
    | served _ hstate hlink =>
      by_cases hdue : PollDue config s env
      · exact .inr ⟨env, polls_executePeriodicTasks hdue⟩
      · exact .inl (waits_executePeriodicTasks hstate hlink hdue)
    | lost _ _ hlink =>
      exact .inl (waits_of_withoutPoll (withoutPoll_cleanUp s) rfl (.inr hlink))

/-! ### Every run -/

/-- In the range of the clock, each next polling time is an interval after the poll that set it. -/
theorem pollTime_step {config : TASE2ClientConfig} {s t : TASE2ClientConnection} {a : Action}
    (hs : PhaseInv s) (hfits : PollFits config s a) (h : step config s a = .ok t) :
    pollTime s a t = [] ∧ t.nextPollingTime = s.nextPollingTime ∨
      ∃ now, pollTime s a t = [now] ∧ s.nextPollingTime ≤ now ∧
        t.nextPollingTime = now + config.pollingInterval.toNat := by
  rcases waits_or_polls hs h with hwaits | ⟨env, hpolls⟩
  · exact .inl ⟨hwaits.silent, hwaits.nextPollingTime_eq⟩
  · have ha := hpolls.iterates
    subst ha
    refine .inr ⟨env.now, hpolls.poll, hpolls.isDue.2.2.2, ?_⟩
    rw [hpolls.nextPollingTime_eq, deadline_eq (hfits hpolls.isDue)]

/-- Without an interval no step polls. -/
theorem pollTimes_eq_nil {config : TASE2ClientConfig} (hinterval : config.pollingInterval ≤ 0)
    {s : TASE2ClientConnection} (hs : PhaseInv s) (actions : List Action) :
    pollTimes config s actions = [] := by
  have hlength : (pollTimes config s actions).length ≤ 0 := by
    refine length_trace_le (step config) pollTime PhaseInv (fun _ ↦ 0) (fun u a v hu _ h ↦ ?_) hs
      (stepsMeet_true (step config) s actions)
    refine ⟨phaseInv_step hu h, ?_⟩
    rcases waits_or_polls hu h with hwaits | ⟨env, hpolls⟩
    · rw [hwaits.silent, List.length_nil]
    · have hpositive := hpolls.isDue.2.2.1
      omega
  exact List.length_eq_zero_iff.mp (Nat.le_zero.mp hlength)

/-- The range is needed: where a reading leaves no room for the interval, the next polling time wraps,
and the poll is due again at once. -/
theorem pollDue_of_wraps {config : TASE2ClientConfig} {env : IterationEnv}
    {s : TASE2ClientConnection} (hdue : PollDue config s env)
    (hwraps : ¬ InClockRange env.now config.pollingInterval.toNat)
    (hinterval : config.pollingInterval.toNat < 2 ^ 64) :
    PollDue config (s.executePeriodicTasks config env) env := by
  obtain ⟨hstate, hlink, hpositive, htime⟩ := hdue
  rw [InClockRange, Nat.not_lt] at hwraps
  rw [TASE2ClientConnection.executePeriodicTasks, if_pos ⟨hpositive, htime⟩]
  refine ⟨hstate, hlink, hpositive, ?_⟩
  change deadline env.now config.pollingInterval.toNat ≤ env.now
  rw [deadline]
  omega

/-- In every run whose clock is read within its range, the polls are on time. -/
theorem pollsOnTime_of_fits {config : TASE2ClientConfig} {params : ConnectionParams}
    {actions : List Action}
    (hfits : StepsMeet (step config) (PollFits config) (.new params) actions) :
    PollsOnTime config params actions := by
  have hrate := trace_spaced (step config) pollTime PhaseInv TASE2ClientConnection.nextPollingTime
    (fun s a t hs hmeet h ↦ ⟨phaseInv_step hs h, pollTime_step hs hmeet h⟩) (phaseInv_new params)
    hfits
  obtain ⟨hspaced, -, hlast⟩ := hrate
  refine ⟨hspaced, ?_, fun hinterval ↦ pollTimes_eq_nil hinterval (phaseInv_new params) actions⟩
  intro t hrun env hstate hlink hinterval hprevious
  obtain ⟨ht, hnext⟩ := hlast t hrun
  have htime : t.nextPollingTime ≤ env.now := by
    rw [hnext]
    change ∀ last ∈ (trace (step config) pollTime (.new params) actions).getLast?, _ at hprevious
    cases hprev : (trace (step config) pollTime (.new params) actions).getLast? with
    | none => exact Nat.zero_le _
    | some last =>
      rw [hprev] at hprevious
      exact hprevious last rfl
  exact ⟨t.executePeriodicTasks config env, step_of_connected config ht hstate hlink,
    (polls_executePeriodicTasks ⟨hstate, hlink, hinterval, htime⟩).poll⟩

/-- A configuration that polls every ten milliseconds. -/
def pollingConfig : TASE2ClientConfig := { TASE2ClientConfig.fresh with pollingInterval := 10 }

/-- A connection is established and finds its link up at the given times. -/
def pollingRun (times : List Nat) : List Action :=
  [.connect, .iterate (.plain 0 false), .iterate (.plain 50 true)] ++
    times.map fun now ↦ .iterate (.plain now true)

/-- A run whose clock is read as usual polls on time. -/
theorem pollsOnTime_of_fits_usual :
    PollsOnTime pollingConfig loopback (pollingRun [60, 65, 70]) := by
  refine pollsOnTime_of_fits (stepsMeet_of_forall (step pollingConfig) ?_ _)
  intro a ha s
  simp only [pollingRun, List.map_cons, List.map_nil, List.cons_append, List.nil_append,
    List.mem_cons, List.not_mem_nil, or_false] at ha
  rcases ha with rfl | rfl | rfl | rfl | rfl | rfl
  · trivial
  all_goals
    intro _
    decide

end Tase2South.Connection
