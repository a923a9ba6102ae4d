import Tase2South.Failover.Teardown

/-!
# From which states a client recovers

The monitor, `src/tase2_client.cpp:207–285`, and the threads of the connections can always bring a
client back to an established connection, whatever has failed before, except where a connection
failed with `m_connected` still set.
-/

namespace Tase2South.Failover

open Tase2South.Base Tase2South.Config Tase2South.Connection

variable {n : Nat}

/-- What connecting takes: OSI parameters, and with TLS a certificate and a key of its own. -/
structure Connectable (config : TASE2ClientConfig) (params : ConnectionParams) : Prop where
  osi : params.osiParameters.isSome
  certified : params.useTls = true →
    config.ownCertificate.isEmpty = false ∧ config.privateKey.isEmpty = false

/-- Some steps, none of which stops the client, lead to an active connection that is
established. -/
def Recoverable (config : TASE2ClientConfig) (s : ClientState n) : Prop :=
  ∃ actions t, .stop ∉ actions ∧ run (threadStep config) s actions = .ok t ∧
    ∃ i, t.active = some i ∧ (t.connections i).connectionState = .connected

/-- A connection failed with `m_connected` set, and the monitor is not about to disconnect it. -/
def StuckOn (s : ClientState n) (i : Fin n) : Prop :=
  (s.connections i).connectionState = .fatalError ∧ (s.connections i).connected = true ∧
    s.point ≠ .disconnect i

/-! ### One connection -/

section

variable {config : TASE2ClientConfig} {c : TASE2ClientConnection}

/-- How many iterations an enabled connection is away from being established. -/
def ConState.away : ConState → Nat
  | .connected => 0
  | .connecting => 1
  | _ => 2

/-- When everything outside succeeds, an endpoint is obtained. -/
theorem obtainsEndpoint_plain {params : ConnectionParams} (h : Connectable config params)
    (now : Nat) (link : Bool) :
    obtainsEndpoint (IterationEnv.plain now link).prepare config params.useTls = true := by
  rw [obtainsEndpoint_eq_true_iff]
  refine ⟨fun htls ↦ ?_, rfl⟩
  obtain ⟨hcertificate, hkey⟩ := h.certified htls
  simp [tlsConfigOk, hcertificate, hkey, IterationEnv.plain]

/-- When everything outside succeeds, an attempt gets as far as the connect. -/
theorem iteration_of_idle (hphase : PhaseInv c) (h : Connectable config c.toConnectionParams)
    (hconnect : c.connect = true) (hstate : c.connectionState = .idle) (now : Nat) (link : Bool) :
    ∃ d, c.iteration config (.plain now link) = .ok d ∧ d.connectionState = .connecting := by
  have hnone := hphase.released hstate
  have hobtains := obtainsEndpoint_plain h now link
  rw [← Session.isSome_endpoint_createEndpoint hnone] at hobtains
  obtain ⟨endpoint, hendpoint⟩ := Option.isSome_iff_exists.mp hobtains
  obtain ⟨osiParams, hosi⟩ := Option.isSome_iff_exists.mp h.osi
  rw [TASE2ClientConnection.iteration, if_pos hconnect, hstate]
  exact ⟨_, idleIteration_of_obtained hnone hendpoint hosi, rfl⟩

/-- With the link up, a connection that is connecting is established. -/
theorem iteration_of_connecting (hphase : PhaseInv c) (hconnect : c.connect = true)
    (hstate : c.connectionState = .connecting) (now : Nat) :
    ∃ d, c.iteration config (.plain now true) = .ok d ∧ d.connectionState = .connected := by
  obtain ⟨endpoint, hendpoint⟩ := Option.isSome_iff_exists.mp (hphase.ready (.inl hstate)).1
  rw [TASE2ClientConnection.iteration, if_pos hconnect, hstate]
  dsimp only
  rw [TASE2ClientConnection.connectingIteration, if_neg (by simp [hendpoint])]
  exact ⟨_, rfl, rfl⟩

/-- An iteration brings an enabled connection that has not failed nearer to being established. -/
theorem exists_iteration_nearer (hphase : PhaseInv c)
    (h : Connectable config c.toConnectionParams) (hconnect : c.connect = true)
    (hfailed : c.connectionState ≠ .fatalError) (haway : c.connectionState ≠ .connected) :
    ∃ d, c.iteration config (.plain 0 true) = .ok d ∧ d.connectionState ≠ .fatalError ∧
      ConState.away d.connectionState < ConState.away c.connectionState := by
  cases hstate : c.connectionState with
  | idle =>
    obtain ⟨d, hd, hconnecting⟩ := iteration_of_idle hphase h hconnect hstate 0 true
    exact ⟨d, hd, by simp [hconnecting], by simp [hconnecting, ConState.away]⟩
  | connecting =>
    obtain ⟨d, hd, hconnected⟩ := iteration_of_connecting hphase hconnect hstate 0
    exact ⟨d, hd, by simp [hconnected], by simp [hconnected, ConState.away]⟩
  | connected => exact absurd hstate haway
  | closed => exact absurd hstate hphase.entered.1
  | waitForReconnect => exact absurd hstate hphase.entered.2
  | fatalError => exact absurd hstate hfailed

end

/-! ### The monitor comes round -/

section

variable {config : TASE2ClientConfig} {params : Fin n → ConnectionParams} {s t : ClientState n}

/-- The threads of the connections that the monitor has started run. -/
def ClientState.runs (s : ClientState n) : Prop :=
  match s.point with
  | .begin => True
  | .start i => ∀ j, j < i → s.threads j = .running
  | _ => ∀ j, s.threads j = .running

/-- What holds of a client that was not stopped. -/
structure RoundInv (params : Fin n → ConnectionParams) (s : ClientState n) : Prop where
  teardown : TeardownInv params s
  looping : s.started = true → s.point.beforeTeardown
  runs : s.started = true → s.runs

/-- A client that was just started satisfies the invariant. -/
theorem roundInv_new (params : Fin n → ConnectionParams) : RoundInv params (.new params) where
  teardown := teardownInv_new params
  looping _ := trivial
  runs _ := trivial

/-- Where all threads run, they do wherever the monitor goes. -/
theorem runs_of_forall (h : ∀ j, s.threads j = .running) : s.runs := by
  cases hpoint : s.point with
  | begin => simp only [ClientState.runs, hpoint]
  | start i =>
    simp only [ClientState.runs, hpoint]
    exact fun j _ ↦ h j
  | _ =>
    simp only [ClientState.runs, hpoint]
    exact h

private theorem runs_monitor (hs : RoundInv params s) (hstarted : s.started = true)
    (timedOut : Bool) : (s.monitor timedOut).runs := by
  have hruns := hs.runs hstarted
  have hbefore := hs.looping hstarted
  cases hpoint : s.point with
  | begin =>
    simp only [ClientState.monitor, hpoint, hstarted, if_true, MonitorPoint.first]
    split
    · exact fun j hj ↦ absurd hj (Nat.not_lt_zero _)
    · next hn => exact fun j ↦ absurd j.pos hn
  | start i =>
    simp only [ClientState.runs, hpoint] at hruns
    have hnext : ∀ j : Fin n, (j : Nat) < i + 1 →
        Function.update s.threads i .running j = .running := by
      intro j hj
      by_cases hij : j = i
      · rw [hij, Function.update_self]
      · rw [Function.update_of_ne hij]
        have hne : (j : Nat) ≠ i := fun h ↦ hij (Fin.ext h)
        exact hruns j (Fin.lt_def.mpr (by omega))
    simp only [ClientState.monitor, hpoint, MonitorPoint.next]
    split
    · exact hnext
    · next hlast => exact fun j ↦ hnext j (by omega)
  | delete i =>
    rw [hpoint] at hbefore
    exact hbefore.elim
  | ended =>
    rw [hpoint] at hbefore
    exact hbefore.elim
  | _ =>
    apply runs_of_forall
    simp only [ClientState.runs, hpoint] at hruns
    simp only [ClientState.monitor, hpoint]
    exact hruns

/-- Every step of a client and its threads keeps the invariant. -/
theorem roundInv_step {a : ThreadAction n} (hs : RoundInv params s)
    (h : threadStep config s a = .ok t) : RoundInv params t := by
  have hteardown := teardownInv_step hs.teardown h
  cases a with
  | stop =>
    rw [← Except.ok.inj h] at hteardown ⊢
    exact ⟨hteardown, by simp, by simp⟩
  | iterate i env =>
    rcases iterate_eq_ok h with ⟨-, rfl⟩ | ⟨-, c, -, rfl⟩
    · exact hs
    · exact ⟨hteardown, hs.looping, hs.runs⟩
  | monitor timedOut =>
    rw [← Except.ok.inj h] at hteardown ⊢
    refine ⟨hteardown, looping_monitor hs.looping timedOut, fun hstarted ↦ ?_⟩
    rw [started_monitor] at hstarted
    exact runs_monitor hs hstarted timedOut

/-- A bound on the statements up to the next test of `m_started`. -/
def MonitorPoint.untilTest : MonitorPoint n → Nat
  | .begin => n + 1
  | .start i => n - i
  | point => point.rank

/-- During a pass, the bound is the rank. -/
theorem untilTest_of_scanning {point : MonitorPoint n} (h : point.scanning) :
    point.untilTest = point.rank := by
  cases point with
  | begin => exact h.elim
  | start i => exact h.elim
  | _ => rfl

/-- While a client is started, each statement brings its monitor nearer to the next test, when
waits time out. -/
theorem untilTest_monitor (hstarted : s.started = true) (hbefore : s.point.beforeTeardown)
    (htest : s.point ≠ .loopTest) : (s.monitor true).point.untilTest < s.point.untilTest := by
  cases hpoint : s.point with
  | begin =>
    simp only [ClientState.monitor, hpoint, hstarted, if_true, MonitorPoint.first]
    split
    · simp only [MonitorPoint.untilTest]
      omega
    · simp only [MonitorPoint.untilTest, MonitorPoint.rank]
      omega
  | start i =>
    have hi := i.isLt
    simp only [ClientState.monitor, hpoint, MonitorPoint.next]
    split
    · simp only [MonitorPoint.untilTest]
      omega
    · simp only [MonitorPoint.untilTest, MonitorPoint.rank]
      omega
  | delete i =>
    rw [hpoint] at hbefore
    exact hbefore.elim
  | ended =>
    rw [hpoint] at hbefore
    exact hbefore.elim
  | loopTest => exact absurd hpoint htest
  | _ =>
    have hscanning : s.point.scanning := by rw [hpoint]; trivial
    obtain ⟨hnext, hless | ⟨hfalse, -⟩⟩ := rank_monitor hscanning htest true
    · rw [← hpoint, untilTest_of_scanning hscanning, untilTest_of_scanning hnext]
      exact hless
    · cases hfalse

/-- No connection failed with `m_connected` set, but for one that is about to be disconnected. -/
def Unstuck (s : ClientState n) : Prop := ∀ i, ¬ StuckOn s i

/-- Where no connection is stuck, no other connection failed with `m_connected` set. -/
theorem Unstuck.connected_eq_false (hs : Unstuck s) {i : Fin n} (hpoint : s.point ≠ .disconnect i)
    (hfatal : (s.connections i).connectionState = .fatalError) :
    (s.connections i).connected = false := by
  cases hconnected : (s.connections i).connected with
  | false => rfl
  | true => exact absurd ⟨hfatal, hconnected, hpoint⟩ (hs i)

/-- A statement of the monitor leaves no connection stuck. -/
theorem unstuck_monitor (hs : Unstuck s) (hbefore : s.point.beforeTeardown) (timedOut : Bool) :
    Unstuck (s.monitor timedOut) := by
  rintro i ⟨hfatal, hconnected, -⟩
  cases hpoint : s.point with
  | connect j =>
    simp only [ClientState.monitor, hpoint] at hfatal hconnected
    have hold : ∀ k, (s.connections k).connectionState = .fatalError →
        (s.connections k).connected = false :=
      fun k ↦ hs.connected_eq_false (by simp [hpoint])
    have hj : ({ s.connections j with connect := true } : TASE2ClientConnection).connectionState =
        .fatalError → (s.connections j).connected = false := hold j
    rw [failed_update hold hj i hfatal] at hconnected
    cases hconnected
  | disconnect j =>
    simp only [ClientState.monitor, hpoint] at hfatal hconnected
    by_cases hij : i = j
    · subst hij
      rw [show _ = (s.connections i).disconnect from connections_update_self s i _] at hfatal
      cases hfatal
    · rw [show _ = s.connections i from connections_update_of_ne s hij _] at hfatal hconnected
      have hne : s.point ≠ .disconnect i := by
        rw [hpoint]
        exact fun h ↦ hij (MonitorPoint.disconnect.inj h).symm
      rw [hs.connected_eq_false hne hfatal] at hconnected
      cases hconnected
  | delete j =>
    rw [hpoint] at hbefore
    exact hbefore.elim
  | _ =>
    simp only [ClientState.monitor, hpoint] at hfatal hconnected
    rw [hs.connected_eq_false (by simp [hpoint]) hfatal] at hconnected
    cases hconnected

/-- A started client of which no connection is stuck gets to the next test of `m_started` by
statements of the monitor alone. -/
theorem exists_run_to_test (config : TASE2ClientConfig) (hs : RoundInv params s)
    (hstarted : s.started = true) (hunstuck : Unstuck s) :
    ∃ actions t, (∀ a ∈ actions, a = .monitor true) ∧
      run (threadStep config) s actions = .ok t ∧
        (RoundInv params t ∧ t.started = true ∧ Unstuck t) ∧ t.point = .loopTest := by
  apply exists_run_of_rank (threadStep config) (fun u ↦ u.point.untilTest) (fun u hu htest ↦ ?_)
    ⟨hs, hstarted, hunstuck⟩
  obtain ⟨hround, hstart, hfree⟩ := hu
  have hbefore := hround.looping hstart
  have hstep : threadStep config u (.monitor true) = .ok (u.monitor true) := rfl
  refine ⟨.monitor true, u.monitor true, rfl, hstep, ⟨?_, ?_, ?_⟩, ?_⟩
  · exact roundInv_step hround hstep
  · exact (started_monitor u true).trans hstart
  · exact unstuck_monitor hfree hbefore true
  · exact untilTest_monitor hstart hbefore htest

/-! ### The active connection is established -/

/-- The active connection is enabled, its thread runs, and it has not failed. -/
structure OnItsWay (params : Fin n → ConnectionParams) (s : ClientState n) (i : Fin n) :
    Prop where
  round : RoundInv params s
  running : s.threads i = .running
  active : s.active = some i
  connect : (s.connections i).connect = true
  alive : (s.connections i).connectionState ≠ .fatalError

/-- An iteration in which everything outside succeeds brings it nearer to being established. -/
theorem OnItsWay.exists_nearer {i : Fin n} (hs : OnItsWay params s i)
    (h : Connectable config (params i)) (haway : (s.connections i).connectionState ≠ .connected) :
    ∃ t, threadStep config s (.iterate i (.plain 0 true)) = .ok t ∧ OnItsWay params t i ∧
      ConState.away (t.connections i).connectionState <
        ConState.away (s.connections i).connectionState := by
  have hexists : s.threads i ≠ .deleted := by simp [hs.running]
  have hphase := hs.round.teardown.scan.phases i hexists
  have hparams := (hs.round.teardown.protocol i hexists).params_eq
  obtain ⟨d, hd, halive, hless⟩ :=
    exists_iteration_nearer hphase (hparams ▸ h) hs.connect hs.alive haway
  have hstep : threadStep config s (.iterate i (.plain 0 true)) = .ok (s.update i d) := by
    have hpolls : polls config (.plain 0 true) (s.connections i) = false := by
      simp [polls, haway]
    rw [threadStep, ClientState.iterate, if_pos hs.running, hd]
    simp only [hpolls, Bool.false_eq_true, false_and, if_false]
  have hround := roundInv_step hs.round hstep
  have hself := connections_update_self s i d
  have hphased := hround.teardown.scan.phases i hexists
  rw [hself] at hphased
  refine ⟨s.update i d, hstep, ⟨hround, hs.running, hs.active, ?_, ?_⟩, ?_⟩
  · rw [hself]
    apply hphased.connect_of_ne_idle
    intro hidle
    have hmost : ConState.away (s.connections i).connectionState ≤ 2 := by
      cases (s.connections i).connectionState <;> simp [ConState.away]
    rw [hidle, show ConState.away .idle = 2 from rfl] at hless
    omega
  · rw [hself]
    exact halive
  · rw [hself]
    exact hless

/-- From there on iterations of the active connection are enough. -/
theorem OnItsWay.recoverable {i : Fin n} (hs : OnItsWay params s i)
    (h : Connectable config (params i)) : Recoverable config s := by
  obtain ⟨actions, t, hallowed, hrun, ht, hconnected⟩ := exists_run_of_rank (threadStep config)
    (fun u ↦ ConState.away (u.connections i).connectionState)
    (fun u (hu : OnItsWay params u i) haway ↦ by
      obtain ⟨v, hv, hnext, hless⟩ := hu.exists_nearer h haway
      exact ⟨.iterate i (.plain 0 true), v, rfl, hv, hnext, hless⟩) hs
  refine ⟨actions, t, fun hstop ↦ ?_, hrun, i, ht.active, hconnected⟩
  cases hallowed _ hstop

/-- At the test of `m_started`, an active connection that does not count as disconnected is on its
way. -/
theorem RoundInv.onItsWay {i : Fin n} (hs : RoundInv params s) (hstarted : s.started = true)
    (hunstuck : Unstuck s) (htest : s.point = .loopTest) (hactive : s.active = some i)
    (husable : disconnected (s.connections i) = false) : OnItsWay params s i := by
  have hscan := hs.teardown.scan
  have hbefore : s.point.beforeTeardown := by rw [htest]; trivial
  have hphase := hscan.phases i (hscan.whole hbefore i)
  have hconnect : (s.connections i).connect = true := by
    rw [← Bool.not_eq_false]
    intro hoff
    obtain ⟨-, hconnecting, hconnected⟩ := hphase.resting hoff
    simp [disconnected, hconnecting, hconnected] at husable
  have hruns := hs.runs hstarted
  simp only [ClientState.runs, htest] at hruns
  refine ⟨hs, hruns i, hactive, hconnect, fun hfatal ↦ ?_⟩
  have hlinked := hscan.linked (by rw [htest]; trivial) i hactive hconnect
  rw [hunstuck.connected_eq_false (by simp [htest]) hfatal] at hlinked
  cases hlinked

/-- Without a usable active connection, the scan enables the first one and makes it the active
one. -/
theorem RoundInv.exists_enabled (config : TASE2ClientConfig) (hn : 0 < n) (hs : RoundInv params s)
    (hstarted : s.started = true) (htest : s.point = .loopTest)
    (hunusable : (s.active.all fun i ↦ disconnected (s.connections i)) = true) :
    ∃ t, run (threadStep config) s (List.replicate 4 (.monitor true)) = .ok t ∧
      OnItsWay params t ⟨0, hn⟩ := by
  have hscan := hs.teardown.scan
  have hbefore : s.point.beforeTeardown := by rw [htest]; trivial
  have hdisabled := hscan.disabled_of_disconnected (by rw [htest]; trivial) fun i hi ↦ by
    simp only [hi, Option.all_some, disconnected, Bool.and_eq_true, Bool.not_eq_true'] at hunusable
    exact hunusable.2
  have hidle := ((hscan.exclusive hbefore).resting ⟨0, hn⟩ (hdisabled ⟨0, hn⟩)).1
  have hrun : run (threadStep config) s (List.replicate 4 (.monitor true)) =
      .ok { s.update ⟨0, hn⟩ { s.connections ⟨0, hn⟩ with connect := true } with
        active := some ⟨0, hn⟩, started := true, point := .awaitConnected ⟨0, hn⟩ } := by
    simp only [List.replicate, run, threadStep, ClientState.monitor, htest, hstarted, hunusable,
      if_true, MonitorPoint.first, hn, dite_true]
    rfl
  have hround := run_invariant (threadStep config) (fun _ _ _ hu h ↦ roundInv_step hu h) hs hrun
  have hruns := hs.runs hstarted
  simp only [ClientState.runs, htest] at hruns
  refine ⟨_, hrun, hround, hruns ⟨0, hn⟩, rfl, ?_, ?_⟩
  · exact congrArg TASE2ClientConnection.connect (connections_update_self s ⟨0, hn⟩ _)
  · rw [show ∀ c, ((s.update ⟨0, hn⟩ c).connections ⟨0, hn⟩) = c from
      fun c ↦ connections_update_self s ⟨0, hn⟩ c]
    rw [hidle]
    simp

/-- A started client of which no connection is stuck recovers. -/
theorem RoundInv.recoverable (hs : RoundInv params s) (hn : 0 < n)
    (hconnectable : ∀ i, Connectable config (params i)) (hstarted : s.started = true)
    (hunstuck : Unstuck s) : Recoverable config s := by
  obtain ⟨first, u, hfirst, hrunFirst, ⟨hround, hstart, hfree⟩, htest⟩ :=
    exists_run_to_test config hs hstarted hunstuck
  have hway : ∃ more t i, .stop ∉ more ∧ run (threadStep config) u more = .ok t ∧
      OnItsWay params t i := by
    by_cases hunusable : (u.active.all fun i ↦ disconnected (u.connections i)) = true
    · obtain ⟨t, hrun, ht⟩ := hround.exists_enabled config hn hstart htest hunusable
      exact ⟨_, t, _, by simp, hrun, ht⟩
    · obtain ⟨i, hactive, husable⟩ : ∃ i, u.active = some i ∧
          disconnected (u.connections i) = false := by
        cases hactive : u.active with
        | none => simp [hactive] at hunusable
        | some i => exact ⟨i, rfl, by simpa [hactive] using hunusable⟩
      exact ⟨[], u, i, by simp, rfl, hround.onItsWay hstart hfree htest hactive husable⟩
  obtain ⟨more, v, i, hmore, hrunMore, hv⟩ := hway
  obtain ⟨last, t, hlast, hrunLast, hend⟩ := hv.recoverable (hconnectable i)
  refine ⟨first ++ (more ++ last), t, ?_, ?_, hend⟩
  · simp only [List.mem_append, not_or]
    refine ⟨fun h ↦ ?_, hmore, hlast⟩
    cases hfirst _ h
  · exact run_append_eq_ok _ hrunFirst (run_append_eq_ok _ hrunMore hrunLast)

/-! ### A connection that is stuck -/

/-- While the monitor is about to make a stuck connection the active one. -/
structure BlockedSoon (s : ClientState n) (i : Fin n) : Prop where
  scan : ScanInv s
  started : s.started = true
  failed : (s.connections i).connectionState = .fatalError
  connected : (s.connections i).connected = true
  point : s.point = .assign i

/-- An iteration leaves a connection that failed as it is. -/
theorem iteration_of_fatalError {c d : TASE2ClientConnection} {env : IterationEnv}
    (hfatal : c.connectionState = .fatalError) (h : c.iteration config env = .ok d) : d = c := by
  rw [TASE2ClientConnection.iteration, hfatal] at h
  dsimp only at h
  split at h
  · exact (Except.ok.inj h).symm
  · exact (Except.ok.inj h).symm

/-- The next statement of the monitor blocks the client, and no other step changes that. -/
theorem BlockedSoon.step {i : Fin n} (hs : BlockedSoon s i) {a : ThreadAction n} (ha : a ≠ .stop)
    (h : threadStep config s a = .ok t) : BlockedSoon t i ∨ Blocked t i := by
  have hscan := scanInv_step hs.scan h
  cases a with
  | stop => exact absurd rfl ha
  | iterate j env =>
    rcases iterate_eq_ok h with ⟨-, rfl⟩ | ⟨-, c, hc, rfl⟩
    · exact .inl hs
    · have hsame : (s.update j c).connections i = s.connections i := by
        by_cases hij : i = j
        · subst hij
          rw [connections_update_self, iteration_of_fatalError hs.failed hc]
        · exact connections_update_of_ne s hij c
      refine .inl ⟨hscan, hs.started, ?_, ?_, hs.point⟩
      · rw [hsame]
        exact hs.failed
      · rw [hsame]
        exact hs.connected
  | monitor timedOut =>
    rw [← Except.ok.inj h] at hscan ⊢
    simp only [ClientState.monitor, hs.point] at hscan ⊢
    exact .inr ⟨hscan, hs.started, rfl, hs.failed, hs.connected, .inr rfl⟩

/-- A stuck connection blocks the client, or is about to. -/
theorem RoundInv.blocked {i : Fin n} (hs : RoundInv params s) (hstarted : s.started = true)
    (hstuck : StuckOn s i) : BlockedSoon s i ∨ Blocked s i := by
  obtain ⟨hfatal, hconnected, hpoint⟩ := hstuck
  have hscan := hs.teardown.scan
  have hbefore := hs.looping hstarted
  have hconnect := (hscan.phases i (hscan.whole hbefore i)).connect_of_ne_idle (by simp [hfatal])
  have hcandidate := hscan.only i hconnect
  by_cases hassign : s.point = .assign i
  · exact .inl ⟨hscan, hstarted, hfatal, hconnected, hassign⟩
  · have hactive := hscan.active_of_connect hconnect hassign
    refine .inr ⟨hscan, hstarted, hactive, hfatal, hconnected, ?_⟩
    cases h : s.point with
    | connect j => simp [ClientState.candidate, h] at hcandidate
    | clear j => simp [ClientState.candidate, h] at hcandidate
    | assign j =>
      simp only [ClientState.candidate, h, Option.some.injEq] at hcandidate
      exact absurd (h.trans (by rw [hcandidate])) hassign
    | awaitConnected j =>
      simp only [ClientState.candidate, h, Option.some.injEq] at hcandidate
      exact .inr (by rw [hcandidate])
    | disconnect j =>
      simp only [ClientState.candidate, h, Option.some.injEq] at hcandidate
      exact absurd (h.trans (by rw [hcandidate])) hpoint
    | _ =>
      rw [h] at hbefore
      exact .inl ⟨trivial, hbefore⟩

/-- A client that is blocked, or is about to be, has no active connection that is established. -/
theorem not_established_of_blocked {i j : Fin n} (hs : BlockedSoon s i ∨ Blocked s i)
    (hactive : s.active = some j) : (s.connections j).connectionState ≠ .connected := by
  intro hconnected
  rcases hs with hs | hs
  · have hexists := hs.scan.whole (by rw [hs.point]; trivial) j
    have hconnect := (hs.scan.phases j hexists).connect_of_ne_idle (by simp [hconnected])
    have hcandidate := hs.scan.only j hconnect
    simp only [ClientState.candidate, hs.point, Option.some.injEq] at hcandidate
    rw [← hcandidate, hs.failed] at hconnected
    cases hconnected
  · have hij : i = j := Option.some.inj (hs.active.symm.trans hactive)
    rw [← hij, hs.failed] at hconnected
    cases hconnected

/-- A client with a stuck connection does not recover. -/
theorem RoundInv.not_recoverable {i : Fin n} (hs : RoundInv params s) (hstarted : s.started = true)
    (hstuck : StuckOn s i) : ¬ Recoverable config s := by
  rintro ⟨actions, t, hstop, hrun, j, hactive, hconnected⟩
  have hmeet := stepsMeet_of_forall (threadStep config)
    (fun a ha (_ : ClientState n) ↦ show a ≠ .stop from fun h ↦ hstop (h ▸ ha)) s
  have hblocked := run_invariant_of_stepsMeet (threadStep config)
    (fun u a v (hu : BlockedSoon u i ∨ Blocked u i) ha hstep ↦ by
      rcases hu with hu | hu
      · exact hu.step ha hstep
      · exact .inr (hu.step ha hstep).1) (hs.blocked hstarted hstuck) hmeet hrun
  exact not_established_of_blocked hblocked hactive hconnected

end

/-- From every reachable state in which the client is not stopped, with at least one connection
and every connection connectable, an established active connection can be reached, exactly when
no connection has failed with `m_connected` set, but for one that the monitor is about to
disconnect. -/
theorem recoverable_iff_unstuck {config : TASE2ClientConfig} {params : Fin n → ConnectionParams}
    (hn : 0 < n) (hconnectable : ∀ i, Connectable config (params i))
    {actions : List (ThreadAction n)} {s : ClientState n}
    (hreach : run (threadStep config) (.new params) actions = .ok s)
    (hstarted : s.started = true) : Recoverable config s ↔ ∀ i, ¬ StuckOn s i := by
  have hs := run_invariant (threadStep config) (fun _ _ _ hu h ↦ roundInv_step hu h)
    (roundInv_new params) hreach
  constructor
  · exact fun h i hstuck ↦ hs.not_recoverable hstarted hstuck h
  · exact fun h ↦ hs.recoverable hn hconnectable hstarted h

/-- The equivalence holds of a client that has just lost its link. -/
theorem recoverable_iff_unstuck_lostLink : ∃ s,
    run (threadStep certifiedConfig) (.new fun _ ↦ loopback) lostLinkRun = .ok s ∧
      Recoverable certifiedConfig s := by
  refine ⟨_, rfl, ?_⟩
  apply (@recoverable_iff_unstuck _ certifiedConfig (fun _ ↦ loopback) Nat.one_pos _ lostLinkRun _
    rfl rfl).mpr
  · intro i
    rw [Subsingleton.elim i 0]
    rintro ⟨hfatal, -⟩
    exact absurd (show ConState.idle = .fatalError from hfatal) (by decide)
  · exact fun _ ↦ ⟨rfl, fun _ ↦ ⟨rfl, rfl⟩⟩

end Tase2South.Failover
