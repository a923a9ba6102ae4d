import Tase2South.Failover.Polling

/-!
# Failover is not blocked

The failover test, `src/tase2_client.cpp:228–229`, relies on `Disconnected ()`
(`include/tase2_client_connection.hpp:30–34`), and `CON_STATE_FATAL_ERROR` has no way out but
`Disconnect ()`. A link that is lost leaves `m_connected` set, so that a reconnect which fails
ends in that state with a flag that says connected.
-/

namespace Tase2South.Failover

open Tase2South.Base Tase2South.Config Tase2South.Connection

variable {n : Nat}

/-- At the failover test, an active connection in `CON_STATE_FATAL_ERROR` counts as
disconnected. -/
def FailoverOpen (s : ClientState n) : Prop :=
  s.point = .failoverTest → ∀ i, s.active = some i →
    (s.connections i).connectionState = .fatalError → disconnected (s.connections i) = true

/-- A client that was not stopped idles forever on a connection in `CON_STATE_FATAL_ERROR`:
whatever its threads do, it stays the active one and no connection changes. -/
def IdlesForever (config : TASE2ClientConfig) (s : ClientState n) : Prop :=
  s.started = true ∧ ∃ i, s.active = some i ∧
    (s.connections i).connectionState = .fatalError ∧
      ∀ actions t, .stop ∉ actions → run (threadStep config) s actions = .ok t →
        t.active = some i ∧ t.connections = s.connections

/-- Every attempt to connect again, with `m_connected` still set, gets as far as
`CON_STATE_CONNECTING`. -/
def ReconnectSucceeds (config : TASE2ClientConfig) (s : ClientState n) : ThreadAction n → Prop
  | .iterate i env => s.threads i = .running → (s.connections i).connected = true →
      (s.connections i).connect = true → (s.connections i).connectionState = .idle →
        obtainsEndpoint env.prepare config (s.connections i).useTls = true ∧
          env.prepare.clientCreated = true ∧ env.errorOk = true
  | .monitor _ => True
  | .stop => True

/-! ### While every reconnect succeeds -/

/-- The invariant of the scan, with `m_connected` reset in `CON_STATE_FATAL_ERROR`; the monitor
leaves its loop only when the client is stopped. -/
structure RecoveryInv (s : ClientState n) : Prop where
  scan : ScanInv s
  looping : s.started = true → s.point.beforeTeardown
  failed : ∀ i, (s.connections i).connectionState = .fatalError →
    (s.connections i).connected = false

/-- An iteration that reconnects, if at all, with success does not fail with `m_connected`
set. -/
theorem failed_of_iteration {config : TASE2ClientConfig} {env : IterationEnv}
    {s t : TASE2ClientConnection} (hphase : PhaseInv s)
    (hs : s.connectionState = .fatalError → s.connected = false)
    (hsucceeds : s.connected = true → s.connect = true → s.connectionState = .idle →
      obtainsEndpoint env.prepare config s.useTls = true ∧ env.prepare.clientCreated = true ∧
        env.errorOk = true)
    (h : s.iteration config env = .ok t) (hfatal : t.connectionState = .fatalError) :
    t.connected = false := by
  have hidle : s.connect = true → s.connectionState = .idle →
      ¬ (obtainsEndpoint env.prepare config s.useTls = true ∧ env.prepare.clientCreated = true ∧
        env.errorOk = true) → s.connected = false := by
    intro hconnect hstate hn
    cases hc : s.connected with
    | false => rfl
    | true => exact absurd (hsucceeds hc hconnect hstate) hn
  cases outcome_iteration hphase h with
  | kept _ => exact hs hfatal
  | refused hconnect hstate hobtains =>
    exact hidle hconnect hstate fun hn ↦ by simp [hobtains] at hn
  | clientless hconnect hstate _ _ _ _ hclient =>
    exact hidle hconnect hstate fun hn ↦ by simp [hclient] at hn
  | issued hconnect hstate _ _ _ _ _ state hissued =>
    refine hidle hconnect hstate fun hn ↦ ?_
    rw [hn.2.2, if_pos rfl] at hissued
    rw [hissued] at hfatal
    cases hfatal
  | established _ _ _ => cases hfatal
  | timedOut _ _ _ => cases hfatal
  | served _ hstate _ =>
    obtain ⟨calls, next, heq, -⟩ := s.executePeriodicTasks_eq_record config env
    have hkept : (s.executePeriodicTasks config env).connectionState = s.connectionState := by
      rw [heq]
      rfl
    rw [hkept, hstate] at hfatal
    cases hfatal
  | lost _ _ _ => cases hfatal

/-- Changing one connection so that the flag is reset keeps it reset everywhere. -/
theorem failed_update {s : ClientState n}
    (hs : ∀ i, (s.connections i).connectionState = .fatalError →
      (s.connections i).connected = false) {i : Fin n} {c : TASE2ClientConnection}
    (hc : c.connectionState = .fatalError → c.connected = false) (j : Fin n)
    (hj : ((s.update i c).connections j).connectionState = .fatalError) :
    ((s.update i c).connections j).connected = false := by
  by_cases h : j = i
  · subst h
    rw [connections_update_self] at hj ⊢
    exact hc hj
  · rw [connections_update_of_ne s h] at hj ⊢
    exact hs j hj

/-- No statement of the monitor stops the client. -/
@[simp] theorem started_monitor (s : ClientState n) (timedOut : Bool) :
    (s.monitor timedOut).started = s.started := by
  unfold ClientState.monitor
  cases s.point <;> rfl

/-- A statement of the monitor leaves the loop only when the client is stopped. -/
theorem looping_monitor {s : ClientState n} (hs : s.started = true → s.point.beforeTeardown)
    (timedOut : Bool) :
    (s.monitor timedOut).started = true → (s.monitor timedOut).point.beforeTeardown := by
  rw [started_monitor]
  intro hstarted
  have hbefore := hs hstarted
  cases hpoint : s.point with
  | begin =>
    simp only [ClientState.monitor, hpoint, hstarted, if_true]
    exact MonitorPoint.beforeTeardown_first (fun _ ↦ trivial) trivial
  | start i =>
    simp only [ClientState.monitor, hpoint]
    exact MonitorPoint.beforeTeardown_next (fun _ ↦ trivial) trivial
  | loopTest =>
    simp only [ClientState.monitor, hpoint, hstarted, if_true]
    trivial
  | failoverTest =>
    simp only [ClientState.monitor, hpoint]
    split
    · exact MonitorPoint.beforeTeardown_first (fun _ ↦ trivial) trivial
    · trivial
  | awaitConnected i =>
    simp only [ClientState.monitor, hpoint]
    split
    · trivial
    · split <;> trivial
  | activeTest i =>
    simp only [ClientState.monitor, hpoint]
    split
    · trivial
    · exact MonitorPoint.beforeTeardown_next (fun _ ↦ trivial) trivial
  | delete i =>
    rw [hpoint] at hbefore
    exact hbefore.elim
  | ended =>
    rw [hpoint] at hbefore
    exact hbefore.elim
  | _ =>
    simp only [ClientState.monitor, hpoint]
    trivial

/-- Every step that reconnects with success keeps the invariant. -/
theorem recoveryInv_step {config : TASE2ClientConfig} {s t : ClientState n} {a : ThreadAction n}
    (hs : RecoveryInv s) (ha : ReconnectSucceeds config s a)
    (h : threadStep config s a = .ok t) : RecoveryInv t := by
  refine ⟨scanInv_step hs.scan h, ?_, ?_⟩
  · cases a with
    | stop =>
      rw [← Except.ok.inj h]
      intro hstarted
      cases hstarted
    | iterate i env =>
      rcases iterate_eq_ok h with ⟨-, rfl⟩ | ⟨_, c, _, rfl⟩
      · exact hs.looping
      · exact hs.looping
    | monitor timedOut =>
      rw [← Except.ok.inj h]
      exact looping_monitor hs.looping timedOut
  cases a with
  | stop =>
    rw [← Except.ok.inj h]
    exact hs.failed
  | iterate i env =>
    rcases iterate_eq_ok h with ⟨-, rfl⟩ | ⟨hrunning, c, hc, rfl⟩
    · exact hs.failed
    · have hphase := hs.scan.phases i (by simp [hrunning])
      exact failed_update hs.failed (failed_of_iteration hphase (hs.failed i) (ha hrunning) hc)
  | monitor timedOut =>
    rw [← Except.ok.inj h]
    cases hpoint : s.point with
    | connect i =>
      simp only [ClientState.monitor, hpoint]
      exact failed_update hs.failed (hs.failed i)
    | disconnect i =>
      simp only [ClientState.monitor, hpoint]
      exact failed_update hs.failed fun hfatal ↦ by cases hfatal
    | delete i =>
      simp only [ClientState.monitor, hpoint]
      refine failed_update hs.failed ?_
      split
      · exact hs.failed i
      · exact hs.failed i
    | _ =>
      simp only [ClientState.monitor, hpoint]
      exact hs.failed

/-- An active connection in `CON_STATE_FATAL_ERROR` is one that the monitor is trying. -/
theorem RecoveryInv.not_settled {s : ClientState n} (hs : RecoveryInv s) {i : Fin n}
    (hexists : s.threads i ≠ .deleted) (hactive : s.active = some i)
    (hfatal : (s.connections i).connectionState = .fatalError) : ¬ s.point.settled := by
  intro hsettled
  have hconnect := (hs.scan.phases i hexists).connect_of_ne_idle (by simp [hfatal])
  have hlinked := hs.scan.linked hsettled i hactive hconnect
  rw [hs.failed i hfatal] at hlinked
  cases hlinked

/-- The failover test then finds no active connection that failed. -/
theorem RecoveryInv.failoverOpen {s : ClientState n} (hs : RecoveryInv s) : FailoverOpen s := by
  intro hpoint i hactive hfatal
  have hbefore : s.point.beforeTeardown := by rw [hpoint]; trivial
  have hsettled : s.point.settled := by rw [hpoint]; trivial
  exact absurd hsettled (hs.not_settled (hs.scan.whole hbefore i) hactive hfatal)

/-- While the monitor tries a connection that is not connected, three statements and a timeout
are enough to disconnect it. -/
theorem exists_disconnecting_run {config : TASE2ClientConfig} {s : ClientState n} {i : Fin n}
    (hpoint : s.point = .assign i ∨ s.point = .awaitConnected i ∨ s.point = .disconnect i)
    (hconnected : (s.connections i).connected = false) :
    ∃ actions t, .stop ∉ actions ∧ run (threadStep config) s actions = .ok t ∧
      (t.connections i).connectionState = .idle := by
  have hlast : ∀ u : ClientState n, u.point = .disconnect i →
      ((u.monitor true).connections i).connectionState = .idle := by
    intro u hu
    simp only [ClientState.monitor, hu]
    exact congrArg TASE2ClientConnection.connectionState (connections_update_self u i _)
  have hwait : ∀ u : ClientState n, u.point = .awaitConnected i →
      (u.connections i).connected = false → (u.monitor true).point = .disconnect i := by
    intro u hu hc
    simp [ClientState.monitor, hu, hc]
  rcases hpoint with h | h | h
  · refine ⟨[.monitor true, .monitor true, .monitor true], _, by simp, rfl, hlast _ (hwait _ ?_ ?_)⟩
    · simp [ClientState.monitor, h]
    · simpa [ClientState.monitor, h] using hconnected
  · exact ⟨[.monitor true, .monitor true], _, by simp, rfl, hlast _ (hwait s h hconnected)⟩
  · exact ⟨[.monitor true], _, by simp, rfl, hlast s h⟩

/-- A state that satisfies the invariant does not idle forever. -/
theorem RecoveryInv.not_idlesForever {s : ClientState n} (hs : RecoveryInv s)
    (config : TASE2ClientConfig) : ¬ IdlesForever config s := by
  rintro ⟨hstarted, i, hactive, hfatal, hforever⟩
  have hexists := hs.scan.whole (hs.looping hstarted) i
  have hconnect := (hs.scan.phases i hexists).connect_of_ne_idle (by simp [hfatal])
  have hcandidate := hs.scan.only i hconnect
  have hpoint : s.point = .assign i ∨ s.point = .awaitConnected i ∨ s.point = .disconnect i := by
    have hsettled := hs.not_settled hexists hactive hfatal
    cases h : s.point with
    | connect j => simp [ClientState.candidate, h] at hcandidate
    | clear j => simp [ClientState.candidate, h] at hcandidate
    | assign j => simpa [ClientState.candidate, h] using hcandidate
    | awaitConnected j => simpa [ClientState.candidate, h] using hcandidate
    | disconnect j => simpa [ClientState.candidate, h] using hcandidate
    | _ => exact absurd (by rw [h]; trivial) hsettled
  obtain ⟨actions, t, hstop, hrun, hidle⟩ :=
    exists_disconnecting_run hpoint (hs.failed i hfatal)
  rw [(hforever actions t hstop hrun).2, hfatal] at hidle
  cases hidle

/-- A client that was just started satisfies the invariant. -/
theorem recoveryInv_new (params : Fin n → ConnectionParams) : RecoveryInv (.new params) where
  scan := scanInv_new params
  looping _ := trivial
  failed i hi := by cases hi

/-- In every run whose reconnects all succeed, the failover test is open in every state reached,
and none is one in which both threads idle forever. -/
theorem always_failoverOpen {config : TASE2ClientConfig} {params : Fin n → ConnectionParams}
    {actions : List (ThreadAction n)}
    (hmeet : StepsMeet (threadStep config) (ReconnectSucceeds config) (.new params) actions) :
    Always (threadStep config) (fun s ↦ FailoverOpen s ∧ ¬ IdlesForever config s) (.new params)
      actions :=
  always_of_stepsMeet (threadStep config)
    (fun _ hs ↦ ⟨hs.failoverOpen, hs.not_idlesForever config⟩)
    (fun _ _ _ hs ha h ↦ recoveryInv_step hs ha h) (recoveryInv_new params) hmeet

/-! ### A reconnect that fails -/

/-- The active connection failed with `m_connected` set, and the monitor is not about to change
it. -/
structure Blocked (s : ClientState n) (i : Fin n) : Prop where
  scan : ScanInv s
  started : s.started = true
  active : s.active = some i
  failed : (s.connections i).connectionState = .fatalError
  connected : (s.connections i).connected = true
  point : s.point.settled ∧ s.point.beforeTeardown ∨ s.point = .awaitConnected i

/-- While blocked, the other connections are disabled. -/
theorem Blocked.connect_eq_false {s : ClientState n} {i j : Fin n} (hs : Blocked s i)
    (hj : j ≠ i) : (s.connections j).connect = false := by
  cases hc : (s.connections j).connect with
  | false => rfl
  | true =>
    have hcandidate := hs.scan.only j hc
    have hactive : s.candidate = some i := by
      rcases hs.point with ⟨hsettled, -⟩ | hpoint
      · exact (candidate_of_settled hsettled).trans hs.active
      · simp [ClientState.candidate, hpoint]
    exact absurd (Option.some.inj (hcandidate.symm.trans hactive)) hj

/-- A statement of the monitor changes no member but its own position. -/
theorem Blocked.monitor {s : ClientState n} {i : Fin n} (hs : Blocked s i) (timedOut : Bool) :
    (s.monitor timedOut).started = true ∧ (s.monitor timedOut).active = some i ∧
      (s.monitor timedOut).connections = s.connections ∧
        ((s.monitor timedOut).point.settled ∧ (s.monitor timedOut).point.beforeTeardown ∨
          (s.monitor timedOut).point = .awaitConnected i) := by
  have hend : ∀ {point : MonitorPoint n}, s.point = point →
      ¬ (point.settled ∧ point.beforeTeardown) → point = .awaitConnected i := by
    intro point hpoint hn
    rcases hs.point with h | h
    · rw [hpoint] at h
      exact absurd h hn
    · rw [← hpoint]
      exact h
  unfold ClientState.monitor
  cases hpoint : s.point with
  | begin =>
    refine ⟨hs.started, hs.active, rfl, .inl ?_⟩
    dsimp only
    split
    · exact ⟨MonitorPoint.settled_first (fun _ ↦ trivial) trivial,
        MonitorPoint.beforeTeardown_first (fun _ ↦ trivial) trivial⟩
    · exact ⟨trivial, trivial⟩
  | start j =>
    refine ⟨hs.started, hs.active, rfl, .inl ?_⟩
    exact ⟨MonitorPoint.settled_next (fun _ ↦ trivial) trivial,
      MonitorPoint.beforeTeardown_next (fun _ ↦ trivial) trivial⟩
  | loopTest =>
    refine ⟨hs.started, hs.active, rfl, .inl ?_⟩
    dsimp only
    rw [if_pos hs.started]
    exact ⟨trivial, trivial⟩
  | failoverTest =>
    -- `m_connected` is set, so the connection does not count as disconnected
    refine ⟨hs.started, hs.active, rfl, .inl ?_⟩
    simp [hs.active, disconnected, hs.connected, MonitorPoint.settled, MonitorPoint.beforeTeardown]
  | awaitConnected j =>
    have hj : j = i := by
      have h := hend hpoint fun h ↦ h.1
      cases h
      rfl
    refine ⟨hs.started, hs.active, rfl, .inl ?_⟩
    simp [hj, hs.connected, MonitorPoint.settled, MonitorPoint.beforeTeardown]
  | activeTest j =>
    refine ⟨hs.started, hs.active, rfl, .inl ?_⟩
    simp [hs.active, MonitorPoint.settled, MonitorPoint.beforeTeardown]
  | connect j => cases hend hpoint fun h ↦ h.1
  | assign j => cases hend hpoint fun h ↦ h.1
  | disconnect j => cases hend hpoint fun h ↦ h.1
  | clear j => cases hend hpoint fun h ↦ h.1
  | delete j => cases hend hpoint fun h ↦ h.2
  | ended => cases hend hpoint fun h ↦ h.2

/-- No step but `stop` changes a connection or the active one. -/
theorem Blocked.step {config : TASE2ClientConfig} {s t : ClientState n} {i : Fin n}
    (hs : Blocked s i) {a : ThreadAction n} (ha : a ≠ .stop)
    (h : threadStep config s a = .ok t) : Blocked t i ∧ t.connections = s.connections := by
  have hscan := scanInv_step hs.scan h
  cases a with
  | stop => exact absurd rfl ha
  | iterate j env =>
    rcases iterate_eq_ok h with ⟨-, rfl⟩ | ⟨hrunning, c, hc, rfl⟩
    · exact ⟨hs, rfl⟩
    · have hrest : c = s.connections j := by
        by_cases hj : j = i
        · subst hj
          have hphase := hs.scan.phases j (by simp [hrunning])
          cases outcome_iteration hphase hc with
          | kept _ => rfl
          | refused _ hstate _ => simp [hs.failed] at hstate
          | clientless _ hstate _ _ _ _ _ => simp [hs.failed] at hstate
          | issued _ hstate _ _ _ _ _ _ _ => simp [hs.failed] at hstate
          | established _ hstate _ => simp [hs.failed] at hstate
          | timedOut _ hstate _ => simp [hs.failed] at hstate
          | served _ hstate _ => simp [hs.failed] at hstate
          | lost _ hstate _ => simp [hs.failed] at hstate
        · rw [TASE2ClientConnection.iteration, hs.connect_eq_false hj] at hc
          exact (Except.ok.inj hc).symm
      have hsame : s.update j c = s := by
        rw [hrest, ClientState.update, Function.update_eq_self]
      rw [hsame]
      exact ⟨hs, rfl⟩
  | monitor timedOut =>
    rw [← Except.ok.inj h] at hscan ⊢
    obtain ⟨hstarted, hactive, hconnections, hpoint⟩ := hs.monitor timedOut
    exact ⟨⟨hscan, hstarted, hactive, hconnections ▸ hs.failed, hconnections ▸ hs.connected,
      hpoint⟩, hconnections⟩

/-- A blocked client idles forever. -/
theorem Blocked.idlesForever {s : ClientState n} {i : Fin n} (hs : Blocked s i)
    (config : TASE2ClientConfig) : IdlesForever config s := by
  refine ⟨hs.started, i, hs.active, hs.failed, fun actions t hstop hrun ↦ ?_⟩
  have hmeet := stepsMeet_of_forall (threadStep config)
    (fun a ha (_ : ClientState n) ↦ show a ≠ .stop from fun h ↦ hstop (h ▸ ha)) s
  have hblocked := run_invariant_of_stepsMeet (threadStep config)
    (fun u a v (hu : Blocked u i ∧ u.connections = s.connections) ha hstep ↦ by
      obtain ⟨hv, hsame⟩ := hu.1.step ha hstep
      exact And.intro hv (hsame.trans hu.2)) ⟨hs, rfl⟩ hmeet hrun
  exact ⟨hblocked.1.active, hblocked.2⟩

private theorem failed_of_failedAttempt {config : TASE2ClientConfig} {env : IterationEnv}
    {s t : TASE2ClientConnection} (hphase : PhaseInv s) (hconnect : s.connect = true)
    (hidle : s.connectionState = .idle)
    (hn : ¬ (obtainsEndpoint env.prepare config s.useTls = true ∧
      env.prepare.clientCreated = true ∧ env.errorOk = true))
    (h : s.iteration config env = .ok t) :
    t.connectionState = .fatalError ∧ t.connected = s.connected := by
  cases outcome_iteration hphase h with
  | kept hrest =>
    rcases hrest hconnect with hstate | ⟨hstate, -⟩
    · simp [hidle] at hstate
    · simp [hidle] at hstate
  | refused _ _ _ => exact ⟨rfl, rfl⟩
  | clientless _ _ _ _ _ _ _ => exact ⟨rfl, rfl⟩
  | issued _ _ endpoint hendpoint _ _ hclient state hissued =>
    have hobtains := Session.isSome_endpoint_createEndpoint (hphase.released hidle) env.prepare
      config s.useTls
    have herror : env.errorOk = false := by
      cases herror : env.errorOk with
      | false => rfl
      | true =>
        refine absurd ⟨?_, hclient, herror⟩ hn
        rw [← hobtains]
        exact Option.isSome_iff_exists.mpr ⟨endpoint, hendpoint⟩
    rw [hissued, herror]
    exact ⟨rfl, rfl⟩
  | established _ hstate _ => simp [hidle] at hstate
  | timedOut _ hstate _ => simp [hidle] at hstate
  | served _ hstate _ => simp [hidle] at hstate
  | lost _ hstate _ => simp [hidle] at hstate

/-- A reconnect that fails blocks the client, unless the monitor is between enabling the
connection and making it the active one, or about to disconnect it. -/
theorem idlesForever_of_failedReconnect {config : TASE2ClientConfig} {s t : ClientState n}
    {i : Fin n} {env : IterationEnv} (hs : ScanInv s) (hstarted : s.started = true)
    (hpoint : s.point.settled ∧ s.point.beforeTeardown ∨ s.point = .awaitConnected i)
    (hfails : ¬ ReconnectSucceeds config s (.iterate i env))
    (h : threadStep config s (.iterate i env) = .ok t) : IdlesForever config t := by
  simp only [ReconnectSucceeds, Classical.not_imp] at hfails
  obtain ⟨hrunning, hconnected, hconnect, hidle, hn⟩ := hfails
  have hactive : s.active = some i := by
    rcases hpoint with ⟨hsettled, -⟩ | hpoint
    · exact (candidate_of_settled hsettled).symm.trans (hs.only i hconnect)
    · exact hs.awaited i (.inl hpoint)
  have hphase := hs.phases i (by simp [hrunning])
  have hscan := scanInv_step hs h
  rcases iterate_eq_ok h with ⟨hstopped, -⟩ | ⟨-, c, hc, rfl⟩
  · exact absurd hrunning hstopped
  · obtain ⟨hfatal, hstale⟩ := failed_of_failedAttempt hphase hconnect hidle hn hc
    refine Blocked.idlesForever ⟨hscan, hstarted, hactive, ?_, ?_, hpoint⟩ config
    · rw [connections_update_self]
      exact hfatal
    · rw [connections_update_self]
      exact hstale.trans hconnected

/-- A configuration with a certificate and a key of its own. -/
def certifiedConfig : TASE2ClientConfig :=
  { TASE2ClientConfig.fresh with privateKey := "key.der", ownCertificate := "cert.der" }

/-- The connection is made the active one and established, and its link is lost. -/
def lostLinkRun : List (ThreadAction 1) :=
  enablingRun ++ [.monitor false, .iterate ⟨0, Nat.one_pos⟩ (.plain 0 false),
    .iterate ⟨0, Nat.one_pos⟩ (.plain 50 true), .monitor false, .monitor false,
    .iterate ⟨0, Nat.one_pos⟩ (.plain 100 false)]

/-- The failover test is open in a run that connects again. -/
theorem always_failoverOpen_reconnect :
    Always (threadStep certifiedConfig)
      (fun s ↦ FailoverOpen s ∧ ¬ IdlesForever certifiedConfig s) (.new fun _ ↦ loopback)
      (lostLinkRun ++ [.iterate 0 (.plain 150 false), .iterate 0 (.plain 200 true)]) := by
  refine always_failoverOpen (stepsMeet_of_forall (threadStep certifiedConfig) ?_ _)
  intro a ha s
  cases a with
  | monitor _ => trivial
  | stop => trivial
  | iterate i env =>
    intro _ _ _ _
    have henv : ∃ now link, env = .plain now link := by
      simp only [lostLinkRun, enablingRun, List.mem_append, List.mem_cons, reduceCtorEq,
        ThreadAction.iterate.injEq, List.not_mem_nil, or_false, false_or] at ha
      rcases ha with (⟨-, rfl⟩ | ⟨-, rfl⟩ | ⟨-, rfl⟩) | ⟨-, rfl⟩ | ⟨-, rfl⟩
      all_goals exact ⟨_, _, rfl⟩
    obtain ⟨now, link, rfl⟩ := henv
    exact ⟨by cases (s.connections i).useTls <;> rfl, rfl, rfl⟩

/-- An iteration in which the library creates no endpoint. -/
def refusingIteration (now : Nat) : IterationEnv :=
  { IterationEnv.plain now false with
    prepare := { (IterationEnv.plain now false).prepare with endpointCreated := false } }

/-- The link is lost, and the monitor is at its failover test. -/
def testingRun : List (ThreadAction 1) := lostLinkRun ++ [.monitor false]

private theorem testingRun_refused :
    ∃ s t, run (threadStep certifiedConfig) (.new fun _ ↦ loopback) testingRun = .ok s ∧
      threadStep certifiedConfig s (.iterate 0 (refusingIteration 150)) = .ok t ∧
      ¬ ReconnectSucceeds certifiedConfig s (.iterate 0 (refusingIteration 150)) ∧
      (s.started = true ∧ s.point = .failoverTest) ∧ ¬ FailoverOpen t := by
  refine ⟨_, _, rfl, rfl, fun h ↦ ?_, ⟨rfl, rfl⟩, fun h ↦ ?_⟩
  · cases (h rfl rfl rfl rfl).1
  · cases h rfl 0 rfl rfl

/-- A reconnect that gets no endpoint closes the failover test, and the client idles forever. -/
theorem not_failoverOpen_refused :
    ∃ s, run (threadStep certifiedConfig) (.new fun _ ↦ loopback)
        (testingRun ++ [.iterate 0 (refusingIteration 150)]) = .ok s ∧
      ¬ FailoverOpen s ∧ IdlesForever certifiedConfig s := by
  obtain ⟨s, t, hrun, hstep, hfails, ⟨hstarted, hpoint⟩, hclosed⟩ := testingRun_refused
  have hs := run_invariant (threadStep certifiedConfig) (fun _ _ _ hs h ↦ scanInv_step hs h)
    (scanInv_new fun _ ↦ loopback) hrun
  refine ⟨t, run_concat_eq_ok _ hrun hstep, hclosed, ?_⟩
  refine idlesForever_of_failedReconnect hs hstarted (.inl ?_) hfails hstep
  rw [hpoint]
  exact ⟨trivial, trivial⟩

end Tase2South.Failover
