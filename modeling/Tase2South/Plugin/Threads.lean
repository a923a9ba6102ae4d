import Tase2South.Failover.PeerAddresses
import Tase2South.Plugin.Running

/-!
# The threads behind the entry points

The entry points of `src/plugin.cpp:148–227`, statement by statement, between the statements of
the monitors and the iterations of the connections of every client. An entry point that stops the
client clears `m_started` and waits until the monitor has returned,
`src/tase2_client.cpp:147–163`; the threads go on until then.
-/

namespace Tase2South.Plugin

open Tase2South.Base Tase2South.Json Tase2South.Config Tase2South.Connection Tase2South.Failover

/-! ### The second half of reconfiguring -/

/-- What `plugin_reconfigure` does once the client is stopped, `src/plugin.cpp:195–214`. -/
def pluginRestart (env : ImportEnv) (tase2 : TASE2) (config : ConfigCategory) :
    Except Failure TASE2 := do
  let tase2 ← (if config.itemExists "protocol_stack" && config.itemExists "exchanged_data" &&
      config.itemExists "tls" then do
    let protocolStack ← config.getValue "protocol_stack"
    let exchangedData ← config.getValue "exchanged_data"
    let tlsConf ← config.getValue "tls_conf"
    tase2.setJsonConfig env protocolStack exchangedData tlsConf
  else
    return tase2)
  if config.itemExists "asset" then do
    return (tase2.setAssetName (← config.getValue "asset")).start
  else
    return tase2

/-- What reconfiguring leaves once the client is stopped, also when it raises an exception. -/
def reconfigured (env : ImportEnv) (tase2 : TASE2) (newConfig : ConfigCategory)
    (left : TASE2ClientConfig) : Except Failure TASE2 :=
  match pluginRestart env tase2 newConfig with
  | .ok tase2' => .ok tase2'
  | .error (.raised _) => .ok (tase2.afterRaise newConfig left)
  | .error .access => .error .access

/-- Reconfiguring is stopping the client and what comes behind it. -/
theorem pluginStep_reconfigure (env : ImportEnv) (s : TASE2) (newConfig : ConfigCategory)
    (left : TASE2ClientConfig) :
    pluginStep env s (.reconfigure (some newConfig) left) =
      reconfigured env s.stop newConfig left := by
  have hraise : s.stop.afterRaise newConfig left = s.afterRaise newConfig left := by
    simp only [TASE2.afterRaise, TASE2.stop_stop]
  rw [reconfigured, hraise]
  rfl

/-- Behind the stop, reconfiguring starts one client, or none. -/
theorem reconfigured_cases {env : ImportEnv} {s t : TASE2} {newConfig : ConfigCategory}
    {left : TASE2ClientConfig} (hs : s.client = none)
    (h : reconfigured env s newConfig left = .ok t) :
    ∃ u : TASE2, u.client = none ∧ s.nextId ≤ u.nextId ∧ (t = u ∨ t = u.start) := by
  have hstop : s.stop = s := by rw [TASE2.stop, hs]
  rw [reconfigured] at h
  split at h
  · next hok =>
    rw [Except.ok.inj h, pluginRestart] at hok
    obtain ⟨u, hu, hok⟩ := bind_eq_ok_iff.mp hok
    have hidle : u.client = none ∧ s.nextId ≤ u.nextId := by
      split at hu
      · obtain ⟨stack, -, hu⟩ := bind_eq_ok_iff.mp hu
        obtain ⟨msg, -, hu⟩ := bind_eq_ok_iff.mp hu
        obtain ⟨tls, -, hu⟩ := bind_eq_ok_iff.mp hu
        rw [TASE2.setJsonConfig] at hu
        obtain ⟨config, -, hu⟩ := bind_eq_ok_iff.mp hu
        rw [← Except.ok.inj hu]
        exact ⟨hs, Nat.le_succ _⟩
      · rw [← Except.ok.inj hu]
        exact ⟨hs, le_rfl⟩
    split at hok
    · obtain ⟨asset, -, hok⟩ := bind_eq_ok_iff.mp hok
      exact ⟨u.setAssetName asset, hidle.1, hidle.2, .inr (Except.ok.inj hok).symm⟩
    · exact ⟨u, hidle.1, hidle.2, .inl (Except.ok.inj hok).symm⟩
  · refine ⟨t, ?_, ?_, .inl rfl⟩
    · rw [← Except.ok.inj h, TASE2.afterRaise, hstop]
      split
      · exact hs
      · exact hs
    · rw [← Except.ok.inj h, TASE2.afterRaise, hstop]
      split
      · exact Nat.le_succ _
      · exact le_rfl
  · cases h

/-! ### The process -/

/-- A client that was started, with the configuration it was made with and its threads. -/
structure ClientThreads where
  object : ClientInstance
  config : TASE2ClientConfig
  state : ClientState config.connections.length

/-- The parameters of its connections, `src/tase2_client.cpp:177–195`. -/
def ClientThreads.params (client : ClientThreads) (i : Fin client.config.connections.length) :
    ConnectionParams :=
  .ofGroup (client.config.connections.get i)

/-- How far an entry point has come. -/
inductive Stage where
  /-- Nothing is done. -/
  | entered
  /-- `m_monitoringThread->join ()`, `src/tase2_client.cpp:159`. -/
  | joining
  /-- The client is deleted, `src/tase2.cpp:66–67`. -/
  | stopped
  /-- The plugin is deleted, `src/plugin.cpp:226`. -/
  | deleted
  deriving DecidableEq

/-- The plugin, the calls that come before `plugin_shutdown`, how far the first of them has come
or, behind the last, the shutdown, and the clients that were started so far. -/
structure Process where
  tase2 : TASE2
  calls : List PluginCall
  stage : Stage
  clients : List ClientThreads

/-- What ends the process. -/
inductive ProcessFault where
  | entry (failure : Failure)
  | thread (fault : ThreadFault)

namespace Process

/-- The process of an initialised plugin, before its calls. -/
def new (tase2 : TASE2) (calls : List PluginCall) : Process where
  tase2 := tase2
  calls := calls
  stage := .entered
  clients := []

/-- The threads of a client that was just started. -/
def spawned (tase2 : TASE2) : List ClientThreads :=
  tase2.client.toList.map fun object ↦ ⟨object, tase2.config, .prepareConnections tase2.config⟩

/-- `m_started = false` in the client there is, `src/tase2_client.cpp:155`. -/
def requestStop (s : Process) : Process :=
  { s with clients := s.clients.map fun client ↦
      if s.tase2.client = some client.object then
        { client with state := { client.state with started := false } }
      else client }

/-- The monitor of the client there is has returned. -/
def joins (s : Process) : Bool :=
  s.clients.all fun client ↦
    decide (s.tase2.client = some client.object → client.state.point = .ended)

/-- The next statement of an entry point, `src/plugin.cpp:148–227`. -/
def statement (env : ImportEnv) (s : Process) : Except ProcessFault Process :=
  match s.stage with
  | .entered =>
    match s.calls with
    | .start :: calls => .ok { s with
        tase2 := s.tase2.start, calls, clients := s.clients ++ spawned s.tase2.start }
    | .operation _ _ _ :: calls => .ok { s with calls }
    | .reconfigure none _ :: calls => .ok { s with calls }
    | _ => .ok { s.requestStop with stage := .joining }
  | .joining => .ok (if s.joins then { s with tase2 := s.tase2.stop, stage := .stopped } else s)
  | .stopped =>
    match s.calls with
    | .reconfigure (some newConfig) left :: calls =>
      match reconfigured env s.tase2 newConfig left with
      | .ok tase2 => .ok { s with
          tase2, calls, stage := .entered, clients := s.clients ++ spawned tase2 }
      | .error failure => .error (.entry failure)
    | _ => .ok { s with stage := .deleted }
  | .deleted => .ok s

/-- A step of the threads of one client. -/
def thread (s : Process) (k : Nat)
    (action : (client : ClientThreads) → Option (ThreadAction client.config.connections.length)) :
    Except ProcessFault Process :=
  match s.clients[k]? with
  | none => .ok s
  | some client =>
    match action client with
    | none => .ok s
    | some a =>
      match threadStep client.config client.state a with
      | .ok state => .ok { s with clients := s.clients.set k { client with state } }
      | .error fault => .error (.thread fault)

end Process

/-- The next statement of an entry point or of the monitor of a client, or an iteration of one of
its connections. -/
inductive ProcessAction where
  | statement
  | monitor (k : Nat) (timedOut : Bool)
  | iterate (k i : Nat) (env : IterationEnv)

/-- One step of the process. -/
def processStep (env : ImportEnv) (s : Process) : ProcessAction → Except ProcessFault Process
  | .statement => s.statement env
  | .monitor k timedOut => s.thread k fun _ ↦ some (.monitor timedOut)
  | .iterate k i iteration => s.thread k fun client ↦
      if h : i < client.config.connections.length then some (.iterate ⟨i, h⟩ iteration) else none

/-! ### What a step can do -/

/-- The calls that are left begin with one that stops the client, or none is left. -/
def StopsNext (calls : List PluginCall) : Prop :=
  calls = [] ∨ ∃ newConfig left rest, calls = .reconfigure (some newConfig) left :: rest

/-- A step is one of a client's threads or one statement of an entry point. -/
inductive ProcessEffect (env : ImportEnv) (action : ProcessAction) (s t : Process) : Prop
  | monitored (k : Nat) (timedOut : Bool) (haction : action = .monitor k timedOut)
      (client : ClientThreads) (hclient : s.clients[k]? = some client)
      (ht : t = { s with
        clients := s.clients.set k { client with state := client.state.monitor timedOut } })
  | iterated (k i : Nat) (iteration : IterationEnv) (haction : action = .iterate k i iteration)
      (client : ClientThreads) (hclient : s.clients[k]? = some client)
      (hi : i < client.config.connections.length)
      (state : ClientState client.config.connections.length)
      (hstep : threadStep client.config client.state (.iterate ⟨i, hi⟩ iteration) = .ok state)
      (ht : t = { s with clients := s.clients.set k { client with state } })
  | none (hnone : ∀ k timedOut, action = .monitor k timedOut → s.clients[k]? = none)
      (hjoins : action = .statement → s.stage = .joining → s.joins = false) (ht : t = s)
  | skipped (haction : action = .statement) (call : PluginCall) (rest : List PluginCall)
      (hstage : s.stage = .entered) (hcalls : s.calls = call :: rest)
      (hskip : pluginStep env s.tase2 call = .ok s.tase2) (ht : t = { s with calls := rest })
  | started (haction : action = .statement) (rest : List PluginCall) (hstage : s.stage = .entered)
      (hcalls : s.calls = .start :: rest)
      (ht : t = { s with
        tase2 := s.tase2.start, calls := rest
        clients := s.clients ++ Process.spawned s.tase2.start })
  | requested (haction : action = .statement) (hstage : s.stage = .entered)
      (hcalls : StopsNext s.calls) (ht : t = { s.requestStop with stage := .joining })
  | joined (haction : action = .statement) (hstage : s.stage = .joining) (hjoins : s.joins = true)
      (ht : t = { s with tase2 := s.tase2.stop, stage := .stopped })
  | restarted (haction : action = .statement) (newConfig : ConfigCategory)
      (left : TASE2ClientConfig) (rest : List PluginCall) (tase2 : TASE2)
      (hstage : s.stage = .stopped)
      (hcalls : s.calls = .reconfigure (some newConfig) left :: rest)
      (hrestart : reconfigured env s.tase2 newConfig left = .ok tase2)
      (ht : t = { s with
        tase2 := tase2, calls := rest, stage := .entered
        clients := s.clients ++ Process.spawned tase2 })
  | deleted (haction : action = .statement) (hstage : s.stage = .stopped)
      (hcalls : ∀ newConfig left rest, s.calls ≠ .reconfigure (some newConfig) left :: rest)
      (ht : t = { s with stage := .deleted })

section

variable {env : ImportEnv} {s t : Process}

private theorem effect_of_statement (h : s.statement env = .ok t) :
    ProcessEffect env .statement s t := by
  unfold Process.statement at h
  cases hstage : s.stage with
  | entered =>
    simp only [hstage] at h
    cases hcalls : s.calls with
    | nil =>
      simp only [hcalls] at h
      exact .requested rfl hstage (.inl hcalls) (Except.ok.inj h).symm
    | cons call rest =>
      simp only [hcalls] at h
      cases call with
      | start =>
        refine .started rfl rest hstage hcalls ?_
        rw [← Except.ok.inj h, hstage]
      | operation name count params =>
        refine .skipped rfl _ rest hstage hcalls rfl ?_
        rw [← Except.ok.inj h, hstage]
      | reconfigure newConfig left =>
        cases newConfig with
        | none =>
          refine .skipped rfl _ rest hstage hcalls rfl ?_
          rw [← Except.ok.inj h, hstage]
        | some newConfig =>
          exact .requested rfl hstage (.inr ⟨newConfig, left, rest, hcalls⟩)
            (Except.ok.inj h).symm
  | joining =>
    simp only [hstage] at h
    cases hjoins : s.joins with
    | false =>
      rw [hjoins] at h
      exact .none (fun _ _ haction ↦ by cases haction) (fun _ _ ↦ hjoins) (Except.ok.inj h).symm
    | true =>
      rw [hjoins] at h
      exact .joined rfl hstage hjoins (Except.ok.inj h).symm
  | stopped =>
    simp only [hstage] at h
    split at h
    · next newConfig left rest hcalls =>
      split at h
      · next tase2 hrestart =>
        exact .restarted rfl newConfig left rest tase2 hstage hcalls hrestart
          (Except.ok.inj h).symm
      · cases h
    · next hcalls => exact .deleted rfl hstage hcalls (Except.ok.inj h).symm
  | deleted =>
    simp only [hstage] at h
    refine .none (fun _ _ haction ↦ by cases haction) (fun _ hjoining ↦ ?_) (Except.ok.inj h).symm
    rw [hstage] at hjoining
    cases hjoining

/-- The effects on the process are all that a step can do. -/
theorem processEffect {a : ProcessAction} (h : processStep env s a = .ok t) :
    ProcessEffect env a s t := by
  cases a with
  | statement => exact effect_of_statement h
  | monitor k timedOut =>
    rw [processStep, Process.thread] at h
    cases hclient : s.clients[k]? with
    | none =>
      simp only [hclient] at h
      refine .none (fun k' _ haction ↦ ?_) (fun haction ↦ by cases haction) (Except.ok.inj h).symm
      cases haction
      exact hclient
    | some client =>
      simp only [hclient, threadStep] at h
      exact .monitored k timedOut rfl client hclient (Except.ok.inj h).symm
  | iterate k i iteration =>
    have hother : ∀ k' timedOut, ProcessAction.iterate k i iteration = .monitor k' timedOut →
        s.clients[k']? = none := fun _ _ haction ↦ by cases haction
    have hthread : ProcessAction.iterate k i iteration = .statement → s.stage = .joining →
        s.joins = false := fun haction ↦ by cases haction
    rw [processStep, Process.thread] at h
    cases hclient : s.clients[k]? with
    | none =>
      simp only [hclient] at h
      exact .none hother hthread (Except.ok.inj h).symm
    | some client =>
      simp only [hclient] at h
      by_cases hi : i < client.config.connections.length
      · simp only [dif_pos hi] at h
        split at h
        · next state hstep =>
          exact .iterated k i iteration rfl client hclient hi state hstep (Except.ok.inj h).symm
        · cases h
      · simp only [dif_neg hi] at h
        exact .none hother hthread (Except.ok.inj h).symm

end

/-! ### The clients -/

/-- What holds of the clients that were started so far: each is between its start and its end, and
one that has not ended is the client there is and has the configuration there is. -/
structure ClientsInv (tase2 : TASE2) (clients : List ClientThreads) : Prop where
  teardown : ∀ client ∈ clients, TeardownInv client.params client.state
  current : ∀ client ∈ clients, client.state.point ≠ .ended →
    tase2.client = some client.object ∧ client.object.configId = tase2.configId ∧
      client.config = tase2.config
  older : ∀ client ∈ clients, client.object.id < tase2.nextId
  distinct : (clients.map (·.object.id)).Nodup

section

variable {tase2 u : TASE2} {clients : List ClientThreads}

/-- Once all have ended, the plugin may change. -/
theorem ClientsInv.of_ended (h : ClientsInv tase2 clients)
    (hended : ∀ client ∈ clients, client.state.point = .ended) (hid : tase2.nextId ≤ u.nextId) :
    ClientsInv u clients where
  teardown := h.teardown
  current client hclient hnot := absurd (hended client hclient) hnot
  older client hclient := Nat.lt_of_lt_of_le (h.older client hclient) hid
  distinct := h.distinct

/-- Once all have ended, another one may be started. -/
theorem ClientsInv.start (h : ClientsInv u clients)
    (hended : ∀ client ∈ clients, client.state.point = .ended) :
    ClientsInv u.start (clients ++ Process.spawned u.start) := by
  have hspawned : ∀ client ∈ Process.spawned u.start,
      client = ⟨⟨u.nextId, u.configId⟩, u.config, .prepareConnections u.config⟩ :=
    fun _ hclient ↦ List.mem_singleton.mp hclient
  constructor
  case teardown =>
    intro client hclient
    rcases List.mem_append.mp hclient with hold | hnew
    · exact h.teardown client hold
    · rw [hspawned client hnew]
      exact teardownInv_new _
  case current =>
    intro client hclient hnot
    rcases List.mem_append.mp hclient with hold | hnew
    · exact absurd (hended client hold) hnot
    · rw [hspawned client hnew]
      exact ⟨rfl, rfl, rfl⟩
  case older =>
    intro client hclient
    rcases List.mem_append.mp hclient with hold | hnew
    · exact Nat.lt_succ_of_lt (h.older client hold)
    · rw [hspawned client hnew]
      exact Nat.lt_succ_self _
  case distinct =>
    rw [List.map_append, List.nodup_append']
    refine ⟨h.distinct, List.nodup_singleton _, ?_⟩
    intro id hold hnew
    obtain ⟨client, hclient, rfl⟩ := List.mem_map.mp hold
    have hid := List.mem_singleton.mp hnew
    exact Nat.ne_of_lt (h.older client hclient) hid

/-- Changing the state of a client that is still the same object keeps the invariant. -/
theorem ClientsInv.set (h : ClientsInv tase2 clients) {k : Nat} {client : ClientThreads}
    (hclient : clients[k]? = some client) {a : ThreadAction client.config.connections.length}
    {state : ClientState client.config.connections.length}
    (hstep : threadStep client.config client.state a = .ok state) :
    ClientsInv tase2 (clients.set k { client with state }) := by
  have hmem := List.mem_of_getElem? hclient
  have hended : client.state.point = .ended → state.point = .ended := by
    intro hpoint
    cases a with
    | monitor timedOut =>
      rw [← Except.ok.inj hstep]
      simp only [ClientState.monitor, hpoint]
    | iterate i iteration =>
      rcases iterate_eq_ok hstep with ⟨-, rfl⟩ | ⟨-, c, -, rfl⟩
      · exact hpoint
      · exact hpoint
    | stop =>
      rw [← Except.ok.inj hstep]
      exact hpoint
  constructor
  case teardown =>
    intro client' hclient'
    rcases List.mem_or_eq_of_mem_set hclient' with hold | rfl
    · exact h.teardown client' hold
    · exact teardownInv_step (h.teardown client hmem) hstep
  case current =>
    intro client' hclient' hnot
    rcases List.mem_or_eq_of_mem_set hclient' with hold | rfl
    · exact h.current client' hold hnot
    · exact h.current client hmem fun hpoint ↦ hnot (hended hpoint)
  case older =>
    intro client' hclient'
    rcases List.mem_or_eq_of_mem_set hclient' with hold | rfl
    · exact h.older client' hold
    · exact h.older client hmem
  case distinct =>
    obtain ⟨hk, rfl⟩ := List.getElem?_eq_some_iff.mp hclient
    have hsame : (clients.set k { clients[k] with state }).map (·.object.id) =
        clients.map (·.object.id) := by
      apply List.ext_getElem
      · simp
      · intro i hi hi'
        by_cases hik : k = i
        · subst hik
          simp
        · simp [hik]
    rw [hsame]
    exact h.distinct

/-- Asking the client there is to stop keeps the invariant. -/
theorem ClientsInv.requestStop {s : Process} (h : ClientsInv s.tase2 s.clients) :
    ClientsInv s.tase2 s.requestStop.clients := by
  have hasked : ∀ client ∈ s.requestStop.clients, ∃ old ∈ s.clients,
      client = old ∨ client = { old with state := { old.state with started := false } } := by
    intro client hclient
    obtain ⟨old, hold, rfl⟩ := List.mem_map.mp hclient
    refine ⟨old, hold, ?_⟩
    split
    · exact .inr rfl
    · exact .inl rfl
  constructor
  case teardown =>
    intro client hclient
    obtain ⟨old, hold, rfl | rfl⟩ := hasked client hclient
    · exact h.teardown client hold
    · have hstop : threadStep old.config old.state .stop =
          .ok { old.state with started := false } := rfl
      exact teardownInv_step (h.teardown old hold) hstop
  case current =>
    intro client hclient hnot
    obtain ⟨old, hold, rfl | rfl⟩ := hasked client hclient
    · exact h.current client hold hnot
    · exact h.current old hold hnot
  case older =>
    intro client hclient
    obtain ⟨old, hold, rfl | rfl⟩ := hasked client hclient
    · exact h.older client hold
    · exact h.older old hold
  case distinct =>
    have hsame : s.requestStop.clients.map (·.object.id) = s.clients.map (·.object.id) := by
      rw [Process.requestStop, List.map_map]
      apply List.map_congr_left
      intro client _
      rw [Function.comp_apply]
      split
      · rfl
      · rfl
    rw [hsame]
    exact h.distinct

/-- When the join returns, all have ended. -/
theorem ClientsInv.ended_of_joins {s : Process} (h : ClientsInv s.tase2 s.clients)
    (hjoins : s.joins = true) : ∀ client ∈ s.clients, client.state.point = .ended := by
  intro client hclient
  by_contra hnot
  have hcurrent := (h.current client hclient hnot).1
  exact hnot (of_decide_eq_true (List.all_eq_true.mp hjoins client hclient) hcurrent)

/-- Where there is no client, all have ended. -/
theorem ClientsInv.ended_of_none (h : ClientsInv tase2 clients) (hnone : tase2.client = none) :
    ∀ client ∈ clients, client.state.point = .ended := by
  intro client hclient
  by_contra hnot
  have hcurrent := (h.current client hclient hnot).1
  rw [hnone] at hcurrent
  cases hcurrent

end

/-! ### Entry points as single steps -/

/-- The plugin at a stage of a call, when the calls before have made it what is given. -/
def Stage.tase2 : Stage → TASE2 → TASE2
  | .entered, t => t
  | .joining, t => t
  | .stopped, t => t.stop
  | .deleted, t => pluginShutdown t

/-- The process is at the first of the calls, with a plugin that calls in single steps make. -/
structure Between (t : TASE2) (calls : List PluginCall) (s : Process) : Prop where
  running : RunningInv t
  waiting : s.calls = calls
  tase2 : s.tase2 = s.stage.tase2 t
  stops : s.stage ≠ .entered → StopsNext calls
  clients : ClientsInv s.tase2 s.clients
  asked : s.stage = .joining → ∀ client ∈ s.clients, s.tase2.client = some client.object →
    client.state.started = false

section

variable {env : ImportEnv} {t : TASE2} {calls : List PluginCall} {s s' : Process}

/-- Behind the join there is no client. -/
theorem Between.client_of_stopped (h : Between t calls s) (hstage : s.stage = .stopped) :
    s.tase2.client = none := by
  rw [h.tase2, hstage]
  exact t.client_stop

/-- A step of the threads of a client leaves the process between the same calls. -/
theorem Between.set (h : Between t calls s) {k : Nat} {client : ClientThreads}
    (hclient : s.clients[k]? = some client) {a : ThreadAction client.config.connections.length}
    {state : ClientState client.config.connections.length}
    (hstep : threadStep client.config client.state a = .ok state) :
    Between t calls { s with clients := s.clients.set k { client with state } } where
  running := h.running
  waiting := h.waiting
  tase2 := h.tase2
  stops := h.stops
  clients := h.clients.set hclient hstep
  asked hstage client' hclient' hobject := by
    rcases List.mem_or_eq_of_mem_set hclient' with hold | rfl
    · exact h.asked hstage client' hold hobject
    · exact started_eq_false hstep
        (h.asked hstage client (List.mem_of_getElem? hclient) hobject)

/-- Every step is a part of an entry point, or the last part of one. -/
theorem between_step (h : Between t calls s) (hstart : ∀ call ∈ calls.head?, StartsStopped t call)
    {a : ProcessAction} (hstep : processStep env s a = .ok s') :
    Between t calls s' ∨ ∃ call rest t', calls = call :: rest ∧
      pluginStep env t call = .ok t' ∧ Between t' rest s' := by
  have htase2 := h.tase2
  have hcallsOf := h.waiting
  cases processEffect hstep with
  | monitored k timedOut haction client hclient ht =>
    subst ht
    have hthread : threadStep client.config client.state (.monitor timedOut) =
        .ok (client.state.monitor timedOut) := rfl
    exact .inl (h.set hclient hthread)
  | iterated k i iteration haction client hclient hi state hthread ht =>
    subst ht
    exact .inl (h.set hclient hthread)
  | none hnone hjoins ht =>
    subst ht
    exact .inl h
  | skipped haction call rest hstage hcalls hskip ht =>
    subst ht
    rw [hstage] at htase2
    rw [hcallsOf] at hcalls
    rw [htase2] at hskip
    refine .inr ⟨call, rest, t, hcalls, hskip, ?_⟩
    refine ⟨h.running, rfl, h.tase2, fun hnot ↦ absurd hstage hnot, h.clients, ?_⟩
    intro hjoining
    rw [hstage] at hjoining
    cases hjoining
  | started haction rest hstage hcalls ht =>
    subst ht
    rw [hstage] at htase2
    rw [hcallsOf] at hcalls
    have hstarts : StartsStopped t .start := hstart _ (by rw [hcalls]; rfl)
    have hclients := h.clients
    rw [htase2] at hclients
    have hatomic : pluginStep env t .start = .ok t.start := rfl
    refine .inr ⟨.start, rest, t.start, hcalls, hatomic, ?_⟩
    refine ⟨runningInv_step h.running hstarts hatomic, rfl, ?_, ?_, ?_, ?_⟩
    · rw [htase2, hstage]
      rfl
    · exact fun hnot ↦ absurd hstage hnot
    · rw [htase2]
      exact hclients.start (hclients.ended_of_none (hstarts rfl))
    · intro hjoining
      rw [hstage] at hjoining
      cases hjoining
  | requested haction hstage hcalls ht =>
    subst ht
    rw [hstage] at htase2
    refine .inl ⟨h.running, h.waiting, htase2, fun _ ↦ hcallsOf ▸ hcalls,
      h.clients.requestStop, fun _ client hclient hobject ↦ ?_⟩
    obtain ⟨old, hold, rfl⟩ := List.mem_map.mp hclient
    by_cases hcurrent : s.tase2.client = some old.object
    · rw [if_pos hcurrent]
    · rw [if_neg hcurrent] at hobject
      exact absurd hobject hcurrent
  | joined haction hstage hjoins ht =>
    subst ht
    rw [hstage] at htase2
    have hended := h.clients.ended_of_joins hjoins
    refine .inl ⟨h.running, h.waiting, congrArg TASE2.stop htase2,
      fun _ ↦ h.stops (by simp [hstage]), h.clients.of_ended hended (le_of_eq ?_), by simp⟩
    rw [TASE2.stop]
    split
    · rfl
    · rfl
  | restarted haction newConfig left rest tase2 hstage hcalls hrestart ht =>
    subst ht
    have hnone := h.client_of_stopped hstage
    have hended := h.clients.ended_of_none hnone
    rw [hcallsOf] at hcalls
    have hatomic : pluginStep env t (.reconfigure (some newConfig) left) = .ok tase2 := by
      rw [pluginStep_reconfigure, ← hrestart, htase2, hstage]
      rfl
    refine .inr ⟨_, rest, tase2, hcalls, hatomic, ?_⟩
    refine ⟨runningInv_step h.running (fun hcall ↦ by cases hcall) hatomic, rfl, rfl,
      fun hnot ↦ absurd rfl hnot, ?_, by simp⟩
    obtain ⟨u, hclient, hid, rfl | rfl⟩ := reconfigured_cases hnone hrestart
    · have hspawned : Process.spawned tase2 = [] := by
        rw [Process.spawned, hclient]
        rfl
      rw [hspawned, List.append_nil]
      exact h.clients.of_ended hended hid
    · exact (h.clients.of_ended hended hid).start hended
  | deleted haction hstage hcalls ht =>
    subst ht
    have hstops := h.stops (by simp [hstage])
    rw [hstage] at htase2
    refine .inl ⟨h.running, h.waiting, ?_, fun _ ↦ hstops, h.clients, by simp⟩
    rw [htase2]
    exact t.stop_stop.symm

end

/-! ### What holds of the process -/

/-- At most one connection of all clients has an open endpoint; threads that have not ended are
those of the client there is, work on the configuration there is and have their plugin; and
without a client every connection that there was is shut down. -/
structure ThreadsSafe (s : Process) : Prop where
  exclusive : ∀ client ∈ s.clients, ∀ client' ∈ s.clients,
    ∀ (i : Fin client.config.connections.length) (i' : Fin client'.config.connections.length),
      (client.state.connections i).session.endpoint.isSome →
        (client'.state.connections i').session.endpoint.isSome →
          client.object = client'.object ∧ i.val = i'.val
  current : ∀ client ∈ s.clients, client.state.point ≠ .ended →
    s.tase2.client = some client.object ∧ client.object.configId = s.tase2.configId ∧
      client.config = s.tase2.config ∧ s.stage ≠ .deleted
  finished : s.tase2.client = none →
    ∀ client ∈ s.clients, ShutDown client.params client.state

/-- A client that has ended is shut down. -/
theorem shutDown_of_ended {client : ClientThreads}
    (h : TeardownInv client.params client.state) (hended : client.state.point = .ended) :
    ShutDown client.params client.state := by
  apply h.shutDown
  rw [hended]
  rfl

/-- A client has at most one open endpoint. -/
theorem eq_of_endpoint_isSome {n : Nat} {params : Fin n → ConnectionParams} {s : ClientState n}
    (h : TeardownInv params s) {i j : Fin n} (hi : (s.connections i).session.endpoint.isSome)
    (hj : (s.connections j).session.endpoint.isSome) : i = j := by
  have hcandidate : ∀ k : Fin n, (s.connections k).session.endpoint.isSome →
      s.candidate = some k := by
    intro k hk
    have hexists : s.threads k ≠ .deleted := by
      intro hdeleted
      rw [(h.gone k hdeleted).endpoint] at hk
      cases hk
    have hphase := h.scan.phases k hexists
    apply h.scan.only k
    apply hphase.connect_of_ne_idle
    intro hidle
    rw [hphase.released hidle] at hk
    cases hk
  exact Option.some.inj ((hcandidate i hi).symm.trans (hcandidate j hj))

/-- A process at its calls is safe. -/
theorem Between.threadsSafe {t : TASE2} {calls : List PluginCall} {s : Process}
    (h : Between t calls s) : ThreadsSafe s where
  exclusive client hclient client' hclient' i i' hi hi' := by
    have hopen : ∀ c ∈ s.clients, ∀ k : Fin c.config.connections.length,
        (c.state.connections k).session.endpoint.isSome → s.tase2.client = some c.object := by
      intro c hc k hk
      refine (h.clients.current c hc fun hended ↦ ?_).1
      rw [((shutDown_of_ended (h.clients.teardown c hc) hended).gone k).endpoint] at hk
      cases hk
    have hobject : client.object = client'.object :=
      Option.some.inj ((hopen client hclient i hi).symm.trans (hopen client' hclient' i' hi'))
    obtain rfl : client = client' := by
      apply List.inj_on_of_nodup_map h.clients.distinct hclient hclient'
      rw [hobject]
    exact ⟨rfl, congrArg Fin.val (eq_of_endpoint_isSome (h.clients.teardown client hclient) hi hi')⟩
  current client hclient hnot := by
    obtain ⟨hobject, hid, hconfig⟩ := h.clients.current client hclient hnot
    refine ⟨hobject, hid, hconfig, fun hdeleted ↦ ?_⟩
    rw [h.tase2, hdeleted] at hobject
    simp only [Stage.tase2, pluginShutdown, TASE2.client_stop] at hobject
    cases hobject
  finished hnone client hclient :=
    shutDown_of_ended (h.clients.teardown client hclient)
      (h.clients.ended_of_none hnone client hclient)

/-- A new plugin is before its calls. -/
theorem between_new {env : ImportEnv} {category : ConfigCategory} {t : TASE2}
    (hinit : pluginInit env category = .ok t) (calls : List PluginCall) :
    Between t calls (.new t calls) where
  running := runningInv_pluginInit hinit
  waiting := rfl
  tase2 := rfl
  stops hnot := absurd rfl hnot
  clients := by constructor <;> simp [Process.new]
  asked hstage := by cases hstage

/-- Every state of a run is between some of the calls and the others. -/
theorem exists_between {env : ImportEnv} {category : ConfigCategory} {t : TASE2}
    {calls : List PluginCall} {actions : List ProcessAction} {s : Process}
    (hinit : pluginInit env category = .ok t)
    (hstarts : StepsMeet (pluginStep env) StartsStopped t calls)
    (hrun : run (processStep env) (.new t calls) actions = .ok s) :
    ∃ done rest t', calls = done ++ rest ∧ run (pluginStep env) t done = .ok t' ∧
      Between t' rest s := by
  have hsteps : ∀ t calls s a s', Between t calls s →
      (∀ call ∈ calls.head?, StartsStopped t call) → processStep env s a = .ok s' →
        Between t calls s' ∨ ∃ call rest t', calls = call :: rest ∧
          pluginStep env t call = .ok t' ∧ Between t' rest s' :=
    fun _ _ _ _ _ h hstart hstep ↦ between_step h hstart hstep
  exact run_simulates (processStep env) (pluginStep env) hsteps (between_new hinit calls) hstarts
    hrun

/-- In every run of an initialised plugin, with any calls that start a client only where there is
none, and however their statements, the monitors and the connections interleave: the process is
safe, and the plugin is what the calls make in single steps. -/
theorem threads_refine_calls {env : ImportEnv} {category : ConfigCategory} {t : TASE2}
    {calls : List PluginCall} {actions : List ProcessAction} {s : Process}
    (hinit : pluginInit env category = .ok t)
    (hstarts : StepsMeet (pluginStep env) StartsStopped t calls)
    (hrun : run (processStep env) (.new t calls) actions = .ok s) :
    ThreadsSafe s ∧ ∃ done t', calls = done ++ s.calls ∧ run (pluginStep env) t done = .ok t' ∧
      s.tase2 = s.stage.tase2 t' := by
  obtain ⟨done, rest, t', hcalls, hdone, hbetween⟩ := exists_between hinit hstarts hrun
  refine ⟨hbetween.threadsSafe, done, t', ?_, hdone, hbetween.tase2⟩
  rw [hbetween.waiting]
  exact hcalls

/-! ### A plugin with one connection -/

/-- A category with `peerText` for its protocol stack and nothing in its other documents. -/
def peerCategory : ConfigCategory := fun name ↦
  [("asset", "tase2"), ("protocol_stack", peerText), ("exchanged_data", ""),
    ("tls_conf", "")].lookup name

/-- The plugin that the category of `peerText` initialises. -/
def peerPlugin : TASE2 := { TASE2.new with
  config := peerConfig, configId := 1, asset := "tase2", nextId := 2 }

private theorem pluginInit_peer : pluginInit peerEnv peerCategory = .ok peerPlugin := by
  have hasset : peerCategory "asset" = some "tase2" := rfl
  have hstack : peerCategory "protocol_stack" = some peerText := rfl
  have hmsg : peerCategory "exchanged_data" = some "" := rfl
  have htls : peerCategory "tls_conf" = some "" := rfl
  simp [pluginInit, ConfigCategory.itemExists, ConfigCategory.getValue, hasset, hstack, hmsg, htls,
    TASE2.setJsonConfig, setJsonConfig_peer, peerPlugin, TASE2.setAssetName, TASE2.new]

private theorem startsStopped_peer :
    StepsMeet (pluginStep peerEnv) StartsStopped peerPlugin [.start] :=
  ⟨fun _ ↦ rfl, fun _ _ ↦ trivial⟩

/-- The plugin is started, its connection makes an attempt, and the plugin asks it to stop. -/
def stoppingRun : List ProcessAction :=
  [.statement] ++ List.replicate 5 (.monitor 0 false) ++
    [.iterate 0 0 (.plain 0 false), .statement]

/-- The plugin is started and shut down: the client stops, and the plugin is deleted. -/
def deletingRun : List ProcessAction :=
  stoppingRun ++ List.replicate 9 (.monitor 0 true) ++ [.statement, .statement]

/-- A plugin that is started and shut down ends safely, with one client ever started. -/
theorem threads_refine_calls_peer : ∃ s,
    run (processStep peerEnv) (.new peerPlugin [.start]) deletingRun = .ok s ∧
      s.stage = .deleted ∧ s.clients.length = 1 ∧ ThreadsSafe s :=
  ⟨_, rfl, rfl, rfl, (@threads_refine_calls peerEnv peerCategory peerPlugin [.start] deletingRun _
    pluginInit_peer startsStopped_peer rfl).1⟩

/-! ### Every stop returns -/

/-- A wait of a monitor that is not answered times out. -/
def WaitsTimeOut (s : Process) : ProcessAction → Prop
  | .monitor k timedOut => ∀ client, s.clients[k]? = some client →
      WaitTimesOut client.state (.monitor timedOut)
  | _ => True

/-- A statement of the monitor of the client with the given number. -/
def ProcessAction.isMonitorOf (k : Nat) : ProcessAction → Bool
  | .monitor k' _ => k' == k
  | _ => false

/-- What the monitor of a client has left. -/
def Process.left (k : Nat) (s : Process) : Nat :=
  (s.clients[k]?).elim 0 fun client ↦ client.state.point.left

/-- The entry point waits for a client that was asked to stop. -/
structure AwaitsStop (tase2 : TASE2) (k : Nat) (client : ClientThreads) (u : Process) : Prop where
  stage : u.stage = .joining
  tase2 : u.tase2 = tase2
  stopping : ∃ state, u.clients[k]? = some { client with state } ∧
    TeardownInv client.params state ∧ state.started = false

section

variable {env : ImportEnv} {tase2 : TASE2} {u u' : Process} {k : Nat} {client : ClientThreads}

/-- A step of the threads of a client keeps the wait, and a statement of the monitor that is waited
for leaves it fewer. -/
theorem AwaitsStop.set (h : AwaitsStop tase2 k client u) {j : Nat} {other : ClientThreads}
    (hother : u.clients[j]? = some other) {a : ThreadAction other.config.connections.length}
    {state : ClientState other.config.connections.length}
    (hstep : threadStep other.config other.state a = .ok state)
    (hwait : WaitTimesOut other.state a) (hu' : u' = { u with
      clients := u.clients.set j { other with state } }) :
    AwaitsStop tase2 k client u' ∧ u'.left k ≤ u.left k ∧
      (j = k → a.isMonitor = true → u'.left k ≤ u.left k - 1) := by
  subst hu'
  obtain ⟨old, hold, hteardown, hstopped⟩ := h.stopping
  by_cases hj : j = k
  · subst hj
    rw [hold] at hother
    obtain rfl := Option.some.inj hother
    obtain ⟨⟨hinv, hstarted⟩, hle, hless⟩ := left_step ⟨hteardown, hstopped⟩ hwait hstep
    have hset : (u.clients.set j { client with state })[j]? = some { client with state } := by
      rw [List.getElem?_set_self (List.getElem?_eq_some_iff.mp hold).1]
    refine ⟨⟨h.stage, h.tase2, state, hset, hinv, hstarted⟩, ?_, fun _ hmonitor ↦ ?_⟩
    · simp only [Process.left, hset, hold, Option.elim_some]
      exact hle
    · simp only [Process.left, hset, hold, Option.elim_some]
      exact hless hmonitor
  · have hset : (u.clients.set j { other with state })[k]? = u.clients[k]? :=
      List.getElem?_set_ne hj
    refine ⟨⟨h.stage, h.tase2, old, hset.trans hold, hteardown, hstopped⟩, ?_,
      fun heq ↦ absurd heq hj⟩
    simp only [Process.left, hset]
    exact le_rfl

/-- A step joins, or the client comes nearer to its end. -/
theorem AwaitsStop.step (h : AwaitsStop tase2 k client u) {a : ProcessAction}
    (hwait : WaitsTimeOut u a) (hstep : processStep env u a = .ok u') :
    u'.stage = .stopped ∨ (AwaitsStop tase2 k client u' ∧ u'.left k ≤ u.left k ∧
      (a.isMonitorOf k = true → u'.left k ≤ u.left k - 1)) := by
  have hstage := h.stage
  cases processEffect hstep with
  | monitored j timedOut haction other hother hu' =>
    subst haction
    have hthread : threadStep other.config other.state (.monitor timedOut) =
        .ok (other.state.monitor timedOut) := rfl
    obtain ⟨hinv, hle, hless⟩ := h.set hother hthread (hwait other hother) hu'
    exact .inr ⟨hinv, hle, fun hk ↦ hless (eq_of_beq hk) rfl⟩
  | iterated j i iteration haction other hother hi state hthread hu' =>
    subst haction
    obtain ⟨hinv, hle, -⟩ := h.set hother hthread trivial hu'
    exact .inr ⟨hinv, hle, fun hk ↦ by cases hk⟩
  | none hnone _ hu' =>
    subst hu'
    refine .inr ⟨h, le_rfl, fun hk ↦ ?_⟩
    cases a with
    | monitor j timedOut =>
      obtain ⟨state, hclient, -⟩ := h.stopping
      rw [← eq_of_beq hk, hnone j timedOut rfl] at hclient
      cases hclient
    | statement => cases hk
    | iterate j i iteration => cases hk
  | skipped _ _ _ hentered => rw [hstage] at hentered; cases hentered
  | started _ _ hentered => rw [hstage] at hentered; cases hentered
  | requested _ hentered => rw [hstage] at hentered; cases hentered
  | joined _ _ _ hu' =>
    subst hu'
    exact .inl rfl
  | restarted _ _ _ _ _ hstopped => rw [hstage] at hstopped; cases hstopped
  | deleted _ hstopped => rw [hstage] at hstopped; cases hstopped

end

/-- From every reachable state in which an entry point waits for the client to stop, a run that goes
through, with `7 n + 2` statements of its monitor, in which waits that are not answered time out,
comes past the join with the next statement of the entry point. A run that faults, at a poll through
a null `m_active_connection` or at absent OSI parameters, is none of these. -/
theorem stop_returns {env : ImportEnv} {category : ConfigCategory} {t : TASE2}
    {calls : List PluginCall} {earlier actions : List ProcessAction} {s u : Process} {k : Nat}
    {client : ClientThreads} (hinit : pluginInit env category = .ok t)
    (hstarts : StepsMeet (pluginStep env) StartsStopped t calls)
    (hreach : run (processStep env) (.new t calls) earlier = .ok s) (hstage : s.stage = .joining)
    (hclient : s.clients[k]? = some client) (hcurrent : s.tase2.client = some client.object)
    (hrun : run (processStep env) s actions = .ok u)
    (hwaits : StepsMeet (processStep env) WaitsTimeOut s actions)
    (hmany : 7 * client.config.connections.length + 2 ≤
      actions.countP (ProcessAction.isMonitorOf k)) :
    ∃ done rest v, actions ++ [.statement] = done ++ rest ∧
      run (processStep env) s done = .ok v ∧ v.stage = .stopped := by
  obtain ⟨_, _, _, _, _, hs⟩ := exists_between hinit hstarts hreach
  obtain ⟨_, _, _, _, _, hu⟩ :=
    exists_between hinit hstarts (run_append_eq_ok (processStep env) hreach hrun)
  have hmem := List.mem_of_getElem? hclient
  have hawaits : AwaitsStop s.tase2 k client s :=
    ⟨hstage, rfl, client.state, hclient, hs.clients.teardown client hmem,
      hs.asked hstage client hmem hcurrent⟩
  rcases reaches_or_rank_le (processStep env) (AwaitsStop s.tase2 k client)
    (fun v ↦ v.stage = .stopped) (Process.left k) (fun _ _ _ hv hwait hstep ↦ hv.step hwait hstep)
    hawaits hwaits hrun with ⟨done, rest, v, rfl, hdone, hv⟩ | ⟨hlast, hspent⟩
  · exact ⟨done, rest ++ [.statement], v, List.append_assoc .., hdone, hv⟩
  · obtain ⟨state, hstate, hteardown, -⟩ := hlast.stopping
    have hleft : state.point.left = 0 := by
      have hmost := left_le client.state.point
      have hticks : 7 * client.config.connections.length + 2 ≤
          actions.countP fun a ↦ a.isMonitorOf k := hmany
      simp only [Process.left, hstate, hclient, Option.elim_some] at hspent
      omega
    have hended := (hteardown.shutDown hleft).ended
    have hjoins : u.joins = true := by
      apply List.all_eq_true.mpr
      intro other hother
      apply decide_eq_true
      intro hobject
      rw [hlast.tase2, hcurrent] at hobject
      have hsame : { client with state } = other := by
        apply List.inj_on_of_nodup_map hu.clients.distinct (List.mem_of_getElem? hstate) hother
        rw [Option.some.inj hobject]
      rw [← hsame]
      exact hended
    refine ⟨actions ++ [.statement], [], { u with tase2 := u.tase2.stop, stage := .stopped },
      (List.append_nil _).symm, ?_, rfl⟩
    apply run_concat_eq_ok (processStep env) hrun
    rw [processStep, Process.statement, hlast.stage, hjoins]
    rfl

/-- The plugin gets past the join of a client that makes its attempt. -/
theorem stop_returns_peer : ∃ s,
    run (processStep peerEnv) (.new peerPlugin [.start]) stoppingRun = .ok s ∧
      ∃ done rest v, List.replicate 9 (.monitor 0 true) ++ [.statement] = done ++ rest ∧
        run (processStep peerEnv) s done = .ok v ∧ v.stage = .stopped := by
  refine ⟨_, rfl, ?_⟩
  refine @stop_returns peerEnv peerCategory peerPlugin [.start] stoppingRun
    (List.replicate 9 (.monitor 0 true)) _ _ 0 _ pluginInit_peer startsStopped_peer rfl rfl rfl rfl
    rfl ?_ (by decide)
  refine stepsMeet_of_forall _ (fun a ha s ↦ ?_) _
  rw [List.eq_of_mem_replicate ha]
  exact fun _ _ _ _ ↦ .inr rfl

end Tase2South.Plugin
