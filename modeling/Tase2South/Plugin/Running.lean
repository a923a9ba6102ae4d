import Tase2South.Base.Run
import Tase2South.Plugin.Lifecycle
import Tase2South.Plugin.Operation

/-!
# One client at a time

The clients that run while the entry points of `src/plugin.cpp:151–227` are called in any order.
`plugin_reconfigure` stops the client before it starts another one; `plugin_start` goes to
`TASE2::start`, which forgets the client it has (`src/tase2.cpp:45`), and the guard of
`TASE2Client::start` (`src/tase2_client.cpp:169`) is one of the new client.
-/

namespace Tase2South.Plugin

open Tase2South.Base Tase2South.Json Tase2South.Config

/-! ### Calls on a plugin -/

/-- A call on an initialised plugin. A configuration is `none` when its text is no category;
`left` is what an import that raises an exception has put into the new configuration object by
then. -/
inductive PluginCall where
  | start
  | operation (operation : String) (count : Int) (params : List PluginParameter)
  | reconfigure (newConfig : Option ConfigCategory) (left : TASE2ClientConfig)

/-- What `plugin_reconfigure` leaves when it raises an exception: the client is stopped, and
with all four items there the exception is one of an import, behind the assignment of
`src/tase2.cpp:16`. -/
def TASE2.afterRaise (s : TASE2) (newConfig : ConfigCategory) (left : TASE2ClientConfig) : TASE2 :=
  if newConfig.itemExists "tls_conf" then
    { s.stop with config := left, configId := s.stop.nextId, nextId := s.stop.nextId + 1 }
  else s.stop

/-- One call, `src/plugin.cpp:151–215`; an operation reads the client and changes nothing, and
the constructor of `ConfigCategory` refuses a text before anything else. An access outside a
document ends the process. -/
def pluginStep (env : ImportEnv) (s : TASE2) : PluginCall → Except Failure TASE2
  | .start => .ok s.start
  | .operation _ _ _ => .ok s
  | .reconfigure none _ => .ok s
  | .reconfigure (some newConfig) left =>
    match pluginReconfigure env s newConfig with
    | .ok s' => .ok s'
    | .error (.raised _) => .ok (s.afterRaise newConfig left)
    | .error .access => .error .access

/-- `plugin_shutdown`, `src/plugin.cpp:220–227`, where `TASE2::~TASE2` stops once more. -/
def pluginShutdown (s : TASE2) : TASE2 := s.stop.stop

/-- At most one client runs; it has the current configuration; and stopping or shutting down
leaves none running. -/
structure SingleClient (s : TASE2) : Prop where
  single : s.running.length ≤ 1
  current : ∀ client ∈ s.running, client.configId = s.configId
  stopped : s.stop.running = []
  shutDown : (pluginShutdown s).running = []

/-- A start finds no client. -/
def StartsStopped (s : TASE2) (call : PluginCall) : Prop := call = .start → s.client = none

/-! ### What a call can do -/

/-- Stopping leaves no client. -/
@[simp] theorem TASE2.client_stop (s : TASE2) : s.stop.client = none := by
  unfold TASE2.stop
  split
  · next h => exact h
  · rfl

/-- Stopping twice is stopping. -/
@[simp] theorem TASE2.stop_stop (s : TASE2) : s.stop.stop = s.stop := by
  rw [TASE2.stop, TASE2.client_stop]

/-- The client is stopped, and another one may be started on the configuration there is. -/
inductive Restarted (s : TASE2) : TASE2 → Prop
  | stopped (u : TASE2) (hclient : u.client = none) (hrunning : u.running = s.stop.running) :
    Restarted s u
  | started (u : TASE2) (hclient : u.client = none) (hrunning : u.running = s.stop.running) :
    Restarted s u.start

/-- Reconfiguring restarts. -/
theorem restarted_pluginReconfigure {env : ImportEnv} {s t : TASE2} {newConfig : ConfigCategory}
    (h : pluginReconfigure env s newConfig = .ok t) : Restarted s t := by
  rw [pluginReconfigure] at h
  obtain ⟨u, hu, h⟩ := bind_eq_ok_iff.mp h
  have hstopped : u.client = none ∧ u.running = s.stop.running := by
    split at hu
    · obtain ⟨stack, -, hu⟩ := bind_eq_ok_iff.mp hu
      obtain ⟨msg, -, hu⟩ := bind_eq_ok_iff.mp hu
      obtain ⟨tls, -, hu⟩ := bind_eq_ok_iff.mp hu
      rw [TASE2.setJsonConfig] at hu
      obtain ⟨config, -, hu⟩ := bind_eq_ok_iff.mp hu
      rw [← Except.ok.inj hu]
      exact ⟨s.client_stop, rfl⟩
    · rw [← Except.ok.inj hu]
      exact ⟨s.client_stop, rfl⟩
  split at h
  · obtain ⟨asset, -, h⟩ := bind_eq_ok_iff.mp h
    rw [← Except.ok.inj h]
    exact .started (u.setAssetName asset) hstopped.1 hstopped.2
  · rw [← Except.ok.inj h]
    exact .stopped u hstopped.1 hstopped.2

/-- An exception leaves the client stopped. -/
theorem restarted_afterRaise (s : TASE2) (newConfig : ConfigCategory) (left : TASE2ClientConfig) :
    Restarted s (s.afterRaise newConfig left) := by
  unfold TASE2.afterRaise
  split
  · exact .stopped _ s.client_stop rfl
  · exact .stopped _ s.client_stop rfl

/-- A call starts, changes nothing, or restarts. -/
theorem pluginStep_cases {env : ImportEnv} {s t : TASE2} {call : PluginCall}
    (h : pluginStep env s call = .ok t) :
    (call = .start ∧ t = s.start) ∨ t = s ∨ Restarted s t := by
  cases call with
  | start => exact .inl ⟨rfl, (Except.ok.inj h).symm⟩
  | operation name count params => exact .inr (.inl (Except.ok.inj h).symm)
  | reconfigure newConfig left =>
    cases newConfig with
    | none => exact .inr (.inl (Except.ok.inj h).symm)
    | some newConfig =>
      rw [pluginStep] at h
      split at h
      · next hok =>
        rw [Except.ok.inj h] at hok
        exact .inr (.inr (restarted_pluginReconfigure hok))
      · rw [← Except.ok.inj h]
        exact .inr (.inr (restarted_afterRaise s newConfig left))
      · cases h

/-! ### The invariant -/

/-- The client is the one that runs, and it has the current configuration. -/
structure RunningInv (s : TASE2) : Prop where
  running : s.running = s.client.toList
  current : ∀ client, s.client = some client → client.configId = s.configId

/-- Once the client is stopped none runs. -/
theorem RunningInv.running_stop {s : TASE2} (hs : RunningInv s) : s.stop.running = [] := by
  unfold TASE2.stop
  cases hclient : s.client with
  | none => rw [hs.running, hclient]; rfl
  | some client => simp [hs.running, hclient]

/-- A plugin that satisfies the invariant has a single client. -/
theorem RunningInv.singleClient {s : TASE2} (hs : RunningInv s) : SingleClient s where
  single := by
    rw [hs.running]
    cases s.client <;> simp
  current client h := by
    rw [hs.running, Option.mem_toList] at h
    exact hs.current client h
  stopped := hs.running_stop
  shutDown := by rw [pluginShutdown, TASE2.stop_stop, hs.running_stop]

/-- A plugin on which nothing runs satisfies the invariant. -/
theorem runningInv_of_none {s : TASE2} (hclient : s.client = none) (hrunning : s.running = []) :
    RunningInv s where
  running := by rw [hclient, hrunning]; rfl
  current client h := by rw [hclient] at h; cases h

/-- Starting where nothing runs keeps the invariant. -/
theorem runningInv_start {s : TASE2} (hrunning : s.running = []) : RunningInv s.start where
  running := by simp [TASE2.start, hrunning]
  current client h := by
    rw [← Option.some.inj h]
    rfl

/-- Initialising runs nothing. -/
theorem runningInv_pluginInit {env : ImportEnv} {category : ConfigCategory} {s : TASE2}
    (h : pluginInit env category = .ok s) : RunningInv s := by
  rw [pluginInit] at h
  obtain ⟨u, hu, h⟩ := bind_eq_ok_iff.mp h
  have hnew : u.client = none ∧ u.running = [] := by
    split at hu
    · obtain ⟨asset, -, hu⟩ := bind_eq_ok_iff.mp hu
      rw [← Except.ok.inj hu]
      exact ⟨rfl, rfl⟩
    · rw [← Except.ok.inj hu]
      exact ⟨rfl, rfl⟩
  split at h
  · obtain ⟨stack, -, h⟩ := bind_eq_ok_iff.mp h
    obtain ⟨msg, -, h⟩ := bind_eq_ok_iff.mp h
    obtain ⟨tls, -, h⟩ := bind_eq_ok_iff.mp h
    rw [TASE2.setJsonConfig] at h
    obtain ⟨config, -, h⟩ := bind_eq_ok_iff.mp h
    rw [← Except.ok.inj h]
    exact runningInv_of_none hnew.1 hnew.2
  · rw [← Except.ok.inj h]
    exact runningInv_of_none hnew.1 hnew.2

/-- A call that starts nothing over a client keeps the invariant. -/
theorem runningInv_step {env : ImportEnv} {s t : TASE2} {call : PluginCall} (hs : RunningInv s)
    (hc : StartsStopped s call) (h : pluginStep env s call = .ok t) : RunningInv t := by
  rcases pluginStep_cases h with ⟨hstart, rfl⟩ | rfl | hrestarted
  · apply runningInv_start
    rw [hs.running, hc hstart]
    rfl
  · exact hs
  · cases hrestarted with
    | stopped _ hclient hrunning =>
      exact runningInv_of_none hclient (hrunning.trans hs.running_stop)
    | started u hclient hrunning => exact runningInv_start (hrunning.trans hs.running_stop)

/-- A start over a client leaves two running. -/
theorem not_singleClient_start {s : TASE2} (hs : RunningInv s) (hclient : s.client ≠ none) :
    ¬ SingleClient s.start := by
  intro h
  obtain ⟨client, hc⟩ := Option.ne_none_iff_exists'.mp hclient
  have hlength := h.single
  simp [TASE2.start, hs.running, hc] at hlength

/-- In every state that calls on an initialised plugin reach, at most one client runs, with the
current configuration, and none after stopping or shutting down, exactly when every start finds
no client. -/
theorem always_singleClient_iff {env : ImportEnv} {category : ConfigCategory} {s : TASE2}
    (h : pluginInit env category = .ok s) (calls : List PluginCall) :
    Always (pluginStep env) SingleClient s calls ↔
      StepsMeet (pluginStep env) StartsStopped s calls := by
  apply always_iff_stepsMeet (pluginStep env) (fun _ hs ↦ hs.singleClient)
    (fun _ _ _ hs hc h ↦ runningInv_step hs hc h) _ (runningInv_pluginInit h)
  intro u call hu hc
  rw [StartsStopped, Classical.not_imp] at hc
  obtain ⟨rfl, hclient⟩ := hc
  exact ⟨u.start, rfl, not_singleClient_start hu hclient⟩

/-! ### Starting twice -/

/-- An environment in which no text is a document. -/
def noTextEnv : ImportEnv := .ofTable []

/-- A category with nothing but an asset. -/
def assetCategory : ConfigCategory := fun name ↦ [("asset", "tase2")].lookup name

/-- The equivalence holds of a plugin that is started and reconfigured. -/
theorem always_singleClient_iff_asset :
    Always (pluginStep noTextEnv) SingleClient (TASE2.new.setAssetName "tase2")
        [.start, .reconfigure (some assetCategory) .fresh] ↔
      StepsMeet (pluginStep noTextEnv) StartsStopped (TASE2.new.setAssetName "tase2")
        [.start, .reconfigure (some assetCategory) .fresh] :=
  always_singleClient_iff
    (show pluginInit noTextEnv assetCategory = .ok (TASE2.new.setAssetName "tase2") from rfl) _

/-- After two starts two clients run, and one still does after shutting down. -/
theorem not_singleClient_twice :
    pluginInit noTextEnv assetCategory = .ok (TASE2.new.setAssetName "tase2") ∧
      ∃ s, run (pluginStep noTextEnv) (TASE2.new.setAssetName "tase2") [.start, .start] = .ok s ∧
        s.running.length = 2 ∧ (pluginShutdown s).running.length = 1 ∧ ¬ SingleClient s := by
  refine ⟨rfl, _, rfl, rfl, rfl, ?_⟩
  intro h
  exact absurd h.single (by decide)

end Tase2South.Plugin
