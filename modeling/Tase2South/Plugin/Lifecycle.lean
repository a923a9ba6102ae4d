import Tase2South.Config.Import

/-!
# Initialising and reconfiguring

`plugin_init` and `plugin_reconfigure`, `src/plugin.cpp:122–215`, on the state of a `TASE2`
object, `src/tase2.cpp:9–85`. A configuration category is a map from item names to texts.
-/

namespace Tase2South.Plugin

open Tase2South.Base Tase2South.Json Tase2South.Config

/-! ### Configuration categories -/

/-- `ConfigCategory` of Fledge. -/
abbrev ConfigCategory := String → Option String

/-- `itemExists`. -/
def ConfigCategory.itemExists (category : ConfigCategory) (name : String) : Bool :=
  (category name).isSome

/-- `getValue`, which throws when the item is not there. -/
def ConfigCategory.getValue (category : ConfigCategory) (name : String) :
    Except Failure String :=
  match category name with
  | some value => .ok value
  | none => .error (.raised "ConfigItemNotFound")

/-! ### The plugin object -/

/-- A `TASE2Client`, with the configuration object it was made with. -/
structure ClientInstance where
  id : Nat
  configId : Nat
  deriving DecidableEq, Repr

/-- The members of `TASE2`, with the identity of the configuration object, the clients that
are running and the next fresh identity. -/
structure TASE2 where
  config : TASE2ClientConfig
  configId : Nat
  asset : String
  ingest : Bool
  client : Option ClientInstance
  running : List ClientInstance
  nextId : Nat

namespace TASE2

/-- `new TASE2 ()`. -/
def new : TASE2 where
  config := .fresh
  configId := 0
  asset := ""
  ingest := false
  client := none
  running := []
  nextId := 1

/-- `setAssetName`, `include/tase2.hpp:37–41`. -/
def setAssetName (s : TASE2) (asset : String) : TASE2 := { s with asset }

/-- `setJsonConfig`, `src/tase2.cpp:9–21`, with a new configuration object. -/
def setJsonConfig (env : ImportEnv) (s : TASE2)
    (stackConfiguration msgConfiguration tlsConfiguration : String) : Except Failure TASE2 := do
  let config ← Config.setJsonConfig env stackConfiguration msgConfiguration tlsConfiguration
  return { s with config, configId := s.nextId, nextId := s.nextId + 1 }

/-- `start`, `src/tase2.cpp:23–56`: a new client runs on the current configuration. -/
def start (s : TASE2) : TASE2 :=
  let client : ClientInstance := ⟨s.nextId, s.configId⟩
  { s with client := some client, running := s.running ++ [client], nextId := s.nextId + 1 }

/-- `stop`, `src/tase2.cpp:58–68`. -/
def stop (s : TASE2) : TASE2 :=
  match s.client with
  | none => s
  | some client => { s with client := none, running := s.running.filter (· ≠ client) }

@[simp] theorem config_start (s : TASE2) : s.start.config = s.config := rfl

@[simp] theorem asset_start (s : TASE2) : s.start.asset = s.asset := rfl

@[simp] theorem config_setAssetName (s : TASE2) (asset : String) :
    (s.setAssetName asset).config = s.config := rfl

@[simp] theorem asset_setAssetName (s : TASE2) (asset : String) :
    (s.setAssetName asset).asset = asset := rfl

/-- Stopping keeps the configuration. -/
@[simp] theorem config_stop (s : TASE2) : s.stop.config = s.config := by
  unfold stop
  split <;> rfl

end TASE2

/-! ### Entry points -/

/-- `plugin_init`, `src/plugin.cpp:122–146`. -/
def pluginInit (env : ImportEnv) (config : ConfigCategory) : Except Failure TASE2 := do
  let tase2 := TASE2.new
  let tase2 ← (if config.itemExists "asset" then do
      return tase2.setAssetName (← config.getValue "asset")
    else
      return tase2.setAssetName "tase 2")
  if config.itemExists "protocol_stack" && config.itemExists "exchanged_data" &&
      config.itemExists "tls_conf" then do
    let protocolStack ← config.getValue "protocol_stack"
    let exchangedData ← config.getValue "exchanged_data"
    let tlsConf ← config.getValue "tls_conf"
    tase2.setJsonConfig env protocolStack exchangedData tlsConf
  else
    return tase2

/-- `plugin_reconfigure`, `src/plugin.cpp:189–215`: here the third item asked for is `tls`. -/
def pluginReconfigure (env : ImportEnv) (tase2 : TASE2) (config : ConfigCategory) :
    Except Failure TASE2 := do
  let tase2 := tase2.stop
  let tase2 ← (if config.itemExists "protocol_stack" && config.itemExists "exchanged_data" &&
      config.itemExists "tls" then do
    let protocolStack ← config.getValue "protocol_stack"
    let exchangedData ← config.getValue "exchanged_data"
    let tlsConf ← config.getValue "tls_conf"
    tase2.setJsonConfig env protocolStack exchangedData tlsConf
  else
    return tase2)
  if config.itemExists "asset" then do
    return (tase2.setAssetName (← config.getValue "asset")).start
  else
    return tase2

/-! ### Agreement -/

section

variable {env : ImportEnv} {category : ConfigCategory} {asset stack msg tls : String}
  {config : TASE2ClientConfig} (hasset : category "asset" = some asset)
  (hstack : category "protocol_stack" = some stack) (hmsg : category "exchanged_data" = some msg)
  (htls : category "tls_conf" = some tls)
  (himport : Config.setJsonConfig env stack msg tls = .ok config)

include hasset hstack hmsg htls himport

/-- Initialising takes the asset and imports the three texts. -/
theorem pluginInit_eq_ok :
    ∃ t, pluginInit env category = .ok t ∧ t.asset = asset ∧ t.config = config := by
  simp [pluginInit, ConfigCategory.itemExists, ConfigCategory.getValue, hasset, hstack, hmsg,
    htls, TASE2.setJsonConfig, himport]

/-- Reconfiguring takes the asset; it imports the three texts when there is an item `tls`, and
otherwise keeps the configuration. -/
theorem pluginReconfigure_eq_ok (s : TASE2) :
    ∃ s', pluginReconfigure env s category = .ok s' ∧ s'.asset = asset ∧
      s'.config = if category.itemExists "tls" then config else s.config := by
  cases h : category.itemExists "tls" with
  | true =>
    unfold ConfigCategory.itemExists at h
    simp [pluginReconfigure, ConfigCategory.itemExists, ConfigCategory.getValue, hasset, hstack,
      hmsg, htls, TASE2.setJsonConfig, himport, h]
  | false =>
    unfold ConfigCategory.itemExists at h
    simp [pluginReconfigure, ConfigCategory.itemExists, ConfigCategory.getValue, hasset, hstack,
      hmsg, h]

/-- Reconfiguring any state agrees with initialising exactly when the category has an item
`tls` as well, or the configuration before is already the imported one. -/
theorem pluginReconfigure_agrees_iff (s : TASE2) :
    ∃ t s', pluginInit env category = .ok t ∧ pluginReconfigure env s category = .ok s' ∧
      ((s'.asset = t.asset ∧ s'.config = t.config) ↔
        (category.itemExists "tls" = true ∨ s.config = config)) := by
  obtain ⟨t, ht, htasset, htconfig⟩ := pluginInit_eq_ok hasset hstack hmsg htls himport
  obtain ⟨s', hs', hsasset, hsconfig⟩ :=
    pluginReconfigure_eq_ok hasset hstack hmsg htls himport s
  refine ⟨t, s', ht, hs', ?_⟩
  rw [hsasset, htasset, hsconfig, htconfig, and_iff_right rfl]
  cases category.itemExists "tls" with
  | true => simp
  | false => simp

end

/-! ### New certificates -/

/-- A certificate configuration with a private key. -/
def privateKeyText : String := "\x7b\"tls_conf\":\x7b\"private_key\":\"tase2.key\"\x7d\x7d"

/-- A parser that reads `privateKeyText`. -/
def privateKeyEnv : ImportEnv :=
  .ofTable [(privateKeyText, .object [("tls_conf",
    .object [("private_key", .string "tase2.key")])])]

/-- A category with the four items of the default configuration. -/
def privateKeyCategory : ConfigCategory := fun name ↦
  [("asset", "tase2"), ("protocol_stack", ""), ("exchanged_data", ""),
    ("tls_conf", privateKeyText)].lookup name

private theorem items_privateKey :
    privateKeyCategory "asset" = some "tase2" ∧
      privateKeyCategory "protocol_stack" = some "" ∧
      privateKeyCategory "exchanged_data" = some "" ∧
      privateKeyCategory "tls_conf" = some privateKeyText :=
  ⟨rfl, rfl, rfl, rfl⟩

/-- The configuration that is imported for the category: nothing but the private key. -/
def privateKeyConfig : TASE2ClientConfig :=
  { TASE2ClientConfig.fresh with privateKey := "tase2.key" }

private theorem setJsonConfig_privateKey :
    Config.setJsonConfig privateKeyEnv "" "" privateKeyText = .ok privateKeyConfig := rfl

/-- The equivalence holds of a new plugin and the category with a private key. -/
theorem pluginReconfigure_agrees_iff_privateKey :
    Config.setJsonConfig privateKeyEnv "" "" privateKeyText = .ok privateKeyConfig ∧
      ∃ t s', pluginInit privateKeyEnv privateKeyCategory = .ok t ∧
        pluginReconfigure privateKeyEnv .new privateKeyCategory = .ok s' ∧
        ((s'.asset = t.asset ∧ s'.config = t.config) ↔
          (privateKeyCategory.itemExists "tls" = true ∨ TASE2.new.config = privateKeyConfig)) := by
  obtain ⟨hasset, hstack, hmsg, htls⟩ := items_privateKey
  exact ⟨setJsonConfig_privateKey,
    pluginReconfigure_agrees_iff hasset hstack hmsg htls setJsonConfig_privateKey .new⟩

/-- After reconfiguring, the private key of the category is not configured. -/
theorem not_pluginReconfigure_agrees_privateKey :
    ∃ t s', pluginInit privateKeyEnv privateKeyCategory = .ok t ∧
      pluginReconfigure privateKeyEnv .new privateKeyCategory = .ok s' ∧
      ¬ (s'.asset = t.asset ∧ s'.config = t.config) := by
  obtain ⟨hasset, hstack, hmsg, htls⟩ := items_privateKey
  obtain ⟨t, ht, -, htconfig⟩ :=
    pluginInit_eq_ok hasset hstack hmsg htls setJsonConfig_privateKey
  obtain ⟨s', hs', -, hsconfig⟩ :=
    pluginReconfigure_eq_ok hasset hstack hmsg htls setJsonConfig_privateKey .new
  refine ⟨t, s', ht, hs', fun h ↦ ?_⟩
  have hfresh : s'.config = TASE2ClientConfig.fresh := hsconfig
  have hkey : t.config.privateKey = "tase2.key" := congrArg TASE2ClientConfig.privateKey htconfig
  rw [← h.2, hfresh] at hkey
  exact absurd hkey (by decide)

end Tase2South.Plugin
