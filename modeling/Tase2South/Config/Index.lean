import Tase2South.Config.Exchange

/-!
# The indices of the exchanged data points

What `importExchangeConfig` leaves in the three maps of definitions
(`src/tase2_client_config.cpp:856–861`): the last definition of each label, of each ref, and of
each ref among the monitoring ones. `handleAllValues` polls the third map
(`src/tase2_client.cpp:433–443`) and everything else looks up the second one
(`src/tase2_client_config.cpp:949–958`), so the two agree unless a ref is given again to a
command.
-/

namespace Tase2South.Config

open Tase2South.Base Tase2South.Json

/-! ### The three maps are the last definitions of their keys -/

/-- The maps hold the last of the definitions under each of their keys. -/
structure IndexedBy (ds : List DataExchangeDefinition) (config : TASE2ClientConfig) : Prop where
  label : ∀ label, config.exchangeDefinitions.lookup label = lastWith (·.label) ds label
  ref : ∀ ref, config.exchangeDefinitionsRef.map.lookup ref = lastWith (·.ref) ds ref
  polled : ∀ ref, config.polledDatapoints.map.lookup ref =
    lastWith (·.ref) (ds.filter (·.type.isMonitoring)) ref

/-- Adding definitions assigns each under its label. -/
theorem exchangeDefinitions_foldl_addDefinition (ds : List DataExchangeDefinition)
    (config : TASE2ClientConfig) :
    (ds.foldl TASE2ClientConfig.addDefinition config).exchangeDefinitions =
      config.exchangeDefinitions.assignAll (ds.map fun d ↦ (d.label, d)) := by
  rw [UnorderedMap.assignAll, List.foldl_map]
  exact (List.foldl_hom TASE2ClientConfig.exchangeDefinitions fun _ _ ↦ rfl).symm

/-- Adding definitions assigns each under its ref. -/
theorem exchangeDefinitionsRef_foldl_addDefinition (ds : List DataExchangeDefinition)
    (config : TASE2ClientConfig) :
    (ds.foldl TASE2ClientConfig.addDefinition config).exchangeDefinitionsRef.map =
      config.exchangeDefinitionsRef.map.assignAll (ds.map fun d ↦ (d.ref, d)) := by
  rw [UnorderedMap.assignAll, List.foldl_map]
  exact (List.foldl_hom (fun config : TASE2ClientConfig ↦ config.exchangeDefinitionsRef.map)
    fun _ _ ↦ rfl).symm

private theorem polledDatapoints_addDefinition_of_monitoring (config : TASE2ClientConfig)
    {d : DataExchangeDefinition} (h : d.type.isMonitoring = true) :
    (config.addDefinition d).polledDatapoints = config.polledDatapoints.assign d := by
  simp [TASE2ClientConfig.addDefinition, h]

private theorem polledDatapoints_addDefinition_of_not_monitoring (config : TASE2ClientConfig)
    {d : DataExchangeDefinition} (h : ¬ d.type.isMonitoring = true) :
    (config.addDefinition d).polledDatapoints = config.polledDatapoints := by
  simp [TASE2ClientConfig.addDefinition, h]

/-- Adding definitions assigns the monitoring ones under their refs. -/
theorem polledDatapoints_foldl_addDefinition (ds : List DataExchangeDefinition)
    (config : TASE2ClientConfig) :
    (ds.foldl TASE2ClientConfig.addDefinition config).polledDatapoints.map =
      config.polledDatapoints.map.assignAll
        ((ds.filter (·.type.isMonitoring)).map fun d ↦ (d.ref, d)) := by
  induction ds generalizing config with
  | nil => rfl
  | cons d ds ih =>
    rw [List.foldl_cons, ih]
    by_cases hm : d.type.isMonitoring = true
    · rw [polledDatapoints_addDefinition_of_monitoring config hm]
      simp only [List.filter_cons, hm, if_true, List.map_cons]
      rfl
    · rw [polledDatapoints_addDefinition_of_not_monitoring config hm]
      simp only [List.filter_cons, hm, Bool.false_eq_true, if_false]

/-- An import into a fresh configuration that returns indexes the definitions it reads. -/
theorem indexedBy_of_importExchangeConfig {env : ImportEnv} {exchangeConfig : String}
    {config : TASE2ClientConfig}
    (h : importExchangeConfig env exchangeConfig .fresh = .ok config) :
    IndexedBy (exchangedDefinitions env exchangeConfig) config := by
  rw [eq_foldl_of_importExchangeConfig h]
  constructor
  · intro label
    rw [exchangeDefinitions_foldl_addDefinition]
    exact lookup_assignAll_empty DataExchangeDefinition.label _ label
  · intro ref
    rw [exchangeDefinitionsRef_foldl_addDefinition]
    exact lookup_assignAll_empty DataExchangeDefinition.ref _ ref
  · intro ref
    rw [polledDatapoints_foldl_addDefinition]
    exact lookup_assignAll_empty DataExchangeDefinition.ref _ ref

/-! ### The polling index and the ref index -/

/-- A ref is polled exactly when the definition found for it is a monitoring one, and then
that definition is the one polled. -/
def PollingAgrees (config : TASE2ClientConfig) : Prop :=
  ∀ ref,
    (ref ∈ config.polledDatapoints.map ↔
      ∃ d, config.getExchangeDefinitionByRef ref = some d ∧ d.type.isMonitoring = true) ∧
    (ref ∈ config.polledDatapoints.map →
      config.polledDatapoints.map.lookup ref = config.getExchangeDefinitionByRef ref)

/-- The last definition with the ref of a monitoring one is a monitoring one. -/
def MonitoredToTheLast (ds : List DataExchangeDefinition) : Prop :=
  ∀ d ∈ ds, d.type.isMonitoring = true →
    ∃ e ∈ lastWith (·.ref) ds d.ref, e.type.isMonitoring = true

instance (ds : List DataExchangeDefinition) : Decidable (MonitoredToTheLast ds) :=
  inferInstanceAs (Decidable (∀ _ ∈ _, _))

/-- The refs polled are those of the monitoring definitions. -/
theorem IndexedBy.mem_polled_iff {ds : List DataExchangeDefinition} {config : TASE2ClientConfig}
    (h : IndexedBy ds config) (ref : String) :
    ref ∈ config.polledDatapoints.map ↔
      ∃ d ∈ ds, d.type.isMonitoring = true ∧ d.ref = ref := by
  rw [← Finmap.lookup_isSome, h.polled, isSome_lastWith_iff]
  simp [and_assoc]

/-- Of indexed definitions, the two indices agree exactly when a ref that was monitored once
is monitored to the last. -/
theorem IndexedBy.pollingAgrees_iff {ds : List DataExchangeDefinition}
    {config : TASE2ClientConfig} (h : IndexedBy ds config) :
    PollingAgrees config ↔ MonitoredToTheLast ds := by
  constructor
  · intro ha d hd hm
    have hpolled := (h.mem_polled_iff d.ref).mpr ⟨d, hd, hm, rfl⟩
    obtain ⟨e, he, hme⟩ := (ha d.ref).1.mp hpolled
    refine ⟨e, ?_, hme⟩
    rw [Option.mem_def, ← h.ref]
    exact he
  · intro hl ref
    -- the last definition of a polled ref is the one that the two maps hold
    have hlast : ref ∈ config.polledDatapoints.map → ∃ e,
        config.getExchangeDefinitionByRef ref = some e ∧ e.type.isMonitoring = true := by
      intro hpolled
      obtain ⟨d, hd, hm, rfl⟩ := (h.mem_polled_iff ref).mp hpolled
      obtain ⟨e, he, hme⟩ := hl d hd hm
      exact ⟨e, (h.ref d.ref).trans he, hme⟩
    refine ⟨⟨hlast, ?_⟩, ?_⟩
    · rintro ⟨e, he, hme⟩
      obtain ⟨hmem, href⟩ := mem_of_lastWith ((h.ref ref).symm.trans he)
      exact (h.mem_polled_iff ref).mpr ⟨e, hmem, hme, href⟩
    · intro hpolled
      obtain ⟨e, he, hme⟩ := hlast hpolled
      rw [h.polled, he]
      exact lastWith_filter_of_lastWith ((h.ref ref).symm.trans he) hme

/-- After an import into a fresh configuration the polling index and the ref index agree
exactly when the last definition of every ref that is given to a monitoring type is of a
monitoring type. -/
theorem pollingAgrees_iff_monitoredToTheLast {env : ImportEnv} {exchangeConfig : String}
    {config : TASE2ClientConfig}
    (h : importExchangeConfig env exchangeConfig .fresh = .ok config) :
    PollingAgrees config ↔ MonitoredToTheLast (exchangedDefinitions env exchangeConfig) :=
  (indexedBy_of_importExchangeConfig h).pollingAgrees_iff

/-! ### A ref given to a status point and to a command -/

/-- An exchange configuration with two points of one ref. -/
def oneRefText : String :=
  "\x7b\"exchanged_data\":\x7b\"datapoints\":[" ++
    "\x7b\"label\":\"TS1\",\"protocols\":" ++
    "[\x7b\"name\":\"tase2\",\"ref\":\"icc1:datapoint1\",\"typeid\":\"StateQ\"\x7d]\x7d," ++
    "\x7b\"label\":\"TC1\",\"protocols\":" ++
    "[\x7b\"name\":\"tase2\",\"ref\":\"icc1:datapoint1\",\"typeid\":\"Command\"\x7d]\x7d]\x7d\x7d"

/-- The document that `oneRefText` parses to. -/
def oneRef : Value :=
  .object [("exchanged_data", .object [("datapoints", .array [
    .object [("label", .string "TS1"), ("protocols", .array [.object [("name", .string "tase2"),
      ("ref", .string "icc1:datapoint1"), ("typeid", .string "StateQ")]])],
    .object [("label", .string "TC1"), ("protocols", .array [.object [("name", .string "tase2"),
      ("ref", .string "icc1:datapoint1"), ("typeid", .string "Command")]])]])])]

/-- A parser that reads `oneRefText`. -/
def oneRefEnv : ImportEnv := .ofTable [(oneRefText, oneRef)]

private theorem parse_oneRef : oneRefEnv.parse oneRefText = some oneRef :=
  ImportEnv.parse_ofTable_self _ _ _

private theorem exchangeWellTyped_oneRef : ExchangeWellTyped oneRefEnv oneRefText := by
  simp only [ExchangeWellTyped, datapointsReached, exchangedDatapoints, parse_oneRef]
  decide

private theorem importExchangeConfig_oneRef :
    importExchangeConfig oneRefEnv oneRefText .fresh =
      .ok ((exchangedDefinitions oneRefEnv oneRefText).foldl TASE2ClientConfig.addDefinition
        .fresh) :=
  importExchangeConfig_eq_ok exchangeWellTyped_oneRef _

/-- The equivalence holds of the import of `oneRefText`. -/
theorem pollingAgrees_iff_monitoredToTheLast_oneRef :
    PollingAgrees ((exchangedDefinitions oneRefEnv oneRefText).foldl
        TASE2ClientConfig.addDefinition .fresh) ↔
      MonitoredToTheLast (exchangedDefinitions oneRefEnv oneRefText) :=
  pollingAgrees_iff_monitoredToTheLast importExchangeConfig_oneRef

/-- The ref stays polled as a status point although the definition found for it is a
command. -/
theorem not_pollingAgrees_oneRef :
    ∃ config, importExchangeConfig oneRefEnv oneRefText .fresh = .ok config ∧
      ¬ PollingAgrees config := by
  refine ⟨_, importExchangeConfig_oneRef, ?_⟩
  rw [(indexedBy_of_importExchangeConfig importExchangeConfig_oneRef).pollingAgrees_iff,
    exchangedDefinitions, datapointsReached, exchangedDatapoints, parse_oneRef]
  decide

end Tase2South.Config
