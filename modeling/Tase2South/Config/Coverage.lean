import Tase2South.Config.Import
import Mathlib.Logic.Basic

/-!
# Data points are polled or reported

After `importExchangeConfig` and `importProtocolConfig` a data point is served by polling or
by a data set that `getDatasets ()` keeps. Polling is switched off entry by entry
(`src/tase2_client_config.cpp:374–392`), whichever of the data sets with one name is kept
(`src/tase2_client_config.cpp:406`).
-/

namespace Tase2South.Config

open Tase2South.Base Tase2South.Json

/-! ### What the stack import does to the maps -/

/-- The application layer that is reached in a stack object, unless it ends the import. -/
def stackApplication (stack : Value) : Option Value :=
  (stack.find? "transport_layer").bind fun transport ↦
    (transport.find? "connections").bind fun _ ↦
      (stack.find? "application_layer").filter fun application ↦
        0 ≤ application.intOr "polling_interval" 0

/-- The application layer whose sets are imported. -/
def applicationOf (env : ImportEnv) (protocolConfig : String) : Option Value :=
  (protocolStackOf env protocolConfig).bind stackApplication

/-- The data sets a stack configuration describes. -/
def stackDatasets (env : ImportEnv) (protocolConfig : String) : List Dataset :=
  (applicationOf env protocolConfig).elim [] datasetsOf

/-- The transfer sets a stack configuration describes. -/
def stackTransferSets (env : ImportEnv) (protocolConfig : String) : List DatasetTransferSet :=
  (applicationOf env protocolConfig).elim [] (transferSetsOf env.codes)

/-- The maps of a configuration after data sets and transfer sets were imported into it. -/
structure Applied (ds : List Dataset) (ts : List DatasetTransferSet)
    (config config' : TASE2ClientConfig) : Prop where
  polled : ∀ ref, ref ∈ config'.polledDatapoints.map ↔
    ref ∈ config.polledDatapoints.map ∧ ∀ d ∈ ds, ref ∉ d.refs
  datasets : config'.datasets = config.datasets.emplaceAll (ds.map fun d ↦ (d.datasetRef, d))
  transferSets : config'.dsTranferSets =
    config.dsTranferSets.emplaceAll (ts.map fun t ↦ (t.dstsRef, t))
  definitions : config'.exchangeDefinitionsRef = config.exchangeDefinitionsRef

private theorem polled_foldl_erasePolled (refs : List String) (config : TASE2ClientConfig) :
    (refs.foldl TASE2ClientConfig.erasePolled config).polledDatapoints.map =
      config.polledDatapoints.map.eraseAll refs :=
  (List.foldl_hom (fun config : TASE2ClientConfig ↦ config.polledDatapoints.map)
    fun _ _ ↦ rfl).symm

private theorem datasets_foldl_erasePolled (refs : List String) (config : TASE2ClientConfig) :
    (refs.foldl TASE2ClientConfig.erasePolled config).datasets = config.datasets :=
  foldl_frame TASE2ClientConfig.erasePolled TASE2ClientConfig.datasets (fun _ _ ↦ rfl) refs config

private theorem transferSets_foldl_erasePolled (refs : List String)
    (config : TASE2ClientConfig) :
    (refs.foldl TASE2ClientConfig.erasePolled config).dsTranferSets = config.dsTranferSets :=
  foldl_frame TASE2ClientConfig.erasePolled TASE2ClientConfig.dsTranferSets (fun _ _ ↦ rfl)
    refs config

private theorem definitions_foldl_erasePolled (refs : List String)
    (config : TASE2ClientConfig) :
    (refs.foldl TASE2ClientConfig.erasePolled config).exchangeDefinitionsRef =
      config.exchangeDefinitionsRef :=
  foldl_frame TASE2ClientConfig.erasePolled TASE2ClientConfig.exchangeDefinitionsRef (fun _ _ ↦ rfl)
    refs config

/-- Adding data sets switches polling off for their refs and keeps the first of each name. -/
theorem applied_foldl_addDataset (ds : List Dataset) (config : TASE2ClientConfig) :
    Applied ds [] config (ds.foldl TASE2ClientConfig.addDataset config) := by
  induction ds generalizing config with
  | nil => exact ⟨by simp, rfl, rfl, rfl⟩
  | cons d ds ih =>
    have h := ih (config.addDataset d)
    refine ⟨fun ref ↦ ?_, ?_, ?_, ?_⟩
    · rw [List.foldl_cons, h.polled, TASE2ClientConfig.addDataset]
      simp only [polled_foldl_erasePolled, UnorderedMap.mem_eraseAll, List.forall_mem_cons]
      rw [and_comm (a := ref ∉ d.refs), and_assoc]
    · rw [List.foldl_cons, h.datasets, TASE2ClientConfig.addDataset]
      simp only [datasets_foldl_erasePolled]
      rfl
    · rw [List.foldl_cons, h.transferSets, TASE2ClientConfig.addDataset]
      simp only [transferSets_foldl_erasePolled]
    · rw [List.foldl_cons, h.definitions, TASE2ClientConfig.addDataset]
      simp only [definitions_foldl_erasePolled]

/-- Adding transfer sets keeps the first of each name and touches nothing else. -/
theorem Applied.addTransferSets {ds : List Dataset} {config config' : TASE2ClientConfig}
    {ts : List DatasetTransferSet} (h : Applied ds ts config config')
    (us : List DatasetTransferSet) :
    Applied ds (ts ++ us) config (us.foldl TASE2ClientConfig.addTransferSet config') := by
  induction us generalizing ts config' with
  | nil => simpa using h
  | cons u us ih =>
    have hu : Applied ds (ts ++ [u]) config (config'.addTransferSet u) := by
      refine ⟨h.polled, h.datasets, ?_, h.definitions⟩
      rw [TASE2ClientConfig.addTransferSet]
      simp [h.transferSets, UnorderedMap.emplaceAll]
    simpa using ih hu

/-- An import of a stack object that returns applies the application layer that is reached to what
the transport layer leaves. -/
theorem importProtocolStack_eq_ok {env : ImportEnv} {stack : Value}
    {config config' : TASE2ClientConfig} (hobj : stack.isObject = true)
    (h : importProtocolStack env stack config = .ok config') :
    ∃ r, (stack.find? "transport_layer").elim (.ok (.stop config))
        (importTransportLayer env · config) = .ok r ∧
      config' = (stackApplication stack).elim r.state fun application ↦
        { r.state.addApplication env.codes application with protocolConfigComplete := true } := by
  have hw := (completes_importProtocolStack_iff env hobj config).mp ⟨config', h⟩
  rw [importProtocolStack, Value.hasMember_eq hobj, ok_bind] at h
  rw [stackApplication]
  cases ht : stack.find? "transport_layer" with
  | none =>
    rw [ht] at h
    cases h
    exact ⟨.stop config, rfl, rfl⟩
  | some transport =>
    simp only [ht, Option.isSome_some, if_true, Value.member_eq ht, ok_bind] at h
    obtain ⟨r, hr, h⟩ := bind_eq_ok_iff.mp h
    refine ⟨r, hr, ?_⟩
    have hflow := importTransportLayer_eq_ok hr
    rw [Option.bind_some]
    cases hc : transport.find? "connections" with
    | none =>
      rw [hc] at hflow
      rw [show r = .stop config from hflow] at h ⊢
      cases h
      rfl
    | some connections =>
      simp only [hc, Option.isSome_some, if_true] at hflow
      obtain ⟨groups, timeout, rfl⟩ := hflow
      simp only [Value.hasMember_eq hobj, ok_bind] at h
      rw [Option.bind_some]
      cases ha : stack.find? "application_layer" with
      | none =>
        rw [ha] at h
        cases h
        rfl
      | some application =>
        have hwa := (hw transport ht).2 (by simp [hc]) application ha
        simp only [ha, Option.isSome_some, if_true, Value.member_eq ha, ok_bind,
          importApplicationLayer_eq env.codes hwa] at h
        by_cases hneg : 0 ≤ application.intOr "polling_interval" 0
        · rw [if_pos hneg] at h
          rw [Option.filter_some_pos (by simpa using hneg)]
          cases h
          rfl
        · rw [if_neg hneg] at h
          rw [Option.filter_some_neg (by simpa using hneg)]
          cases h
          rfl

/-- What an import of a stack object has done when it returns: at most the transport layer,
or the application layer as well. -/
theorem importProtocolStack_cases {env : ImportEnv} {stack : Value}
    {config config' : TASE2ClientConfig} (hobj : stack.isObject = true)
    (h : importProtocolStack env stack config = .ok config') :
    (stackApplication stack = none ∧ ∃ groups timeout,
      config' = { config with connections := groups, backupConnectionTimeout := timeout }) ∨
    (∃ application groups timeout, stackApplication stack = some application ∧
      config' = { TASE2ClientConfig.addApplication env.codes application
          { config with connections := groups, backupConnectionTimeout := timeout } with
        protocolConfigComplete := true }) := by
  obtain ⟨r, hr, rfl⟩ := importProtocolStack_eq_ok hobj h
  have hstate : ∃ groups timeout, r.state =
      { config with connections := groups, backupConnectionTimeout := timeout } := by
    cases ht : stack.find? "transport_layer" with
    | none =>
      rw [ht] at hr
      cases hr
      exact ⟨_, _, rfl⟩
    | some transport =>
      rw [ht] at hr
      have hflow := importTransportLayer_eq_ok hr
      split at hflow
      · obtain ⟨groups, timeout, rfl⟩ := hflow
        exact ⟨groups, timeout, rfl⟩
      · rw [hflow]
        exact ⟨_, _, rfl⟩
  obtain ⟨groups, timeout, hstate⟩ := hstate
  rw [hstate]
  cases ha : stackApplication stack with
  | none => exact .inl ⟨rfl, groups, timeout, rfl⟩
  | some application => exact .inr ⟨application, groups, timeout, rfl, rfl⟩

/-- A stack import that returns has applied the sets the configuration describes. -/
theorem applied_importProtocolConfig {env : ImportEnv} {protocolConfig : String}
    {config config' : TASE2ClientConfig}
    (h : importProtocolConfig env protocolConfig config = .ok config') :
    Applied (stackDatasets env protocolConfig) (stackTransferSets env protocolConfig)
      config config' := by
  rw [importProtocolConfig_eq] at h
  rw [stackDatasets, stackTransferSets, applicationOf]
  cases hs : protocolStackOf env protocolConfig with
  | none =>
    simp only [hs] at h
    cases h
    exact ⟨fun ref ↦ by simp, rfl, rfl, rfl⟩
  | some stack =>
    simp only [hs] at h
    rw [Option.bind_some]
    obtain ⟨ha, groups, timeout, rfl⟩ | ⟨application, groups, timeout, ha, rfl⟩ :=
      importProtocolStack_cases (isObject_of_protocolStackOf hs) h
    · rw [ha]
      exact ⟨fun ref ↦ by simp, rfl, rfl, rfl⟩
    · rw [ha]
      have happ := (applied_foldl_addDataset (datasetsOf application)
        { config with
          protocolConfigComplete := false
          connections := groups
          backupConnectionTimeout := timeout
          pollingInterval :=
            application.intOr "polling_interval" config.pollingInterval }).addTransferSets
        (transferSetsOf env.codes application)
      exact ⟨happ.polled, happ.datasets, happ.transferSets, happ.definitions⟩

/-! ### Served once -/

/-- The data set has the domain of the definition and lists its name. -/
def Dataset.Covers (s : Dataset) (d : DataExchangeDefinition) : Prop :=
  s.domain = (splitExchangeRef d.ref).1 ∧ (splitExchangeRef d.ref).2 ∈ s.entries

instance (s : Dataset) (d : DataExchangeDefinition) : Decidable (s.Covers d) :=
  inferInstanceAs (Decidable (_ ∧ _))

/-- A kept data set covers the definition. -/
def Covered (config : TASE2ClientConfig) (d : DataExchangeDefinition) : Prop :=
  ∃ name s, config.datasets.lookup name = some s ∧ s.Covers d

/-- Every definition of a monitoring type is polled or covered by a kept data set, and not
both. -/
def ServedOnce (config : TASE2ClientConfig) (ds : List DataExchangeDefinition) : Prop :=
  ∀ d ∈ ds, d.type.isMonitoring = true →
    Xor (d.ref ∈ config.polledDatapoints.map) (Covered config d)

/-- The first data set of a name. -/
def FirstOfName (ss : List Dataset) (s : Dataset) : Prop :=
  ss.find? (·.datasetRef = s.datasetRef) = some s

instance (ss : List Dataset) (s : Dataset) : Decidable (FirstOfName ss s) :=
  inferInstanceAs (Decidable (_ = _))

/-- Every monitored definition that some data set lists is covered by the first data set of
some name. -/
def ListedInFirst (ds : List DataExchangeDefinition) (ss : List Dataset) : Prop :=
  ∀ d ∈ ds, d.type.isMonitoring = true → (∃ s ∈ ss, d.ref ∈ s.refs) →
    ∃ s ∈ ss, FirstOfName ss s ∧ s.Covers d

instance (ds : List DataExchangeDefinition) (ss : List Dataset) :
    Decidable (ListedInFirst ds ss) :=
  inferInstanceAs (Decidable (∀ _ ∈ _, _))

/-- A data set that covers a definition lists its ref. -/
theorem ref_mem_refs_of_covers {s : Dataset} {d : DataExchangeDefinition} (h : s.Covers d) :
    d.ref ∈ s.refs := by
  rw [Dataset.refs, List.mem_map]
  refine ⟨(splitExchangeRef d.ref).2, h.2, ?_⟩
  rw [h.1]
  exact d.join_splitExchangeRef

/-- The data sets kept in an empty map are the first of each name. -/
theorem lookup_emplaceAll_datasets_iff (ss : List Dataset) (s : Dataset) :
    (∃ name, (UnorderedMap.emplaceAll ∅ (ss.map fun s ↦ (s.datasetRef, s))).lookup name =
      some s) ↔ FirstOfName ss s := by
  have hlookup : ∀ name, (UnorderedMap.emplaceAll ∅
      (ss.map fun s ↦ (s.datasetRef, s))).lookup name = ss.find? (·.datasetRef = name) := by
    intro name
    rw [UnorderedMap.lookup_emplaceAll, Finmap.lookup_empty, Option.none_or, List.find?_map,
      Option.map_map]
    exact Option.map_id'
  simp only [hlookup, FirstOfName]
  constructor
  · rintro ⟨name, h⟩
    have hname : s.datasetRef = name := by simpa using List.find?_some h
    rwa [hname]
  · intro h
    exact ⟨s.datasetRef, h⟩

section Imports

variable {env : ImportEnv} {msg stack : String} {c₁ c₂ : TASE2ClientConfig}
  (h₁ : importExchangeConfig env msg .fresh = .ok c₁)
  (h₂ : importProtocolConfig env stack c₁ = .ok c₂)

include h₁ h₂

/-- After both imports, the kept data sets are the first of each name. -/
theorem kept_iff_of_imports (s : Dataset) :
    (∃ name, c₂.datasets.lookup name = some s) ↔ FirstOfName (stackDatasets env stack) s := by
  rw [(applied_importProtocolConfig h₂).datasets, eq_foldl_of_importExchangeConfig h₁,
    datasets_foldl_addDefinition]
  exact lookup_emplaceAll_datasets_iff (stackDatasets env stack) s

/-- After both imports, a ref is polled exactly when a monitored definition has it and no data
set lists it. -/
theorem mem_polled_iff_of_imports (ref : String) :
    ref ∈ c₂.polledDatapoints.map ↔
      (∃ d ∈ exchangedDefinitions env msg, d.type.isMonitoring = true ∧ d.ref = ref) ∧
        ∀ s ∈ stackDatasets env stack, ref ∉ s.refs := by
  have hnone : ref ∉ TASE2ClientConfig.fresh.polledDatapoints.map := Finmap.notMem_empty
  rw [(applied_importProtocolConfig h₂).polled, eq_foldl_of_importExchangeConfig h₁,
    mem_polled_foldl_addDefinition]
  exact and_congr_left fun _ ↦ or_iff_right hnone

/-- After both imports, a definition is covered exactly when the first data set of some name
covers it. -/
theorem covered_iff_of_imports (d : DataExchangeDefinition) :
    Covered c₂ d ↔
      ∃ s ∈ stackDatasets env stack, FirstOfName (stackDatasets env stack) s ∧ s.Covers d := by
  constructor
  · rintro ⟨name, s, hs, hc⟩
    have hfirst := (kept_iff_of_imports h₁ h₂ s).mp ⟨name, hs⟩
    exact ⟨s, List.mem_of_find?_eq_some hfirst, hfirst, hc⟩
  · rintro ⟨s, -, hfirst, hc⟩
    obtain ⟨name, hs⟩ := (kept_iff_of_imports h₁ h₂ s).mpr hfirst
    exact ⟨name, s, hs, hc⟩

/-- After both imports, a monitored definition is polled unless a data set lists it. -/
theorem polled_iff_of_imports {d : DataExchangeDefinition}
    (hd : d ∈ exchangedDefinitions env msg) (hm : d.type.isMonitoring = true) :
    d.ref ∈ c₂.polledDatapoints.map ↔ ¬ ∃ s ∈ stackDatasets env stack, d.ref ∈ s.refs := by
  rw [mem_polled_iff_of_imports h₁ h₂]
  simp only [not_exists, not_and]
  exact and_iff_right ⟨d, hd, hm, rfl⟩

/-- After both imports, every monitored definition is served once exactly when those that a
data set lists are covered by a first data set. -/
theorem servedOnce_iff_of_imports :
    ServedOnce c₂ (exchangedDefinitions env msg) ↔
      ListedInFirst (exchangedDefinitions env msg) (stackDatasets env stack) := by
  refine forall₃_congr fun d hd hm ↦ ?_
  rw [polled_iff_of_imports h₁ h₂ hd hm, covered_iff_of_imports h₁ h₂]
  -- a covered definition is listed, so it is never polled as well
  have hlisted : (∃ s ∈ stackDatasets env stack,
      FirstOfName (stackDatasets env stack) s ∧ s.Covers d) →
        ∃ s ∈ stackDatasets env stack, d.ref ∈ s.refs := by
    rintro ⟨s, hs, -, hc⟩
    exact ⟨s, hs, ref_mem_refs_of_covers hc⟩
  unfold Xor
  constructor
  · rintro (⟨hn, -⟩ | ⟨hc, -⟩) hl
    · exact absurd hl hn
    · exact hc
  · intro h
    by_cases hl : ∃ s ∈ stackDatasets env stack, d.ref ∈ s.refs
    · exact .inr ⟨h hl, not_not_intro hl⟩
    · exact .inl ⟨hl, fun hc ↦ hl (hlisted hc)⟩

end Imports

/-- On a fresh configuration both imports of well-typed texts return, and every monitored
definition is served once exactly when those that a data set lists are covered by the first
data set of some name. -/
theorem servedOnce_iff_listedInFirst {env : ImportEnv} {msg stack : String}
    (hmsg : ExchangeWellTyped env msg) (hstack : StackWellTyped env stack) :
    ∃ c₁ c₂, importExchangeConfig env msg .fresh = .ok c₁ ∧
      importProtocolConfig env stack c₁ = .ok c₂ ∧
      (ServedOnce c₂ (exchangedDefinitions env msg) ↔
        ListedInFirst (exchangedDefinitions env msg) (stackDatasets env stack)) := by
  obtain ⟨c₁, h₁⟩ := (completes_importExchangeConfig_iff env msg .fresh).mpr hmsg
  obtain ⟨c₂, h₂⟩ := (completes_importProtocolConfig_iff env stack c₁).mpr hstack
  exact ⟨c₁, c₂, h₁, h₂, servedOnce_iff_of_imports h₁ h₂⟩

/-! ### Two data sets of one name -/

/-- An exchange configuration with one status point. -/
def onePointText : String :=
  "\x7b\"exchanged_data\":\x7b\"datapoints\":[\x7b\"label\":\"TS1\",\"protocols\":" ++
    "[\x7b\"name\":\"tase2\",\"ref\":\"icc1:datapoint1\",\"typeid\":\"StateQ\"\x7d]\x7d]\x7d\x7d"

/-- The document that `onePointText` parses to. -/
def onePoint : Value :=
  .object [("exchanged_data", .object [("datapoints", .array [.object [("label", .string "TS1"),
    ("protocols", .array [.object [("name", .string "tase2"),
      ("ref", .string "icc1:datapoint1"), ("typeid", .string "StateQ")]])]])])]

/-- A stack configuration with two data sets of one name, of which only the second lists the
point. -/
def twoSetsText : String :=
  "\x7b\"protocol_stack\":\x7b\"transport_layer\":\x7b\"connections\":[]\x7d," ++
    "\"application_layer\":\x7b\"datasets\":[" ++
    "\x7b\"dataset_ref\":\"ds1\",\"domain\":\"icc1\",\"entries\":[]\x7d," ++
    "\x7b\"dataset_ref\":\"ds1\",\"domain\":\"icc1\",\"entries\":[\"datapoint1\"]\x7d]\x7d\x7d\x7d"

/-- The application layer in the document of `twoSetsText`. -/
def twoSetsApplication : Value :=
  .object [("datasets", .array [
    .object [("dataset_ref", .string "ds1"), ("domain", .string "icc1"), ("entries", .array [])],
    .object [("dataset_ref", .string "ds1"), ("domain", .string "icc1"),
      ("entries", .array [.string "datapoint1"])]])]

/-- The `protocol_stack` object in the document of `twoSetsText`. -/
def twoSetsStack : Value :=
  .object [("transport_layer", .object [("connections", .array [])]),
    ("application_layer", twoSetsApplication)]

/-- A parser that reads `twoSetsText` and `onePointText`. -/
def twoSetsEnv : ImportEnv :=
  .ofTable [(twoSetsText, .object [("protocol_stack", twoSetsStack)]), (onePointText, onePoint)]

private theorem protocolStackOf_twoSets :
    protocolStackOf twoSetsEnv twoSetsText = some twoSetsStack := by
  apply protocolStackOf_eq_some (ImportEnv.parse_ofTable_self _ _ _) _ rfl rfl
  rw [traverseAndCheckTypes, checkLoop_eq]
  decide

private theorem exchangedDefinitions_onePoint :
    exchangedDefinitions twoSetsEnv onePointText =
      [⟨"icc1:datapoint1", .stateQ, "TS1", by decide, by decide, by decide⟩] := by
  decide

private theorem exchangeWellTyped_onePoint : ExchangeWellTyped twoSetsEnv onePointText := by
  unfold ExchangeWellTyped
  decide

private theorem stackWellTyped_twoSets : StackWellTyped twoSetsEnv twoSetsText := by
  apply stackWellTyped_of_application protocolStackOf_twoSets
  refine ⟨rfl, Value.memberIs_of_none rfl, fun _ ↦ arrayOf_of_some rfl ?_,
    fun _ ↦ arrayOf_of_none rfl⟩
  simp [DatasetWellTyped, Value.MemberIs, Value.find?, Value.text?, Value.isString]

/-- The equivalence holds of the import of `onePointText` and `twoSetsText`. -/
theorem servedOnce_iff_listedInFirst_twoSets :
    ∃ c₁ c₂, importExchangeConfig twoSetsEnv onePointText .fresh = .ok c₁ ∧
      importProtocolConfig twoSetsEnv twoSetsText c₁ = .ok c₂ ∧
      (ServedOnce c₂ (exchangedDefinitions twoSetsEnv onePointText) ↔
        ListedInFirst (exchangedDefinitions twoSetsEnv onePointText)
          (stackDatasets twoSetsEnv twoSetsText)) :=
  servedOnce_iff_listedInFirst exchangeWellTyped_onePoint stackWellTyped_twoSets

/-- The point is erased from the polled ones for the data set that is dropped, so nothing
serves it. -/
theorem not_servedOnce_twoSets :
    ∃ c₁ c₂, importExchangeConfig twoSetsEnv onePointText .fresh = .ok c₁ ∧
      importProtocolConfig twoSetsEnv twoSetsText c₁ = .ok c₂ ∧
      ¬ ServedOnce c₂ (exchangedDefinitions twoSetsEnv onePointText) := by
  obtain ⟨c₁, h₁⟩ := (completes_importExchangeConfig_iff twoSetsEnv onePointText .fresh).mpr
    exchangeWellTyped_onePoint
  obtain ⟨c₂, h₂⟩ := (completes_importProtocolConfig_iff twoSetsEnv twoSetsText c₁).mpr
    stackWellTyped_twoSets
  refine ⟨c₁, c₂, h₁, h₂, ?_⟩
  have happ : applicationOf twoSetsEnv twoSetsText = twoSetsStack.find? "application_layer" := by
    rw [applicationOf, protocolStackOf_twoSets]
    rfl
  rw [servedOnce_iff_of_imports h₁ h₂, exchangedDefinitions_onePoint, stackDatasets, happ]
  decide

end Tase2South.Config
