import Tase2South.Config.Coverage

/-!
# The two formats of a data set entry

`importProtocolConfig` joins the domain of a data set, a colon and an entry to find the point that
is no longer polled (`src/tase2_client_config.cpp:371–393`). `m_configDatasets` hands the entry of
a dynamic data set on as it is (`src/tase2_client_connection.cpp:93–121`), and to the library
`dom/pt` is the point `pt` of the domain `dom`.
-/

namespace Tase2South.Config

open Tase2South.Base Tase2South.Json

/-- No point that a kept dynamic data set names by `dom/pt` is polled. -/
def SlashEntriesUnpolled (config : TASE2ClientConfig) : Prop :=
  ∀ name s, config.datasets.lookup name = some s → s.dynamic = true →
    ∀ dom pt, dom ++ "/" ++ pt ∈ s.entries →
      dom ++ ":" ++ pt ∉ config.polledDatapoints.map

/-- The ref is that of a definition of a monitoring type. -/
def Monitored (ds : List DataExchangeDefinition) (ref : String) : Prop :=
  ∃ d ∈ ds, d.type.isMonitoring = true ∧ d.ref = ref

/-- Every monitored point that a first data set of its name, when dynamic, names by `dom/pt` is
also listed in the other format: a domain, a colon and an entry of some data set give `dom:pt`. -/
def SlashEntriesListed (ds : List DataExchangeDefinition) (ss : List Dataset) : Prop :=
  ∀ s ∈ ss, FirstOfName ss s → s.dynamic = true →
    ∀ dom pt, dom ++ "/" ++ pt ∈ s.entries → Monitored ds (dom ++ ":" ++ pt) →
      ∃ s' ∈ ss, dom ++ ":" ++ pt ∈ s'.refs

section Imports

variable {env : ImportEnv} {msg stack : String} {c₁ c₂ : TASE2ClientConfig}
  (h₁ : importExchangeConfig env msg .fresh = .ok c₁)
  (h₂ : importProtocolConfig env stack c₁ = .ok c₂)

include h₁ h₂

/-- After an import of both texts into a fresh configuration, no point that a kept dynamic data
set names by `dom/pt` is polled exactly when those of them that are monitored are also listed in
the format the importer joins. -/
theorem slashEntriesUnpolled_iff :
    SlashEntriesUnpolled c₂ ↔
      SlashEntriesListed (exchangedDefinitions env msg) (stackDatasets env stack) := by
  constructor
  · intro h s hs hfirst hdynamic dom pt hentry hmonitored
    obtain ⟨name, hname⟩ := (kept_iff_of_imports h₁ h₂ s).mpr hfirst
    have hunpolled := h name s hname hdynamic dom pt hentry
    rw [mem_polled_iff_of_imports h₁ h₂] at hunpolled
    by_contra hlisted
    refine hunpolled ⟨hmonitored, fun s' hs' href ↦ ?_⟩
    exact hlisted ⟨s', hs', href⟩
  · intro h name s hname hdynamic dom pt hentry hpolled
    have hfirst := (kept_iff_of_imports h₁ h₂ s).mp ⟨name, hname⟩
    obtain ⟨hmonitored, hunlisted⟩ := (mem_polled_iff_of_imports h₁ h₂ _).mp hpolled
    obtain ⟨s', hs', href⟩ :=
      h s (List.mem_of_find?_eq_some hfirst) hfirst hdynamic dom pt hentry hmonitored
    exact hunlisted s' hs' href

end Imports

/-! ### A data set of slashed entries -/

/-- A stack configuration with a dynamic data set that names the status point with a slash. -/
def slashedText : String :=
  "\x7b\"protocol_stack\":\x7b\"transport_layer\":\x7b\"connections\":[]\x7d," ++
    "\"application_layer\":\x7b\"datasets\":[" ++
    "\x7b\"dataset_ref\":\"ds1\",\"domain\":\"icc1\",\"entries\":[\"icc1/datapoint1\"]," ++
    "\"dynamic\":true\x7d]\x7d\x7d\x7d"

/-- The application layer in the document of `slashedText`. -/
def slashedApplication : Value :=
  .object [("datasets", .array [
    .object [("dataset_ref", .string "ds1"), ("domain", .string "icc1"),
      ("entries", .array [.string "icc1/datapoint1"]), ("dynamic", .bool true)]])]

/-- The `protocol_stack` object in the document of `slashedText`. -/
def slashedStack : Value :=
  .object [("transport_layer", .object [("connections", .array [])]),
    ("application_layer", slashedApplication)]

/-- A parser that reads `slashedText` and `onePointText`. -/
def slashedEnv : ImportEnv :=
  .ofTable [(slashedText, .object [("protocol_stack", slashedStack)]), (onePointText, onePoint)]

private theorem protocolStackOf_slashed :
    protocolStackOf slashedEnv slashedText = some slashedStack := by
  apply protocolStackOf_eq_some (ImportEnv.parse_ofTable_self _ _ _) _ rfl rfl
  rw [traverseAndCheckTypes, checkLoop_eq]
  decide

private theorem stackDatasets_slashed :
    stackDatasets slashedEnv slashedText = [⟨"icc1", "ds1", ["icc1/datapoint1"], true⟩] := by
  have happ : applicationOf slashedEnv slashedText =
      slashedStack.find? "application_layer" := by
    rw [applicationOf, protocolStackOf_slashed]
    rfl
  rw [stackDatasets, happ]
  decide

private theorem exchangedDefinitions_slashed :
    exchangedDefinitions slashedEnv onePointText =
      [⟨"icc1:datapoint1", .stateQ, "TS1", by decide, by decide, by decide⟩] := by
  decide

private theorem exchangeWellTyped_slashed : ExchangeWellTyped slashedEnv onePointText := by
  unfold ExchangeWellTyped
  decide

private theorem stackWellTyped_slashed : StackWellTyped slashedEnv slashedText := by
  apply stackWellTyped_of_application protocolStackOf_slashed
  refine ⟨rfl, Value.memberIs_of_none rfl, fun _ ↦ arrayOf_of_some rfl ?_,
    fun _ ↦ arrayOf_of_none rfl⟩
  simp [DatasetWellTyped, Value.MemberIs, Value.find?, Value.text?, Value.isString]

/-- The equivalence holds of the import of `onePointText` and `slashedText`. -/
theorem slashEntriesUnpolled_iff_slashed :
    ∃ c₁ c₂, importExchangeConfig slashedEnv onePointText .fresh = .ok c₁ ∧
      importProtocolConfig slashedEnv slashedText c₁ = .ok c₂ ∧
      (SlashEntriesUnpolled c₂ ↔ SlashEntriesListed (exchangedDefinitions slashedEnv onePointText)
        (stackDatasets slashedEnv slashedText)) := by
  obtain ⟨c₁, h₁⟩ := (completes_importExchangeConfig_iff slashedEnv onePointText .fresh).mpr
    exchangeWellTyped_slashed
  obtain ⟨c₂, h₂⟩ := (completes_importProtocolConfig_iff slashedEnv slashedText c₁).mpr
    stackWellTyped_slashed
  exact ⟨c₁, c₂, h₁, h₂, slashEntriesUnpolled_iff h₁ h₂⟩

/-- The point stays polled beside the reports of the data set that names it with a slash. -/
theorem not_slashEntriesUnpolled_slashed :
    ∃ c₁ c₂, importExchangeConfig slashedEnv onePointText .fresh = .ok c₁ ∧
      importProtocolConfig slashedEnv slashedText c₁ = .ok c₂ ∧ ¬ SlashEntriesUnpolled c₂ := by
  obtain ⟨c₁, h₁⟩ := (completes_importExchangeConfig_iff slashedEnv onePointText .fresh).mpr
    exchangeWellTyped_slashed
  obtain ⟨c₂, h₂⟩ := (completes_importProtocolConfig_iff slashedEnv slashedText c₁).mpr
    stackWellTyped_slashed
  refine ⟨c₁, c₂, h₁, h₂, fun h ↦ ?_⟩
  obtain ⟨name, hname⟩ := (kept_iff_of_imports h₁ h₂
    ⟨"icc1", "ds1", ["icc1/datapoint1"], true⟩).mpr (by rw [stackDatasets_slashed]; decide)
  refine h name _ hname rfl "icc1" "datapoint1" (by decide) ?_
  rw [mem_polled_iff_of_imports h₁ h₂, exchangedDefinitions_slashed, stackDatasets_slashed]
  refine ⟨⟨_, List.mem_singleton_self _, by decide, by decide⟩, ?_⟩
  decide

end Tase2South.Config
