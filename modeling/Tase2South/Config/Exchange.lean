import Tase2South.Config.Types

/-!
# The exchanged data points

`importExchangeConfig`, `src/tase2_client_config.cpp:764–871`. The importer leaves the
function at the first malformed data point or protocol and keeps what it has read before; an
unknown type or a ref without a colon only skips its protocol.
-/

namespace Tase2South.Config

open Tase2South.Base Tase2South.Json

/-- The definition a protocol entry describes, unless its type is unknown or its ref has no
colon. -/
def makeDefinition (label : String) (protocolRef : CText) (type : String) :
    Option DataExchangeDefinition :=
  if known : getDpTypeFromString type = .unknown then none
  else if colon : ':' ∈ protocolRef.val.toList then
    some ⟨protocolRef, getDpTypeFromString type, label, colon, protocolRef.property, known⟩
  else none

/-- The three map assignments of a definition, `src/tase2_client_config.cpp:856–861`. -/
def TASE2ClientConfig.addDefinition (config : TASE2ClientConfig) (d : DataExchangeDefinition) :
    TASE2ClientConfig :=
  { config with
    exchangeDefinitions := config.exchangeDefinitions.insert d.label d
    exchangeDefinitionsRef := config.exchangeDefinitionsRef.assign d
    polledDatapoints :=
      if d.type.isMonitoring then config.polledDatapoints.assign d
      else config.polledDatapoints
    polled_exchanged := by
      intro r hr
      rw [DefinitionMap.assign, Finmap.mem_insert]
      split at hr
      · rw [DefinitionMap.assign, Finmap.mem_insert] at hr
        exact hr.imp_right (config.polled_exchanged r)
      · exact .inr (config.polled_exchanged r hr) }

/-- The body of the protocol loop, `src/tase2_client_config.cpp:815–869`. -/
def importProtocol (label : String) (protocol : Value) (config : TASE2ClientConfig) :
    Except Failure (Flow TASE2ClientConfig) := do
  match ← protocol.guarded "name" Value.isString Value.getString with
  | none => return .stop config
  | some _ =>
    match ← protocol.guarded "ref" Value.isString Value.getString with
    | none => return .stop config
    | some protocolRef =>
      match ← protocol.guarded "typeid" Value.isString Value.getString with
      | none => return .stop config
      | some type =>
        match makeDefinition label protocolRef type with
        | none => return .next config
        | some d => return .next (config.addDefinition d)

/-- The body of the data point loop, `src/tase2_client_config.cpp:799–870`. -/
def importDatapoint (datapoint : Value) (config : TASE2ClientConfig) :
    Except Failure (Flow TASE2ClientConfig) := do
  if datapoint.isObject then
    match ← datapoint.guarded "label" Value.isString Value.getString with
    | none => return .stop config
    | some label =>
      match ← datapoint.guarded "protocols" Value.isArray Value.getArray with
      | none => return .stop config
      | some protocols => forFlow (importProtocol label) protocols config
  else
    return .stop config

/-- `importExchangeConfig`, `src/tase2_client_config.cpp:764–871`. -/
def importExchangeConfig (env : ImportEnv) (exchangeConfig : String)
    (config : TASE2ClientConfig) : Except Failure TASE2ClientConfig := do
  let config := { config with exchangeConfigComplete := false }
  match env.parse exchangeConfig with
  | none => return config
  | some document =>
    if document.isObject then
      match ← document.guarded "exchanged_data" Value.isObject .ok with
      | none => return config
      | some exchangeData =>
        match ← exchangeData.guarded "datapoints" Value.isArray Value.getArray with
        | none => return config
        | some datapoints => Flow.state <$> forFlow importDatapoint datapoints config
    else
      return config

/-! ### When the import completes -/

/-- The data points the importer loops over. -/
def exchangedDatapoints (env : ImportEnv) (exchangeConfig : String) : List Value :=
  ((env.parse exchangeConfig).bind fun document ↦
    ((document.find? "exchanged_data").filter Value.isObject).bind fun exchangeData ↦
      (exchangeData.find? "datapoints").bind Value.array?).getD []

/-- The protocol has its three texts, so the loop goes on after it. -/
def ProtocolComplete (protocol : Value) : Prop :=
  ∀ name ∈ ["name", "ref", "typeid"], ((protocol.find? name).bind Value.text?).isSome

instance : DecidablePred ProtocolComplete := fun _ ↦ inferInstanceAs (Decidable (∀ _ ∈ _, _))

/-- The protocols of a data point. -/
def protocolsOf (datapoint : Value) : List Value :=
  if ((datapoint.find? "label").bind Value.text?).isSome then
    ((datapoint.find? "protocols").bind Value.array?).getD []
  else []

/-- The data point has a label and complete protocols, so the loop goes on after it. -/
def DatapointComplete (datapoint : Value) : Prop :=
  ((datapoint.find? "label").bind Value.text?).isSome ∧
    ((datapoint.find? "protocols").bind Value.array?).isSome ∧
    ∀ p ∈ protocolsOf datapoint, ProtocolComplete p

instance : DecidablePred DatapointComplete := fun _ ↦ inferInstanceAs (Decidable (_ ∧ _ ∧ _))

/-- The protocols of a data point that the loop reaches. -/
def protocolsReached (datapoint : Value) : List Value :=
  reached ProtocolComplete (protocolsOf datapoint)

/-- The data points that the loop reaches. -/
def datapointsReached (env : ImportEnv) (exchangeConfig : String) : List Value :=
  reached DatapointComplete (exchangedDatapoints env exchangeConfig)

/-- Every protocol that the importer reaches is an object. -/
def ExchangeWellTyped (env : ImportEnv) (exchangeConfig : String) : Prop :=
  ∀ datapoint ∈ datapointsReached env exchangeConfig,
    ∀ protocol ∈ protocolsReached datapoint, protocol.isObject = true

/-- The definition a complete protocol describes. -/
def definitionOf (label : String) (protocol : Value) : Option DataExchangeDefinition :=
  ((protocol.find? "name").bind Value.text?).bind fun _ ↦
    ((protocol.find? "ref").bind Value.text?).bind fun protocolRef ↦
      ((protocol.find? "typeid").bind Value.text?).bind fun type ↦
        makeDefinition label protocolRef type

/-- The definitions a data point describes. -/
def definitionsOf (datapoint : Value) : List DataExchangeDefinition :=
  (protocolsReached datapoint).filterMap (definitionOf (datapoint.textOr "label" ""))

/-- The definitions the importer reads, in order. -/
def exchangedDefinitions (env : ImportEnv) (exchangeConfig : String) :
    List DataExchangeDefinition :=
  (datapointsReached env exchangeConfig).flatMap definitionsOf

/-- What a pass over one protocol decides, when the protocol is an object. -/
theorem importProtocol_eq {protocol : Value} (h : protocol.isObject = true) (label : String)
    (config : TASE2ClientConfig) :
    importProtocol label protocol config =
      match (protocol.find? "name").bind Value.text?, (protocol.find? "ref").bind Value.text?,
        (protocol.find? "typeid").bind Value.text? with
      | some _, some protocolRef, some type =>
        .ok (.next (match makeDefinition label protocolRef type with
          | none => config
          | some d => config.addDefinition d))
      | _, _, _ => .ok (.stop config) := by
  simp only [importProtocol, Value.guarded_getString_eq h, ok_bind, pure_eq_ok]
  cases (protocol.find? "name").bind Value.text? with
  | none => rfl
  | some name =>
    cases (protocol.find? "ref").bind Value.text? with
    | none => rfl
    | some protocolRef =>
      cases (protocol.find? "typeid").bind Value.text? with
      | none => rfl
      | some type =>
        simp only
        split <;> rfl

/-- A pass over one protocol completes exactly when the protocol is an object. -/
theorem completes_importProtocol_iff (label : String) (protocol : Value)
    (config : TASE2ClientConfig) :
    Completes (importProtocol label protocol config) ↔ protocol.isObject = true := by
  by_cases h : protocol.isObject = true
  · rw [importProtocol_eq h]
    split <;> simp [h]
  · simp [importProtocol, Value.guarded, Value.hasMember, h]

/-- A pass goes on exactly when it has read a complete protocol. -/
theorem importProtocol_flow {label : String} (protocol : Value)
    (config : TASE2ClientConfig) (r : Flow TASE2ClientConfig)
    (h : importProtocol label protocol config = .ok r) :
    (∃ c, r = .next c) ↔ ProtocolComplete protocol := by
  have hobj := (completes_importProtocol_iff label protocol config).mp ⟨r, h⟩
  rw [importProtocol_eq hobj] at h
  split at h
  · next hn hr ht =>
    rw [← Except.ok.inj h]
    simp [ProtocolComplete, hn, hr, ht]
  · next hne =>
    rw [← Except.ok.inj h]
    simp only [reduceCtorEq, exists_false, false_iff]
    intro hc
    obtain ⟨n, hn⟩ := Option.isSome_iff_exists.mp (hc "name" (by simp))
    obtain ⟨f, hf⟩ := Option.isSome_iff_exists.mp (hc "ref" (by simp))
    obtain ⟨t, ht⟩ := Option.isSome_iff_exists.mp (hc "typeid" (by simp))
    exact hne n f t hn hf ht

/-- A pass adds the definition the protocol describes, if any. -/
theorem importProtocol_state {label : String} (protocol : Value)
    (config : TASE2ClientConfig) (r : Flow TASE2ClientConfig)
    (h : importProtocol label protocol config = .ok r) :
    r.state = (definitionOf label protocol).elim config config.addDefinition := by
  have hobj := (completes_importProtocol_iff label protocol config).mp ⟨r, h⟩
  rw [importProtocol_eq hobj] at h
  rw [definitionOf]
  split at h
  · next hn hr ht =>
    rw [← Except.ok.inj h, hn, hr, ht]
    simp only [Flow.state, Option.bind_some]
    split <;> next hd => rw [hd]; rfl
  · next hne =>
    rw [← Except.ok.inj h]
    cases hn : (protocol.find? "name").bind Value.text? with
    | none => rfl
    | some n =>
      cases hf : (protocol.find? "ref").bind Value.text? with
      | none => rfl
      | some f =>
        cases ht : (protocol.find? "typeid").bind Value.text? with
        | none => rfl
        | some t => exact absurd ht (hne n f t hn hf)

/-- What a pass over one data point does. -/
theorem importDatapoint_eq (datapoint : Value) (config : TASE2ClientConfig) :
    importDatapoint datapoint config =
      match (datapoint.find? "label").bind Value.text?,
        (datapoint.find? "protocols").bind Value.array? with
      | some label, some protocols => forFlow (importProtocol label) protocols config
      | _, _ => .ok (.stop config) := by
  by_cases h : datapoint.isObject = true
  · simp only [importDatapoint, h, if_true, Value.guarded_getString_eq h,
      Value.guarded_getArray_eq h, ok_bind, pure_eq_ok]
    cases (datapoint.find? "label").bind Value.text? with
    | none => rfl
    | some label =>
      cases (datapoint.find? "protocols").bind Value.array? with
      | none => rfl
      | some protocols => rfl
  · simp [importDatapoint, h, Value.find?_eq_none h]

/-- A pass over one data point completes exactly when every protocol it reaches is an
object. -/
theorem completes_importDatapoint_iff (datapoint : Value) (config : TASE2ClientConfig) :
    Completes (importDatapoint datapoint config) ↔
      ∀ protocol ∈ protocolsReached datapoint, protocol.isObject = true := by
  rw [importDatapoint_eq, protocolsReached, protocolsOf]
  cases hl : (datapoint.find? "label").bind Value.text? with
  | none => simp [reached]
  | some label =>
    cases hp : (datapoint.find? "protocols").bind Value.array? with
    | none => simp [reached]
    | some protocols =>
      exact completes_forFlow_iff (completes_importProtocol_iff label) importProtocol_flow
        protocols config

/-- A pass goes on exactly when it has read a complete data point. -/
theorem importDatapoint_flow (datapoint : Value) (config : TASE2ClientConfig)
    (r : Flow TASE2ClientConfig) (h : importDatapoint datapoint config = .ok r) :
    (∃ c, r = .next c) ↔ DatapointComplete datapoint := by
  rw [importDatapoint_eq] at h
  cases hl : (datapoint.find? "label").bind Value.text? with
  | none =>
    simp only [hl] at h
    simp [← Except.ok.inj h, DatapointComplete, hl]
  | some label =>
    cases hp : (datapoint.find? "protocols").bind Value.array? with
    | none =>
      simp only [hl, hp] at h
      simp [← Except.ok.inj h, DatapointComplete, hp]
    | some protocols =>
      simp only [hl, hp] at h
      rw [forFlow_next_iff importProtocol_flow h]
      simp [DatapointComplete, protocolsOf, hl, hp]

/-- A pass adds the definitions the data point describes. -/
theorem importDatapoint_state (datapoint : Value) (config : TASE2ClientConfig)
    (r : Flow TASE2ClientConfig) (h : importDatapoint datapoint config = .ok r) :
    r.state = (definitionsOf datapoint).foldl TASE2ClientConfig.addDefinition config := by
  rw [importDatapoint_eq] at h
  rw [definitionsOf, protocolsReached, protocolsOf]
  cases hl : (datapoint.find? "label").bind Value.text? with
  | none =>
    simp only [hl] at h
    rw [← Except.ok.inj h]
    rfl
  | some label =>
    cases hp : (datapoint.find? "protocols").bind Value.array? with
    | none =>
      simp only [hl, hp] at h
      rw [← Except.ok.inj h]
      rfl
    | some protocols =>
      simp only [hl, hp] at h
      have hlabel : datapoint.textOr "label" "" = label := by simp [Value.textOr, hl]
      rw [forFlow_state_eq importProtocol_flow importProtocol_state h, hlabel,
        List.foldl_filterMap]
      simp only [Option.isSome_some, if_true, Option.getD_some]
      congr 1
      funext c p
      cases definitionOf label p <;> rfl

/-- The import is the loop over the data points it finds. -/
theorem importExchangeConfig_eq (env : ImportEnv) (exchangeConfig : String)
    (config : TASE2ClientConfig) :
    importExchangeConfig env exchangeConfig config =
      Flow.state <$> forFlow importDatapoint (exchangedDatapoints env exchangeConfig)
        { config with exchangeConfigComplete := false } := by
  unfold importExchangeConfig exchangedDatapoints
  cases env.parse exchangeConfig with
  | none => rfl
  | some document =>
    simp only [Option.bind_some]
    by_cases hobj : document.isObject = true
    · rw [if_pos hobj, Value.guarded_object_eq hobj, ok_bind]
      cases hd : (document.find? "exchanged_data").filter Value.isObject with
      | none => rfl
      | some exchangeData =>
        have hdata : exchangeData.isObject = true := (Option.filter_eq_some_iff.mp hd).2
        simp only [Value.guarded_getArray_eq hdata, ok_bind, Option.bind_some]
        cases (exchangeData.find? "datapoints").bind Value.array? with
        | none => rfl
        | some datapoints => rfl
    · rw [if_neg hobj, Value.find?_eq_none hobj]
      rfl

/-- The import completes exactly when every protocol it reaches is an object. -/
theorem completes_importExchangeConfig_iff (env : ImportEnv) (exchangeConfig : String)
    (config : TASE2ClientConfig) :
    Completes (importExchangeConfig env exchangeConfig config) ↔
      ExchangeWellTyped env exchangeConfig := by
  rw [importExchangeConfig_eq, completes_map_iff]
  exact completes_forFlow_iff completes_importDatapoint_iff importDatapoint_flow _ _

/-- A well-typed import adds the definitions it reads, in order. -/
theorem importExchangeConfig_eq_ok {env : ImportEnv} {exchangeConfig : String}
    (h : ExchangeWellTyped env exchangeConfig) (config : TASE2ClientConfig) :
    importExchangeConfig env exchangeConfig config =
      .ok ((exchangedDefinitions env exchangeConfig).foldl TASE2ClientConfig.addDefinition
        { config with exchangeConfigComplete := false }) := by
  obtain ⟨c, hc⟩ := (completes_importExchangeConfig_iff env exchangeConfig config).mpr h
  rw [importExchangeConfig_eq, map_eq_ok_iff] at hc
  obtain ⟨r, hr, rfl⟩ := hc
  rw [importExchangeConfig_eq, hr, map_ok, exchangedDefinitions, List.foldl_flatMap,
    forFlow_state_eq importDatapoint_flow importDatapoint_state hr]
  rfl

/-- An import that returns has added the definitions it reads, in order. -/
theorem eq_foldl_of_importExchangeConfig {env : ImportEnv} {exchangeConfig : String}
    {config config' : TASE2ClientConfig}
    (h : importExchangeConfig env exchangeConfig config = .ok config') :
    config' = (exchangedDefinitions env exchangeConfig).foldl TASE2ClientConfig.addDefinition
      { config with exchangeConfigComplete := false } := by
  have hw := (completes_importExchangeConfig_iff env exchangeConfig config).mp ⟨config', h⟩
  rw [importExchangeConfig_eq_ok hw] at h
  exact (Except.ok.inj h).symm

/-! ### What is polled after the import -/

/-- A definition added is polled when its type is a monitoring one. -/
theorem mem_polled_addDefinition (config : TASE2ClientConfig) (d : DataExchangeDefinition)
    (ref : String) :
    ref ∈ (config.addDefinition d).polledDatapoints.map ↔
      ref ∈ config.polledDatapoints.map ∨ d.type.isMonitoring = true ∧ d.ref = ref := by
  by_cases hm : d.type.isMonitoring = true
  · simp only [TASE2ClientConfig.addDefinition, hm, if_true, DefinitionMap.assign,
      Finmap.mem_insert, true_and]
    rw [or_comm, eq_comm]
  · simp [TASE2ClientConfig.addDefinition, hm]

/-- The refs polled after adding definitions are those before and those of the monitoring
ones. -/
theorem mem_polled_foldl_addDefinition (ds : List DataExchangeDefinition)
    (config : TASE2ClientConfig) (ref : String) :
    ref ∈ (ds.foldl TASE2ClientConfig.addDefinition config).polledDatapoints.map ↔
      ref ∈ config.polledDatapoints.map ∨
        ∃ d ∈ ds, d.type.isMonitoring = true ∧ d.ref = ref := by
  induction ds generalizing config with
  | nil => simp
  | cons d ds ih =>
    rw [List.foldl_cons, ih, mem_polled_addDefinition, or_assoc]
    simp only [List.mem_cons, exists_eq_or_imp]

/-- Adding definitions leaves the data sets as they are. -/
theorem datasets_foldl_addDefinition (ds : List DataExchangeDefinition)
    (config : TASE2ClientConfig) :
    (ds.foldl TASE2ClientConfig.addDefinition config).datasets = config.datasets :=
  foldl_frame TASE2ClientConfig.addDefinition TASE2ClientConfig.datasets (fun _ _ ↦ rfl) ds config

end Tase2South.Config
