import Tase2South.Config.Index

/-!
# The definition found for a ref

`getExchangeDefinitionByRef` after `importExchangeConfig` (`src/tase2_client_config.cpp:764–871,
949–958`) against the entries of the document in one list: the two loops, with the `continue` of
an entry and the `return` out of the middle, find the last valid entry before the first malformed
data point or entry.
-/

namespace Tase2South.Config

open Tase2South.Base Tase2South.Json

/-! ### The entries of the document -/

/-- An entry of a `protocols` array under the label of its data point. -/
structure ExchangeEntry where
  ref : CText
  label : String
  typeid : String
  deriving DecidableEq

/-- The entry has a recognised typeid and a colon in its ref. -/
def ExchangeEntry.Valid (e : ExchangeEntry) : Prop :=
  getDpTypeFromString e.typeid ≠ .unknown ∧ ':' ∈ e.ref.val.toList

instance (e : ExchangeEntry) : Decidable e.Valid := inferInstanceAs (Decidable (_ ∧ _))

/-- An entry with texts for name, ref and typeid; without one of them it is malformed. -/
def readEntry (label : String) (protocol : Value) : Option ExchangeEntry :=
  match (protocol.find? "name").bind Value.text?, (protocol.find? "ref").bind Value.text?,
    (protocol.find? "typeid").bind Value.text? with
  | some _, some ref, some typeid => some ⟨ref, label, typeid⟩
  | _, _, _ => none

/-- The entries of a data point; without a label or `protocols` array it is malformed. -/
def readDatapoint (datapoint : Value) : List (Option ExchangeEntry) :=
  match (datapoint.find? "label").bind Value.text?,
    (datapoint.find? "protocols").bind Value.array? with
  | some label, some protocols => protocols.map (readEntry label)
  | _, _ => [none]

/-- The entries of the document in order, those before the first malformed data point or
entry. -/
def entriesBeforeMalformed (env : ImportEnv) (exchangeConfig : String) : List ExchangeEntry :=
  (((exchangedDatapoints env exchangeConfig).flatMap readDatapoint).takeWhile
    Option.isSome).filterMap id

/-- The last valid entry with the ref before the first malformed data point or entry. -/
def lastValidEntry (env : ImportEnv) (exchangeConfig ref : String) : Option ExchangeEntry :=
  ((entriesBeforeMalformed env exchangeConfig).filter fun e ↦
    e.ref.val = ref ∧ e.Valid).getLast?

/-- The `protocols` arrays hold only objects. -/
def ProtocolsAreObjects (env : ImportEnv) (exchangeConfig : String) : Prop :=
  ∀ datapoint ∈ exchangedDatapoints env exchangeConfig,
    ∀ protocol ∈ ((datapoint.find? "protocols").bind Value.array?).getD [],
      protocol.isObject = true

/-! ### The definitions are those entries -/

/-- The definition of a valid entry. -/
def ExchangeEntry.definition (e : ExchangeEntry) : Option DataExchangeDefinition :=
  makeDefinition e.label e.ref e.typeid

/-- A definition is made exactly of a valid entry, with its ref, label and type. -/
theorem ExchangeEntry.definition_eq_some_iff {e : ExchangeEntry} {d : DataExchangeDefinition} :
    e.definition = some d ↔
      e.Valid ∧ d.ref = e.ref.val ∧ d.label = e.label ∧ d.type = getDpTypeFromString e.typeid := by
  unfold ExchangeEntry.definition makeDefinition ExchangeEntry.Valid
  by_cases hknown : getDpTypeFromString e.typeid = .unknown
  · simp [hknown]
  · by_cases hcolon : ':' ∈ e.ref.val.toList
    · rw [dif_neg hknown, dif_pos hcolon, Option.some.injEq]
      cases d
      simp only [DataExchangeDefinition.mk.injEq, hknown, hcolon, ne_eq, not_false_eq_true,
        and_self, true_and]
      tauto
    · simp [hknown, hcolon]

/-- An entry describes the definition it is read as. -/
theorem definitionOf_eq (label : String) (protocol : Value) :
    definitionOf label protocol = (readEntry label protocol).bind ExchangeEntry.definition := by
  unfold definitionOf readEntry
  cases (protocol.find? "name").bind Value.text? with
  | none => rfl
  | some name =>
    cases (protocol.find? "ref").bind Value.text? with
    | none => rfl
    | some ref =>
      cases (protocol.find? "typeid").bind Value.text? with
      | none => rfl
      | some typeid => rfl

/-- The loop goes on past the entries that are not malformed. -/
theorem protocolComplete_iff (label : String) (protocol : Value) :
    ProtocolComplete protocol ↔ (readEntry label protocol).isSome = true := by
  unfold ProtocolComplete readEntry
  rw [List.forall_mem_cons, List.forall_mem_cons, List.forall_mem_singleton]
  cases (protocol.find? "name").bind Value.text? with
  | none => simp
  | some name =>
    cases (protocol.find? "ref").bind Value.text? with
    | none => simp
    | some ref =>
      cases (protocol.find? "typeid").bind Value.text? with
      | none => simp
      | some typeid => simp

/-- The loop goes on past the data points that are not malformed and have no malformed
entry. -/
theorem datapointComplete_iff (datapoint : Value) :
    DatapointComplete datapoint ↔ ∀ e ∈ readDatapoint datapoint, e.isSome = true := by
  unfold DatapointComplete readDatapoint protocolsOf
  cases (datapoint.find? "label").bind Value.text? with
  | none => simp
  | some label =>
    cases (datapoint.find? "protocols").bind Value.array? with
    | none => simp
    | some protocols => simp [protocolComplete_iff label]

/-- The definitions of a data point are those of its entries before the first malformed
one. -/
theorem definitionsOf_eq (datapoint : Value) :
    definitionsOf datapoint =
      ((readDatapoint datapoint).takeWhile Option.isSome).filterMap
        (·.bind ExchangeEntry.definition) := by
  unfold definitionsOf protocolsReached protocolsOf readDatapoint
  cases hlabel : (datapoint.find? "label").bind Value.text? with
  | none => simp [reached]
  | some label =>
    cases (datapoint.find? "protocols").bind Value.array? with
    | none => simp [reached]
    | some protocols =>
      have htext : datapoint.textOr "label" "" = label := by simp [Value.textOr, hlabel]
      have hentries : (reached ProtocolComplete protocols).flatMap
          (fun p ↦ ([readEntry label p].takeWhile Option.isSome).filterMap
            (·.bind ExchangeEntry.definition)) = _ :=
        flatMap_reached_eq (by simp [protocolComplete_iff label]) _
      simp only [Option.isSome_some, if_true, Option.getD_some]
      rw [htext, List.map_eq_flatMap, ← hentries, List.filterMap_eq_flatMap_toList]
      congr 1
      funext p
      rw [definitionOf_eq]
      cases readEntry label p with
      | none => rfl
      | some e =>
        change e.definition.toList = List.filterMap (·.bind ExchangeEntry.definition) [some e]
        rw [List.filterMap_eq_flatMap_toList, List.flatMap_singleton, Option.bind_some]

/-- The definitions the importer reads are those of the entries before the first malformed
data point or entry. -/
theorem exchangedDefinitions_eq_filterMap (env : ImportEnv) (exchangeConfig : String) :
    exchangedDefinitions env exchangeConfig =
      (entriesBeforeMalformed env exchangeConfig).filterMap ExchangeEntry.definition := by
  have hof : definitionsOf = _ := funext definitionsOf_eq
  rw [entriesBeforeMalformed, List.filterMap_filterMap, exchangedDefinitions, datapointsReached,
    hof]
  exact flatMap_reached_eq (fun datapoint _ ↦ datapointComplete_iff datapoint) _

/-! ### The last valid entry -/

/-- A valid entry has a definition. -/
theorem ExchangeEntry.Valid.exists_definition {e : ExchangeEntry} (h : e.Valid) :
    ∃ d, e.definition = some d := by
  rw [ExchangeEntry.definition, makeDefinition, dif_neg h.1, dif_pos h.2]
  exact ⟨_, rfl⟩

/-- An entry has a definition with the ref exactly when it is valid and has the ref. -/
theorem ExchangeEntry.any_definition_iff (e : ExchangeEntry) (ref : String) :
    e.definition.any (fun d ↦ d.ref = ref) = true ↔ e.ref.val = ref ∧ e.Valid := by
  cases hd : e.definition with
  | none =>
    have hinvalid : ¬ e.Valid := by
      intro hvalid
      obtain ⟨d, hsome⟩ := hvalid.exists_definition
      rw [hd] at hsome
      cases hsome
    simp [hinvalid]
  | some d =>
    obtain ⟨hvalid, href, -⟩ := ExchangeEntry.definition_eq_some_iff.mp hd
    simp [hvalid, href]

/-- Objects in the `protocols` arrays are what the importer asks of them. -/
theorem exchangeWellTyped_of_objects {env : ImportEnv} {exchangeConfig : String}
    (h : ProtocolsAreObjects env exchangeConfig) : ExchangeWellTyped env exchangeConfig := by
  intro datapoint hd protocol hp
  have hp := mem_of_mem_reached hp
  unfold protocolsOf at hp
  split at hp
  · exact h datapoint (mem_of_mem_reached hd) protocol hp
  · cases hp

/-- After an import of objects into a fresh configuration, the definition found for a ref is
that of the last valid entry with the ref before the first malformed data point or entry; if
there is none, no definition is found. -/
theorem getExchangeDefinitionByRef_eq_lastValidEntry {env : ImportEnv} {exchangeConfig : String}
    (h : ProtocolsAreObjects env exchangeConfig) :
    ∃ config, importExchangeConfig env exchangeConfig .fresh = .ok config ∧
      ∀ ref, (config.getExchangeDefinitionByRef ref).map (fun d ↦ (d.ref, d.label, d.type)) =
        (lastValidEntry env exchangeConfig ref).map fun e ↦
          (ref, e.label, getDpTypeFromString e.typeid) := by
  have himport := importExchangeConfig_eq_ok (exchangeWellTyped_of_objects h) .fresh
  refine ⟨_, himport, fun ref ↦ ?_⟩
  have hfound := (indexedBy_of_importExchangeConfig himport).ref ref
  rw [TASE2ClientConfig.getExchangeDefinitionByRef, hfound, lastWith,
    exchangedDefinitions_eq_filterMap, ← List.filterMap_reverse, List.find?_filterMap,
    lastValidEntry, List.getLast?_eq_head?_reverse, ← List.filter_reverse, List.head?_filter]
  have hsame : (fun e : ExchangeEntry ↦ e.definition.any fun d ↦ d.ref = ref) =
      fun e ↦ decide (e.ref.val = ref ∧ e.Valid) :=
    funext fun e ↦ Bool.eq_iff_iff.mpr ((e.any_definition_iff ref).trans decide_eq_true_iff.symm)
  rw [hsame]
  cases hlast : (entriesBeforeMalformed env exchangeConfig).reverse.find?
      fun e ↦ decide (e.ref.val = ref ∧ e.Valid) with
  | none => rfl
  | some e =>
    have hdecide := List.find?_some hlast
    obtain ⟨href, hvalid⟩ := of_decide_eq_true hdecide
    obtain ⟨d, hd⟩ := hvalid.exists_definition
    obtain ⟨-, hdref, hlabel, htype⟩ := ExchangeEntry.definition_eq_some_iff.mp hd
    rw [Option.bind_some, hd, Option.map_some, Option.map_some, hdref, href, hlabel, htype]

/-! ### An entry given twice -/

/-- The `protocols` arrays of the configuration with one ref in two points hold objects. -/
theorem protocolsAreObjects_oneRef : ProtocolsAreObjects oneRefEnv oneRefText := by
  simp only [ProtocolsAreObjects, exchangedDatapoints, oneRefEnv, ImportEnv.parse_ofTable_self]
  decide

/-- The definition found for its ref is the later one, the command. -/
theorem getExchangeDefinitionByRef_eq_lastValidEntry_oneRef :
    ∃ config, importExchangeConfig oneRefEnv oneRefText .fresh = .ok config ∧
      (config.getExchangeDefinitionByRef "icc1:datapoint1").map
        (fun d ↦ (d.ref, d.label, d.type)) = some ("icc1:datapoint1", "TC1", .command) := by
  obtain ⟨config, hconfig, hlookup⟩ :=
    getExchangeDefinitionByRef_eq_lastValidEntry protocolsAreObjects_oneRef
  refine ⟨config, hconfig, (hlookup "icc1:datapoint1").trans ?_⟩
  rw [lastValidEntry, entriesBeforeMalformed, exchangedDatapoints, oneRefEnv,
    ImportEnv.parse_ofTable_self]
  decide

end Tase2South.Config
