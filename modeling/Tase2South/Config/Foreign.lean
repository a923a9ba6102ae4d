import Tase2South.Config.Index

/-!
# Entries of other protocols

The protocol loop of `importExchangeConfig` (`src/tase2_client_config.cpp:815–869`) reads
the name of every entry and never compares it with `PROTOCOL_TASE2`
(`src/tase2_client_config.cpp:53`). An entry of another protocol is skipped when its type is
unknown or its ref has no colon; otherwise it adds a definition, and without the three texts
it ends the import. This module compares an import with the import of the configuration
without such entries.
-/

namespace Tase2South.Config

open Tase2South.Base Tase2South.Json

/-! ### The configuration without the entries of other protocols -/

/-- `PROTOCOL_TASE2`, `src/tase2_client_config.cpp:53`. -/
def protocolTase2 : String := "tase2"

/-- The name of the protocol entry, as the importer reads it, is that of this protocol. -/
def isTase2 (protocol : Value) : Bool := protocol.textOr "name" "" == protocolTase2

/-- A data point with the entries of this protocol only. -/
def deleteForeignOf (datapoint : Value) : Value :=
  datapoint.mapMember "protocols" (·.mapElems (List.filter isTase2))

/-- A document with the entries of this protocol only. -/
def deleteForeign (document : Value) : Value :=
  document.mapMember "exchanged_data"
    (·.mapMember "datapoints" (·.mapElems (List.map deleteForeignOf)))

/-- An entry of this protocol is an object. -/
theorem isObject_of_isTase2 {protocol : Value} (h : isTase2 protocol = true) :
    protocol.isObject = true := by
  by_contra hn
  rw [isTase2, Value.textOr, Value.find?_eq_none hn] at h
  exact absurd h (by decide)

/-- Deleting entries leaves the label. -/
@[simp] theorem find?_label_deleteForeignOf (datapoint : Value) :
    (deleteForeignOf datapoint).find? "label" = datapoint.find? "label" :=
  Value.find?_mapMember_of_ne (by decide)

/-- Deleting entries keeps a list of protocols. -/
theorem protocols_deleteForeignOf (datapoint : Value) :
    ((deleteForeignOf datapoint).find? "protocols").bind Value.array? =
      ((datapoint.find? "protocols").bind Value.array?).map (List.filter isTase2) := by
  rw [deleteForeignOf, Value.find?_mapMember_self]
  cases datapoint.find? "protocols" with
  | none => rfl
  | some protocols => exact Value.array?_mapElems _ _

/-- The protocols of the data point without the others are those of this protocol. -/
theorem protocolsOf_deleteForeignOf (datapoint : Value) :
    protocolsOf (deleteForeignOf datapoint) = (protocolsOf datapoint).filter isTase2 := by
  simp only [protocolsOf, find?_label_deleteForeignOf, protocols_deleteForeignOf]
  split
  · cases (datapoint.find? "protocols").bind Value.array? with
    | none => rfl
    | some protocols => rfl
  · rfl

/-- A complete data point is complete without the entries of other protocols. -/
theorem datapointComplete_deleteForeignOf {datapoint : Value} (h : DatapointComplete datapoint) :
    DatapointComplete (deleteForeignOf datapoint) := by
  obtain ⟨hlabel, hprotocols, hall⟩ := h
  refine ⟨by rwa [find?_label_deleteForeignOf], ?_, ?_⟩
  · rwa [protocols_deleteForeignOf, Option.isSome_map]
  · intro p hp
    rw [protocolsOf_deleteForeignOf, List.mem_filter] at hp
    exact hall p hp.1

/-! ### The entries an import reads -/

/-- The label and each protocol of a data point that the importer reads. -/
def entriesOf (datapoint : Value) : List (String × Value) :=
  (protocolsReached datapoint).map fun protocol ↦ (datapoint.textOr "label" "", protocol)

/-- The labels and protocols that the importer reads, in order. -/
def entriesRead (env : ImportEnv) (exchangeConfig : String) : List (String × Value) :=
  (datapointsReached env exchangeConfig).flatMap entriesOf

/-- The entry is one of this protocol. -/
def isTase2Entry (entry : String × Value) : Bool := isTase2 entry.2

/-- The definition an entry describes. -/
def entryDefinition (entry : String × Value) : Option DataExchangeDefinition :=
  definitionOf entry.1 entry.2

/-- The definitions read are those the entries describe. -/
theorem exchangedDefinitions_eq (env : ImportEnv) (exchangeConfig : String) :
    exchangedDefinitions env exchangeConfig =
      (entriesRead env exchangeConfig).filterMap entryDefinition := by
  rw [exchangedDefinitions, entriesRead, List.filterMap_flatMap]
  congr 1
  funext datapoint
  rw [entriesOf, List.filterMap_map]
  rfl

private theorem textOr_label_deleteForeignOf (datapoint : Value) :
    (deleteForeignOf datapoint).textOr "label" "" = datapoint.textOr "label" "" := by
  simp [Value.textOr]

/-- Of the entries read from a data point, those of this protocol are the first that are read
without the others. -/
theorem filter_entriesOf_isPrefix (datapoint : Value) :
    (entriesOf datapoint).filter isTase2Entry <+: entriesOf (deleteForeignOf datapoint) := by
  rw [entriesOf, entriesOf, textOr_label_deleteForeignOf, List.filter_map, protocolsReached,
    protocolsReached, protocolsOf_deleteForeignOf]
  exact (filter_reached_isPrefix ProtocolComplete isTase2 _).map _

/-- The entries of this protocol are all that is read from a data point without the others, when
none of the others ends the import. -/
theorem entriesOf_deleteForeignOf {datapoint : Value}
    (h : ∀ p ∈ protocolsReached datapoint, isTase2 p = false → ProtocolComplete p) :
    entriesOf (deleteForeignOf datapoint) = (entriesOf datapoint).filter isTase2Entry := by
  have hreached : protocolsReached (deleteForeignOf datapoint) =
      (protocolsReached datapoint).filter isTase2 := by
    rw [protocolsReached, protocolsOf_deleteForeignOf]
    exact reached_filter_eq h
  rw [entriesOf, entriesOf, textOr_label_deleteForeignOf, List.filter_map, hreached]
  rfl

/-- When no entry of another protocol ends the import, a data point is as complete without
them. -/
theorem datapointComplete_deleteForeignOf_iff {datapoint : Value}
    (h : ∀ p ∈ protocolsReached datapoint, isTase2 p = false → ProtocolComplete p) :
    DatapointComplete (deleteForeignOf datapoint) ↔ DatapointComplete datapoint := by
  constructor
  · rintro ⟨hlabel, hprotocols, hall⟩
    rw [find?_label_deleteForeignOf] at hlabel
    rw [protocols_deleteForeignOf, Option.isSome_map] at hprotocols
    rw [protocolsOf_deleteForeignOf] at hall
    exact ⟨hlabel, hprotocols, forall_of_forall_reached h hall⟩
  · exact datapointComplete_deleteForeignOf

private theorem filter_entries_isPrefix (datapoints : List Value) :
    ((reached DatapointComplete datapoints).flatMap entriesOf).filter isTase2Entry <+:
      (reached DatapointComplete (datapoints.map deleteForeignOf)).flatMap entriesOf := by
  induction datapoints with
  | nil => exact List.prefix_rfl
  | cons datapoint rest ih =>
    rw [List.map_cons, reached, reached, List.flatMap_cons, List.flatMap_cons,
      List.filter_append]
    by_cases hc : DatapointComplete datapoint
    · -- a complete data point is read to its end with and without the other protocols
      have hall : ∀ p ∈ protocolsReached datapoint, isTase2 p = false → ProtocolComplete p :=
        fun p hp _ ↦ hc.2.2 p (mem_of_mem_reached hp)
      rw [if_pos hc, if_pos (datapointComplete_deleteForeignOf hc),
        entriesOf_deleteForeignOf hall]
      exact (List.prefix_append_right_inj _).mpr ih
    · rw [if_neg hc, List.flatMap_nil, List.filter_nil, List.append_nil]
      exact (filter_entriesOf_isPrefix datapoint).trans (List.prefix_append _ _)

private theorem entries_deleted_eq (datapoints : List Value)
    (h : ∀ datapoint ∈ reached DatapointComplete datapoints,
      ∀ p ∈ protocolsReached datapoint, isTase2 p = false → ProtocolComplete p) :
    (reached DatapointComplete (datapoints.map deleteForeignOf)).flatMap entriesOf =
      ((reached DatapointComplete datapoints).flatMap entriesOf).filter isTase2Entry := by
  induction datapoints with
  | nil => rfl
  | cons datapoint rest ih =>
    rw [reached, List.forall_mem_cons] at h
    have hiff := datapointComplete_deleteForeignOf_iff h.1
    rw [List.map_cons, reached, reached, List.flatMap_cons, List.flatMap_cons,
      List.filter_append, entriesOf_deleteForeignOf h.1]
    by_cases hc : DatapointComplete datapoint
    · rw [if_pos hc] at h ⊢
      rw [if_pos (hiff.mpr hc), ih h.2]
    · -- what ends the import is an entry of this protocol, so it ends the other one as well
      rw [if_neg hc, if_neg fun hd ↦ hc (hiff.mp hd)]
      rfl

section Deleted

variable {env : ImportEnv} {text deleted : String}

/-- The second text is that of the first one's document without the other protocols. -/
def IsDeletion (env : ImportEnv) (text deleted : String) : Prop :=
  env.parse deleted = (env.parse text).map deleteForeign

/-- The data points of the document without the other protocols. -/
theorem exchangedDatapoints_deleted (h : IsDeletion env text deleted) :
    exchangedDatapoints env deleted = (exchangedDatapoints env text).map deleteForeignOf := by
  rw [exchangedDatapoints, exchangedDatapoints, h]
  cases env.parse text with
  | none => rfl
  | some document =>
    simp only [Option.map_some, Option.bind_some, deleteForeign, Value.find?_mapMember_self]
    cases document.find? "exchanged_data" with
    | none => rfl
    | some data =>
      by_cases hdata : data.isObject = true
      · simp only [Option.map_some, Option.filter_some, Value.isObject_mapMember, hdata, if_true,
          Option.bind_some, Value.find?_mapMember_self]
        cases data.find? "datapoints" with
        | none => rfl
        | some datapoints =>
          simp only [Option.map_some, Option.bind_some, Value.array?_mapElems]
          cases datapoints.array? with
          | none => rfl
          | some es => rfl
      · simp [Option.filter_some, hdata]

/-- Without the other protocols, the entries read are those of this protocol and perhaps
more. -/
theorem filter_entriesRead_isPrefix (h : IsDeletion env text deleted) :
    (entriesRead env text).filter isTase2Entry <+: entriesRead env deleted := by
  rw [entriesRead, entriesRead, datapointsReached, datapointsReached,
    exchangedDatapoints_deleted h]
  exact filter_entries_isPrefix (exchangedDatapoints env text)

/-- Without the other protocols every protocol reached is an object. -/
theorem exchangeWellTyped_deleted (h : IsDeletion env text deleted) :
    ExchangeWellTyped env deleted := by
  intro datapoint hd protocol hp
  have hd := mem_of_mem_reached hd
  rw [exchangedDatapoints_deleted h, List.mem_map] at hd
  obtain ⟨original, -, rfl⟩ := hd
  have hp := mem_of_mem_reached hp
  rw [protocolsOf_deleteForeignOf, List.mem_filter] at hp
  exact isObject_of_isTase2 hp.2

/-! ### What the other protocols change -/

/-- The definitions that entries of other protocols describe. -/
def foreignDefinitions (env : ImportEnv) (text : String) : List DataExchangeDefinition :=
  ((entriesRead env text).filter fun entry ↦ !isTase2Entry entry).filterMap entryDefinition

/-- The definitions that entries of this protocol describe. -/
def tase2Definitions (env : ImportEnv) (text : String) : List DataExchangeDefinition :=
  ((entriesRead env text).filter isTase2Entry).filterMap entryDefinition

/-- The definitions that are read only without the other protocols: those behind an entry
that ends the import. -/
def hiddenDefinitions (env : ImportEnv) (text deleted : String) : List DataExchangeDefinition :=
  (exchangedDefinitions env deleted).drop (tase2Definitions env text).length

/-- The two lists have the same last definition under each key of `d` that a map uses. -/
def SameLast (ds ds' : List DataExchangeDefinition) (d : DataExchangeDefinition) : Prop :=
  lastWith (·.label) ds d.label = lastWith (·.label) ds' d.label ∧
    lastWith (·.ref) ds d.ref = lastWith (·.ref) ds' d.ref ∧
    (d.type.isMonitoring = true →
      lastWith (·.ref) (ds.filter (·.type.isMonitoring)) d.ref =
        lastWith (·.ref) (ds'.filter (·.type.isMonitoring)) d.ref)

instance (ds ds' : List DataExchangeDefinition) (d : DataExchangeDefinition) :
    Decidable (SameLast ds ds' d) :=
  inferInstanceAs (Decidable (_ ∧ _ ∧ _))

/-- Under the keys of every definition that another protocol's entry adds or hides, the last
definition is the same with and without these entries. -/
def ForeignOutdone (env : ImportEnv) (text deleted : String) : Prop :=
  ∀ d ∈ foreignDefinitions env text ++ hiddenDefinitions env text deleted,
    SameLast (exchangedDefinitions env text) (exchangedDefinitions env deleted) d

instance (env : ImportEnv) (text deleted : String) :
    Decidable (ForeignOutdone env text deleted) :=
  inferInstanceAs (Decidable (∀ _ ∈ _, _))

/-- The two configurations have the same exchange definitions and poll the same data
points. -/
structure SameIndices (config config' : TASE2ClientConfig) : Prop where
  exchangeDefinitions : config.exchangeDefinitions = config'.exchangeDefinitions
  exchangeDefinitionsRef : config.exchangeDefinitionsRef = config'.exchangeDefinitionsRef
  polledDatapoints : config.polledDatapoints = config'.polledDatapoints

/-- The definitions read without the other protocols are those of this protocol and the
hidden ones. -/
theorem exchangedDefinitions_deleted (h : IsDeletion env text deleted) :
    exchangedDefinitions env deleted =
      tase2Definitions env text ++ hiddenDefinitions env text deleted := by
  have hprefix := (filter_entriesRead_isPrefix h).filterMap entryDefinition
  rw [← exchangedDefinitions_eq] at hprefix
  obtain ⟨rest, hrest⟩ := hprefix
  rw [hiddenDefinitions, ← hrest, tase2Definitions, List.drop_left]

/-- Under a key that no added and no hidden definition has, the last definition is the same
with and without the other protocols. -/
theorem lastWith_eq_of_untouched {κ : Type*} [DecidableEq κ] (h : IsDeletion env text deleted)
    (key : DataExchangeDefinition → κ) (keep : DataExchangeDefinition → Bool) (k : κ)
    (hadded : ∀ d ∈ foreignDefinitions env text, keep d = true → key d ≠ k)
    (hhidden : ∀ d ∈ hiddenDefinitions env text deleted, keep d = true → key d ≠ k) :
    lastWith key ((exchangedDefinitions env text).filter keep) k =
      lastWith key ((exchangedDefinitions env deleted).filter keep) k := by
  rw [exchangedDefinitions_deleted h, List.filter_append, lastWith_append_of_forall]
  · rw [exchangedDefinitions_eq, tase2Definitions, List.filter_filterMap, List.filter_filterMap,
      lastWith_filterMap_filter]
    intro entry he hforeign d hd
    rw [Option.mem_filter_iff] at hd
    apply hadded d _ hd.2
    rw [foreignDefinitions, List.mem_filterMap]
    exact ⟨entry, List.mem_filter.mpr ⟨he, by simp [hforeign]⟩, hd.1⟩
  · intro d hd
    rw [List.mem_filter] at hd
    exact hhidden d hd.1 hd.2

/-- Indexed definitions give the same maps exactly when they have the same last definitions
under every key. -/
theorem IndexedBy.sameIndices_iff {ds ds' : List DataExchangeDefinition}
    {config config' : TASE2ClientConfig} (h : IndexedBy ds config) (h' : IndexedBy ds' config') :
    SameIndices config config' ↔
      (∀ k, lastWith (·.label) ds k = lastWith (·.label) ds' k) ∧
      (∀ k, lastWith (·.ref) ds k = lastWith (·.ref) ds' k) ∧
      ∀ k, lastWith (·.ref) (ds.filter (·.type.isMonitoring)) k =
        lastWith (·.ref) (ds'.filter (·.type.isMonitoring)) k := by
  constructor
  · intro hs
    refine ⟨fun k ↦ ?_, fun k ↦ ?_, fun k ↦ ?_⟩
    · rw [← h.label, ← h'.label, hs.exchangeDefinitions]
    · rw [← h.ref, ← h'.ref, hs.exchangeDefinitionsRef]
    · rw [← h.polled, ← h'.polled, hs.polledDatapoints]
  · rintro ⟨hlabel, href, hpolled⟩
    constructor
    · apply Finmap.ext_lookup
      intro k
      rw [h.label, h'.label, hlabel]
    · ext1
      apply Finmap.ext_lookup
      intro k
      rw [h.ref, h'.ref, href]
    · ext1
      apply Finmap.ext_lookup
      intro k
      rw [h.polled, h'.polled, hpolled]

/-- The last definitions are the same under every key exactly when they are under the keys of
the added and the hidden definitions. -/
theorem sameLast_iff_foreignOutdone (h : IsDeletion env text deleted) :
    ((∀ k, lastWith (·.label) (exchangedDefinitions env text) k =
        lastWith (·.label) (exchangedDefinitions env deleted) k) ∧
      (∀ k, lastWith (·.ref) (exchangedDefinitions env text) k =
        lastWith (·.ref) (exchangedDefinitions env deleted) k) ∧
      ∀ k, lastWith (·.ref) ((exchangedDefinitions env text).filter (·.type.isMonitoring)) k =
        lastWith (·.ref) ((exchangedDefinitions env deleted).filter (·.type.isMonitoring)) k) ↔
      ForeignOutdone env text deleted := by
  constructor
  · rintro ⟨hlabel, href, hpolled⟩ d -
    exact ⟨hlabel d.label, href d.ref, fun _ ↦ hpolled d.ref⟩
  · intro ho
    -- a key that some added or hidden definition has is covered by the condition
    have hadded := fun d hd ↦ ho d (List.mem_append_left _ hd)
    have hhidden := fun d hd ↦ ho d (List.mem_append_right _ hd)
    refine ⟨fun k ↦ ?_, fun k ↦ ?_, fun k ↦ ?_⟩
    · by_contra hne
      have heq := lastWith_eq_of_untouched h (·.label) (fun _ ↦ true) k
        (fun d hd _ hk ↦ hne (hk ▸ (hadded d hd).1)) (fun d hd _ hk ↦ hne (hk ▸ (hhidden d hd).1))
      rw [List.filter_true, List.filter_true] at heq
      exact hne heq
    · by_contra hne
      have heq := lastWith_eq_of_untouched h (·.ref) (fun _ ↦ true) k
        (fun d hd _ hk ↦ hne (hk ▸ (hadded d hd).2.1))
        (fun d hd _ hk ↦ hne (hk ▸ (hhidden d hd).2.1))
      rw [List.filter_true, List.filter_true] at heq
      exact hne heq
    · by_contra hne
      exact hne (lastWith_eq_of_untouched h (·.ref) (·.type.isMonitoring) k
        (fun d hd hm hk ↦ hne (hk ▸ (hadded d hd).2.2 hm))
        (fun d hd hm hk ↦ hne (hk ▸ (hhidden d hd).2.2 hm)))

/-- Entries of other protocols that have the three texts and describe no definition make no
difference. -/
theorem foreignOutdone_of_inert (h : IsDeletion env text deleted)
    (hinert : ∀ entry ∈ entriesRead env text, isTase2Entry entry = false →
      ProtocolComplete entry.2 ∧ entryDefinition entry = none) :
    ForeignOutdone env text deleted := by
  have hforeign : foreignDefinitions env text = [] := by
    rw [foreignDefinitions, List.filterMap_eq_nil_iff]
    intro entry he
    rw [List.mem_filter, Bool.not_eq_true'] at he
    exact (hinert entry he.1 he.2).2
  have hhidden : hiddenDefinitions env text deleted = [] := by
    have heq : entriesRead env deleted = (entriesRead env text).filter isTase2Entry := by
      rw [entriesRead, entriesRead, datapointsReached, datapointsReached,
        exchangedDatapoints_deleted h]
      apply entries_deleted_eq
      intro datapoint hd p hp hn
      refine (hinert (datapoint.textOr "label" "", p) ?_ hn).1
      exact List.mem_flatMap.mpr ⟨datapoint, hd, List.mem_map_of_mem hp⟩
    rw [hiddenDefinitions, exchangedDefinitions_eq, heq]
    exact List.drop_length
  intro d hd
  rw [hforeign, hhidden] at hd
  cases hd

private theorem sameIndices_imports_iff (h : IsDeletion env text deleted)
    (hw : ExchangeWellTyped env text) :
    (∃ config config', importExchangeConfig env text .fresh = .ok config ∧
      importExchangeConfig env deleted .fresh = .ok config' ∧ SameIndices config config') ↔
      ForeignOutdone env text deleted := by
  obtain ⟨c, hc⟩ := (completes_importExchangeConfig_iff env text .fresh).mpr hw
  obtain ⟨c', hc'⟩ := (completes_importExchangeConfig_iff env deleted .fresh).mpr
    (exchangeWellTyped_deleted h)
  have hs := ((indexedBy_of_importExchangeConfig hc).sameIndices_iff
    (indexedBy_of_importExchangeConfig hc')).trans (sameLast_iff_foreignOutdone h)
  rw [← hs]
  constructor
  · rintro ⟨d, d', hd, hd', hsame⟩
    rw [hc] at hd
    rw [hc'] at hd'
    cases hd
    cases hd'
    exact hsame
  · intro hsame
    exact ⟨c, c', hc, hc', hsame⟩

/-- An import into a fresh configuration gives the same exchange definitions and polled data
points as the import without the entries of other protocols, exactly when every protocol it
reaches is an object and these entries add and hide no definition that would make a
difference. -/
theorem sameIndices_iff_foreignOutdone (h : IsDeletion env text deleted) :
    (∃ config config', importExchangeConfig env text .fresh = .ok config ∧
      importExchangeConfig env deleted .fresh = .ok config' ∧ SameIndices config config') ↔
      ExchangeWellTyped env text ∧ ForeignOutdone env text deleted := by
  constructor
  · rintro ⟨config, config', hc, hc', hs⟩
    have hw := (completes_importExchangeConfig_iff env text .fresh).mp ⟨config, hc⟩
    exact ⟨hw, (sameIndices_imports_iff h hw).mp ⟨config, config', hc, hc', hs⟩⟩
  · rintro ⟨hw, ho⟩
    exact (sameIndices_imports_iff h hw).mpr ho

end Deleted

/-! ### An entry without a ref -/

/-- An exchange configuration whose only data point has an entry of another protocol, with
the members of that protocol, before its own. -/
def twoProtocolsText : String :=
  "\x7b\"exchanged_data\":\x7b\"datapoints\":[\x7b\"label\":\"TS1\",\"protocols\":[" ++
    "\x7b\"name\":\"iec61850\",\"objref\":\"DER/GGIO1.Ind1\",\"cdc\":\"SpsTyp\"\x7d," ++
    "\x7b\"name\":\"tase2\",\"ref\":\"icc1:datapoint1\",\"typeid\":\"StateQ\"\x7d]\x7d]\x7d\x7d"

/-- An exchange configuration whose only data point has an entry of this protocol only. -/
def ownProtocolText : String :=
  "\x7b\"exchanged_data\":\x7b\"datapoints\":[\x7b\"label\":\"TS1\",\"protocols\":[" ++
    "\x7b\"name\":\"tase2\",\"ref\":\"icc1:datapoint1\",\"typeid\":\"StateQ\"\x7d]\x7d]\x7d\x7d"

/-- The document that `twoProtocolsText` parses to. -/
def twoProtocols : Value :=
  .object [("exchanged_data", .object [("datapoints", .array [.object [("label", .string "TS1"),
    ("protocols", .array [
      .object [("name", .string "iec61850"), ("objref", .string "DER/GGIO1.Ind1"),
        ("cdc", .string "SpsTyp")],
      .object [("name", .string "tase2"), ("ref", .string "icc1:datapoint1"),
        ("typeid", .string "StateQ")]])]])])]

/-- The document that `ownProtocolText` parses to. -/
def ownProtocol : Value :=
  .object [("exchanged_data", .object [("datapoints", .array [.object [("label", .string "TS1"),
    ("protocols", .array [
      .object [("name", .string "tase2"), ("ref", .string "icc1:datapoint1"),
        ("typeid", .string "StateQ")]])]])])]

/-- A parser that reads `twoProtocolsText` and `ownProtocolText`. -/
def twoProtocolsEnv : ImportEnv :=
  .ofTable [(twoProtocolsText, twoProtocols), (ownProtocolText, ownProtocol)]

private theorem parse_twoProtocols : twoProtocolsEnv.parse twoProtocolsText = some twoProtocols :=
  ImportEnv.parse_ofTable_self _ _ _

private theorem parse_ownProtocol : twoProtocolsEnv.parse ownProtocolText = some ownProtocol := by
  rfl

private theorem isDeletion_twoProtocols :
    IsDeletion twoProtocolsEnv twoProtocolsText ownProtocolText := by
  rw [IsDeletion, parse_twoProtocols, parse_ownProtocol]
  rfl

/-- The equivalence holds of `twoProtocolsText` and `ownProtocolText`. -/
theorem sameIndices_iff_foreignOutdone_twoProtocols :
    (∃ config config', importExchangeConfig twoProtocolsEnv twoProtocolsText .fresh = .ok config ∧
      importExchangeConfig twoProtocolsEnv ownProtocolText .fresh = .ok config' ∧
      SameIndices config config') ↔
      ExchangeWellTyped twoProtocolsEnv twoProtocolsText ∧
        ForeignOutdone twoProtocolsEnv twoProtocolsText ownProtocolText :=
  sameIndices_iff_foreignOutdone isDeletion_twoProtocols

/-- The entry of the other protocol has no ref, so it ends the import before the data point's
own entry: nothing is exchanged, and without it the point is. -/
theorem not_sameIndices_twoProtocols :
    IsDeletion twoProtocolsEnv twoProtocolsText ownProtocolText ∧
      ∃ config config', importExchangeConfig twoProtocolsEnv twoProtocolsText .fresh = .ok config ∧
        importExchangeConfig twoProtocolsEnv ownProtocolText .fresh = .ok config' ∧
        ¬ SameIndices config config' := by
  have hw : ExchangeWellTyped twoProtocolsEnv twoProtocolsText := by
    simp only [ExchangeWellTyped, datapointsReached, exchangedDatapoints, parse_twoProtocols]
    decide
  have hnone : exchangedDefinitions twoProtocolsEnv twoProtocolsText = [] := by
    simp only [exchangedDefinitions, datapointsReached, exchangedDatapoints, parse_twoProtocols]
    decide
  have hone : (lastWith (·.ref) (exchangedDefinitions twoProtocolsEnv ownProtocolText)
      "icc1:datapoint1").isSome = true := by
    simp only [exchangedDefinitions, datapointsReached, exchangedDatapoints, parse_ownProtocol]
    decide
  refine ⟨isDeletion_twoProtocols, _, _, importExchangeConfig_eq_ok hw _,
    importExchangeConfig_eq_ok (exchangeWellTyped_deleted isDeletion_twoProtocols) _, ?_⟩
  intro hs
  have h := indexedBy_of_importExchangeConfig (importExchangeConfig_eq_ok hw _)
  have h' := indexedBy_of_importExchangeConfig
    (importExchangeConfig_eq_ok (exchangeWellTyped_deleted isDeletion_twoProtocols) _)
  have href := ((h.sameIndices_iff h').mp hs).2.1 "icc1:datapoint1"
  rw [← href, hnone] at hone
  exact absurd hone (by decide)

end Tase2South.Config
