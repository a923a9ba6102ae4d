import Tase2South.Base.BitField
import Tase2South.Config.Checked
import Tase2South.Config.Coverage
import Tase2South.Config.Index
import Tase2South.Config.Selector

/-!
# Writing a configuration down

The three documents that `setJsonConfig`, `src/tase2.cpp:9–21`, reads back as a given
configuration: connections with their OSI sections, data sets, transfer sets, data points and
certificates. Whatever the importer has checked can be written, and nothing is lost on the way.
-/

namespace Tase2South.Config

open Tase2South.Base Tase2South.Json

/-! ### Selectors -/

/-- Bytes as numerals, each behind a blank. -/
def writeBytes (bytes : List UInt8) : List Char :=
  bytes.flatMap fun b ↦ ' ' :: Nat.toDigits 10 b.toNat

/-- Numerals behind blanks write the bytes that they are of. -/
theorem writtenAs_writeBytes (bytes : List UInt8) : WrittenAs bytes (writeBytes bytes) := by
  induction bytes with
  | nil => exact .nil (by simp [writeBytes])
  | cons b bytes ih =>
    have hgap : ∀ c ∈ [' '], isSelectorDelim c = true := List.all_eq_true.mp rfl
    have hrest : ∀ c ∈ (writeBytes bytes).head?, isSelectorDelim c = true := by
      cases bytes with
      | nil => simp [writeBytes]
      | cons b' bytes =>
        intro c hc
        cases hc
        rfl
    exact .cons hgap (isNumeral_toDigits b.toNat) hrest ih

/-- The bytes of a selector. -/
def OsiSelector.bytes {capacity : Nat} (selector : OsiSelector capacity) : List UInt8 :=
  selector.value.toList.take selector.size.toNat

/-- A selector as the text of its bytes. -/
def OsiSelector.encode {capacity : Nat} (selector : OsiSelector capacity) : Value :=
  .string (String.ofList (writeBytes selector.bytes))

section

variable {osi : Value} {name : String}

/-- A checked selector has as many bytes as its count says. -/
theorem SelectorChecked.length_bytes {capacity : Nat} {selector : OsiSelector capacity}
    (h : SelectorChecked selector) : selector.bytes.length = selector.size.toNat := by
  rw [OsiSelector.bytes, List.length_take, Vector.length_toList]
  exact Nat.min_eq_left h.fits

/-- Storing the bytes of a checked selector in an unset buffer gives its buffer. -/
theorem SelectorChecked.applyStores_bytes {capacity : Nat} {selector : OsiSelector capacity}
    (h : SelectorChecked selector) :
    applyStores (OsiSelector.zero capacity).value (storesOf 0 selector.bytes) =
      selector.value := by
  have hlength := h.length_bytes
  have hfits := h.fits
  apply Vector.ext
  intro i hi
  apply Option.some.inj
  rw [← Vector.getElem?_eq_getElem, ← Vector.getElem?_eq_getElem,
    getElem?_applyStores_storesOf _ (by omega)]
  by_cases hin : i < selector.size.toNat
  · rw [if_pos (by omega), Nat.sub_zero, OsiSelector.bytes, List.getElem?_take_of_lt hin,
      Vector.getElem?_toList]
  · rw [if_neg (by omega), h.rest i (Nat.le_of_not_lt hin) hi]
    simp [OsiSelector.zero, hi]

/-- A checked selector that is written is imported as it was. -/
theorem importSelector_encode {capacity : Nat} {selector : OsiSelector capacity}
    (h : SelectorChecked selector) (hfind : osi.find? name = some selector.encode) :
    importSelector osi name (.zero capacity) = .ok selector := by
  have hlength := h.length_bytes
  have hwritten := writtenAs_writeBytes selector.bytes
  have htext : nul ∉ (String.ofList (writeBytes selector.bytes)).toList := by
    rw [String.toList_ofList]
    exact nul_notMem_of_writtenAs hwritten
  rw [importSelector, Value.memberOr_of_some hfind]
  simp only [OsiSelector.encode, Value.isString, if_true, Value.getString, Value.text?, cText,
    ok_bind, OsiSelector.parse, cString_eq_self htext]
  rw [parseOsiSelector_of_writtenAs hwritten (hlength ▸ h.fits)]
  simp only [h.applyStores_bytes, hlength, UInt8.ofNat_toNat]

/-! ### The OSI section -/

/-- A qualifier that is written is imported as it was. -/
theorem importAeQualifier_int {n before : Int} (h : Value.fitsInt n = true)
    (hfind : osi.find? name = some (.int n)) : importAeQualifier osi name before = .ok n := by
  rw [importAeQualifier, Value.memberOr_of_some hfind]
  simp only [Value.isInt, h, if_true, Value.getInt, Value.int?]

/-- Digits and dots have no commas to replace. -/
theorem commasToDots_of_isDottedDigits {title : String} (h : isDottedDigits title = true) :
    commasToDots title = title := by
  have hself : ∀ c ∈ title.toList, (if c = ',' then '.' else c) = id c := by
    intro c hc
    apply if_neg
    rintro rfl
    have hdigit := List.all_eq_true.mp h ',' (List.mem_filter.mpr ⟨hc, by decide⟩)
    exact absurd hdigit (by decide)
  apply String.toList_inj.mp
  rw [commasToDots, String.toList_ofList, List.map_congr_left hself, List.map_id]

/-- A title of digits and dots that is written is imported as it was. -/
theorem importApTitle_string {title before : String} (h : isDottedDigits title = true)
    (hfind : osi.find? name = some (.string title)) :
    importApTitle osi name before = .ok title := by
  rw [importApTitle, Value.memberOr_of_some hfind]
  simp only [Value.isString, if_true, Value.getString, Value.text?, cText, ok_bind,
    cString_of_isDottedDigits h, commasToDots_of_isDottedDigits h, h, pure_eq_ok]

end

/-- OSI parameters as a section. -/
def OsiParameters.encode (osiParams : OsiParameters) : Value :=
  .object [("local_ap_title", .string osiParams.localApTitle),
    ("local_ae_qualifier", .int osiParams.localAeQualifier),
    ("remote_ap_title", .string osiParams.remoteApTitle),
    ("remote_ae_qualifier", .int osiParams.remoteAeQualifier),
    ("local_psel", osiParams.localPSelector.encode),
    ("local_ssel", osiParams.localSSelector.encode),
    ("local_tsel", osiParams.localTSelector.encode),
    ("remote_psel", osiParams.remotePSelector.encode),
    ("remote_ssel", osiParams.remoteSSelector.encode),
    ("remote_tsel", osiParams.remoteTSelector.encode)]

/-- Checked OSI parameters that are written are imported as they were. -/
theorem importJsonConnectionOsiConfig_encode {osiParams : OsiParameters} (h : OsiChecked osiParams)
    {group : RedGroup} (hunset : group.osiParameters = {}) :
    importJsonConnectionOsiConfig osiParams.encode group =
      .ok { group with osiParameters := osiParams, isOsiParametersEnabled := true } := by
  rw [importJsonConnectionOsiConfig_eq_ok_iff rfl, hunset]
  refine ⟨⟨?_, ?_, ?_, ?_⟩, ⟨?_, ?_, ?_, ?_, ?_, ?_⟩, rfl⟩
  · exact importAeQualifier_int h.localAeQualifier rfl
  · exact importAeQualifier_int h.remoteAeQualifier rfl
  · exact importApTitle_string h.localApTitle rfl
  · exact importApTitle_string h.remoteApTitle rfl
  · exact importSelector_encode h.localPSelector rfl
  · exact importSelector_encode h.localSSelector rfl
  · exact importSelector_encode h.localTSelector rfl
  · exact importSelector_encode h.remotePSelector rfl
  · exact importSelector_encode h.remoteSSelector rfl
  · exact importSelector_encode h.remoteTSelector rfl

/-! ### Connections -/

/-- A group as an entry of the connections. -/
def RedGroup.encode (group : RedGroup) : Value :=
  .object ([("ip_addr", .string group.ipAddr), ("port", .int group.tcpPort),
    ("tls", .bool group.tls)] ++
      if group.isOsiParametersEnabled then [("osi", group.osiParameters.encode)] else [])

/-- A checked group that is written is added as it was. -/
theorem importConnection_encode {env : ImportEnv} {group : RedGroup} (h : GroupChecked env group)
    (groups : List RedGroup) :
    importConnection env groups group.encode = .ok (groups ++ [group]) := by
  have hobj : group.encode.isObject = true := rfl
  have hip : group.encode.find? "ip_addr" = some (.string group.ipAddr) := rfl
  have hport : group.encode.find? "port" = some (.int group.tcpPort) := rfl
  have htls : group.encode.find? "tls" = some (.bool group.tls) := rfl
  have hosi : group.encode.find? "osi" =
      if group.isOsiParametersEnabled then some group.osiParameters.encode else none := by
    cases hset : group.isOsiParametersEnabled with
    | false =>
      simp only [RedGroup.encode, hset]
      rfl
    | true =>
      simp only [RedGroup.encode, hset]
      rfl
  have hrange := h.port
  have hfits : Value.fitsInt group.tcpPort = true := by
    rw [Value.fitsInt, decide_eq_true_eq]
    omega
  have haccepts : acceptsConnection env group.encode = .ok true := by
    rw [acceptsConnection, Value.memberOr_of_some hip]
    simp only [Value.getString, Value.text?, cText, ok_bind, h.text, h.ipAddr, if_true,
      Value.memberOr_of_some hport, Value.getInt, Value.int?, hfits, pure_eq_ok]
    simp only [Except.ok.injEq, Bool.not_eq_true', Bool.or_eq_false_iff, decide_eq_false_iff_not]
    omega
  have hgroup : importGroup group.encode = .ok group := by
    have hsection : group.encode.memberOr "osi" (importJsonConnectionOsiConfig ·
        { ipAddr := group.ipAddr, tcpPort := group.tcpPort, tls := false })
          { ipAddr := group.ipAddr, tcpPort := group.tcpPort, tls := false } =
        .ok { group with tls := false } := by
      rw [Value.memberOr_eq_ok_iff, hosi]
      refine ⟨hobj, ?_⟩
      cases hset : group.isOsiParametersEnabled with
      | false =>
        rw [if_neg (by simp)]
        simp only [← h.unset hset, ← hset]
      | true =>
        rw [if_pos rfl]
        simp only [importJsonConnectionOsiConfig_encode h.osi, ← hset]
    simp only [importGroup, Value.member_eq hip, Value.member_eq hport, Value.getString,
      Value.text?, cText, Value.getInt, Value.int?, hfits, if_true, ok_bind, h.text, hsection,
      Value.guarded_getBool_eq hobj, htls, Option.bind_some, Value.bool?, Option.getD_some,
      pure_eq_ok]
  rw [importConnection, haccepts, ok_bind, if_pos rfl, hgroup, ok_bind, pure_eq_ok]

/-- Checked groups that are written are added in their order. -/
theorem foldlM_importConnection_encode {env : ImportEnv} {added : List RedGroup}
    (h : ∀ group ∈ added, GroupChecked env group) (groups : List RedGroup) :
    (added.map RedGroup.encode).foldlM (importConnection env) groups = .ok (groups ++ added) := by
  induction added generalizing groups with
  | nil => rw [List.map_nil, List.foldlM_nil, List.append_nil, pure_eq_ok]
  | cons group added ih =>
    rw [List.forall_mem_cons] at h
    rw [List.map_cons, List.foldlM_cons, importConnection_encode h.1, ok_bind, ih h.2,
      List.append_assoc, List.singleton_append]

/-! ### Data sets and transfer sets -/

/-- A text that no reader cuts off. -/
def IsText (text : String) : Prop := nul ∉ text.toList

instance : DecidablePred IsText := fun _ ↦ inferInstanceAs (Decidable (_ ∉ _))

/-- Texts are read as they are written. -/
theorem texts_map_string {names : List String} (h : ∀ name ∈ names, IsText name) :
    texts (names.map .string) = names := by
  rw [texts, List.filterMap_map]
  have hread : ∀ name ∈ names, (((fun e : Value ↦ e.text?.map Subtype.val) ∘ Value.string) name) =
      some name := fun name hname ↦ congrArg some (cString_eq_self (h name hname))
  rw [List.filterMap_congr hread, List.filterMap_some]

/-- A data set as an entry of the data sets. -/
def Dataset.encode (d : Dataset) : Value :=
  .object [("dataset_ref", .string d.datasetRef), ("domain", .string d.domain),
    ("entries", .array (d.entries.map .string)), ("dynamic", .bool d.dynamic)]

/-- The names and entries of a data set are texts. -/
structure Dataset.Writable (d : Dataset) : Prop where
  domain : IsText d.domain
  datasetRef : IsText d.datasetRef
  entries : ∀ name ∈ d.entries, IsText name

/-- A data set that is written is read as it was. -/
theorem Dataset.Writable.datasetOf_encode {d : Dataset} (h : d.Writable) :
    datasetOf d.encode = some d := by
  have hdomain : d.encode.textOr "domain" "vcc" = d.domain := cString_eq_self h.domain
  have hname : ((d.encode.find? "dataset_ref").bind Value.text?) =
      some ⟨d.datasetRef, h.datasetRef⟩ :=
    congrArg some (Subtype.ext (cString_eq_self h.datasetRef))
  have hentries : ((d.encode.find? "entries").bind Value.array?) =
      some (d.entries.map .string) := rfl
  rw [datasetOf, hdomain, hname, hentries, Option.getD_some, texts_map_string h.entries]
  rfl

/-- A data set that is written is well typed. -/
theorem datasetWellTyped_encode (d : Dataset) : DatasetWellTyped d.encode := by
  intro _ w hw
  cases hw
  rfl

/-- The conditions whose flags are among the given ones. -/
def DsConditionCodes.within (codes : DsConditionCodes) (conditions : BitVec 32) :
    List (String × BitVec 32) :=
  codes.dsConditions.filter fun p ↦ p.2 &&& conditions == p.2

/-- Every condition is looked up under its name. -/
theorem DsConditionCodes.lookup_of_mem {codes : DsConditionCodes} {p : String × BitVec 32}
    (h : p ∈ codes.dsConditions) : codes.dsConditions.lookup (cString p.1) = some p.2 := by
  have hnames : ∀ name ∈ ["interval", "integrity", "change", "operator_request",
      "external_event"], cString name = name := by
    simp only [List.forall_mem_cons, List.not_mem_nil, false_implies, implies_true, and_true]
    decide
  have hname : p.1 ∈ ["interval", "integrity", "change", "operator_request", "external_event"] :=
    List.mem_map_of_mem (f := Prod.fst) h
  rw [hnames p.1 hname]
  simp only [dsConditions, List.mem_cons, List.not_mem_nil, or_false] at h ⊢
  rcases h with rfl | rfl | rfl | rfl | rfl <;> rfl

/-- The conditions of a list are the flags of its known names. -/
theorem foldl_addCondition_eq (codes : DsConditionCodes) (es : List Value) :
    es.foldl (addCondition codes) 0#32 =
      unionOf (es.filterMap fun e ↦ e.text?.bind fun name ↦
        codes.dsConditions.lookup name.val) := by
  rw [unionOf, List.foldl_filterMap]
  apply List.foldl_ext
  intro flags e _
  rw [addCondition]
  cases e.text?.bind fun name ↦ codes.dsConditions.lookup name.val <;> rfl

/-- The names of conditions are read as their flags. -/
theorem foldl_addCondition_map {codes : DsConditionCodes} {conditions : List (String × BitVec 32)}
    (h : ∀ p ∈ conditions, p ∈ codes.dsConditions) :
    (conditions.map fun p ↦ Value.string p.1).foldl (addCondition codes) 0#32 =
      unionOf (conditions.map Prod.snd) := by
  rw [foldl_addCondition_eq, List.filterMap_map]
  have hread : ∀ p ∈ conditions, ((fun e : Value ↦ e.text?.bind fun name ↦
      codes.dsConditions.lookup name.val) ∘ fun p ↦ Value.string p.1) p = some p.2 :=
    fun p hp ↦ DsConditionCodes.lookup_of_mem (h p hp)
  rw [List.filterMap_congr hread, List.filterMap_eq_map']

/-- A transfer set as an entry of the transfer sets. -/
def DatasetTransferSet.encode (codes : DsConditionCodes) (t : DatasetTransferSet) : Value :=
  .object [("domain", .string t.domain), ("name", .string t.dstsRef),
    ("dataset_ref", .string t.datasetRef),
    ("dsConditions", .array ((codes.within t.dsConditions).map fun p ↦ .string p.1)),
    ("interval", .int t.interval), ("tle", .int t.tle), ("integrityCheck", .int t.integrityCheck),
    ("critical", .bool t.critical), ("rbe", .bool t.rbe), ("bufTm", .int t.bufferTime),
    ("startTime", .int t.startTime), ("allChangesReported", .bool t.allChangesReported)]

/-- The names of a transfer set are texts, its numbers fit an `int`, and its flags are those of
some conditions. -/
structure DatasetTransferSet.Writable (codes : DsConditionCodes) (t : DatasetTransferSet) :
    Prop where
  domain : IsText t.domain
  dstsRef : IsText t.dstsRef
  datasetRef : IsText t.datasetRef
  conditions : unionOf ((codes.within t.dsConditions).map Prod.snd) = t.dsConditions
  numbers : ∀ n ∈ [t.interval, t.tle, t.integrityCheck, t.bufferTime, t.startTime],
    Value.fitsInt n = true

/-- A transfer set that is written is read as it was. -/
theorem DatasetTransferSet.Writable.transferSetOf_encode {codes : DsConditionCodes}
    {t : DatasetTransferSet} (h : t.Writable codes) :
    transferSetOf codes (t.encode codes) = some t := by
  have hnumbers := h.numbers
  simp only [List.forall_mem_cons, List.not_mem_nil, false_implies, implies_true, and_true]
    at hnumbers
  obtain ⟨hinterval, htle, hintegrity, hbuffer, hstart⟩ := hnumbers
  have hname : (((t.encode codes).find? "name").bind Value.text?) =
      some ⟨t.dstsRef, h.dstsRef⟩ := congrArg some (Subtype.ext (cString_eq_self h.dstsRef))
  have hdomain : (t.encode codes).textOr "domain" "" = t.domain := cString_eq_self h.domain
  have hdataset : (t.encode codes).textOr "dataset_ref" "" = t.datasetRef :=
    cString_eq_self h.datasetRef
  have hconditions : conditionsOf codes (t.encode codes) = t.dsConditions := by
    have hmem : ∀ p ∈ codes.within t.dsConditions, p ∈ codes.dsConditions :=
      fun _ hp ↦ List.mem_of_mem_filter hp
    exact (foldl_addCondition_map hmem).trans h.conditions
  have hint : ∀ {name : String} {n : Int}, (t.encode codes).find? name = some (.int n) →
      Value.fitsInt n = true → (t.encode codes).intOr name 0 = n := by
    intro name n hfind hfits
    rw [Value.intOr, hfind, Option.bind_some, Value.int?, if_pos hfits, Option.getD_some]
  rw [transferSetOf, hname, hdomain, hdataset, hconditions, hint rfl hstart, hint rfl hinterval,
    hint rfl htle, hint rfl hbuffer, hint rfl hintegrity]
  rfl

/-- A transfer set that is written is well typed. -/
theorem DatasetTransferSet.Writable.transferSetWellTyped_encode {codes : DsConditionCodes}
    {t : DatasetTransferSet} (h : t.Writable codes) : TransferSetWellTyped (t.encode codes) := by
  have hnumbers := h.numbers
  simp only [List.forall_mem_cons, List.not_mem_nil, false_implies, implies_true, and_true]
    at hnumbers
  obtain ⟨hinterval, htle, hintegrity, hbuffer, hstart⟩ := hnumbers
  have his : ∀ {name : String} {v : Value} {test : Value → Bool},
      (t.encode codes).find? name = some v → test v = true →
        (t.encode codes).MemberIs name test := by
    intro name v test hfind htest w hw
    rw [hfind, Option.some.injEq] at hw
    exact hw ▸ htest
  refine ⟨his rfl rfl, fun _ ↦ ?_⟩
  simp only [transferSetFields, List.forall_mem_cons, List.not_mem_nil, false_implies,
    implies_true, and_true]
  exact ⟨his rfl rfl, his rfl rfl, his rfl rfl, his rfl hinterval, his rfl htle,
    his rfl hintegrity, his rfl rfl, his rfl rfl, his rfl hbuffer, his rfl hstart, his rfl rfl⟩

/-! ### Data points -/

/-- The name of a type. -/
def DPTYPE.typeid (type : DPTYPE) : String :=
  ((dpTypeMap.find? (·.2 == type)).map Prod.fst).getD ""

/-- A recognised type is read as it is named. -/
theorem getDpTypeFromString_typeid {type : DPTYPE} (h : type ≠ .unknown) :
    getDpTypeFromString (cString type.typeid) = type := by
  revert h
  cases type <;> decide

/-- The entry of a definition among the protocols of its data point. -/
def DataExchangeDefinition.protocol (d : DataExchangeDefinition) : Value :=
  .object [("name", .string "tase2"), ("ref", .string d.ref), ("typeid", .string d.type.typeid)]

/-- A definition as a data point. -/
def DataExchangeDefinition.encode (d : DataExchangeDefinition) : Value :=
  .object [("label", .string d.label), ("protocols", .array [d.protocol])]

/-- A definition that is written is read as it was. -/
theorem definitionOf_protocol (d : DataExchangeDefinition) :
    definitionOf d.label d.protocol = some d := by
  have hname : ((d.protocol.find? "name").bind Value.text?) = some (cText "tase2") := rfl
  have href : ((d.protocol.find? "ref").bind Value.text?) = some ⟨d.ref, d.text⟩ :=
    congrArg some (Subtype.ext (cString_eq_self d.text))
  have htype : ((d.protocol.find? "typeid").bind Value.text?) = some (cText d.type.typeid) := rfl
  rw [definitionOf, hname, href, htype]
  simp only [Option.bind_some, cText, makeDefinition, getDpTypeFromString_typeid d.known, d.known,
    dite_false, d.colon, dite_true]

/-- The protocol of a definition is complete. -/
theorem protocolComplete_protocol (d : DataExchangeDefinition) : ProtocolComplete d.protocol := by
  simp only [ProtocolComplete, List.forall_mem_cons, List.not_mem_nil, false_implies,
    implies_true, and_true]
  exact ⟨rfl, rfl, rfl⟩

/-- The protocols of a data point that is written. -/
theorem protocolsReached_encode (d : DataExchangeDefinition) :
    protocolsReached d.encode = [d.protocol] := by
  apply reached_eq_self
  intro protocol hprotocol
  rw [List.mem_singleton.mp hprotocol]
  exact protocolComplete_protocol d

/-- A data point that is written has its definition. -/
theorem definitionsOf_encode {d : DataExchangeDefinition} (h : IsText d.label) :
    definitionsOf d.encode = [d] := by
  have hlabel : d.encode.textOr "label" "" = d.label := cString_eq_self h
  rw [definitionsOf, protocolsReached_encode, hlabel]
  simp only [List.filterMap_cons, definitionOf_protocol, List.filterMap_nil]

/-- A data point that is written is complete. -/
theorem datapointComplete_encode (d : DataExchangeDefinition) : DatapointComplete d.encode := by
  refine ⟨rfl, rfl, fun protocol hprotocol ↦ ?_⟩
  rw [List.mem_singleton.mp hprotocol]
  exact protocolComplete_protocol d

/-- The document of exchanged data points. -/
def exchangeDocument (points : List DataExchangeDefinition) : Value :=
  .object [("exchanged_data", .object [
    ("datapoints", .array (points.map DataExchangeDefinition.encode))])]

section

variable {env : ImportEnv} {msg : String} {points : List DataExchangeDefinition}

/-- Every data point that is written is reached. -/
theorem datapointsReached_document (hparse : env.parse msg = some (exchangeDocument points)) :
    datapointsReached env msg = points.map DataExchangeDefinition.encode := by
  have hexchanged : exchangedDatapoints env msg = points.map DataExchangeDefinition.encode := by
    rw [exchangedDatapoints, hparse]
    rfl
  rw [datapointsReached, hexchanged]
  apply reached_eq_self
  intro datapoint hdatapoint
  obtain ⟨d, -, rfl⟩ := List.mem_map.mp hdatapoint
  exact datapointComplete_encode d

/-- The document of data points describes these data points. -/
theorem exchangedDefinitions_document (hparse : env.parse msg = some (exchangeDocument points))
    (htexts : ∀ d ∈ points, IsText d.label) : exchangedDefinitions env msg = points := by
  have hone : ∀ d ∈ points, definitionsOf d.encode = [d] :=
    fun d hd ↦ definitionsOf_encode (htexts d hd)
  rw [exchangedDefinitions, datapointsReached_document hparse, List.flatMap_map,
    List.flatMap_congr hone, List.flatMap_singleton']

/-- The document of data points is imported by adding them in their order. -/
theorem importExchangeConfig_document (hparse : env.parse msg = some (exchangeDocument points))
    (htexts : ∀ d ∈ points, IsText d.label) :
    ∃ config, importExchangeConfig env msg .fresh = .ok config ∧ IndexedBy points config ∧
      config = points.foldl TASE2ClientConfig.addDefinition .fresh := by
  have htyped : ExchangeWellTyped env msg := by
    intro datapoint hdatapoint protocol hprotocol
    rw [datapointsReached_document hparse] at hdatapoint
    obtain ⟨d, -, rfl⟩ := List.mem_map.mp hdatapoint
    rw [protocolsReached_encode] at hprotocol
    rw [List.mem_singleton.mp hprotocol]
    rfl
  have hread := exchangedDefinitions_document hparse htexts
  obtain ⟨config, hconfig⟩ := (completes_importExchangeConfig_iff env msg .fresh).mpr htyped
  have hindexed := indexedBy_of_importExchangeConfig hconfig
  have heq := eq_foldl_of_importExchangeConfig hconfig
  rw [hread] at hindexed heq
  exact ⟨config, hconfig, hindexed, heq⟩

end

/-! ### The protocol stack -/

/-- What a configuration of the plugin is to contain. The timeout is an `int`, and becomes a
`uint64_t`. -/
structure Setup where
  connections : List RedGroup
  backupTimeout : Int
  pollingInterval : Int
  datasets : List Dataset
  transferSets : List DatasetTransferSet
  points : List DataExchangeDefinition
  privateKey : String
  ownCertificate : String
  caCertificates : List String
  remoteCertificates : List String

/-- A setup can be written: its connections pass the checks, the times fit an `int`, the names are
texts, and no name stands for two data sets, transfer sets or data points. -/
structure Setup.Writable (env : ImportEnv) (setup : Setup) : Prop where
  connections : ∀ group ∈ setup.connections, GroupChecked env group
  backupTimeout : Value.fitsInt setup.backupTimeout = true
  pollingInterval : 0 ≤ setup.pollingInterval ∧ setup.pollingInterval ≤ 2147483647
  datasets : ∀ d ∈ setup.datasets, d.Writable
  datasetRefs : (setup.datasets.map Dataset.datasetRef).Nodup
  transferSets : ∀ t ∈ setup.transferSets, t.Writable env.codes
  dstsRefs : (setup.transferSets.map DatasetTransferSet.dstsRef).Nodup
  labelTexts : ∀ d ∈ setup.points, IsText d.label
  labels : (setup.points.map DataExchangeDefinition.label).Nodup
  refs : (setup.points.map DataExchangeDefinition.ref).Nodup
  privateKey : IsText setup.privateKey
  ownCertificate : IsText setup.ownCertificate
  certificates : ∀ file ∈ setup.caCertificates ++ setup.remoteCertificates, IsText file

namespace Setup

/-- The `transport_layer` object of a setup. -/
def transportLayer (setup : Setup) : Value :=
  .object [("connections", .array (setup.connections.map RedGroup.encode)),
    ("backupTimeout", .int setup.backupTimeout)]

/-- The `application_layer` object of a setup. -/
def applicationLayer (setup : Setup) (codes : DsConditionCodes) : Value :=
  .object [("polling_interval", .int setup.pollingInterval),
    ("datasets", .array (setup.datasets.map Dataset.encode)),
    ("dataset_transfer_sets",
      .array (setup.transferSets.map (DatasetTransferSet.encode codes)))]

/-- The `protocol_stack` object of a setup, with both layers. -/
def protocolStack (setup : Setup) (codes : DsConditionCodes) : Value :=
  .object [("transport_layer", setup.transportLayer),
    ("application_layer", setup.applicationLayer codes)]

/-- The protocol stack of a setup as a document. -/
def stackDocument (setup : Setup) (codes : DsConditionCodes) : Value :=
  .object [("protocol_stack", setup.protocolStack codes)]

end Setup

/-- A document that only holds an object passes the gate, which tests scalars at its top. -/
theorem traverseAndCheckTypes_of_object {name : String} {v : Value} (hv : v.isObject = true)
    (hname : (cString name).isEmpty = false) :
    traverseAndCheckTypes (.object [(name, v)]) = true := by
  have hscalar : v.isScalar = false := by
    rw [Value.isScalar, hv]
    rfl
  rw [traverseAndCheckTypes_eq_true_iff]
  intro m hm hbare
  simp only [Value.scalarMembers, Value.membersScalars, hscalar, Bool.false_eq_true, if_false,
    hname, Bool.and_false, List.nil_append, List.append_nil] at hm
  rw [bare_eq_false_of_mem v m hm] at hbare
  cases hbare

section

variable {env : ImportEnv} {stack : String} {setup : Setup}

/-- The stack of the document is found behind the gate. -/
theorem protocolStackOf_document
    (hparse : env.parse stack = some (setup.stackDocument env.codes)) :
    protocolStackOf env stack = some (setup.protocolStack env.codes) :=
  protocolStackOf_eq_some hparse (traverseAndCheckTypes_of_object rfl (by decide)) rfl rfl

/-- The transport layer is imported as it is written. -/
theorem importTransportLayer_document (h : setup.Writable env) (config : TASE2ClientConfig) :
    importTransportLayer env setup.transportLayer config = .ok (.next { config with
      connections := config.connections ++ setup.connections
      backupConnectionTimeout := (setup.backupTimeout % 2 ^ 64).toNat }) := by
  have hobj : setup.transportLayer.isObject = true := rfl
  have hconnections : setup.transportLayer.find? "connections" =
      some (.array (setup.connections.map RedGroup.encode)) := rfl
  have htimeout : setup.transportLayer.find? "backupTimeout" =
      some (.int setup.backupTimeout) := rfl
  simp only [importTransportLayer, Value.hasMember_eq hobj, hconnections, Option.isSome_some,
    ok_bind, if_true, Value.member_eq hconnections, Value.getArray, Value.array?,
    foldlM_importConnection_encode h.connections, Value.memberOr_of_some htimeout, Value.getInt,
    Value.int?, h.backupTimeout, map_ok, pure_eq_ok]

/-- The polling interval is read as it is written. -/
theorem intOr_pollingInterval (h : setup.Writable env) (otherwise : Int) :
    (setup.applicationLayer env.codes).intOr "polling_interval" otherwise =
      setup.pollingInterval := by
  have hrange := h.pollingInterval
  have hfits : Value.fitsInt setup.pollingInterval = true := by
    rw [Value.fitsInt, decide_eq_true_eq]
    omega
  have hfind : (setup.applicationLayer env.codes).find? "polling_interval" =
      some (.int setup.pollingInterval) := rfl
  rw [Value.intOr, hfind, Option.bind_some, Value.int?, if_pos hfits, Option.getD_some]

/-- The application layer is well typed. -/
theorem applicationWellTyped_document (h : setup.Writable env) :
    ApplicationWellTyped (setup.applicationLayer env.codes) where
  isObject := rfl
  interval w hw := by
    have hrange := h.pollingInterval
    cases hw
    rw [Value.isInt, Value.fitsInt, decide_eq_true_eq]
    omega
  datasets _ := by
    refine arrayOf_of_some rfl fun e he ↦ ?_
    obtain ⟨d, -, rfl⟩ := List.mem_map.mp he
    exact datasetWellTyped_encode d
  transferSets _ := by
    refine arrayOf_of_some rfl fun e he ↦ ?_
    obtain ⟨t, ht, rfl⟩ := List.mem_map.mp he
    exact (h.transferSets t ht).transferSetWellTyped_encode

/-- The application layer lists the data sets that are written. -/
theorem datasetsOf_document (h : setup.Writable env) :
    datasetsOf (setup.applicationLayer env.codes) = setup.datasets := by
  have hfind : ((setup.applicationLayer env.codes).find? "datasets").bind Value.array? =
      some (setup.datasets.map Dataset.encode) := rfl
  have hread : ∀ d ∈ setup.datasets, (datasetOf ∘ Dataset.encode) d = some d :=
    fun d hd ↦ (h.datasets d hd).datasetOf_encode
  rw [datasetsOf, hfind, Option.getD_some, List.filterMap_map, List.filterMap_congr hread,
    List.filterMap_some]

/-- The application layer lists the transfer sets that are written. -/
theorem transferSetsOf_document (h : setup.Writable env) :
    transferSetsOf env.codes (setup.applicationLayer env.codes) = setup.transferSets := by
  have hfind : ((setup.applicationLayer env.codes).find? "dataset_transfer_sets").bind
      Value.array? = some (setup.transferSets.map (DatasetTransferSet.encode env.codes)) := rfl
  have hread : ∀ t ∈ setup.transferSets,
      (transferSetOf env.codes ∘ DatasetTransferSet.encode env.codes) t = some t :=
    fun t ht ↦ (h.transferSets t ht).transferSetOf_encode
  rw [transferSetsOf, hfind, Option.getD_some, List.filterMap_map, List.filterMap_congr hread,
    List.filterMap_some]

/-- The document of the stack is imported by adding what it describes. -/
theorem importProtocolConfig_document (h : setup.Writable env)
    (hparse : env.parse stack = some (setup.stackDocument env.codes)) (config : TASE2ClientConfig) :
    importProtocolConfig env stack config =
      .ok { setup.transferSets.foldl TASE2ClientConfig.addTransferSet
        (setup.datasets.foldl TASE2ClientConfig.addDataset { config with
          connections := config.connections ++ setup.connections
          backupConnectionTimeout := (setup.backupTimeout % 2 ^ 64).toNat
          pollingInterval := setup.pollingInterval
          protocolConfigComplete := false }) with protocolConfigComplete := true } := by
  have hobj : (setup.protocolStack env.codes).isObject = true := rfl
  have htransport : (setup.protocolStack env.codes).find? "transport_layer" =
      some setup.transportLayer := rfl
  have happlication : (setup.protocolStack env.codes).find? "application_layer" =
      some (setup.applicationLayer env.codes) := rfl
  have hinterval := h.pollingInterval.1
  rw [importProtocolConfig_eq, protocolStackOf_document hparse]
  simp only [importProtocolStack, Value.hasMember_eq hobj, htransport, Option.isSome_some, ok_bind,
    if_true, Value.member_eq htransport, importTransportLayer_document h, happlication,
    Value.member_eq happlication,
    importApplicationLayer_eq env.codes (applicationWellTyped_document h),
    intOr_pollingInterval h, hinterval, TASE2ClientConfig.addApplication, datasetsOf_document h,
    transferSetsOf_document h, pure_eq_ok]

end

/-! ### The certificates -/

/-- A certificate file as an entry. -/
def certEntry (file : String) : Value := .object [("cert_file", .string file)]

/-- Certificate files that are written are added in their order. -/
theorem foldlM_importCertFile_map {added : List String} (h : ∀ file ∈ added, IsText file)
    (files : List String) :
    (added.map certEntry).foldlM importCertFile files = .ok (files ++ added) := by
  induction added generalizing files with
  | nil => rw [List.map_nil, List.foldlM_nil, List.append_nil, pure_eq_ok]
  | cons file added ih =>
    rw [List.forall_mem_cons] at h
    have hentry : importCertFile files (certEntry file) = .ok (files ++ [file]) := by
      have hread : ((certEntry file).find? "cert_file").bind Value.text? = some ⟨file, h.1⟩ :=
        congrArg some (Subtype.ext (cString_eq_self h.1))
      rw [importCertFile, Value.guarded_getString_eq rfl, hread]
      rfl
    rw [List.map_cons, List.foldlM_cons, hentry, ok_bind, ih h.2, List.append_assoc,
      List.singleton_append]

/-- The certificates of a setup. -/
def Setup.tlsConf (setup : Setup) : Value :=
  .object [("private_key", .string setup.privateKey), ("own_cert", .string setup.ownCertificate),
    ("ca_certs", .array (setup.caCertificates.map certEntry)),
    ("remote_certs", .array (setup.remoteCertificates.map certEntry))]

/-- The document of the certificates. -/
def Setup.tlsDocument (setup : Setup) : Value := .object [("tls_conf", setup.tlsConf)]

/-- The document of the certificates is imported as it is written. -/
theorem importTlsConfig_document {env : ImportEnv} {tls : String} {setup : Setup}
    (h : setup.Writable env) (hparse : env.parse tls = some setup.tlsDocument)
    (config : TASE2ClientConfig) :
    importTlsConfig env tls config = .ok { config with
      privateKey := setup.privateKey
      ownCertificate := setup.ownCertificate
      caCertificates := config.caCertificates ++ setup.caCertificates
      remoteCertificates := config.remoteCertificates ++ setup.remoteCertificates } := by
  have hobj : setup.tlsConf.isObject = true := rfl
  have hdocument : setup.tlsDocument.isObject = true := rfl
  have hfind : (setup.tlsDocument.find? "tls_conf").filter Value.isObject = some setup.tlsConf :=
    rfl
  have hkey : (setup.tlsConf.find? "private_key").bind Value.text? =
      some ⟨setup.privateKey, h.privateKey⟩ :=
    congrArg some (Subtype.ext (cString_eq_self h.privateKey))
  have hown : (setup.tlsConf.find? "own_cert").bind Value.text? =
      some ⟨setup.ownCertificate, h.ownCertificate⟩ :=
    congrArg some (Subtype.ext (cString_eq_self h.ownCertificate))
  have hca : (setup.tlsConf.find? "ca_certs").bind Value.array? =
      some (setup.caCertificates.map certEntry) := rfl
  have hremote : (setup.tlsConf.find? "remote_certs").bind Value.array? =
      some (setup.remoteCertificates.map certEntry) := rfl
  obtain ⟨hcas, hremotes⟩ := List.forall_mem_append.mp h.certificates
  simp only [importTlsConfig, hparse, hdocument, if_true, Value.guarded_object_eq hdocument, hfind,
    ok_bind, Value.guarded_getString_eq hobj, Value.guarded_getArray_eq hobj, hkey, hown, hca,
    hremote, Option.getD_some, foldlM_importCertFile_map hcas, foldlM_importCertFile_map hremotes,
    Option.map_some, pure_eq_ok]

/-! ### The whole configuration -/

/-- The configuration is the setup: its lists and values, a map for what is looked up by a name,
and polled are the monitored points that no data set lists. -/
structure Setup.Configured (setup : Setup) (config : TASE2ClientConfig) : Prop where
  connections : config.connections = setup.connections
  backupTimeout : config.backupConnectionTimeout = (setup.backupTimeout % 2 ^ 64).toNat
  pollingInterval : config.pollingInterval = setup.pollingInterval
  datasets : ∀ name d, config.datasets.lookup name = some d ↔
    d ∈ setup.datasets ∧ d.datasetRef = name
  transferSets : ∀ name t, config.dsTranferSets.lookup name = some t ↔
    t ∈ setup.transferSets ∧ t.dstsRef = name
  label : ∀ label d, config.exchangeDefinitions.lookup label = some d ↔
    d ∈ setup.points ∧ d.label = label
  ref : ∀ ref d, config.exchangeDefinitionsRef.map.lookup ref = some d ↔
    d ∈ setup.points ∧ d.ref = ref
  polled : ∀ ref d, config.polledDatapoints.map.lookup ref = some d ↔
    d ∈ setup.points ∧ d.ref = ref ∧ d.type.isMonitoring = true ∧
      ∀ set ∈ setup.datasets, ref ∉ set.refs
  privateKey : config.privateKey = setup.privateKey
  ownCertificate : config.ownCertificate = setup.ownCertificate
  caCertificates : config.caCertificates = setup.caCertificates
  remoteCertificates : config.remoteCertificates = setup.remoteCertificates
  protocolComplete : config.protocolConfigComplete = true
  exchangeIncomplete : config.exchangeConfigComplete = false

/-- Maps that find the same values are the same. -/
theorem eq_of_lookup_iff {V : Type} {m m' : UnorderedMap String V}
    (h : ∀ k v, m.lookup k = some v ↔ m'.lookup k = some v) : m = m' :=
  Finmap.ext_lookup fun k ↦ Option.ext fun v ↦ h k v

/-- No two configurations are the same setup. -/
theorem Setup.Configured.unique {setup : Setup} {config config' : TASE2ClientConfig}
    (h : setup.Configured config) (h' : setup.Configured config') : config = config' := by
  have hdatasets := eq_of_lookup_iff fun k v ↦ (h.datasets k v).trans (h'.datasets k v).symm
  have htransferSets :=
    eq_of_lookup_iff fun k v ↦ (h.transferSets k v).trans (h'.transferSets k v).symm
  have hlabel := eq_of_lookup_iff fun k v ↦ (h.label k v).trans (h'.label k v).symm
  have href := eq_of_lookup_iff fun k v ↦ (h.ref k v).trans (h'.ref k v).symm
  have hpolled := eq_of_lookup_iff fun k v ↦ (h.polled k v).trans (h'.polled k v).symm
  cases config
  cases config'
  simp only [TASE2ClientConfig.mk.injEq]
  exact ⟨h.connections.trans h'.connections.symm, DefinitionMap.ext hpolled, hdatasets, hlabel,
    DefinitionMap.ext href, htransferSets, h.protocolComplete.trans h'.protocolComplete.symm,
    h.exchangeIncomplete.trans h'.exchangeIncomplete.symm,
    h.privateKey.trans h'.privateKey.symm, h.ownCertificate.trans h'.ownCertificate.symm,
    h.remoteCertificates.trans h'.remoteCertificates.symm,
    h.caCertificates.trans h'.caCertificates.symm,
    h.backupTimeout.trans h'.backupTimeout.symm,
    h.pollingInterval.trans h'.pollingInterval.symm⟩

/-- What neither polling nor the two maps of sets decide stays when sets are added. -/
theorem foldl_sets_frame {β : Type} (f : TASE2ClientConfig → β)
    (herase : ∀ c ref, f (c.erasePolled ref) = f c)
    (hdatasets : ∀ (c : TASE2ClientConfig) m, f { c with datasets := m } = f c)
    (htransferSets : ∀ (c : TASE2ClientConfig) m, f { c with dsTranferSets := m } = f c)
    (ds : List Dataset) (ts : List DatasetTransferSet) (config : TASE2ClientConfig) :
    f (ts.foldl TASE2ClientConfig.addTransferSet (ds.foldl TASE2ClientConfig.addDataset config)) =
      f config := by
  rw [foldl_frame TASE2ClientConfig.addTransferSet f fun c t ↦ htransferSets c _,
    foldl_frame TASE2ClientConfig.addDataset f fun c d ↦ ?_]
  rw [TASE2ClientConfig.addDataset, hdatasets]
  exact foldl_frame TASE2ClientConfig.erasePolled f herase d.refs c

/-- After data sets were added, the points that none of them lists are polled as before. -/
theorem lookup_polled_foldl_addDataset (ds : List Dataset) (config : TASE2ClientConfig)
    (ref : String) :
    (ds.foldl TASE2ClientConfig.addDataset config).polledDatapoints.map.lookup ref =
      if ∃ d ∈ ds, ref ∈ d.refs then none else config.polledDatapoints.map.lookup ref := by
  induction ds generalizing config with
  | nil => simp
  | cons d ds ih =>
    have herase : (config.addDataset d).polledDatapoints.map =
        config.polledDatapoints.map.eraseAll d.refs :=
      (List.foldl_hom (fun c : TASE2ClientConfig ↦ c.polledDatapoints.map) fun _ _ ↦ rfl).symm
    rw [List.foldl_cons, ih, herase, UnorderedMap.lookup_eraseAll]
    simp only [List.exists_mem_cons_iff]
    by_cases hd : ref ∈ d.refs
    · simp [hd]
    · simp [hd]

/-- The configuration of the points of a setup, with the values of both layers. -/
def Setup.withLayers (setup : Setup) : TASE2ClientConfig :=
  { setup.points.foldl TASE2ClientConfig.addDefinition .fresh with
    connections := setup.connections
    backupConnectionTimeout := (setup.backupTimeout % 2 ^ 64).toNat
    pollingInterval := setup.pollingInterval
    protocolConfigComplete := false }

/-- The configuration of a setup with its layers, data sets and transfer sets, before its
certificates. -/
def Setup.withSets (setup : Setup) : TASE2ClientConfig :=
  setup.transferSets.foldl TASE2ClientConfig.addTransferSet
    (setup.datasets.foldl TASE2ClientConfig.addDataset setup.withLayers)

section

variable {env : ImportEnv} {setup : Setup}

/-- What the points do not decide is in the layers as in a fresh configuration. -/
theorem Setup.withLayers_frame (setup : Setup) {β : Type} (f : TASE2ClientConfig → β)
    (hdefinition : ∀ c d, f (c.addDefinition d) = f c)
    (hlayers : f setup.withLayers = f (setup.points.foldl TASE2ClientConfig.addDefinition .fresh)) :
    f setup.withLayers = f .fresh :=
  hlayers.trans (foldl_frame TASE2ClientConfig.addDefinition f hdefinition setup.points .fresh)

/-- The polled points are the monitored ones that no data set lists. -/
theorem lookup_polled_withSets (h : setup.Writable env)
    (hindexed : IndexedBy setup.points
      (setup.points.foldl TASE2ClientConfig.addDefinition .fresh)) (ref : String)
    (d : DataExchangeDefinition) :
    setup.withSets.polledDatapoints.map.lookup ref = some d ↔
      d ∈ setup.points ∧ d.ref = ref ∧ d.type.isMonitoring = true ∧
        ∀ set ∈ setup.datasets, ref ∉ set.refs := by
  have hrefs : ((setup.points.filter (·.type.isMonitoring)).map
      DataExchangeDefinition.ref).Nodup := h.refs.sublist (List.filter_sublist.map _)
  have hlayers : setup.withLayers.polledDatapoints.map.lookup ref =
      lastWith (·.ref) (setup.points.filter (·.type.isMonitoring)) ref := hindexed.polled ref
  rw [Setup.withSets, foldl_frame TASE2ClientConfig.addTransferSet
    TASE2ClientConfig.polledDatapoints fun _ _ ↦ rfl, lookup_polled_foldl_addDataset, hlayers]
  by_cases hlisted : ∃ set ∈ setup.datasets, ref ∈ set.refs
  · rw [if_pos hlisted]
    obtain ⟨set, hset, href⟩ := hlisted
    refine iff_of_false (by simp) ?_
    rintro ⟨-, -, -, hnone⟩
    exact hnone set hset href
  · rw [if_neg hlisted, lastWith_eq_some_iff hrefs, List.mem_filter]
    push Not at hlisted
    constructor
    · rintro ⟨⟨hd, hmonitored⟩, href⟩
      exact ⟨hd, href, hmonitored, hlisted⟩
    · rintro ⟨hd, href, hmonitored, -⟩
      exact ⟨⟨hd, hmonitored⟩, href⟩

/-- The configuration of a setup with its sets becomes that of the setup by its certificates. -/
theorem configured_withSets (h : setup.Writable env)
    (hindexed : IndexedBy setup.points
      (setup.points.foldl TASE2ClientConfig.addDefinition .fresh)) :
    setup.Configured { setup.withSets with
      protocolConfigComplete := true
      privateKey := setup.privateKey
      ownCertificate := setup.ownCertificate
      caCertificates := setup.withSets.caCertificates ++ setup.caCertificates
      remoteCertificates := setup.withSets.remoteCertificates ++ setup.remoteCertificates } := by
  have hkept : ∀ {β : Type} (f : TASE2ClientConfig → β),
      (∀ c ref, f (c.erasePolled ref) = f c) →
      (∀ (c : TASE2ClientConfig) m, f { c with datasets := m } = f c) →
      (∀ (c : TASE2ClientConfig) m, f { c with dsTranferSets := m } = f c) →
        f setup.withSets = f setup.withLayers :=
    fun f herase hdatasets htransferSets ↦
      foldl_sets_frame f herase hdatasets htransferSets _ _ setup.withLayers
  have happlied : Applied setup.datasets ([] ++ setup.transferSets) setup.withLayers
      setup.withSets :=
    (applied_foldl_addDataset setup.datasets setup.withLayers).addTransferSets setup.transferSets
  have hnoDatasets : setup.withLayers.datasets = ∅ :=
    setup.withLayers_frame TASE2ClientConfig.datasets (fun _ _ ↦ rfl) rfl
  have hnoTransferSets : setup.withLayers.dsTranferSets = ∅ :=
    setup.withLayers_frame TASE2ClientConfig.dsTranferSets (fun _ _ ↦ rfl) rfl
  have hnoCa : setup.withSets.caCertificates = [] :=
    (hkept TASE2ClientConfig.caCertificates (fun _ _ ↦ rfl) (fun _ _ ↦ rfl) fun _ _ ↦ rfl).trans
      (setup.withLayers_frame TASE2ClientConfig.caCertificates (fun _ _ ↦ rfl) rfl)
  have hnoRemote : setup.withSets.remoteCertificates = [] :=
    (hkept TASE2ClientConfig.remoteCertificates (fun _ _ ↦ rfl) (fun _ _ ↦ rfl)
      fun _ _ ↦ rfl).trans
        (setup.withLayers_frame TASE2ClientConfig.remoteCertificates (fun _ _ ↦ rfl) rfl)
  have hlabels : ∀ label, setup.withSets.exchangeDefinitions.lookup label =
      lastWith (·.label) setup.points label := by
    intro label
    rw [hkept TASE2ClientConfig.exchangeDefinitions (fun _ _ ↦ rfl) (fun _ _ ↦ rfl)
      fun _ _ ↦ rfl]
    exact hindexed.label label
  have hrefs : ∀ ref, setup.withSets.exchangeDefinitionsRef.map.lookup ref =
      lastWith (·.ref) setup.points ref := by
    intro ref
    rw [hkept TASE2ClientConfig.exchangeDefinitionsRef (fun _ _ ↦ rfl) (fun _ _ ↦ rfl)
      fun _ _ ↦ rfl]
    exact hindexed.ref ref
  constructor
  case connections =>
    exact hkept TASE2ClientConfig.connections (fun _ _ ↦ rfl) (fun _ _ ↦ rfl) fun _ _ ↦ rfl
  case backupTimeout =>
    exact hkept TASE2ClientConfig.backupConnectionTimeout (fun _ _ ↦ rfl) (fun _ _ ↦ rfl)
      fun _ _ ↦ rfl
  case pollingInterval =>
    exact hkept TASE2ClientConfig.pollingInterval (fun _ _ ↦ rfl) (fun _ _ ↦ rfl) fun _ _ ↦ rfl
  case datasets =>
    intro name d
    rw [← find?_key_eq_some_iff h.datasetRefs, ← lookup_emplaceAll_empty, ← hnoDatasets,
      ← happlied.datasets]
  case transferSets =>
    intro name t
    rw [← find?_key_eq_some_iff h.dstsRefs, ← lookup_emplaceAll_empty, ← hnoTransferSets,
      ← List.nil_append setup.transferSets, ← happlied.transferSets]
  case label =>
    intro label d
    rw [hlabels, lastWith_eq_some_iff h.labels]
  case ref =>
    intro ref d
    rw [hrefs, lastWith_eq_some_iff h.refs]
  case polled => exact lookup_polled_withSets h hindexed
  case privateKey => rfl
  case ownCertificate => rfl
  case caCertificates => rw [hnoCa, List.nil_append]
  case remoteCertificates => rw [hnoRemote, List.nil_append]
  case protocolComplete => rfl
  case exchangeIncomplete =>
    exact (hkept TASE2ClientConfig.exchangeConfigComplete (fun _ _ ↦ rfl) (fun _ _ ↦ rfl)
      fun _ _ ↦ rfl).trans
        (setup.withLayers_frame TASE2ClientConfig.exchangeConfigComplete (fun _ _ ↦ rfl) rfl)

/-- The three documents of a setup that can be written are imported as that setup. -/
theorem configured_of_documents {stack msg tls : String} (h : setup.Writable env)
    (hstack : env.parse stack = some (setup.stackDocument env.codes))
    (hmsg : env.parse msg = some (exchangeDocument setup.points))
    (htls : env.parse tls = some setup.tlsDocument) :
    ∃ config, setJsonConfig env stack msg tls = .ok config ∧ setup.Configured config := by
  obtain ⟨c, hc, hindexed, rfl⟩ := importExchangeConfig_document hmsg h.labelTexts
  have hconnections : (setup.points.foldl TASE2ClientConfig.addDefinition .fresh).connections =
      [] := foldl_frame TASE2ClientConfig.addDefinition TASE2ClientConfig.connections
        (fun _ _ ↦ rfl) setup.points .fresh
  rw [setJsonConfig, hc, ok_bind, importProtocolConfig_document h hstack, ok_bind,
    importTlsConfig_document h htls, hconnections, List.nil_append]
  exact ⟨_, rfl, configured_withSets h hindexed⟩

/-- Whatever can be written, the three documents of a setup are imported, as that setup and no
other. -/
theorem setJsonConfig_documents {stack msg tls : String} (h : setup.Writable env)
    (hstack : env.parse stack = some (setup.stackDocument env.codes))
    (hmsg : env.parse msg = some (exchangeDocument setup.points))
    (htls : env.parse tls = some setup.tlsDocument) :
    ∃ config, setJsonConfig env stack msg tls = .ok config ∧
      ∀ config', setup.Configured config' ↔ config' = config := by
  obtain ⟨config, himport, hconfigured⟩ := configured_of_documents h hstack hmsg htls
  refine ⟨config, himport, fun config' ↦ ⟨fun hconfig ↦ hconfig.unique hconfigured, ?_⟩⟩
  rintro rfl
  exact hconfigured

end

/-! ### A setup with one of each -/

/-- A connection, a data set and its transfer set, a point that it lists, and certificates. -/
def reportedSetup : Setup where
  connections := [{ ipAddr := "127.0.0.1", tcpPort := 10002, tls := true }]
  backupTimeout := 5000
  pollingInterval := 1000
  datasets := [⟨"icc1", "ds1", ["point1"], true⟩]
  transferSets := [⟨"icc1", "ts1", "ds1", 5, 0, 5, 0, 0, 60, false, true, false⟩]
  points := [statusPoint]
  privateKey := "tase2.key"
  ownCertificate := "tase2.cer"
  caCertificates := ["root.cer"]
  remoteCertificates := []

/-- The protocol stack of `reportedSetup` as a text. -/
def reportedStackText : String :=
  "\x7b\"protocol_stack\":\x7b\"transport_layer\":\x7b\"connections\":" ++
    "[\x7b\"ip_addr\":\"127.0.0.1\",\"port\":10002,\"tls\":true\x7d],\"backupTimeout\":5000\x7d," ++
    "\"application_layer\":\x7b\"polling_interval\":1000,\"datasets\":" ++
    "[\x7b\"dataset_ref\":\"ds1\",\"domain\":\"icc1\",\"entries\":[\"point1\"]," ++
    "\"dynamic\":true\x7d],\"dataset_transfer_sets\":" ++
    "[\x7b\"domain\":\"icc1\",\"name\":\"ts1\",\"dataset_ref\":\"ds1\",\"dsConditions\":" ++
    "[\"interval\",\"change\"],\"interval\":5,\"tle\":0,\"integrityCheck\":60," ++
    "\"critical\":false,\"rbe\":true,\"bufTm\":0,\"startTime\":0," ++
    "\"allChangesReported\":false\x7d]\x7d\x7d\x7d"

/-- The data points of `reportedSetup` as a text. -/
def reportedMsgText : String :=
  "\x7b\"exchanged_data\":\x7b\"datapoints\":[\x7b\"label\":\"TS1\",\"protocols\":" ++
    "[\x7b\"name\":\"tase2\",\"ref\":\"icc1:point1\",\"typeid\":\"State\"\x7d]\x7d]\x7d\x7d"

/-- The certificates of `reportedSetup` as a text. -/
def reportedTlsText : String :=
  "\x7b\"tls_conf\":\x7b\"private_key\":\"tase2.key\",\"own_cert\":\"tase2.cer\"," ++
    "\"ca_certs\":[\x7b\"cert_file\":\"root.cer\"\x7d],\"remote_certs\":[]\x7d\x7d"

/-- A parser that reads the three texts of `reportedSetup`. -/
def reportedEnv : ImportEnv := .ofTable [
  (reportedStackText, reportedSetup.stackDocument ⟨1, 2, 4, 8, 16⟩),
  (reportedMsgText, exchangeDocument reportedSetup.points),
  (reportedTlsText, reportedSetup.tlsDocument)]

private theorem writable_reported : reportedSetup.Writable reportedEnv where
  connections group hgroup := by
    rw [List.mem_singleton.mp hgroup]
    exact ⟨rfl, by decide, by decide, osiChecked_default, fun _ ↦ rfl⟩
  backupTimeout := by decide
  pollingInterval := by decide
  datasets d hd := by
    rw [List.mem_singleton.mp hd]
    refine ⟨by decide, by decide, fun name hname ↦ ?_⟩
    rw [List.mem_singleton.mp hname]
    decide
  datasetRefs := List.nodup_singleton _
  transferSets t ht := by
    rw [List.mem_singleton.mp ht]
    exact ⟨by decide, by decide, by decide, rfl, List.all_eq_true.mp rfl⟩
  dstsRefs := List.nodup_singleton _
  labelTexts d hd := by
    rw [List.mem_singleton.mp hd]
    decide
  labels := List.nodup_singleton _
  refs := List.nodup_singleton _
  privateKey := by decide
  ownCertificate := by decide
  certificates file hfile := by
    rw [List.mem_singleton.mp hfile]
    decide

/-- The three texts of `reportedSetup` are imported as this setup. -/
theorem setJsonConfig_documents_reported : ∃ config,
    setJsonConfig reportedEnv reportedStackText reportedMsgText reportedTlsText = .ok config ∧
      reportedSetup.Configured config := by
  have hstack : reportedEnv.parse reportedStackText =
      some (reportedSetup.stackDocument reportedEnv.codes) := ImportEnv.parse_ofTable_self _ _ _
  have hmsg : reportedEnv.parse reportedMsgText =
      some (exchangeDocument reportedSetup.points) := rfl
  have htls : reportedEnv.parse reportedTlsText = some reportedSetup.tlsDocument := rfl
  obtain ⟨config, himport, hconfigured⟩ :=
    setJsonConfig_documents writable_reported hstack hmsg htls
  exact ⟨config, himport, (hconfigured config).mpr rfl⟩

end Tase2South.Config
