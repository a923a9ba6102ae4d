import Tase2South.Config.Stack

/-!
# What the stack importer reads

The pure readings of data sets and transfer sets, the typing conditions under which the
importer's accessors are valid, and the equation that ties the two to
`src/tase2_client_config.cpp:228–513`: a well-typed part is imported by applying its reading.
-/

namespace Tase2South.Config

open Tase2South.Base Tase2South.Json

/-! ### Readings -/

/-- The texts among the elements of an array. -/
def texts (es : List Value) : List String := es.filterMap fun e ↦ e.text?.map Subtype.val

/-- The refs a data set covers. -/
def Dataset.refs (d : Dataset) : List String := d.entries.map fun name ↦ d.domain ++ ":" ++ name

/-- The data set an element describes, when it has a name. -/
def datasetOf (datasetVal : Value) : Option Dataset :=
  ((datasetVal.find? "dataset_ref").bind Value.text?).map fun datasetRef ↦
    ⟨datasetVal.textOr "domain" "vcc", datasetRef.val,
      texts (((datasetVal.find? "entries").bind Value.array?).getD []),
      datasetVal.boolOr "dynamic" false⟩

/-- The condition flags an element lists. -/
def conditionsOf (codes : DsConditionCodes) (dstsVal : Value) : BitVec 32 :=
  (((dstsVal.find? "dsConditions").bind Value.array?).getD []).foldl (addCondition codes) 0#32

/-- The transfer set an element describes, when it has a name. -/
def transferSetOf (codes : DsConditionCodes) (dstsVal : Value) : Option DatasetTransferSet :=
  ((dstsVal.find? "name").bind Value.text?).map fun dstsRef ↦
    { domain := dstsVal.textOr "domain" ""
      dstsRef := dstsRef.val
      datasetRef := dstsVal.textOr "dataset_ref" ""
      dsConditions := conditionsOf codes dstsVal
      startTime := dstsVal.intOr "startTime" 0
      interval := dstsVal.intOr "interval" 0
      tle := dstsVal.intOr "tle" 0
      bufferTime := dstsVal.intOr "bufTm" 0
      integrityCheck := dstsVal.intOr "integrityCheck" 0
      critical := dstsVal.boolOr "critical" false
      rbe := dstsVal.boolOr "rbe" false
      allChangesReported := dstsVal.boolOr "allChangesReported" false }

/-- Erase the refs of a data set from the polled ones, and keep it unless its name is
taken. -/
def TASE2ClientConfig.addDataset (config : TASE2ClientConfig) (d : Dataset) :
    TASE2ClientConfig :=
  let config := d.refs.foldl TASE2ClientConfig.erasePolled config
  { config with datasets := config.datasets.emplace d.datasetRef d }

/-- Keep a transfer set unless its name is taken. -/
def TASE2ClientConfig.addTransferSet (config : TASE2ClientConfig) (t : DatasetTransferSet) :
    TASE2ClientConfig :=
  { config with dsTranferSets := config.dsTranferSets.emplace t.dstsRef t }

/-! ### Typing conditions -/

/-- The domain of a named data set is a string. -/
def DatasetWellTyped (datasetVal : Value) : Prop :=
  ((datasetVal.find? "dataset_ref").bind Value.text?).isSome →
    datasetVal.MemberIs "domain" Value.isString

/-- The fields read from a named transfer set, each with the accessor's test. -/
def transferSetFields : List (String × (Value → Bool)) :=
  [("name", Value.isString), ("dataset_ref", Value.isString), ("dsConditions", Value.isArray),
    ("interval", Value.isInt), ("tle", Value.isInt), ("integrityCheck", Value.isInt),
    ("critical", Value.isBool), ("rbe", Value.isBool), ("bufTm", Value.isInt),
    ("startTime", Value.isInt), ("allChangesReported", Value.isBool)]

/-- The domain is a string, and the fields of a named transfer set have their types. -/
def TransferSetWellTyped (dstsVal : Value) : Prop :=
  dstsVal.MemberIs "domain" Value.isString ∧
    ((dstsVal.find? "name").isSome → ∀ f ∈ transferSetFields, dstsVal.MemberIs f.1 f.2)

/-! ### Data sets -/

/-- A ref without a definition is not polled, so erasing it changes nothing. -/
theorem erasePolled_of_no_definition {config : TASE2ClientConfig} {ref : String}
    (h : config.getExchangeDefinitionByRef ref = none) : config.erasePolled ref = config := by
  have hnot : ref ∉ config.polledDatapoints.map := fun hm ↦
    Finmap.lookup_eq_none.mp h (config.polled_exchanged ref hm)
  have herase : config.polledDatapoints.erase ref = config.polledDatapoints := by
    ext1
    apply Finmap.ext_lookup
    intro r
    by_cases hr : r = ref
    · subst hr
      rw [DefinitionMap.erase, Finmap.lookup_erase, Finmap.lookup_eq_none.mpr hnot]
    · rw [DefinitionMap.erase, Finmap.lookup_erase_ne hr]
  cases config
  simp only [TASE2ClientConfig.erasePolled, TASE2ClientConfig.mk.injEq, true_and, and_true]
  exact herase

/-- One entry erases the ref it makes with the domain. -/
theorem importEntry_eq (domainName : String) (s : TASE2ClientConfig × List String)
    (entryVal : Value) :
    importEntry domainName s entryVal =
      match entryVal.text? with
      | none => s
      | some name =>
        (s.1.erasePolled (domainName ++ ":" ++ name), s.2 ++ [name.val]) := by
  unfold importEntry
  cases entryVal.text? with
  | none => rfl
  | some name =>
    simp only
    split
    · rfl
    · next hnone => rw [erasePolled_of_no_definition hnone]

/-- The entry loop erases the ref of every text and collects the texts. -/
theorem foldl_importEntry (domainName : String) (es : List Value)
    (s : TASE2ClientConfig × List String) :
    es.foldl (importEntry domainName) s =
      (((texts es).map fun name ↦ domainName ++ ":" ++ name).foldl
        TASE2ClientConfig.erasePolled s.1, s.2 ++ texts es) := by
  induction es generalizing s with
  | nil => simp [texts]
  | cons e es ih =>
    rw [List.foldl_cons, ih, importEntry_eq]
    cases he : e.text? with
    | none => simp [texts, he]
    | some name => simp [texts, he]

/-- A well-typed data set is imported by applying its reading. -/
theorem importDataset_eq {datasetVal : Value} (h : DatasetWellTyped datasetVal)
    (config : TASE2ClientConfig) :
    importDataset config datasetVal =
      .ok ((datasetOf datasetVal).elim config config.addDataset) := by
  by_cases hobj : datasetVal.isObject = true
  · rw [importDataset, if_pos hobj, Value.guarded_getString_eq hobj, ok_bind, datasetOf]
    cases hr : (datasetVal.find? "dataset_ref").bind Value.text? with
    | none => rfl
    | some datasetRef =>
      have hd : datasetVal.MemberIs "domain" Value.isString := h (by simp [hr])
      simp only [Value.memberOr_getString_eq hobj hd, Value.guarded_getArray_eq hobj,
        Value.guarded_getBool_eq hobj, ok_bind, foldl_importEntry, pure_eq_ok]
      rfl
  · simp [importDataset, hobj, datasetOf, Value.find?_eq_none hobj]

/-- A data set is imported exactly when it is well typed. -/
theorem completes_importDataset_iff (config : TASE2ClientConfig) (datasetVal : Value) :
    Completes (importDataset config datasetVal) ↔ DatasetWellTyped datasetVal := by
  constructor
  · intro h hr
    have hobj : datasetVal.isObject = true := by
      by_contra hn
      simp [Value.find?_eq_none hn] at hr
    obtain ⟨datasetRef, hr⟩ := Option.isSome_iff_exists.mp hr
    simp only [importDataset, hobj, if_true, Value.guarded_getString_eq hobj, hr, ok_bind,
      completes_bind_iff] at h
    obtain ⟨domainName, hd, -⟩ := h
    have hc := (Value.completes_memberOr_iff.mp ⟨domainName, hd⟩).2
    intro w hw
    exact Value.completes_getString_iff.mp (completes_map_iff.mp (hc w hw))
  · intro h
    rw [importDataset_eq h]
    exact completes_ok _

/-! ### Transfer sets -/

/-- The conditions are read from an array. -/
theorem completes_importConditions_iff (codes : DsConditionCodes) (w : Value) :
    Completes (importConditions codes w) ↔ w.isArray = true := by
  rw [importConditions, completes_map_iff]
  exact Value.completes_getArray_iff

/-- Where the conditions are an array, the loop yields the flags the element lists. -/
theorem memberOr_importConditions_eq {codes : DsConditionCodes} {v : Value}
    (hobj : v.isObject = true) (h : v.MemberIs "dsConditions" Value.isArray) :
    v.memberOr "dsConditions" (importConditions codes) 0#32 = .ok (conditionsOf codes v) := by
  rw [Value.memberOr_eq_ok_iff, and_iff_right hobj, conditionsOf]
  cases hc : v.find? "dsConditions" with
  | none => rfl
  | some c =>
    obtain ⟨es, hes⟩ := Value.completes_getArray_iff.mpr (h c hc)
    simp only [importConditions, hes, map_ok, Option.bind_some,
      Value.getArray_eq_ok_iff.mp hes, Option.getD_some]

/-- A well-typed transfer set is imported by applying its reading. -/
theorem importTransferSet_eq {codes : DsConditionCodes} {dstsVal : Value}
    (h : TransferSetWellTyped dstsVal) (config : TASE2ClientConfig) :
    importTransferSet codes config dstsVal =
      .ok ((transferSetOf codes dstsVal).elim config config.addTransferSet) := by
  by_cases hobj : dstsVal.isObject = true
  · rw [importTransferSet, if_pos hobj, Value.memberOr_getString_eq hobj h.1, ok_bind,
      Value.hasMember_eq hobj, ok_bind]
    cases hname : dstsVal.find? "name" with
    | none => simp [transferSetOf, hname]
    | some w =>
      have hf := h.2 (by simp [hname])
      simp only [transferSetFields, List.forall_mem_cons] at hf
      obtain ⟨hn, hds, hcon, hint, htle, hic, hcr, hrbe, hbuf, hst, hacr, -⟩ := hf
      obtain ⟨dstsRef, hs⟩ := Value.completes_getString_iff.mpr (hn w hname)
      have ht := Value.getString_eq_ok_iff.mp hs
      simp [Value.member_eq hname, hs, memberOr_importConditions_eq hobj hcon,
        Value.memberOr_getString_eq hobj hds,
        Value.memberOr_getInt_eq hobj hint, Value.memberOr_getInt_eq hobj htle,
        Value.memberOr_getInt_eq hobj hic, Value.memberOr_getBool_eq hobj hcr,
        Value.memberOr_getBool_eq hobj hrbe, Value.memberOr_getInt_eq hobj hbuf,
        Value.memberOr_getInt_eq hobj hst, Value.memberOr_getBool_eq hobj hacr,
        transferSetOf, hname, ht, TASE2ClientConfig.addTransferSet]
  · simp [importTransferSet, hobj, transferSetOf, Value.find?_eq_none hobj]

private theorem memberIs_of_memberOr {α : Type} {v : Value} {name : String}
    {get : Value → Except Failure α} {d a : α} {test : Value → Bool}
    (hget : ∀ w, Completes (get w) ↔ test w = true) (h : v.memberOr name get d = .ok a) :
    v.MemberIs name test := fun w hw ↦
  (hget w).mp ((Value.completes_memberOr_iff.mp ⟨a, h⟩).2 w hw)

/-- A transfer set is imported exactly when it is well typed. -/
theorem completes_importTransferSet_iff (codes : DsConditionCodes) (config : TASE2ClientConfig)
    (dstsVal : Value) :
    Completes (importTransferSet codes config dstsVal) ↔ TransferSetWellTyped dstsVal := by
  constructor
  · intro h
    by_cases hobj : dstsVal.isObject = true
    · have hstr : ∀ w : Value, Completes (Subtype.val <$> w.getString) ↔ w.isString = true :=
        fun w ↦ completes_map_iff.trans Value.completes_getString_iff
      have hint : ∀ w : Value, Completes w.getInt ↔ w.isInt = true :=
        fun w ↦ Value.completes_getInt_iff
      have hbool : ∀ w : Value, Completes w.getBool ↔ w.isBool = true :=
        fun w ↦ Value.completes_getBool_iff
      rw [importTransferSet, if_pos hobj, completes_bind_iff] at h
      obtain ⟨domain, hd, h⟩ := h
      refine ⟨memberIs_of_memberOr hstr hd, fun hsome ↦ ?_⟩
      obtain ⟨w, hw⟩ := Option.isSome_iff_exists.mp hsome
      simp only [Value.hasMember_eq hobj, hw, Option.isSome_some, ok_bind, if_true,
        Value.member_eq hw, completes_bind_iff] at h
      obtain ⟨dstsRef, hn, _, hds, _, hcon, _, hi, _, htle, _, hic, _, hcr, _, hrbe, _, hbuf,
        _, hst, _, hacr, -⟩ := h
      have hname : dstsVal.MemberIs "name" Value.isString := by
        intro w' hw'
        rw [hw, Option.some.injEq] at hw'
        exact hw' ▸ Value.completes_getString_iff.mp ⟨dstsRef, hn⟩
      simp only [transferSetFields, List.forall_mem_cons]
      exact ⟨hname, memberIs_of_memberOr hstr hds,
        memberIs_of_memberOr (completes_importConditions_iff codes) hcon,
        memberIs_of_memberOr hint hi, memberIs_of_memberOr hint htle,
        memberIs_of_memberOr hint hic, memberIs_of_memberOr hbool hcr,
        memberIs_of_memberOr hbool hrbe, memberIs_of_memberOr hint hbuf,
        memberIs_of_memberOr hint hst, memberIs_of_memberOr hbool hacr, by simp⟩
    · simp [TransferSetWellTyped, Value.MemberIs, Value.find?_eq_none hobj]
  · intro h
    rw [importTransferSet_eq h]
    exact completes_ok _

end Tase2South.Config
