import Tase2South.Base.Pairing
import Tase2South.Config.Coverage
import Tase2South.Connection.State

/-!
# Transfer sets from the configuration to the server

The entries of `dataset_transfer_sets`, imported by `src/tase2_client_config.cpp:410–510` and
written by `m_configDsts`, `src/tase2_client_connection.cpp:171–245`. What is written is
compared with the entry itself, not with the record in between.
-/

namespace Tase2South.Connection

open Tase2South.Base Tase2South.Json Tase2South.Config

/-! ### Requested conditions -/

/-- The code of a recognised condition name. -/
def conditionCode (codes : DsConditionCodes) (v : Value) : Option (BitVec 32) :=
  v.text?.bind fun name ↦ codes.dsConditions.lookup name.val

/-- The elements of `dsConditions`. -/
def conditionElems (entry : Value) : List Value :=
  ((entry.find? "dsConditions").bind Value.array?).getD []

private theorem getLsbD_foldl_addCondition (codes : DsConditionCodes) (k : Nat)
    (es : List Value) (conditions : BitVec 32) :
    (es.foldl (addCondition codes) conditions).getLsbD k = true ↔
      conditions.getLsbD k = true ∨
        ∃ e ∈ es, ∃ code, conditionCode codes e = some code ∧ code.getLsbD k = true := by
  induction es generalizing conditions with
  | nil => simp
  | cons e es ih =>
    rw [List.foldl_cons, ih]
    have hstep : (addCondition codes conditions e).getLsbD k = true ↔
        conditions.getLsbD k = true ∨
          ∃ code, conditionCode codes e = some code ∧ code.getLsbD k = true := by
      unfold addCondition conditionCode
      split
      · next hn => simp [hn]
      · next code hc => simp [hc]
    rw [hstep, or_assoc]
    simp only [List.mem_cons, exists_eq_or_imp]

/-- A bit is requested exactly when a recognised name among the elements has it. -/
theorem getLsbD_conditionsOf (codes : DsConditionCodes) (entry : Value) (k : Nat) :
    (conditionsOf codes entry).getLsbD k = true ↔
      ∃ e ∈ conditionElems entry, ∃ code, conditionCode codes e = some code ∧
        code.getLsbD k = true := by
  rw [conditionsOf, getLsbD_foldl_addCondition]
  simp [conditionElems]

/-! ### What is written -/

/-- The transfer set that a call writes. -/
def writtenSet : LibCall → Option ClientDSTransferSet
  | .writeValues _ transferSet => some transferSet
  | _ => none

/-- The transfer sets written by a list of calls. -/
def writtenSets (calls : List LibCall) : List ClientDSTransferSet := calls.filterMap writtenSet

/-- The transfer sets of an iteration for which the library returns both handles. -/
def foundSets (env : IterationEnv) : List (String × DatasetTransferSet) :=
  (env.dstsOrder.zipIdx.filter fun p ↦
    env.transferSetReturned p.2 && env.dataSetReturned p.2).map Prod.fst

/-- One pass writes the transfer set when both handles are returned. -/
theorem writtenSets_configTransferSet (env : IterationEnv) (s : TASE2ClientConnection)
    (p : (String × DatasetTransferSet) × Nat) :
    ∃ ts dataSet, writtenSets (s.configTransferSet env p).session.calls =
      writtenSets s.session.calls ++
        if env.transferSetReturned p.2 && env.dataSetReturned p.2 then
          [TASE2ClientConnection.transferSetToWrite p.1.2 ts dataSet]
        else [] := by
  refine ⟨s.session.nextHandle, s.session.nextHandle + 1, ?_⟩
  cases hts : env.transferSetReturned p.2 with
  | false =>
    rw [TASE2ClientConnection.configTransferSet_of_refused hts]
    simp [TASE2ClientConnection.record, writtenSets, writtenSet]
  | true =>
    cases hds : env.dataSetReturned p.2 with
    | false =>
      rw [TASE2ClientConnection.configTransferSet_of_missing hts hds]
      simp [writtenSets, writtenSet]
    | true =>
      rw [TASE2ClientConnection.configTransferSet_of_found hts hds]
      simp only [writtenSets, Session.calls_record, List.filterMap_append, Bool.and_self,
        if_true]
      rfl

/-- The written set is the one the source builds from the record. -/
def WrittenFrom (p : String × DatasetTransferSet) (w : ClientDSTransferSet) : Prop :=
  w = TASE2ClientConnection.transferSetToWrite p.2 w.handle w.dataSet

private theorem writtenSets_foldl (env : IterationEnv)
    (ps : List ((String × DatasetTransferSet) × Nat)) (s : TASE2ClientConnection) :
    ∃ written, writtenSets (ps.foldl
        (TASE2ClientConnection.configTransferSet env) s).session.calls =
        writtenSets s.session.calls ++ written ∧
      List.Forall₂ WrittenFrom ((ps.filter fun p ↦
        env.transferSetReturned p.2 && env.dataSetReturned p.2).map Prod.fst) written := by
  induction ps generalizing s with
  | nil => exact ⟨[], by simp, .nil⟩
  | cons p ps ih =>
    obtain ⟨ts, dataSet, hp⟩ := writtenSets_configTransferSet env s p
    obtain ⟨written, hw, hall⟩ := ih (s.configTransferSet env p)
    rw [List.foldl_cons, hw, hp, List.append_assoc, List.filter_cons]
    split
    · exact ⟨_, rfl, .cons rfl hall⟩
    · exact ⟨written, rfl, hall⟩

/-- Configuring writes one transfer set for each that is found, in order. -/
theorem writtenSets_configDsts (env : IterationEnv) (s : TASE2ClientConnection) :
    ∃ written, writtenSets (s.configDsts env).session.calls =
        writtenSets s.session.calls ++ written ∧
      List.Forall₂ WrittenFrom (foundSets env) written :=
  writtenSets_foldl env env.dstsOrder.zipIdx s

/-! ### Entries and what is written for them -/

/-- The elements of `dataset_transfer_sets` that are imported. -/
def transferSetEntries (ienv : ImportEnv) (protocolConfig : String) : List Value :=
  (applicationOf ienv protocolConfig).elim [] fun application ↦
    ((application.find? "dataset_transfer_sets").bind Value.array?).getD []

/-- The name of an entry. -/
def entryName (entry : Value) : Option String :=
  ((entry.find? "name").bind Value.text?).map Subtype.val

/-- No two entries have one name. -/
def DistinctNames (entries : List Value) : Prop :=
  entries.Pairwise fun e e' ↦ ∀ name, entryName e = some name → entryName e' ≠ some name

/-- The written set was requested from the domain of the entry and carries its fields, and a
condition is requested exactly when a recognised name among `dsConditions` has it. -/
structure CarriesEntry (codes : DsConditionCodes) (entry : Value) (w : ClientDSTransferSet) :
    Prop where
  domain : w.domain = entry.textOr "domain" ""
  dataSetDomain : w.dataSetDomain = entry.textOr "domain" ""
  dataSetName : w.dataSetName = entry.textOr "dataset_ref" ""
  interval : w.interval = entry.intOr "interval" 0
  rbe : w.rbe = entry.boolOr "rbe" false
  critical : w.critical = entry.boolOr "critical" false
  bufferTime : w.bufferTime = entry.intOr "bufTm" 0
  integrityCheck : w.integrityCheck = entry.intOr "integrityCheck" 0
  startTime : w.startTime = entry.intOr "startTime" 0
  allChangesReported : w.allChangesReported = entry.boolOr "allChangesReported" false
  conditions : ∀ k, w.dsConditionsRequested.getLsbD k = true ↔
    ∃ e ∈ conditionElems entry, ∃ code, conditionCode codes e = some code ∧
      code.getLsbD k = true

/-- The entry asks for what the source writes in two places whatever the entry says: the
domain of the request, and the integrity check taken from `rbe`. -/
def MatchesFixed (entry : Value) : Prop :=
  entry.textOr "domain" "" = "icc1" ∧
    entry.intOr "integrityCheck" 0 = if entry.boolOr "rbe" false then 1 else 0

/-- The reading of an entry has its name. -/
theorem entryName_of_transferSetOf {codes : DsConditionCodes} {entry : Value}
    {dsts : DatasetTransferSet} (h : transferSetOf codes entry = some dsts) :
    entryName entry = some dsts.dstsRef := by
  rw [transferSetOf, Option.map_eq_some_iff] at h
  obtain ⟨dstsRef, hname, rfl⟩ := h
  simp [entryName, hname]

/-- Every entry with a name has a reading. -/
theorem transferSetOf_of_entryName (codes : DsConditionCodes) {entry : Value} {name : String}
    (h : entryName entry = some name) :
    ∃ dsts, transferSetOf codes entry = some dsts ∧ dsts.dstsRef = name := by
  rw [entryName, Option.map_eq_some_iff] at h
  obtain ⟨dstsRef, hname, rfl⟩ := h
  exact ⟨_, by rw [transferSetOf, hname]; rfl, rfl⟩

/-- What the source writes for the reading of an entry carries the entry exactly when the
entry matches the two fixed fields. -/
theorem carriesEntry_transferSetToWrite_iff {codes : DsConditionCodes} {entry : Value}
    {dsts : DatasetTransferSet} (h : transferSetOf codes entry = some dsts)
    (ts dataSet : Handle) :
    CarriesEntry codes entry (TASE2ClientConnection.transferSetToWrite dsts ts dataSet) ↔
      MatchesFixed entry := by
  rw [transferSetOf, Option.map_eq_some_iff] at h
  obtain ⟨dstsRef, -, rfl⟩ := h
  constructor
  · intro hc
    exact ⟨hc.domain.symm, hc.integrityCheck.symm⟩
  · intro hm
    exact
      { domain := hm.1.symm
        dataSetDomain := Value.cString_textOr entry "domain" (by decide)
        dataSetName := Value.cString_textOr entry "dataset_ref" (by decide)
        interval := rfl
        rbe := rfl
        critical := rfl
        bufferTime := rfl
        integrityCheck := hm.2.symm
        startTime := rfl
        allChangesReported := rfl
        conditions := getLsbD_conditionsOf codes entry }

/-! ### The map between import and connection -/

/-- The transfer sets described are the readings of the entries. -/
theorem stackTransferSets_eq (ienv : ImportEnv) (protocolConfig : String) :
    stackTransferSets ienv protocolConfig =
      (transferSetEntries ienv protocolConfig).filterMap (transferSetOf ienv.codes) := by
  rw [stackTransferSets, transferSetEntries]
  cases applicationOf ienv protocolConfig with
  | none => rfl
  | some application => rfl

section Imported

variable {ienv : ImportEnv} {protocolConfig : String} {config₀ config : TASE2ClientConfig}
  (h : importProtocolConfig ienv protocolConfig config₀ = .ok config)
  (hempty : config₀.dsTranferSets = ∅)

include h hempty

/-- The imported map holds the reading of the first entry of each name. -/
theorem lookup_dsTranferSets (name : String) :
    config.dsTranferSets.lookup name =
      (stackTransferSets ienv protocolConfig).find? (·.dstsRef = name) := by
  rw [(applied_importProtocolConfig h).transferSets, hempty, UnorderedMap.lookup_emplaceAll,
    Finmap.lookup_empty, Option.none_or, List.find?_map, Option.map_map]
  exact Option.map_id'

/-- What the map holds under a name is the reading of an entry of that name. -/
theorem entry_of_lookup {name : String} {dsts : DatasetTransferSet}
    (hlookup : config.dsTranferSets.lookup name = some dsts) :
    ∃ entry ∈ transferSetEntries ienv protocolConfig,
      transferSetOf ienv.codes entry = some dsts ∧ entryName entry = some name := by
  rw [lookup_dsTranferSets h hempty] at hlookup
  have hmem := List.mem_of_find?_eq_some hlookup
  have hname : dsts.dstsRef = name := by simpa using List.find?_some hlookup
  rw [stackTransferSets_eq, List.mem_filterMap] at hmem
  obtain ⟨entry, he, ht⟩ := hmem
  exact ⟨entry, he, ht, hname ▸ entryName_of_transferSetOf ht⟩

/-- The names in the map are those of the entries. -/
theorem mem_dsTranferSets_iff (name : String) :
    (∃ dsts, config.dsTranferSets.lookup name = some dsts) ↔
      ∃ entry ∈ transferSetEntries ienv protocolConfig, entryName entry = some name := by
  constructor
  · rintro ⟨dsts, hlookup⟩
    obtain ⟨entry, he, -, hn⟩ := entry_of_lookup h hempty hlookup
    exact ⟨entry, he, hn⟩
  · rintro ⟨entry, he, hn⟩
    obtain ⟨dsts, ht, hname⟩ := transferSetOf_of_entryName ienv.codes hn
    rw [lookup_dsTranferSets h hempty, ← Option.isSome_iff_exists, List.find?_isSome]
    refine ⟨dsts, ?_, by simpa using hname⟩
    rw [stackTransferSets_eq, List.mem_filterMap]
    exact ⟨entry, he, ht⟩

/-- Visiting the map visits every named entry once. -/
theorem perm_dstsOrder (hdistinct : DistinctNames (transferSetEntries ienv protocolConfig))
    {order : List (String × DatasetTransferSet)}
    (horder : config.dsTranferSets.IterationOrder order) :
    (order.map Prod.fst).Perm ((transferSetEntries ienv protocolConfig).filterMap entryName) := by
  apply (List.perm_ext_iff_of_nodup horder.nodup_keys ?_).mpr
  · intro name
    rw [List.mem_filterMap, ← mem_dsTranferSets_iff h hempty, List.mem_map]
    constructor
    · rintro ⟨p, hp, rfl⟩
      exact ⟨p.2, (horder.mem_iff p.1 p.2).mp hp⟩
    · rintro ⟨dsts, hlookup⟩
      exact ⟨(name, dsts), (horder.mem_iff name dsts).mpr hlookup, rfl⟩
  · rw [List.Nodup, List.pairwise_filterMap]
    apply hdistinct.imp
    intro e e' hne name hn name' hn' heq
    exact hne name hn (heq ▸ hn')

end Imported

/-- With distinct names, entries of one name are the same. -/
theorem DistinctNames.eq {entries : List Value} (hdistinct : DistinctNames entries)
    {e e' : Value} (he : e ∈ entries) (he' : e' ∈ entries) {name : String}
    (hn : entryName e = some name) (hn' : entryName e' = some name) : e = e' := by
  by_contra hne
  have : Std.Symm fun e e' ↦
      ∀ name, entryName e = some name → entryName e' ≠ some name :=
    ⟨fun _ _ hd name h₁ h₂ ↦ hd name h₂ h₁⟩
  exact List.Pairwise.forall hdistinct he he' hne name hn hn'

/-- The entry that has the name of a found transfer set. -/
def EntryOf (ienv : ImportEnv) (protocolConfig : String) (p : String × DatasetTransferSet)
    (entry : Value) : Prop :=
  entry ∈ transferSetEntries ienv protocolConfig ∧ entryName entry = some p.1

/-- The found transfer sets were visited. -/
theorem mem_dstsOrder_of_mem_foundSets {env : IterationEnv} {p : String × DatasetTransferSet}
    (h : p ∈ foundSets env) : p ∈ env.dstsOrder := by
  rw [foundSets, List.mem_map] at h
  obtain ⟨q, hq, rfl⟩ := h
  exact List.fst_mem_of_mem_zipIdx (List.mem_of_mem_filter hq)

/-- Every written set carries the entry of its name. -/
def CarriesEntries (ienv : ImportEnv) (protocolConfig : String)
    (found : List (String × DatasetTransferSet)) (written : List ClientDSTransferSet) : Prop :=
  List.Forall₂ (fun p w ↦ ∃ entry, EntryOf ienv protocolConfig p entry ∧
    CarriesEntry ienv.codes entry w) found written

/-- The entry of every found transfer set matches the fixed fields. -/
def MatchFixed (ienv : ImportEnv) (protocolConfig : String)
    (found : List (String × DatasetTransferSet)) : Prop :=
  ∀ p ∈ found, ∃ entry, EntryOf ienv protocolConfig p entry ∧ MatchesFixed entry

/-- After an import with distinct names, what one pass over the map writes carries the entries
exactly when those found match the fixed fields. -/
theorem carriesEntries_iff_of_import {ienv : ImportEnv} {protocolConfig : String}
    {config₀ config : TASE2ClientConfig}
    (h : importProtocolConfig ienv protocolConfig config₀ = .ok config)
    (hempty : config₀.dsTranferSets = ∅)
    (hdistinct : DistinctNames (transferSetEntries ienv protocolConfig))
    {env : IterationEnv} (horder : config.dsTranferSets.IterationOrder env.dstsOrder)
    (s : TASE2ClientConnection) :
    ∃ written, writtenSets (s.configDsts env).session.calls =
        writtenSets s.session.calls ++ written ∧
      (CarriesEntries ienv protocolConfig (foundSets env) written ↔
        MatchFixed ienv protocolConfig (foundSets env)) := by
  obtain ⟨written, hwritten, hfrom⟩ := writtenSets_configDsts env s
  refine ⟨written, hwritten, forall₂_iff_forall_mem hfrom ?_⟩
  intro p hp w hw
  have hlookup := (horder.mem_iff p.1 p.2).mp (mem_dstsOrder_of_mem_foundSets hp)
  obtain ⟨entry, he, ht, hn⟩ := entry_of_lookup h hempty hlookup
  rw [WrittenFrom] at hw
  rw [hw]
  -- the entry of that name is the one the record was read from
  constructor
  · rintro ⟨entry', ⟨he', hn'⟩, hc⟩
    rw [← hdistinct.eq he he' hn hn'] at hc
    exact ⟨entry, ⟨he, hn⟩, (carriesEntry_transferSetToWrite_iff ht _ _).mp hc⟩
  · rintro ⟨entry', ⟨he', hn'⟩, hm⟩
    rw [← hdistinct.eq he he' hn hn'] at hm
    exact ⟨entry, ⟨he, hn⟩, (carriesEntry_transferSetToWrite_iff ht _ _).mpr hm⟩

/-- A well-typed stack configuration with distinct transfer set names is imported, and each
named entry has one pass of `m_configDsts`; what the passes write carries their entries
exactly when every entry whose transfer set and data set are returned asks for the domain
`icc1` and for the integrity check that its `rbe` gives. -/
theorem carriesEntries_configDsts_iff {ienv : ImportEnv} {protocolConfig : String}
    {config₀ : TASE2ClientConfig} (hstack : StackWellTyped ienv protocolConfig)
    (hdistinct : DistinctNames (transferSetEntries ienv protocolConfig))
    (hempty : config₀.dsTranferSets = ∅) :
    ∃ config, importProtocolConfig ienv protocolConfig config₀ = .ok config ∧
      ∀ (env : IterationEnv) (s : TASE2ClientConnection),
        config.dsTranferSets.IterationOrder env.dstsOrder →
        (env.dstsOrder.map Prod.fst).Perm
          ((transferSetEntries ienv protocolConfig).filterMap entryName) ∧
        ∃ written, writtenSets (s.configDsts env).session.calls =
            writtenSets s.session.calls ++ written ∧
          (CarriesEntries ienv protocolConfig (foundSets env) written ↔
            MatchFixed ienv protocolConfig (foundSets env)) := by
  obtain ⟨config, h⟩ :=
    (completes_importProtocolConfig_iff ienv protocolConfig config₀).mpr hstack
  refine ⟨config, h, fun env s horder ↦ ⟨?_, ?_⟩⟩
  · exact perm_dstsOrder h hempty hdistinct horder
  · exact carriesEntries_iff_of_import h hempty hdistinct horder s

/-! ### A transfer set of another domain -/

/-- A stack configuration with one transfer set, in the domain `icc2`, that asks for an
integrity check. -/
def otherDomainText : String :=
  "\x7b\"protocol_stack\":\x7b\"transport_layer\":\x7b\"connections\":[]\x7d," ++
    "\"application_layer\":\x7b\"dataset_transfer_sets\":[" ++
    "\x7b\"domain\":\"icc2\",\"name\":\"ts1\",\"dataset_ref\":\"ds1\"," ++
    "\"integrityCheck\":60\x7d]\x7d\x7d\x7d"

/-- The transfer set entry in the document of `otherDomainText`. -/
def otherDomainEntry : Value :=
  .object [("domain", .string "icc2"), ("name", .string "ts1"), ("dataset_ref", .string "ds1"),
    ("integrityCheck", .int 60)]

/-- The `protocol_stack` object in the document of `otherDomainText`. -/
def otherDomainStack : Value :=
  .object [("transport_layer", .object [("connections", .array [])]),
    ("application_layer", .object [("dataset_transfer_sets", .array [otherDomainEntry])])]

/-- A parser that reads `otherDomainText`. -/
def otherDomainEnv : ImportEnv :=
  .ofTable [(otherDomainText, .object [("protocol_stack", otherDomainStack)])]

private theorem protocolStackOf_otherDomain :
    protocolStackOf otherDomainEnv otherDomainText = some otherDomainStack := by
  apply protocolStackOf_eq_some (ImportEnv.parse_ofTable_self _ _ _) _ rfl rfl
  rw [traverseAndCheckTypes, checkLoop_eq]
  decide

private theorem stackWellTyped_otherDomain :
    StackWellTyped otherDomainEnv otherDomainText := by
  apply stackWellTyped_of_application protocolStackOf_otherDomain
  refine ⟨rfl, Value.memberIs_of_none rfl, fun _ ↦ arrayOf_of_none rfl,
    fun _ ↦ arrayOf_of_some rfl ?_⟩
  simp [TransferSetWellTyped, transferSetFields, otherDomainEntry, Value.MemberIs, Value.find?,
    Value.isString, Value.isInt, Value.fitsInt]

private theorem transferSetEntries_otherDomain :
    transferSetEntries otherDomainEnv otherDomainText = [otherDomainEntry] := by
  rw [transferSetEntries, applicationOf, protocolStackOf_otherDomain]
  rfl

private theorem distinctNames_otherDomain :
    DistinctNames (transferSetEntries otherDomainEnv otherDomainText) := by
  rw [transferSetEntries_otherDomain]
  exact List.pairwise_singleton _ _

/-- The equivalence holds of the import of `otherDomainText`. -/
theorem carriesEntries_configDsts_iff_otherDomain :
    ∃ config, importProtocolConfig otherDomainEnv otherDomainText .fresh = .ok config ∧
      ∀ (env : IterationEnv) (s : TASE2ClientConnection),
        config.dsTranferSets.IterationOrder env.dstsOrder →
        (env.dstsOrder.map Prod.fst).Perm
          ((transferSetEntries otherDomainEnv otherDomainText).filterMap entryName) ∧
        ∃ written, writtenSets (s.configDsts env).session.calls =
            writtenSets s.session.calls ++ written ∧
          (CarriesEntries otherDomainEnv otherDomainText (foundSets env) written ↔
            MatchFixed otherDomainEnv otherDomainText (foundSets env)) :=
  carriesEntries_configDsts_iff stackWellTyped_otherDomain distinctNames_otherDomain rfl

/-- The transfer set that is imported from `otherDomainEntry`. -/
def otherDomainSet : DatasetTransferSet where
  domain := "icc2"
  dstsRef := "ts1"
  datasetRef := "ds1"
  dsConditions := 0
  startTime := 0
  interval := 0
  tle := 0
  bufferTime := 0
  integrityCheck := 60
  critical := false
  rbe := false
  allChangesReported := false

/-- The iteration that configures the transfer set, with both handles returned. -/
def otherDomainIteration : IterationEnv :=
  { IterationEnv.plain 0 true with dstsOrder := [("ts1", otherDomainSet)] }

/-- The transfer set is requested from `icc1` and written without an integrity check. -/
theorem not_carriesEntries_otherDomain :
    ∃ config, importProtocolConfig otherDomainEnv otherDomainText .fresh = .ok config ∧
      config.dsTranferSets.IterationOrder otherDomainIteration.dstsOrder ∧
      ∀ (s : TASE2ClientConnection) (written : List ClientDSTransferSet),
        writtenSets (s.configDsts otherDomainIteration).session.calls =
          writtenSets s.session.calls ++ written →
        ¬ CarriesEntries otherDomainEnv otherDomainText (foundSets otherDomainIteration)
          written := by
  obtain ⟨config, h⟩ := (completes_importProtocolConfig_iff otherDomainEnv otherDomainText
    .fresh).mpr stackWellTyped_otherDomain
  have horder : config.dsTranferSets.IterationOrder otherDomainIteration.dstsOrder := by
    rw [(applied_importProtocolConfig h).transferSets, stackTransferSets_eq,
      transferSetEntries_otherDomain]
    decide
  refine ⟨config, h, horder, fun s written hwritten hcarries ↦ ?_⟩
  obtain ⟨written', hwritten', hiff⟩ :=
    carriesEntries_iff_of_import h rfl distinctNames_otherDomain horder s
  have heq : written = written' := by
    rw [hwritten'] at hwritten
    exact (List.append_cancel_left hwritten).symm
  obtain ⟨entry, ⟨hentry, -⟩, hdomain, -⟩ :=
    hiff.mp (heq ▸ hcarries) ("ts1", otherDomainSet) (by decide)
  rw [transferSetEntries_otherDomain, List.mem_singleton] at hentry
  subst hentry
  exact absurd hdomain (by decide)

end Tase2South.Connection
