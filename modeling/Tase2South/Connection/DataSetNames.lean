import Tase2South.Connection.TransferSets

/-!
# The name of a data set on both sides

`m_configDatasets` creates the dynamic data sets (`src/tase2_client_connection.cpp:85–135`) and
`m_configDsts` looks up the data set of a transfer set
(`src/tase2_client_connection.cpp:171–211`). Each goes by the domain and name that its own import
loop kept, and the two loops fill in different domains when the member is missing
(`src/tase2_client_config.cpp:350–439`).
-/

namespace Tase2South.Connection

open Tase2South.Base Tase2South.Json Tase2South.Config

/-! ### The pairs the set-up hands to the library -/

/-- The domain and name under which a call creates a data set. -/
def createdPair : LibCall → Option (String × String)
  | .createDataSet _ domain name _ => some (domain, name)
  | _ => none

/-- The domain and name under which a call looks up a data set or assigns it to a transfer
set. -/
def soughtPair : LibCall → Option (String × String)
  | .getDataSet _ domain name _ => some (domain, name)
  | .writeValues _ transferSet => some (transferSet.dataSetDomain, transferSet.dataSetName)
  | _ => none

/-- The calls of one pass of `m_configDsts`. -/
def transferSetCalls (env : IterationEnv) (s : TASE2ClientConnection)
    (p : (String × DatasetTransferSet) × Nat) : List LibCall :=
  (s.configTransferSet env p).session.calls.drop s.session.calls.length

/-- A pass over a data set creates it under its own pair. -/
theorem createdPair_datasetCalls (env : IterationEnv) (s : TASE2ClientConnection)
    (p : (String × Dataset) × Nat) :
    (s.datasetCalls env p).filterMap createdPair =
      if p.1.2.dynamic && env.listCreated p.2 then
        [(cString p.1.2.domain, cString p.1.2.datasetRef)]
      else [] := by
  unfold TASE2ClientConnection.datasetCalls
  dsimp only
  split <;> rfl

/-- A pass over a transfer set looks up and assigns the pair it keeps, when the library returns
the transfer set. -/
theorem soughtPair_transferSetCalls (env : IterationEnv) (s : TASE2ClientConnection)
    (p : (String × DatasetTransferSet) × Nat) (pair : String × String) :
    pair ∈ (transferSetCalls env s p).filterMap soughtPair ↔
      env.transferSetReturned p.2 = true ∧
        pair = (cString p.1.2.domain, cString p.1.2.datasetRef) := by
  unfold transferSetCalls
  cases hts : env.transferSetReturned p.2 with
  | false =>
    rw [TASE2ClientConnection.configTransferSet_of_refused hts]
    simp [TASE2ClientConnection.record, soughtPair]
  | true =>
    cases hds : env.dataSetReturned p.2 with
    | false =>
      rw [TASE2ClientConnection.configTransferSet_of_missing hts hds, Session.calls_record,
        List.drop_left, and_iff_right rfl]
      exact List.mem_singleton
    | true =>
      rw [TASE2ClientConnection.configTransferSet_of_found hts hds, Session.calls_record,
        List.drop_left, and_iff_right rfl]
      exact List.mem_pair.trans (or_self_iff)

/-! ### A data set and a transfer set that belong together -/

/-- The elements of `datasets` that are imported. -/
def datasetEntries (ienv : ImportEnv) (protocolConfig : String) : List Value :=
  (applicationOf ienv protocolConfig).elim [] fun application ↦
    ((application.find? "datasets").bind Value.array?).getD []

/-- The name of a data set entry. -/
def datasetName (entry : Value) : Option String :=
  ((entry.find? "dataset_ref").bind Value.text?).map Subtype.val

/-- The domain an entry gives. -/
def domainMember (entry : Value) : Option String :=
  ((entry.find? "domain").bind Value.text?).map Subtype.val

/-- The data set entry is dynamic and has a name; the transfer set entry refers to the name, and
the two give the same domain or none. -/
structure BelongTogether (dataset transferSet : Value) : Prop where
  dynamic : dataset.boolOr "dynamic" false = true
  named : (datasetName dataset).isSome
  name : datasetName transferSet = datasetName dataset
  domain : domainMember transferSet = domainMember dataset

/-- In every iteration, each pass over the data set and each pass over the transfer set hand the
same pair to the library. -/
def SamePair (codes : DsConditionCodes) (config : TASE2ClientConfig)
    (dataset transferSet : Value) : Prop :=
  ∀ d ∈ datasetOf dataset, ∀ t ∈ transferSetOf codes transferSet,
    ∀ (env : IterationEnv) (s s' : TASE2ClientConnection),
      config.datasets.IterationOrder env.datasetOrder →
      config.dsTranferSets.IterationOrder env.dstsOrder →
      ∀ i j, env.datasetOrder[i]? = some (d.datasetRef, d) →
        env.dstsOrder[j]? = some (t.dstsRef, t) →
        ∀ created ∈ (s.datasetCalls env ((d.datasetRef, d), i)).filterMap createdPair,
          ∀ sought ∈ (transferSetCalls env s' ((t.dstsRef, t), j)).filterMap soughtPair,
            created = sought

/-- The transfer set entry is kept: it has a name, and what it reads as is what the first entry
of the name reads as. -/
def KeptTransferSet (ienv : ImportEnv) (protocolConfig : String) (transferSet : Value) : Prop :=
  ∃ t ∈ transferSetOf ienv.codes transferSet,
    (stackTransferSets ienv protocolConfig).find? (·.dstsRef = t.dstsRef) = some t

/-- The data sets described are the readings of the entries. -/
theorem stackDatasets_eq (ienv : ImportEnv) (protocolConfig : String) :
    stackDatasets ienv protocolConfig =
      (datasetEntries ienv protocolConfig).filterMap datasetOf := by
  rw [stackDatasets, datasetEntries]
  cases applicationOf ienv protocolConfig with
  | none => rfl
  | some application => rfl

/-- A data set has the name of its entry. -/
theorem datasetName_eq (entry : Value) :
    datasetName entry = (datasetOf entry).map Dataset.datasetRef := by
  rw [datasetName, datasetOf, Option.map_map]
  rfl

/-- Data sets and transfer sets that belong together are kept under the same name, and under the
same domain when the entries give one. -/
theorem domain_eq_iff_of_belongTogether {codes : DsConditionCodes} {dataset transferSet : Value}
    (h : BelongTogether dataset transferSet) {d : Dataset} {t : DatasetTransferSet}
    (hd : datasetOf dataset = some d) (ht : transferSetOf codes transferSet = some t) :
    (cString d.domain, cString d.datasetRef) = (cString t.domain, cString t.datasetRef) ↔
      (domainMember dataset).isSome := by
  rw [datasetOf, Option.map_eq_some_iff] at hd
  obtain ⟨ref, href, rfl⟩ := hd
  rw [transferSetOf, Option.map_eq_some_iff] at ht
  obtain ⟨dstsRef, -, rfl⟩ := ht
  have hname : transferSet.textOr "dataset_ref" "" = ref.val := by
    have hsame := h.name
    rw [datasetName, datasetName, href] at hsame
    rw [Value.textOr, hsame]
    rfl
  have hdomain := h.domain
  simp only [Prod.mk.injEq, hname, and_true]
  unfold domainMember at hdomain ⊢
  rw [Value.textOr, Value.textOr, hdomain]
  cases ((dataset.find? "domain").bind Value.text?).map Subtype.val with
  | none =>
    simp only [Option.getD_none, Option.isSome_none, Bool.false_eq_true, iff_false]
    decide
  | some domain => simp

section Imported

variable {ienv : ImportEnv} {protocolConfig : String} {config₀ config : TASE2ClientConfig}
  (h : importProtocolConfig ienv protocolConfig config₀ = .ok config)

include h

/-- With distinct names, the data set of every named entry is kept. -/
theorem lookup_datasets (hdatasets : config₀.datasets = ∅)
    (hdistinct : ((datasetEntries ienv protocolConfig).filterMap datasetName).Nodup)
    {entry : Value} (hentry : entry ∈ datasetEntries ienv protocolConfig) {d : Dataset}
    (hd : datasetOf entry = some d) : config.datasets.lookup d.datasetRef = some d := by
  have hnames : (datasetEntries ienv protocolConfig).filterMap datasetName =
      (stackDatasets ienv protocolConfig).map Dataset.datasetRef := by
    rw [stackDatasets_eq, List.map_filterMap]
    exact List.filterMap_congr fun entry _ ↦ datasetName_eq entry
  have hmem : d ∈ stackDatasets ienv protocolConfig := by
    rw [stackDatasets_eq, List.mem_filterMap]
    exact ⟨entry, hentry, hd⟩
  have hsome : ((stackDatasets ienv protocolConfig).find?
      (·.datasetRef = d.datasetRef)).isSome := by
    rw [List.find?_isSome]
    exact ⟨d, hmem, by simp⟩
  obtain ⟨first, hfirst⟩ := Option.isSome_iff_exists.mp hsome
  rw [hnames] at hdistinct
  -- the first data set of the name is the only one
  have heq : first = d := List.inj_on_of_nodup_map hdistinct (List.mem_of_find?_eq_some hfirst)
    hmem (by simpa using List.find?_some hfirst)
  rw [(applied_importProtocolConfig h).datasets, hdatasets, UnorderedMap.lookup_emplaceAll,
    Finmap.lookup_empty, Option.none_or, List.find?_map, Option.map_map, ← heq]
  rw [← heq] at hfirst
  exact congrArg (Option.map _) hfirst

/-- A kept data set and a kept transfer set are passed over in some iteration in which the library
returns everything, so that a pair they share shows that the entries give a domain. -/
theorem domainMember_isSome_of_samePair (hdatasets : config₀.datasets = ∅)
    (htransferSets : config₀.dsTranferSets = ∅)
    (hdistinct : ((datasetEntries ienv protocolConfig).filterMap datasetName).Nodup)
    {dataset transferSet : Value} (hentry : dataset ∈ datasetEntries ienv protocolConfig)
    (htogether : BelongTogether dataset transferSet)
    (hsame : SamePair ienv.codes config dataset transferSet)
    (hkept : KeptTransferSet ienv protocolConfig transferSet) :
    (domainMember dataset).isSome := by
  obtain ⟨t, ht, hfirst⟩ := hkept
  obtain ⟨d, hd⟩ : ∃ d, datasetOf dataset = some d := by
    have hnamed := htogether.named
    rw [datasetName_eq, Option.isSome_map] at hnamed
    exact Option.isSome_iff_exists.mp hnamed
  have hdynamic : d.dynamic = true := by
    rw [datasetOf, Option.map_eq_some_iff] at hd
    obtain ⟨ref, -, rfl⟩ := hd
    exact htogether.dynamic
  obtain ⟨datasetOrder, hdatasetOrder⟩ := UnorderedMap.exists_iterationOrder config.datasets
  obtain ⟨dstsOrder, hdstsOrder⟩ := UnorderedMap.exists_iterationOrder config.dsTranferSets
  have hdmem := (hdatasetOrder.mem_iff d.datasetRef d).mpr
    (lookup_datasets h hdatasets hdistinct hentry hd)
  have htmem := (hdstsOrder.mem_iff t.dstsRef t).mpr
    ((lookup_dsTranferSets h htransferSets t.dstsRef).trans hfirst)
  obtain ⟨i, hi⟩ := List.mem_iff_getElem?.mp hdmem
  obtain ⟨j, hj⟩ := List.mem_iff_getElem?.mp htmem
  have hpair := hsame d hd t ht
    { IterationEnv.plain 0 true with datasetOrder := datasetOrder, dstsOrder := dstsOrder }
    (.new ⟨"", 0, false, none⟩) (.new ⟨"", 0, false, none⟩) hdatasetOrder hdstsOrder i j hi hj
    (cString d.domain, cString d.datasetRef)
    (by rw [createdPair_datasetCalls]; simp [hdynamic, IterationEnv.plain])
    (cString t.domain, cString t.datasetRef)
    ((soughtPair_transferSetCalls _ _ _ _).mpr ⟨rfl, rfl⟩)
  exact (domain_eq_iff_of_belongTogether htogether hd ht).mp hpair

omit h in
/-- A data set and a transfer set whose entries give the same domain go by the same pair. -/
theorem samePair_of_domainMember {codes : DsConditionCodes} {dataset transferSet : Value}
    (htogether : BelongTogether dataset transferSet) (hdomain : (domainMember dataset).isSome) :
    SamePair codes config dataset transferSet := by
  intro d hd t ht env s s' _ _ i j _ _ created hcreated sought hsought
  have hpair := (domain_eq_iff_of_belongTogether htogether hd ht).mpr hdomain
  obtain ⟨-, rfl⟩ := (soughtPair_transferSetCalls _ _ _ _).mp hsought
  rw [createdPair_datasetCalls] at hcreated
  split at hcreated
  · rw [List.mem_singleton.mp hcreated]
    exact hpair
  · cases hcreated

/-- A transfer set that is not kept is never passed over. -/
theorem samePair_of_not_kept (htransferSets : config₀.dsTranferSets = ∅)
    {dataset transferSet : Value} (hkept : ¬ KeptTransferSet ienv protocolConfig transferSet) :
    SamePair ienv.codes config dataset transferSet := by
  intro d hd t ht env s s' _ hdstsOrder i j _ hj
  have hfirst := (hdstsOrder.mem_iff t.dstsRef t).mp (List.mem_of_getElem? hj)
  rw [lookup_dsTranferSets h htransferSets] at hfirst
  exact absurd ⟨t, ht, hfirst⟩ hkept

/-- After an import with distinct data set names, a data set and a transfer set that belong
together go by the same pair exactly when their entries give a domain, or the transfer set is
not kept. -/
theorem samePair_iff_of_import (hdatasets : config₀.datasets = ∅)
    (htransferSets : config₀.dsTranferSets = ∅)
    (hdistinct : ((datasetEntries ienv protocolConfig).filterMap datasetName).Nodup)
    {dataset transferSet : Value} (hentry : dataset ∈ datasetEntries ienv protocolConfig)
    (htogether : BelongTogether dataset transferSet) :
    SamePair ienv.codes config dataset transferSet ↔
      (domainMember dataset).isSome ∨ ¬ KeptTransferSet ienv protocolConfig transferSet := by
  constructor
  · intro hsame
    by_cases hkept : KeptTransferSet ienv protocolConfig transferSet
    · exact .inl (domainMember_isSome_of_samePair h hdatasets htransferSets hdistinct hentry
        htogether hsame hkept)
    · exact .inr hkept
  · intro hcondition
    cases hcondition with
    | inl hdomain => exact samePair_of_domainMember htogether hdomain
    | inr hunkept => exact samePair_of_not_kept h htransferSets hunkept

end Imported

/-- A well-typed stack configuration with distinct data set names is imported, and a dynamic data
set and a transfer set of the same `dataset_ref` and `domain` members go by the same pair exactly
when the members give a domain, or the transfer set is not kept. -/
theorem samePair_iff {ienv : ImportEnv} {protocolConfig : String}
    {config₀ : TASE2ClientConfig} (hstack : StackWellTyped ienv protocolConfig)
    (hdatasets : config₀.datasets = ∅) (htransferSets : config₀.dsTranferSets = ∅)
    (hdistinct : ((datasetEntries ienv protocolConfig).filterMap datasetName).Nodup) :
    ∃ config, importProtocolConfig ienv protocolConfig config₀ = .ok config ∧
      ∀ dataset ∈ datasetEntries ienv protocolConfig,
        ∀ transferSet ∈ transferSetEntries ienv protocolConfig,
          BelongTogether dataset transferSet →
            (SamePair ienv.codes config dataset transferSet ↔ (domainMember dataset).isSome ∨
              ¬ KeptTransferSet ienv protocolConfig transferSet) := by
  obtain ⟨config, h⟩ :=
    (completes_importProtocolConfig_iff ienv protocolConfig config₀).mpr hstack
  refine ⟨config, h, fun dataset hentry transferSet _ htogether ↦ ?_⟩
  exact samePair_iff_of_import h hdatasets htransferSets hdistinct hentry htogether

/-! ### Two entries without a domain -/

/-- A stack configuration with a dynamic data set and a transfer set of it, both without a
domain. -/
def noDomainText : String :=
  "\x7b\"protocol_stack\":\x7b\"transport_layer\":\x7b\"connections\":[]\x7d," ++
    "\"application_layer\":\x7b\"datasets\":[\x7b\"dataset_ref\":\"ds1\",\"dynamic\":true\x7d]," ++
    "\"dataset_transfer_sets\":[" ++
    "\x7b\"name\":\"ts1\",\"dataset_ref\":\"ds1\"\x7d]\x7d\x7d\x7d"

/-- The data set entry in the document of `noDomainText`. -/
def noDomainDataset : Value :=
  .object [("dataset_ref", .string "ds1"), ("dynamic", .bool true)]

/-- The transfer set entry in the document of `noDomainText`. -/
def noDomainTransferSet : Value :=
  .object [("name", .string "ts1"), ("dataset_ref", .string "ds1")]

/-- The application layer in the document of `noDomainText`. -/
def noDomainApplication : Value :=
  .object [("datasets", .array [noDomainDataset]),
    ("dataset_transfer_sets", .array [noDomainTransferSet])]

/-- The `protocol_stack` object in the document of `noDomainText`. -/
def noDomainStack : Value :=
  .object [("transport_layer", .object [("connections", .array [])]),
    ("application_layer", noDomainApplication)]

/-- A parser that reads `noDomainText`. -/
def noDomainEnv : ImportEnv :=
  .ofTable [(noDomainText, .object [("protocol_stack", noDomainStack)])]

private theorem protocolStackOf_noDomain :
    protocolStackOf noDomainEnv noDomainText = some noDomainStack := by
  apply protocolStackOf_eq_some (ImportEnv.parse_ofTable_self _ _ _) _ rfl rfl
  rw [traverseAndCheckTypes, checkLoop_eq]
  decide

private theorem stackWellTyped_noDomain : StackWellTyped noDomainEnv noDomainText := by
  apply stackWellTyped_of_application protocolStackOf_noDomain
  refine ⟨rfl, Value.memberIs_of_none rfl, fun _ ↦ arrayOf_of_some rfl ?_,
    fun _ ↦ arrayOf_of_some rfl ?_⟩
  · simp [DatasetWellTyped, noDomainDataset, Value.MemberIs, Value.find?]
  · simp [TransferSetWellTyped, transferSetFields, noDomainTransferSet, Value.MemberIs,
      Value.find?, Value.isString]

private theorem application_noDomain :
    applicationOf noDomainEnv noDomainText = some noDomainApplication := by
  rw [applicationOf, protocolStackOf_noDomain]
  rfl

private theorem datasetEntries_noDomain :
    datasetEntries noDomainEnv noDomainText = [noDomainDataset] := by
  rw [datasetEntries, application_noDomain]
  rfl

private theorem transferSetEntries_noDomain :
    transferSetEntries noDomainEnv noDomainText = [noDomainTransferSet] := by
  rw [transferSetEntries, application_noDomain]
  rfl

private theorem nodup_noDomain :
    ((datasetEntries noDomainEnv noDomainText).filterMap datasetName).Nodup := by
  rw [datasetEntries_noDomain]
  decide

/-- The equivalence holds of the import of `noDomainText`. -/
theorem samePair_iff_noDomain :
    ∃ config, importProtocolConfig noDomainEnv noDomainText .fresh = .ok config ∧
      ∀ dataset ∈ datasetEntries noDomainEnv noDomainText,
        ∀ transferSet ∈ transferSetEntries noDomainEnv noDomainText,
          BelongTogether dataset transferSet →
            (SamePair noDomainEnv.codes config dataset transferSet ↔
              (domainMember dataset).isSome ∨
                ¬ KeptTransferSet noDomainEnv noDomainText transferSet) :=
  samePair_iff stackWellTyped_noDomain rfl rfl nodup_noDomain

/-- The data set is created in `vcc` and looked up in the domain of no name. -/
theorem not_samePair_noDomain :
    ∃ config, importProtocolConfig noDomainEnv noDomainText .fresh = .ok config ∧
      noDomainDataset ∈ datasetEntries noDomainEnv noDomainText ∧
      noDomainTransferSet ∈ transferSetEntries noDomainEnv noDomainText ∧
      BelongTogether noDomainDataset noDomainTransferSet ∧
      ¬ SamePair noDomainEnv.codes config noDomainDataset noDomainTransferSet := by
  obtain ⟨config, h⟩ :=
    (completes_importProtocolConfig_iff noDomainEnv noDomainText .fresh).mpr
      stackWellTyped_noDomain
  have hdataset : noDomainDataset ∈ datasetEntries noDomainEnv noDomainText := by
    rw [datasetEntries_noDomain]
    exact List.mem_singleton_self _
  have htransferSet : noDomainTransferSet ∈ transferSetEntries noDomainEnv noDomainText := by
    rw [transferSetEntries_noDomain]
    exact List.mem_singleton_self _
  have htogether : BelongTogether noDomainDataset noDomainTransferSet :=
    ⟨rfl, rfl, by decide, by decide⟩
  refine ⟨config, h, hdataset, htransferSet, htogether, ?_⟩
  rw [samePair_iff_of_import h rfl rfl nodup_noDomain hdataset htogether, not_or, not_not]
  refine ⟨by decide, _, rfl, ?_⟩
  rw [stackTransferSets_eq, transferSetEntries_noDomain]
  decide

end Tase2South.Connection
