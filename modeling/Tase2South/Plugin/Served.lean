import Tase2South.Client.Gateway
import Tase2South.Connection.Canonical

/-!
# What a configured client shows

From the texts that `setJsonConfig` accepts (`src/tase2.cpp:9–21`) to the readings of
`handleAllValues` and `handleValue` (`src/tase2_client.cpp:396–445`). Every reading is of a
definition that the texts exchange; and a round, which is a poll and a report of all that the data
sets list, shows every monitored definition, as often as it is listed, or once.
-/

namespace Tase2South.Plugin

open Tase2South.Base Tase2South.Json Tase2South.Config Tase2South.Client Tase2South.Connection

/-! ### The definitions of accepted texts -/

/-- After the stack is imported, what no data set lists is polled as before. -/
theorem lookup_polled_importProtocolConfig {env : ImportEnv} {stack : String}
    {config config' : TASE2ClientConfig}
    (h : importProtocolConfig env stack config = .ok config') (ref : String) :
    config'.polledDatapoints.map.lookup ref =
      if ∃ s ∈ stackDatasets env stack, ref ∈ s.refs then none
      else config.polledDatapoints.map.lookup ref := by
  rw [importProtocolConfig_eq] at h
  rw [stackDatasets, applicationOf]
  cases hs : protocolStackOf env stack with
  | none =>
    simp only [hs] at h
    cases h
    simp
  | some v =>
    simp only [hs] at h
    rw [Option.bind_some]
    obtain ⟨ha, groups, timeout, rfl⟩ | ⟨application, groups, timeout, ha, rfl⟩ :=
      importProtocolStack_cases (isObject_of_protocolStackOf hs) h
    · rw [ha]
      simp
    · rw [ha, Option.elim_some]
      have hsets := lookup_polled_foldl_addDataset (datasetsOf application)
        { config with
          protocolConfigComplete := false
          connections := groups
          backupConnectionTimeout := timeout
          pollingInterval := application.intOr "polling_interval" config.pollingInterval } ref
      rw [← foldl_frame TASE2ClientConfig.addTransferSet TASE2ClientConfig.polledDatapoints
        (fun _ _ ↦ rfl) (transferSetsOf env.codes application)] at hsets
      exact hsets

section

variable {env : ImportEnv} {stack msg tls : String} {config : TASE2ClientConfig}
  (h : Config.setJsonConfig env stack msg tls = .ok config)

include h

/-- Found by its ref is the last definition that the texts give it, and polled the last monitored
one, unless a data set lists it. -/
theorem lookups_of_setJsonConfig (ref : String) :
    config.getExchangeDefinitionByRef ref = lastWith (·.ref) (exchangedDefinitions env msg) ref ∧
      config.polledDatapoints.map.lookup ref =
        if ∃ s ∈ stackDatasets env stack, ref ∈ s.refs then none
        else lastWith (·.ref) ((exchangedDefinitions env msg).filter (·.type.isMonitoring))
          ref := by
  obtain ⟨c, hc, h⟩ := bind_eq_ok_iff.mp h
  obtain ⟨d, hd, h⟩ := bind_eq_ok_iff.mp h
  have hindexed := indexedBy_of_importExchangeConfig hc
  have hpolled := lookup_polled_importProtocolConfig hd ref
  rw [hindexed.polled] at hpolled
  obtain ⟨_, _, _, _, rfl, -⟩ := exists_certificates_of_importTlsConfig h
  refine ⟨?_, hpolled⟩
  rw [← hindexed.ref, ← (applied_importProtocolConfig hd).definitions]
  rfl

end

/-- A monitored definition that no data set lists. -/
def Unlisted (sets : List Dataset) (d : DataExchangeDefinition) : Prop :=
  d.type.isMonitoring = true ∧ d.ref ∉ sets.flatMap Dataset.refs

instance (sets : List Dataset) (d : DataExchangeDefinition) : Decidable (Unlisted sets d) :=
  inferInstanceAs (Decidable (_ ∧ _))

section

variable {env : ImportEnv} {stack msg tls : String} {config : TASE2ClientConfig} {ref : String}
  {d : DataExchangeDefinition} (h : Config.setJsonConfig env stack msg tls = .ok config)

include h

/-- What is found by a ref is exchanged. -/
theorem mem_of_getExchangeDefinitionByRef (hd : config.getExchangeDefinitionByRef ref = some d) :
    d ∈ exchangedDefinitions env msg := by
  rw [(lookups_of_setJsonConfig h ref).1] at hd
  exact (mem_of_lastWith hd).1

/-- What is polled is exchanged, monitored and not listed. -/
theorem unlisted_of_lookup_polled (hd : config.polledDatapoints.map.lookup ref = some d) :
    d ∈ exchangedDefinitions env msg ∧ Unlisted (stackDatasets env stack) d := by
  rw [(lookups_of_setJsonConfig h ref).2] at hd
  split at hd
  · cases hd
  · next hlisted =>
    obtain ⟨hmem, href⟩ := mem_of_lastWith hd
    obtain ⟨hexchanged, hmonitored⟩ := List.mem_filter.mp hmem
    refine ⟨hexchanged, hmonitored, ?_⟩
    rw [List.mem_flatMap, show d.ref = ref from href]
    exact hlisted

/-- Where no ref is given twice, polled is every definition that is monitored and not listed. -/
theorem lookup_polled_iff
    (hrefs : ((exchangedDefinitions env msg).map DataExchangeDefinition.ref).Nodup)
    (hd : d ∈ exchangedDefinitions env msg) :
    config.polledDatapoints.map.lookup d.ref = some d ↔
      Unlisted (stackDatasets env stack) d := by
  have hmonitored : (((exchangedDefinitions env msg).filter (·.type.isMonitoring)).map
      DataExchangeDefinition.ref).Nodup := hrefs.sublist (List.filter_sublist.map _)
  constructor
  · intro hlookup
    exact (unlisted_of_lookup_polled h hlookup).2
  · rintro ⟨hm, hlisted⟩
    rw [(lookups_of_setJsonConfig h d.ref).2, if_neg, lastWith_eq_some_iff hmonitored]
    · exact ⟨List.mem_filter.mpr ⟨hd, hm⟩, rfl⟩
    · rw [← List.mem_flatMap]
      exact hlisted

end

/-! ### Whose readings they are -/

section

variable {PV F : Type}

/-- An observation of the point of a definition, under a label. -/
def IsOf (o : Observation F) (label : String) (d : DataExchangeDefinition) : Prop :=
  o.label = label ∧ o.object.type = d.type ∧
    (o.object.domain, o.object.name) = splitExchangeRef d.ref

/-- Every read of a poll returns a value. -/
def Answered {config : TASE2ClientConfig} : ClientCall PV F config → Prop
  | .poll active _ order _ => ∀ p ∈ order, (active.bind (·.readOf p.2)).isSome
  | _ => True

variable (lib : PointLib PV F)

/-- What is observed of a definition is its point. -/
theorem isOf_observed (label : String) (d : DataExchangeDefinition) (value : PV) (ts : Nat) :
    IsOf ⟨label, observed lib d value ts⟩ label d := ⟨rfl, rfl, rfl⟩

/-- A value is seen for the definition of its ref. -/
theorem mem_observeValue {config : TASE2ClientConfig} {ref : String} {value : PV} {ts : Nat}
    {o : Observation F} (ho : o ∈ observeValue lib config ref value ts) :
    ∃ d, config.getExchangeDefinitionByRef ref = some d ∧ IsOf o d.label d := by
  rw [observeValue, Option.mem_toList, Option.map_eq_some_iff] at ho
  obtain ⟨d, hd, rfl⟩ := ho
  exact ⟨d, hd, isOf_observed lib d.label d value ts⟩

/-- A poll whose reads succeed shows each definition of its order under its own label. -/
theorem forall₂_observePoll {connection : ActiveConnection PV F} {now : Nat → Nat}
    {order : List (String × DataExchangeDefinition)}
    (h : ∀ p ∈ order, (connection.readOf p.2).isSome) :
    List.Forall₂ (fun p o ↦ IsOf o p.2.label p.2) order
      (observePoll lib connection now order) := by
  unfold observePoll
  generalize 0 = k
  induction order generalizing k with
  | nil => exact .nil
  | cons p order ih =>
    rw [List.forall_mem_cons] at h
    obtain ⟨value, hvalue⟩ := Option.isSome_iff_exists.mp h.1
    simp only [polledObjects, List.zipIdx_cons, List.filterMap_cons, hvalue, Option.map_some,
      List.map_cons, List.zip_cons_cons]
    exact .cons (isOf_observed lib p.2.label p.2 value (now k)) (ih h.2 (k + 1))

/-- Any poll shows definitions of its order, under labels of its order. -/
theorem mem_observePoll {connection : ActiveConnection PV F} {now : Nat → Nat}
    {order : List (String × DataExchangeDefinition)} {o : Observation F}
    (ho : o ∈ observePoll lib connection now order) :
    ∃ p ∈ order, ∃ q ∈ order, IsOf o q.2.label p.2 := by
  obtain ⟨⟨object, label⟩, hpair, rfl⟩ := List.mem_map.mp ho
  obtain ⟨hobject, hlabel⟩ := List.of_mem_zip hpair
  obtain ⟨⟨p, i⟩, hp, hread⟩ := List.mem_filterMap.mp hobject
  obtain ⟨value, -, rfl⟩ := Option.map_eq_some_iff.mp hread
  obtain ⟨q, hq, rfl⟩ := List.mem_map.mp hlabel
  exact ⟨p, List.fst_mem_of_mem_zipIdx hp, q, hq, isOf_observed lib q.2.label p.2 value (now i)⟩

/-- A call shows a definition that is found by a ref, or one that is polled, which a failed read
can put under the label of another. -/
theorem mem_observeCall {config : TASE2ClientConfig} {call : ClientCall PV F config}
    {o : Observation F} (ho : o ∈ observeCall lib config call) :
    (∃ ref d, config.getExchangeDefinitionByRef ref = some d ∧ IsOf o d.label d) ∨
      ∃ ref d ref' d', config.polledDatapoints.map.lookup ref = some d ∧
        config.polledDatapoints.map.lookup ref' = some d' ∧ IsOf o d'.label d ∧
          (Answered call → d' = d) := by
  cases call with
  | poll active now order horder =>
    obtain ⟨connection, rfl⟩ : ∃ connection, active = some connection := by
      cases active with
      | none => cases ho
      | some connection => exact ⟨connection, rfl⟩
    by_cases hanswered : Answered (.poll (some connection) now order horder)
    · have hown : ∀ o ∈ observePoll lib connection now order, ∃ p ∈ order, IsOf o p.2.label p.2 :=
        (forall_mem_iff_of_forall₂ (forall₂_observePoll lib hanswered)
          fun p hp o hof ↦ iff_of_true ⟨p, hp, hof⟩ trivial).mpr fun _ _ ↦ trivial
      obtain ⟨p, hp, hof⟩ := hown o ho
      have hlookup := (horder.mem_iff p.1 p.2).mp hp
      exact .inr ⟨p.1, p.2, p.1, p.2, hlookup, hlookup, hof, fun _ ↦ rfl⟩
    · obtain ⟨p, hp, q, hq, hof⟩ := mem_observePoll lib ho
      exact .inr ⟨p.1, p.2, q.1, q.2, (horder.mem_iff p.1 p.2).mp hp,
        (horder.mem_iff q.1 q.2).mp hq, hof, fun h ↦ absurd h hanswered⟩
  | report active domainName pointName value now =>
    exact .inl ⟨_, mem_observeValue lib ho⟩
  | emptyReport active domainName pointName now =>
    cases active with
    | none => cases ho
    | some connection =>
      obtain ⟨value, -, hvalue⟩ := List.mem_flatMap.mp ho
      exact .inl ⟨_, mem_observeValue lib hvalue⟩
  | command active domain name request created now =>
    rw [observeCall] at ho
    split at ho
    · exact .inl ⟨_, mem_observeValue lib ho⟩
    · cases ho

end

/-! ### Any calls -/

section

variable {PV F : Type} (lib : PointLib PV F) {env : ImportEnv} {stack msg tls : String}
  {config : TASE2ClientConfig}

/-- What a call shows is exchanged, and under the label of its definition; or it was polled and a
read failed, and then both are monitored and no data set lists them. -/
theorem exchanged_of_mem_observeCall (h : Config.setJsonConfig env stack msg tls = .ok config)
    {call : ClientCall PV F config} {o : Observation F} (ho : o ∈ observeCall lib config call) :
    ∃ d ∈ exchangedDefinitions env msg, ∃ d' ∈ exchangedDefinitions env msg, IsOf o d'.label d ∧
      (d' = d ∨ ¬ Answered call ∧
        Unlisted (stackDatasets env stack) d ∧ Unlisted (stackDatasets env stack) d') := by
  obtain ⟨ref, d, hd, hof⟩ | ⟨ref, d, ref', d', hd, hd', hof, hsame⟩ := mem_observeCall lib ho
  · have hmem := mem_of_getExchangeDefinitionByRef h hd
    exact ⟨d, hmem, d, hmem, hof, .inl rfl⟩
  · obtain ⟨hmem, hunlisted⟩ := unlisted_of_lookup_polled h hd
    obtain ⟨hmem', hunlisted'⟩ := unlisted_of_lookup_polled h hd'
    refine ⟨d, hmem, d', hmem', hof, ?_⟩
    by_cases hanswered : Answered call
    · exact .inl (hsame hanswered)
    · exact .inr ⟨hanswered, hunlisted, hunlisted'⟩

/-- The calls of a client made from accepted texts return exactly when each that reads finds an
active connection. Every reading is then of a definition that the texts exchange, under its label;
or, when a read of a poll failed, under the label of another one, and then both are monitored and
listed by no data set. -/
theorem readings_exchanged (h : Config.setJsonConfig env stack msg tls = .ok config)
    (registered : Bool) (calls : List (ClientCall PV F config)) :
    (Completes (runCalls lib config registered calls) ↔ ∀ call ∈ calls, call.Connected) ∧
      ∀ events, runCalls lib config registered calls = .ok events →
        ∀ r ∈ readings events, ∃ o : Observation F, r = o.reading ∧
          ∃ d ∈ exchangedDefinitions env msg, ∃ d' ∈ exchangedDefinitions env msg,
            IsOf o d'.label d ∧
              (d' = d ∨ (∃ call ∈ calls, ¬ Answered call) ∧
                Unlisted (stackDatasets env stack) d ∧
                Unlisted (stackDatasets env stack) d') := by
  refine ⟨completes_runCalls_iff lib config registered calls, fun events hevents r hr ↦ ?_⟩
  rw [shows_runCalls lib registered hevents] at hr
  cases registered with
  | false => cases hr
  | true =>
    rw [if_pos rfl] at hr
    obtain ⟨o, ho, rfl⟩ := List.mem_map.mp hr
    obtain ⟨call, hcall, ho⟩ := List.mem_flatMap.mp ho
    obtain ⟨d, hd, d', hd', hof, hcase⟩ := exchanged_of_mem_observeCall lib h ho
    refine ⟨o, rfl, d, hd, d', hd', hof, ?_⟩
    apply hcase.imp_right
    rintro ⟨hanswered, hunlisted⟩
    exact ⟨⟨call, hcall, hanswered⟩, hunlisted⟩

/-! ### A round -/

/-- The ref that a report of a value is for. -/
def reportedRef : ClientCall PV F config → Option String
  | .report _ domainName pointName _ _ => some (domainName.val ++ ":" ++ pointName.val)
  | _ => none

/-- The observations under a label. -/
def timesShown (label : String) (os : List (Observation F)) : Nat := os.countP (·.label = label)

/-- How often a round shows a definition: as often as it is listed, or once. -/
def timesServed (sets : List Dataset) (d : DataExchangeDefinition) : Nat :=
  if d.ref ∈ sets.flatMap Dataset.refs then (sets.flatMap Dataset.refs).count d.ref
  else if d.type.isMonitoring then 1 else 0

/-- In any order, a poll whose reads succeed, and for every entry of every data set one report of a
value under the domain of the set. -/
def Round (calls : List (ClientCall PV F config)) : Prop :=
  ∃ connection now order horder reports sets,
    calls.Perm (.poll (some connection) now order horder :: reports) ∧
      Answered (.poll (some connection) now order horder) ∧
      config.datasets.IterationOrder sets ∧
      (reports.map reportedRef).Perm ((sets.flatMap fun s ↦ s.2.refs).map some)

section

variable {d : DataExchangeDefinition}
  (hlabels : ((exchangedDefinitions env msg).map DataExchangeDefinition.label).Nodup)
  (hrefs : ((exchangedDefinitions env msg).map DataExchangeDefinition.ref).Nodup)
  (hd : d ∈ exchangedDefinitions env msg)

include hlabels hrefs hd

/-- Where no label and no ref is given twice, the label tells the ref. -/
theorem label_eq_iff {e : DataExchangeDefinition} (he : e ∈ exchangedDefinitions env msg) :
    e.label = d.label ↔ e.ref = d.ref := by
  constructor
  · intro hlabel
    rw [List.inj_on_of_nodup_map hlabels he hd hlabel]
  · intro href
    rw [List.inj_on_of_nodup_map hrefs he hd href]

variable (h : Config.setJsonConfig env stack msg tls = .ok config)

include h

/-- A report shows the definition of its ref. -/
theorem timesShown_report {call : ClientCall PV F config} {ref : String}
    (hcall : reportedRef call = some ref) :
    timesShown d.label (observeCall lib config call) = if ref = d.ref then 1 else 0 := by
  cases call with
  | report active domainName pointName value now =>
    have hfound : ∀ e, config.getExchangeDefinitionByRef ref = some e ↔
        e ∈ exchangedDefinitions env msg ∧ e.ref = ref := by
      intro e
      rw [(lookups_of_setJsonConfig h ref).1, lastWith_eq_some_iff hrefs]
    rw [reportedRef, Option.some.injEq] at hcall
    rw [observeCall, hcall, observeValue]
    cases he : config.getExchangeDefinitionByRef ref with
    | none =>
      have hne : ref ≠ d.ref := by
        rintro rfl
        rw [(hfound d).mpr ⟨hd, rfl⟩] at he
        cases he
      rw [if_neg hne]
      rfl
    | some e =>
      obtain ⟨hmem, rfl⟩ := (hfound e).mp he
      rw [Option.map_some, Option.toList_some, timesShown, List.countP_singleton]
      simp only [decide_eq_true_eq, label_eq_iff hlabels hrefs hd hmem]
  | _ => cases hcall

/-- Reports show a definition as often as they are for its ref. -/
theorem timesShown_reports {reports : List (ClientCall PV F config)}
    (hreports : ∀ call ∈ reports, (reportedRef call).isSome) :
    timesShown d.label (reports.flatMap (observeCall lib config)) =
      (reports.map reportedRef).count (some d.ref) := by
  induction reports with
  | nil => rfl
  | cons call reports ih =>
    rw [List.forall_mem_cons] at hreports
    obtain ⟨ref, href⟩ := Option.isSome_iff_exists.mp hreports.1
    have hcall := timesShown_report lib hlabels hrefs hd h href
    have hrest := ih hreports.2
    rw [timesShown] at hcall hrest ⊢
    rw [List.flatMap_cons, List.countP_append, hcall, hrest, List.map_cons, href, List.count_cons,
      Nat.add_comm]
    simp only [beq_iff_eq, Option.some.injEq]

/-- A poll whose reads succeed shows a definition once, if it is monitored and not listed. -/
theorem timesShown_poll {connection : ActiveConnection PV F} {now : Nat → Nat}
    {order : List (String × DataExchangeDefinition)}
    (horder : config.polledDatapoints.map.IterationOrder order)
    (hread : ∀ p ∈ order, (connection.readOf p.2).isSome) :
    timesShown d.label (observePoll lib connection now order) =
      if Unlisted (stackDatasets env stack) d then 1 else 0 := by
  have hlabelled : (observePoll lib connection now order).map Observation.label =
      order.map fun p ↦ p.2.label :=
    map_eq_map_of_forall₂ (forall₂_observePoll lib hread) fun p o hof ↦ hof.1
  have hkeyed : ∀ p ∈ order, p.2.label = d.label ↔ p.1 = d.ref := by
    intro p hp
    have hlookup := (horder.mem_iff p.1 p.2).mp hp
    rw [label_eq_iff hlabels hrefs hd (unlisted_of_lookup_polled h hlookup).1,
      config.polledDatapoints.keyed p.1 p.2 hlookup]
  have hcount : timesShown d.label (observePoll lib connection now order) =
      (order.map Prod.fst).count d.ref :=
    calc timesShown d.label (observePoll lib connection now order)
        = ((observePoll lib connection now order).map Observation.label).countP (· = d.label) :=
          by
            rw [List.countP_map]
            rfl
      _ = order.countP (fun p ↦ p.2.label = d.label) := by
          rw [hlabelled, List.countP_map]
          rfl
      _ = order.countP (fun p ↦ p.1 = d.ref) :=
          List.countP_congr fun p hp ↦ by simp only [decide_eq_true_eq, hkeyed p hp]
      _ = (order.map Prod.fst).count d.ref := by
          rw [List.count, List.countP_map]
          rfl
  have hmem : d.ref ∈ order.map Prod.fst ↔ Unlisted (stackDatasets env stack) d := by
    rw [← lookup_polled_iff h hrefs hd, ← horder.mem_iff, List.mem_map]
    constructor
    · rintro ⟨⟨ref, e⟩, he, rfl⟩
      have hlookup := (horder.mem_iff _ e).mp he
      have hkey := config.polledDatapoints.keyed _ e hlookup
      have hsame := List.inj_on_of_nodup_map hrefs (unlisted_of_lookup_polled h hlookup).1 hd hkey
      subst hsame
      exact he
    · intro he
      exact ⟨_, he, rfl⟩
  rw [hcount, horder.nodup_keys.count]
  simp only [hmem]

end

/-- Where no data set is named twice, the client has those that the stack describes. -/
theorem perm_datasets_of_setJsonConfig (h : Config.setJsonConfig env stack msg tls = .ok config)
    (hnames : ((stackDatasets env stack).map Dataset.datasetRef).Nodup)
    {sets : List (String × Dataset)} (hsets : config.datasets.IterationOrder sets) :
    (sets.map Prod.snd).Perm (stackDatasets env stack) := by
  obtain ⟨c, hc, h⟩ := bind_eq_ok_iff.mp h
  obtain ⟨c', hc', h⟩ := bind_eq_ok_iff.mp h
  have hkept : c'.datasets = config.datasets := by
    obtain ⟨_, _, _, _, rfl, -⟩ := exists_certificates_of_importTlsConfig h
    rfl
  rw [← hkept, (applied_importProtocolConfig hc').datasets, eq_foldl_of_importExchangeConfig hc,
    datasets_foldl_addDefinition] at hsets
  exact perm_of_emplaceAll_empty hnames hsets

/-- A definition is shown by the poll when it is monitored and not listed, and by the reports as
often as it is listed. -/
theorem timesServed_eq (sets : List Dataset) (d : DataExchangeDefinition) :
    timesServed sets d =
      (if Unlisted sets d then 1 else 0) + (sets.flatMap Dataset.refs).count d.ref := by
  unfold timesServed Unlisted
  by_cases hlisted : d.ref ∈ sets.flatMap Dataset.refs
  · simp only [hlisted, if_true, not_true_eq_false, and_false, if_false, Nat.zero_add]
  · have hnone := List.count_eq_zero_of_not_mem hlisted
    simp only [hlisted, if_false, not_false_eq_true, and_true, hnone, Nat.add_zero]

/-- A report of a value reads nothing. -/
theorem answered_of_reportedRef {call : ClientCall PV F config}
    (h : (reportedRef call).isSome) : Answered call ∧ call.Connected := by
  cases call with
  | report active domainName pointName value now => exact ⟨trivial, trivial⟩
  | _ => cases h

/-- Calls that are matched with refs are reports of values. -/
theorem isSome_reportedRef {reports : List (ClientCall PV F config)} {refs : List String}
    (h : (reports.map reportedRef).Perm (refs.map some)) :
    ∀ call ∈ reports, (reportedRef call).isSome := by
  intro call hcall
  have hmem := h.mem_iff.mp (List.mem_map_of_mem hcall)
  obtain ⟨ref, -, href⟩ := List.mem_map.mp hmem
  rw [← href]
  rfl

/-- The calls of a round meet their precondition, and their reads succeed. -/
theorem Round.answered {calls : List (ClientCall PV F config)} (h : Round calls) :
    ∀ call ∈ calls, Answered call ∧ call.Connected := by
  obtain ⟨connection, now, order, horder, reports, sets, hcalls, hread, -, hreports⟩ := h
  intro call hcall
  obtain rfl | hcall := List.mem_cons.mp (hcalls.mem_iff.mp hcall)
  · exact ⟨hread, .inl rfl⟩
  · exact answered_of_reportedRef (isSome_reportedRef hreports call hcall)

/-- A round shows every exchanged definition as often as the data sets list it, and, unless they
do, once if it is monitored; and it shows nothing else, and nothing under another label. -/
theorem round_serves (h : Config.setJsonConfig env stack msg tls = .ok config)
    (hnames : NamesOnce env stack msg) {calls : List (ClientCall PV F config)}
    (hround : Round calls) :
    ∃ events, runCalls lib config true calls = .ok events ∧
      (∀ r ∈ readings events, ∃ o : Observation F, r = o.reading ∧
        ∃ d ∈ exchangedDefinitions env msg, IsOf o d.label d) ∧
      ∀ d ∈ exchangedDefinitions env msg,
        (readings events).countP (·.assetName = d.label) =
          timesServed (stackDatasets env stack) d := by
  have hanswered := hround.answered
  obtain ⟨events, hevents⟩ := (completes_runCalls_iff lib config true calls).mpr
    fun call hcall ↦ (hanswered call hcall).2
  have hshows := shows_runCalls lib true hevents
  rw [Shows, if_pos rfl] at hshows
  obtain ⟨connection, now, order, horder, reports, sets, hcalls, hread, hsets, hreports⟩ := hround
  refine ⟨events, hevents, ?_, ?_⟩
  · intro r hr
    rw [hshows] at hr
    obtain ⟨o, ho, rfl⟩ := List.mem_map.mp hr
    obtain ⟨call, hcall, ho⟩ := List.mem_flatMap.mp ho
    obtain ⟨d, hd, d', -, hof, rfl | ⟨hunanswered, -⟩⟩ := exchanged_of_mem_observeCall lib h ho
    · exact ⟨o, rfl, d', hd, hof⟩
    · exact absurd (hanswered call hcall).1 hunanswered
  · intro d hd
    have hperm : (sets.flatMap fun s ↦ s.2.refs).Perm
        ((stackDatasets env stack).flatMap Dataset.refs) := by
      have hflat := (perm_datasets_of_setJsonConfig h hnames.datasetRefs hsets).flatMap_right
        Dataset.refs
      rw [List.flatMap_map] at hflat
      exact hflat
    have hlisted : (reports.map reportedRef).count (some d.ref) =
        ((stackDatasets env stack).flatMap Dataset.refs).count d.ref := by
      rw [hreports.count_eq, List.count_map_of_injective _ some (Option.some_injective _),
        hperm.count_eq]
    calc (readings events).countP (·.assetName = d.label)
        = timesShown d.label (calls.flatMap (observeCall lib config)) := by
          rw [hshows, List.countP_map]
          rfl
      _ = timesShown d.label (observePoll lib connection now order) +
            timesShown d.label (reports.flatMap (observeCall lib config)) := by
          rw [timesShown, (hcalls.flatMap_right _).countP_eq, List.flatMap_cons,
            List.countP_append]
          rfl
      _ = timesServed (stackDatasets env stack) d := by
          rw [timesShown_poll lib hnames.labels hnames.refs hd h horder hread,
            timesShown_reports lib hnames.labels hnames.refs hd h (isSome_reportedRef hreports),
            hlisted, timesServed_eq]

end

/-! ### A point that is listed and one that is polled -/

/-- A stack with a data set that lists the first of two points. -/
def servedText : String :=
  "\x7b\"protocol_stack\":\x7b\"transport_layer\":\x7b\"connections\":[]\x7d," ++
    "\"application_layer\":\x7b\"datasets\":[\x7b\"dataset_ref\":\"ds1\"," ++
    "\"domain\":\"icc1\",\"entries\":[\"point1\"]\x7d]\x7d\x7d\x7d"

/-- The `protocol_stack` object in the document of `servedText`. -/
def servedStack : Value :=
  .object [("transport_layer", .object [("connections", .array [])]),
    ("application_layer", .object [("datasets", .array [.object [("dataset_ref", .string "ds1"),
      ("domain", .string "icc1"), ("entries", .array [.string "point1"])]])])]

/-- An exchange configuration with the two status points. -/
def servedMsgText : String :=
  "\x7b\"exchanged_data\":\x7b\"datapoints\":[\x7b\"label\":\"TS1\",\"protocols\":" ++
    "[\x7b\"name\":\"tase2\",\"ref\":\"icc1:point1\",\"typeid\":\"State\"\x7d]\x7d," ++
    "\x7b\"label\":\"TS2\",\"protocols\":" ++
    "[\x7b\"name\":\"tase2\",\"ref\":\"icc1:point2\",\"typeid\":\"State\"\x7d]\x7d]\x7d\x7d"

/-- A parser that reads `servedText` and `servedMsgText`. -/
def servedEnv : ImportEnv := .ofTable [(servedText, .object [("protocol_stack", servedStack)]),
  (servedMsgText, exchangeDocument twoPoints)]

/-- A connection over which every read returns a value. -/
def readingConnection : ActiveConnection (Int ⊕ Int) Int where
  readPointValue _ _ := some (.inr 1)
  control _ := false

set_option maxRecDepth 2000 in
private theorem parse_served : servedEnv.parse servedMsgText =
    some (exchangeDocument twoPoints) := rfl

private theorem isText_label_served : ∀ d ∈ twoPoints, IsText d.label := by
  rw [twoPoints, List.forall_mem_cons, List.forall_mem_singleton]
  exact ⟨by decide, by decide⟩

private theorem exchangedDefinitions_served :
    exchangedDefinitions servedEnv servedMsgText = twoPoints :=
  exchangedDefinitions_document parse_served isText_label_served

private theorem protocolStackOf_served :
    protocolStackOf servedEnv servedText = some servedStack := by
  apply protocolStackOf_eq_some (ImportEnv.parse_ofTable_self _ _ _) _ rfl rfl
  rw [traverseAndCheckTypes, checkLoop_eq]
  decide

private theorem stackDatasets_served :
    stackDatasets servedEnv servedText = [⟨"icc1", "ds1", ["point1"], false⟩] := by
  rw [stackDatasets, applicationOf, protocolStackOf_served]
  rfl

private theorem namesOnce_served : NamesOnce servedEnv servedText servedMsgText := by
  constructor
  · rw [exchangedDefinitions_served]
    decide
  · rw [exchangedDefinitions_served]
    decide
  · rw [stackDatasets_served]
    exact List.nodup_singleton "ds1"
  · rw [stackTransferSets, applicationOf, protocolStackOf_served]
    exact List.nodup_nil

private theorem setJsonConfig_served :
    ∃ config, Config.setJsonConfig servedEnv servedText servedMsgText "" = .ok config := by
  have hstack : StackWellTyped servedEnv servedText := by
    apply stackWellTyped_of_application protocolStackOf_served
    refine ⟨rfl, Value.memberIs_of_none rfl, fun _ ↦ arrayOf_of_some rfl ?_,
      fun _ ↦ arrayOf_of_none rfl⟩
    simp [DatasetWellTyped, Value.MemberIs, Value.find?, Value.text?, Value.isString]
  obtain ⟨c, hc, -⟩ := importExchangeConfig_document parse_served isText_label_served
  obtain ⟨c', hc'⟩ := (completes_importProtocolConfig_iff servedEnv servedText c).mpr hstack
  rw [Config.setJsonConfig, hc, ok_bind, hc', ok_bind]
  exact ⟨c', rfl⟩

private theorem exists_round_served {config : TASE2ClientConfig}
    (h : Config.setJsonConfig servedEnv servedText servedMsgText "" = .ok config) :
    ∃ calls : List (ClientCall (Int ⊕ Int) Int config), Round calls := by
  obtain ⟨order, horder⟩ := config.polledDatapoints.map.exists_iterationOrder
  obtain ⟨sets, hsets⟩ := config.datasets.exists_iterationOrder
  have hperm := perm_datasets_of_setJsonConfig h namesOnce_served.datasetRefs hsets
  rw [stackDatasets_served, List.perm_singleton] at hperm
  have hreported : (sets.flatMap fun s ↦ s.2.refs) = ["icc1:point1"] := by
    rw [← List.flatMap_map Prod.snd Dataset.refs, hperm]
    rfl
  refine ⟨_, readingConnection, id, order, horder,
    [.report none (cText "icc1") (cText "point1") (.inr 1) 0], sets, .refl _, fun _ _ ↦ rfl,
    hsets, ?_⟩
  rw [hreported]
  exact .refl _

/-- A round of calls of the client made from the two texts shows only the two points. -/
theorem readings_exchanged_served : ∃ config,
    Config.setJsonConfig servedEnv servedText servedMsgText "" = .ok config ∧
      ∃ calls : List (ClientCall (Int ⊕ Int) Int config), Round calls ∧
        ∃ events, runCalls .tagged config true calls = .ok events ∧
          ∀ r ∈ readings events, r.assetName = "TS1" ∨ r.assetName = "TS2" := by
  obtain ⟨config, himport⟩ := setJsonConfig_served
  obtain ⟨calls, hround⟩ := exists_round_served himport
  obtain ⟨hreturns, hreadings⟩ := readings_exchanged .tagged himport true calls
  obtain ⟨events, hevents⟩ := hreturns.mpr fun call hcall ↦ (hround.answered call hcall).2
  refine ⟨config, himport, calls, hround, events, hevents, fun r hr ↦ ?_⟩
  obtain ⟨o, rfl, e, -, d, hd, hof, -⟩ := hreadings events hevents r hr
  rw [exchangedDefinitions_served, twoPoints, List.mem_pair] at hd
  obtain rfl | rfl := hd
  · exact .inl hof.1
  · exact .inr hof.1

/-- A round of calls of the client made from the two texts has one reading of each point. -/
theorem round_serves_both : ∃ config,
    Config.setJsonConfig servedEnv servedText servedMsgText "" = .ok config ∧
      ∃ calls : List (ClientCall (Int ⊕ Int) Int config), Round calls ∧
        ∃ events, runCalls .tagged config true calls = .ok events ∧
          (readings events).countP (·.assetName = "TS1") = 1 ∧
            (readings events).countP (·.assetName = "TS2") = 1 := by
  obtain ⟨config, himport⟩ := setJsonConfig_served
  obtain ⟨calls, hround⟩ := exists_round_served himport
  obtain ⟨events, hevents, -, hcounts⟩ := round_serves .tagged himport namesOnce_served hround
  rw [exchangedDefinitions_served, stackDatasets_served, twoPoints, List.forall_mem_cons,
    List.forall_mem_singleton] at hcounts
  exact ⟨config, himport, calls, hround, events, hevents, hcounts⟩

end Tase2South.Plugin
