import Tase2South.Config.Document
import Tase2South.Connection.Groups

/-!
# What is imported can be written

The three texts that `setJsonConfig`, `src/tase2.cpp:9–21`, accepts, against the documents of the
setup that they describe: what the importer keeps has passed the checks under which it can be
written down, and reads the same from there.
-/

namespace Tase2South.Connection

open Tase2South.Base Tase2South.Json Tase2South.Config

/-! ### What is read from a value -/

section

variable {v : Value} {name : String}

/-- Only numbers that fit an `int` are read. -/
theorem fitsInt_of_int? {n : Int} (h : v.int? = some n) : Value.fitsInt n = true := by
  cases v with
  | int m =>
    rw [Value.int?] at h
    split at h
    · next hfits => exact Option.some.inj h ▸ hfits
    · cases h
  | _ => cases h

/-- A number that is read or was there before fits an `int`. -/
theorem fitsInt_intOr {otherwise : Int} (h : Value.fitsInt otherwise = true) :
    Value.fitsInt (v.intOr name otherwise) = true := by
  rw [Value.intOr]
  cases hread : (v.find? name).bind Value.int? with
  | none => exact h
  | some n =>
    obtain ⟨w, -, hw⟩ := Option.bind_eq_some_iff.mp hread
    exact fitsInt_of_int? hw

/-- What is read as a text is one. -/
theorem isText_getD {read : Option CText} {otherwise : String} (h : IsText otherwise) :
    IsText ((read.map Subtype.val).getD otherwise) := by
  cases read with
  | none => exact h
  | some text => exact text.property

/-- The elements that are read are texts. -/
theorem isText_of_mem_texts {es : List Value} {text : String} (h : text ∈ texts es) :
    IsText text := by
  obtain ⟨e, -, he⟩ := List.mem_filterMap.mp h
  obtain ⟨read, -, rfl⟩ := Option.map_eq_some_iff.mp he
  exact read.property

/-- A data set that is read can be written. -/
theorem writable_of_datasetOf {d : Dataset} (h : datasetOf v = some d) : d.Writable := by
  obtain ⟨datasetRef, -, rfl⟩ := Option.map_eq_some_iff.mp h
  exact {
    domain := isText_getD (by decide)
    datasetRef := datasetRef.property
    entries := fun _ hname ↦ isText_of_mem_texts hname }

/-- The conditions that are read are those of the flags among them. -/
theorem unionOf_within_conditionsOf (codes : DsConditionCodes) (v : Value) :
    unionOf ((codes.within (conditionsOf codes v)).map Prod.snd) = conditionsOf codes v := by
  rw [conditionsOf, foldl_addCondition_eq]
  have hknown : ∀ flag ∈ (((v.find? "dsConditions").bind Value.array?).getD []).filterMap
      (fun e ↦ e.text?.bind fun name ↦ codes.dsConditions.lookup name.val),
      flag ∈ codes.dsConditions.map Prod.snd := by
    intro flag hflag
    obtain ⟨e, -, he⟩ := List.mem_filterMap.mp hflag
    obtain ⟨name, -, hname⟩ := Option.bind_eq_some_iff.mp he
    obtain ⟨before, after, hcodes, -⟩ := List.lookup_eq_some_iff.mp hname
    rw [hcodes]
    simp
  have hwithin := unionOf_filter_within hknown
  rw [List.filter_map] at hwithin
  exact hwithin

/-- A transfer set that is read can be written. -/
theorem writable_of_transferSetOf {codes : DsConditionCodes} {t : DatasetTransferSet}
    (h : transferSetOf codes v = some t) : t.Writable codes := by
  obtain ⟨dstsRef, -, rfl⟩ := Option.map_eq_some_iff.mp h
  have hzero : Value.fitsInt 0 = true := by decide
  refine ⟨isText_getD (by decide), dstsRef.property, isText_getD (by decide),
    unionOf_within_conditionsOf codes v, ?_⟩
  simp only [List.forall_mem_cons, List.not_mem_nil, false_implies, implies_true, and_true]
  exact ⟨fitsInt_intOr hzero, fitsInt_intOr hzero, fitsInt_intOr hzero, fitsInt_intOr hzero,
    fitsInt_intOr hzero⟩

/-- The label of a definition that is read is a text. -/
theorem isText_label {env : ImportEnv} {msg : String} {d : DataExchangeDefinition}
    (h : d ∈ exchangedDefinitions env msg) : IsText d.label := by
  obtain ⟨datapoint, -, hd⟩ := List.mem_flatMap.mp h
  obtain ⟨protocol, -, hd⟩ := List.mem_filterMap.mp hd
  obtain ⟨_, -, hd⟩ := Option.bind_eq_some_iff.mp hd
  obtain ⟨protocolRef, -, hd⟩ := Option.bind_eq_some_iff.mp hd
  obtain ⟨type, -, hd⟩ := Option.bind_eq_some_iff.mp hd
  have hlabel : d.label = datapoint.textOr "label" "" := by
    unfold makeDefinition at hd
    split at hd
    · cases hd
    · split at hd
      · rw [← Option.some.inj hd]
      · cases hd
  rw [hlabel]
  exact isText_getD (by decide)

end

/-! ### Certificates -/

/-- The files that are added are texts. -/
theorem isText_of_foldlM_importCertFile {certs : List Value} {files files' : List String}
    (h : certs.foldlM importCertFile files = .ok files') :
    ∃ added, files' = files ++ added ∧ ∀ file ∈ added, IsText file := by
  induction certs generalizing files with
  | nil =>
    cases h
    exact ⟨[], (List.append_nil _).symm, by simp⟩
  | cons cert certs ih =>
    obtain ⟨before, hcert, h⟩ := bind_eq_ok_iff.mp h
    obtain ⟨added, rfl, htexts⟩ := ih h
    obtain ⟨read, -, hread⟩ := bind_eq_ok_iff.mp hcert
    cases read with
    | none =>
      rw [← Except.ok.inj hread]
      exact ⟨added, rfl, htexts⟩
    | some file =>
      rw [← Except.ok.inj hread, List.append_assoc]
      exact ⟨[file.val] ++ added, rfl, List.forall_mem_cons.mpr ⟨file.property, htexts⟩⟩

/-- The certificates and the key are added, and nothing else changes. -/
theorem exists_certificates_of_importTlsConfig {env : ImportEnv} {tls : String}
    {config config' : TASE2ClientConfig} (h : importTlsConfig env tls config = .ok config') :
    ∃ privateKey ownCertificate cas remotes,
      config' = { config with
        privateKey, ownCertificate
        caCertificates := config.caCertificates ++ cas
        remoteCertificates := config.remoteCertificates ++ remotes } ∧
      (IsText config.privateKey → IsText privateKey) ∧
      (IsText config.ownCertificate → IsText ownCertificate) ∧
      ∀ file ∈ cas ++ remotes, IsText file := by
  have hkept : ∃ privateKey ownCertificate cas remotes,
      config = { config with
        privateKey, ownCertificate
        caCertificates := config.caCertificates ++ cas
        remoteCertificates := config.remoteCertificates ++ remotes } ∧
      (IsText config.privateKey → IsText privateKey) ∧
      (IsText config.ownCertificate → IsText ownCertificate) ∧
      ∀ file ∈ cas ++ remotes, IsText file :=
    ⟨config.privateKey, config.ownCertificate, [], [],
      by rw [List.append_nil, List.append_nil], id, id, by simp⟩
  unfold importTlsConfig at h
  split at h
  · exact Except.ok.inj h ▸ hkept
  · split at h
    · obtain ⟨tlsConf, -, h⟩ := bind_eq_ok_iff.mp h
      split at h
      · exact Except.ok.inj h ▸ hkept
      · simp only [bind_eq_ok_iff, pure_eq_ok, Except.ok.injEq] at h
        obtain ⟨key, -, own, -, cas, -, files, hcas, remotes, -, files', hremotes, rfl⟩ := h
        obtain ⟨addedCas, rfl, hcaTexts⟩ := isText_of_foldlM_importCertFile hcas
        obtain ⟨addedRemotes, rfl, hremoteTexts⟩ := isText_of_foldlM_importCertFile hremotes
        exact ⟨_, _, addedCas, addedRemotes, rfl, isText_getD, isText_getD,
          List.forall_mem_append.mpr ⟨hcaTexts, hremoteTexts⟩⟩
    · exact Except.ok.inj h ▸ hkept

/-! ### Connections and the timeout -/

/-- Every connection that is configured is checked. -/
theorem groupChecked_of_setJsonConfig {env : ImportEnv} {stack msg tls : String}
    {config : TASE2ClientConfig} (h : setJsonConfig env stack msg tls = .ok config) :
    ∀ group ∈ config.connections, GroupChecked env group := by
  obtain ⟨c, hc, h⟩ := bind_eq_ok_iff.mp h
  obtain ⟨d, hd, h⟩ := bind_eq_ok_iff.mp h
  have hnone : c.connections = [] := by
    rw [eq_foldl_of_importExchangeConfig hc, foldl_frame TASE2ClientConfig.addDefinition
      TASE2ClientConfig.connections fun _ _ ↦ rfl]
    rfl
  obtain ⟨_, _, _, _, rfl, -⟩ := exists_certificates_of_importTlsConfig h
  rw [importProtocolConfig_eq] at hd
  split at hd
  · rw [← Except.ok.inj hd]
    simp [hnone]
  · next stack hstack =>
    have hloop := connections_of_importProtocolStack (isObject_of_protocolStackOf hstack) hd
    apply groupChecked_of_importConnection
    rw [← hnone]
    exact hloop

/-- The timeout is that of a number that fits an `int`, or the one before. -/
theorem timeout_of_importTransportLayer {env : ImportEnv} {transportLayer : Value}
    {config : TASE2ClientConfig} {r : Flow TASE2ClientConfig}
    (h : importTransportLayer env transportLayer config = .ok r) :
    r.state.backupConnectionTimeout = config.backupConnectionTimeout ∨ ∃ n,
      Value.fitsInt n = true ∧ r.state.backupConnectionTimeout = (n % 2 ^ 64).toNat := by
  obtain ⟨found, -, h⟩ := bind_eq_ok_iff.mp h
  split at h
  · obtain ⟨w, -, h⟩ := bind_eq_ok_iff.mp h
    obtain ⟨entries, -, h⟩ := bind_eq_ok_iff.mp h
    obtain ⟨groups, -, h⟩ := bind_eq_ok_iff.mp h
    obtain ⟨timeout, htimeout, h⟩ := bind_eq_ok_iff.mp h
    rw [← Except.ok.inj h]
    have hread := (Value.memberOr_eq_ok_iff.mp htimeout).2
    split at hread
    · exact .inl hread.symm
    · next w hw =>
      obtain ⟨n, hn, rfl⟩ := map_eq_ok_iff.mp hread
      exact .inr ⟨n, fitsInt_of_int? (Value.getInt_eq_ok_iff.mp hn), rfl⟩
  · rw [← Except.ok.inj h]
    exact .inl rfl

/-- The timeout that a stack object leaves is the one before it or that of an `int`. -/
theorem timeout_of_importProtocolStack {env : ImportEnv} {stack : Value}
    {config c : TASE2ClientConfig} (hobj : stack.isObject = true)
    (h : importProtocolStack env stack config = .ok c) :
    c.backupConnectionTimeout = config.backupConnectionTimeout ∨ ∃ n,
      Value.fitsInt n = true ∧ c.backupConnectionTimeout = (n % 2 ^ 64).toNat := by
  obtain ⟨r, hr, rfl⟩ := importProtocolStack_eq_ok hobj h
  have hlayer : r.state.backupConnectionTimeout = config.backupConnectionTimeout ∨ ∃ n,
      Value.fitsInt n = true ∧ r.state.backupConnectionTimeout = (n % 2 ^ 64).toNat := by
    cases ht : stack.find? "transport_layer" with
    | none =>
      rw [ht] at hr
      cases hr
      exact .inl rfl
    | some transport =>
      rw [ht] at hr
      exact timeout_of_importTransportLayer hr
  cases ha : stackApplication stack with
  | none => exact hlayer
  | some application =>
    have hframe : (r.state.addApplication env.codes application).backupConnectionTimeout =
        r.state.backupConnectionTimeout :=
      foldl_sets_frame TASE2ClientConfig.backupConnectionTimeout (fun _ _ ↦ rfl) (fun _ _ ↦ rfl)
        (fun _ _ ↦ rfl) _ _ _
    rw [← hframe] at hlayer
    exact hlayer

/-- The interval of an application whose sets are imported is not negative. -/
theorem pollingInterval_of_stackApplication {stack application : Value}
    (h : stackApplication stack = some application) :
    0 ≤ application.intOr "polling_interval" 0 := by
  obtain ⟨transport, -, h⟩ := Option.bind_eq_some_iff.mp h
  obtain ⟨connections, -, h⟩ := Option.bind_eq_some_iff.mp h
  exact of_decide_eq_true (Option.filter_eq_some_iff.mp h).2

/-- A stack that is complete has an application, and is imported as its sets over the connections,
the timeout and the interval. -/
theorem exists_application_of_importProtocolConfig {env : ImportEnv} {stack : String}
    {c d : TASE2ClientConfig} (h : importProtocolConfig env stack c = .ok d)
    (hcomplete : d.protocolConfigComplete = true)
    (hbefore : ∃ n, Value.fitsInt n = true ∧ c.backupConnectionTimeout = (n % 2 ^ 64).toNat) :
    ∃ application groups n, applicationOf env stack = some application ∧
      0 ≤ application.intOr "polling_interval" 0 ∧ Value.fitsInt n = true ∧
      d = { TASE2ClientConfig.addApplication env.codes application { c with
          connections := groups
          backupConnectionTimeout := (n % 2 ^ 64).toNat
          protocolConfigComplete := false } with protocolConfigComplete := true } := by
  rw [importProtocolConfig_eq] at h
  cases hs : protocolStackOf env stack with
  | none =>
    rw [hs] at h
    cases h
    cases hcomplete
  | some stackVal =>
    simp only [hs] at h
    have hobj := isObject_of_protocolStackOf hs
    have htimeout := timeout_of_importProtocolStack hobj h
    rcases importProtocolStack_cases hobj h with ⟨-, groups, timeout, rfl⟩ |
      ⟨application, groups, timeout, happlication, rfl⟩
    · cases hcomplete
    · have hframe := foldl_sets_frame TASE2ClientConfig.backupConnectionTimeout (fun _ _ ↦ rfl)
        (fun _ _ ↦ rfl) (fun _ _ ↦ rfl) (datasetsOf application)
        (transferSetsOf env.codes application) { c with
          connections := groups
          backupConnectionTimeout := timeout
          pollingInterval := application.intOr "polling_interval" c.pollingInterval
          protocolConfigComplete := false }
      have hstored : ∃ n, Value.fitsInt n = true ∧ timeout = (n % 2 ^ 64).toNat := by
        rcases htimeout with hkept | ⟨n, hn, hread⟩
        · obtain ⟨n, hn, hbefore⟩ := hbefore
          exact ⟨n, hn, hframe.symm.trans (hkept.trans hbefore)⟩
        · exact ⟨n, hn, hframe.symm.trans hread⟩
      obtain ⟨n, hn, rfl⟩ := hstored
      refine ⟨application, groups, n, ?_, pollingInterval_of_stackApplication happlication, hn, rfl⟩
      rw [applicationOf, hs, Option.bind_some, happlication]

/-! ### The whole configuration -/

/-- The texts give no label, no ref, no data set and no transfer set twice. -/
structure NamesOnce (env : ImportEnv) (stack msg : String) : Prop where
  labels : ((exchangedDefinitions env msg).map DataExchangeDefinition.label).Nodup
  refs : ((exchangedDefinitions env msg).map DataExchangeDefinition.ref).Nodup
  datasetRefs : ((stackDatasets env stack).map Dataset.datasetRef).Nodup
  dstsRefs : ((stackTransferSets env stack).map DatasetTransferSet.dstsRef).Nodup

/-- A setup is what the texts describe, and what they are imported as. -/
structure Describes (env : ImportEnv) (stack msg : String) (setup : Setup)
    (config : TASE2ClientConfig) : Prop where
  points : setup.points = exchangedDefinitions env msg
  datasets : setup.datasets = stackDatasets env stack
  transferSets : setup.transferSets = stackTransferSets env stack
  writable : setup.Writable env
  configured : setup.Configured config

/-- A setup without certificates has neither key nor certificate. -/
theorem certificates_withSets (setup : Setup) :
    setup.withSets.privateKey = "" ∧ setup.withSets.ownCertificate = "" := by
  constructor
  · exact (foldl_sets_frame TASE2ClientConfig.privateKey (fun _ _ ↦ rfl) (fun _ _ ↦ rfl)
      (fun _ _ ↦ rfl) _ _ _).trans
        (setup.withLayers_frame TASE2ClientConfig.privateKey (fun _ _ ↦ rfl) rfl)
  · exact (foldl_sets_frame TASE2ClientConfig.ownCertificate (fun _ _ ↦ rfl) (fun _ _ ↦ rfl)
      (fun _ _ ↦ rfl) _ _ _).trans
        (setup.withLayers_frame TASE2ClientConfig.ownCertificate (fun _ _ ↦ rfl) rfl)

/-- The setup of an application layer and the data points, over the other values. -/
def describedSetup (env : ImportEnv) (msg : String) (application : Value)
    (connections : List RedGroup) (backupTimeout : Int) (privateKey ownCertificate : String)
    (caCertificates remoteCertificates : List String) : Setup where
  connections := connections
  backupTimeout := backupTimeout
  pollingInterval := application.intOr "polling_interval" 0
  datasets := datasetsOf application
  transferSets := transferSetsOf env.codes application
  points := exchangedDefinitions env msg
  privateKey := privateKey
  ownCertificate := ownCertificate
  caCertificates := caCertificates
  remoteCertificates := remoteCertificates

section

variable {env : ImportEnv} {stack msg : String} {application : Value} {connections : List RedGroup}
  {backupTimeout : Int} {privateKey ownCertificate : String}
  {caCertificates remoteCertificates : List String}

/-- The configuration of a described setup with its sets is that of the application over the data
points. -/
theorem withSets_describedSetup : (describedSetup env msg application connections backupTimeout
    privateKey ownCertificate caCertificates remoteCertificates).withSets =
      TASE2ClientConfig.addApplication env.codes application {
        (exchangedDefinitions env msg).foldl TASE2ClientConfig.addDefinition .fresh with
        connections
        backupConnectionTimeout := (backupTimeout % 2 ^ 64).toNat
        protocolConfigComplete := false } := by
  have hzero : ((exchangedDefinitions env msg).foldl TASE2ClientConfig.addDefinition
      .fresh).pollingInterval = 0 :=
    foldl_frame TASE2ClientConfig.addDefinition TASE2ClientConfig.pollingInterval
      (fun _ _ ↦ rfl) _ _
  rw [TASE2ClientConfig.addApplication, hzero]
  rfl

/-- A described setup can be written. -/
theorem writable_describedSetup (hnames : NamesOnce env stack msg)
    (happlication : applicationOf env stack = some application)
    (hinterval : 0 ≤ application.intOr "polling_interval" 0)
    (hconnections : ∀ group ∈ connections, GroupChecked env group)
    (htimeout : Value.fitsInt backupTimeout = true) (hkey : IsText privateKey)
    (hown : IsText ownCertificate)
    (hfiles : ∀ file ∈ caCertificates ++ remoteCertificates, IsText file) :
    (describedSetup env msg application connections backupTimeout privateKey ownCertificate
      caCertificates remoteCertificates).Writable env where
  connections := hconnections
  backupTimeout := htimeout
  pollingInterval := by
    have hfits : Value.fitsInt (application.intOr "polling_interval" 0) = true :=
      fitsInt_intOr (by decide)
    rw [Value.fitsInt, decide_eq_true_eq] at hfits
    exact ⟨hinterval, hfits.2⟩
  datasets d hd := by
    obtain ⟨v, -, hv⟩ := List.mem_filterMap.mp hd
    exact writable_of_datasetOf hv
  datasetRefs := by
    have hnodup := hnames.datasetRefs
    rw [stackDatasets, happlication] at hnodup
    exact hnodup
  transferSets t ht := by
    obtain ⟨v, -, hv⟩ := List.mem_filterMap.mp ht
    exact writable_of_transferSetOf hv
  dstsRefs := by
    have hnodup := hnames.dstsRefs
    rw [stackTransferSets, happlication] at hnodup
    exact hnodup
  labelTexts _ hd := isText_label hd
  labels := hnames.labels
  refs := hnames.refs
  privateKey := hkey
  ownCertificate := hown
  certificates := hfiles

end

/-- Texts that are accepted and complete, and that give no name twice, describe a setup that can be
written. -/
theorem exists_describes {env : ImportEnv} {stack msg tls : String} {config : TASE2ClientConfig}
    (h : setJsonConfig env stack msg tls = .ok config)
    (hcomplete : config.protocolConfigComplete = true) (hnames : NamesOnce env stack msg) :
    ∃ setup, Describes env stack msg setup config := by
  have hgroups := groupChecked_of_setJsonConfig h
  obtain ⟨c, hc, hrest⟩ := bind_eq_ok_iff.mp h
  obtain ⟨d, hd, htls⟩ := bind_eq_ok_iff.mp hrest
  have hindexed := indexedBy_of_importExchangeConfig hc
  have hpoints : c = (exchangedDefinitions env msg).foldl TASE2ClientConfig.addDefinition .fresh :=
    eq_foldl_of_importExchangeConfig hc
  have hdefault : c.backupConnectionTimeout = ((5000 : Int) % 2 ^ 64).toNat := by
    rw [hpoints]
    exact foldl_frame TASE2ClientConfig.addDefinition TASE2ClientConfig.backupConnectionTimeout
      (fun _ _ ↦ rfl) _ _
  obtain ⟨privateKey, ownCertificate, cas, remotes, rfl, hkey, hown, hfiles⟩ :=
    exists_certificates_of_importTlsConfig htls
  obtain ⟨application, groups, n, happlication, hinterval, hn, rfl⟩ :=
    exists_application_of_importProtocolConfig hd hcomplete ⟨5000, by decide, hdefault⟩
  subst hpoints
  have hwithSets := @withSets_describedSetup env msg application groups n privateKey
    ownCertificate cas remotes
  rw [← hwithSets] at hkey hown hgroups ⊢
  have hconnections : (describedSetup env msg application groups n privateKey ownCertificate cas
      remotes).withSets.connections = groups :=
    foldl_sets_frame TASE2ClientConfig.connections (fun _ _ ↦ rfl) (fun _ _ ↦ rfl)
      (fun _ _ ↦ rfl) _ _ _
  have hwritable : (describedSetup env msg application groups n privateKey ownCertificate cas
      remotes).Writable env := by
    apply writable_describedSetup hnames happlication hinterval _ hn _ _ hfiles
    · intro group hgroup
      apply hgroups
      rw [← hconnections] at hgroup
      exact hgroup
    · exact hkey (by rw [(certificates_withSets _).1]; decide)
    · exact hown (by rw [(certificates_withSets _).2]; decide)
  refine ⟨_, rfl, ?_, ?_, hwritable, configured_withSets hwritable hindexed⟩
  · rw [stackDatasets, happlication]
    rfl
  · rw [stackTransferSets, happlication]
    rfl

/-- Texts that are accepted and complete, and that give no name twice, describe a setup that can be
written, and its documents are imported as the same configuration. -/
theorem setJsonConfig_rewritten {env : ImportEnv} {stack msg tls : String}
    {config : TASE2ClientConfig} (h : setJsonConfig env stack msg tls = .ok config)
    (hcomplete : config.protocolConfigComplete = true) (hnames : NamesOnce env stack msg) :
    ∃ setup, Describes env stack msg setup config ∧ ∀ stack' msg' tls',
      env.parse stack' = some (setup.stackDocument env.codes) →
        env.parse msg' = some (exchangeDocument setup.points) →
          env.parse tls' = some setup.tlsDocument →
            setJsonConfig env stack' msg' tls' = .ok config := by
  obtain ⟨setup, hdescribes⟩ := exists_describes h hcomplete hnames
  refine ⟨setup, hdescribes, fun stack' msg' tls' hstack hmsg htls ↦ ?_⟩
  obtain ⟨config', himport, hconfigured⟩ :=
    configured_of_documents hdescribes.writable hstack hmsg htls
  rw [himport, hconfigured.unique hdescribes.configured]

/-! ### A text that can be written otherwise -/

/-- A stack configuration with a connection that is skipped, a negative timeout, an entry that is
no text and a condition that is given twice. -/
def looseText : String :=
  "\x7b\"protocol_stack\":\x7b\"transport_layer\":\x7b\"connections\":" ++
    "[\x7b\"ip_addr\":\"127.0.0.1\",\"port\":10002\x7d,\x7b\"ip_addr\":\"peer\"\x7d]," ++
    "\"backupTimeout\":-1\x7d,\"application_layer\":\x7b\"polling_interval\":1000," ++
    "\"datasets\":[\x7b\"dataset_ref\":\"ds1\",\"entries\":[\"point1\",1]\x7d]," ++
    "\"dataset_transfer_sets\":[\x7b\"name\":\"ts1\",\"dataset_ref\":\"ds1\"," ++
    "\"dsConditions\":[\"change\",\"interval\",\"change\"]\x7d]\x7d\x7d\x7d"

/-- The `protocol_stack` object in the document of `looseText`. -/
def looseStack : Value :=
  .object [("transport_layer", .object [
      ("connections", .array [
        .object [("ip_addr", .string "127.0.0.1"), ("port", .int 10002)],
        .object [("ip_addr", .string "peer")]]),
      ("backupTimeout", .int (-1))]),
    ("application_layer", .object [
      ("polling_interval", .int 1000),
      ("datasets", .array [.object [("dataset_ref", .string "ds1"),
        ("entries", .array [.string "point1", .int 1])]]),
      ("dataset_transfer_sets", .array [.object [("name", .string "ts1"),
        ("dataset_ref", .string "ds1"),
        ("dsConditions", .array [.string "change", .string "interval", .string "change"])]])])]

/-- A parser that reads `looseText`. -/
def looseEnv : ImportEnv := .ofTable [(looseText, .object [("protocol_stack", looseStack)])]

private theorem protocolStackOf_loose : protocolStackOf looseEnv looseText = some looseStack := by
  apply protocolStackOf_eq_some (ImportEnv.parse_ofTable_self _ _ _) _ rfl rfl
  rw [traverseAndCheckTypes, checkLoop_eq]
  decide

/-- The configuration imported from `looseText` is described by a setup. -/
theorem setJsonConfig_rewritten_loose : ∃ config setup,
    setJsonConfig looseEnv looseText "" "" = .ok config ∧
      Describes looseEnv looseText "" setup config := by
  obtain ⟨config, himport, hcomplete⟩ : ∃ config,
      setJsonConfig looseEnv looseText "" "" = .ok config ∧
        config.protocolConfigComplete = true := by
    have hexchange : importExchangeConfig looseEnv "" .fresh = .ok .fresh := rfl
    rw [setJsonConfig, hexchange, ok_bind, importProtocolConfig_eq, protocolStackOf_loose]
    exact ⟨_, rfl, rfl⟩
  have happlication : applicationOf looseEnv looseText = stackApplication looseStack := by
    rw [applicationOf, protocolStackOf_loose, Option.bind_some]
  have hnames : NamesOnce looseEnv looseText "" := by
    constructor
    · exact List.nodup_nil
    · exact List.nodup_nil
    · rw [stackDatasets, happlication]
      exact List.nodup_singleton "ds1"
    · rw [stackTransferSets, happlication]
      exact List.nodup_singleton "ts1"
  obtain ⟨setup, hdescribes, -⟩ := setJsonConfig_rewritten himport hcomplete hnames
  exact ⟨config, setup, himport, hdescribes⟩

end Tase2South.Connection
