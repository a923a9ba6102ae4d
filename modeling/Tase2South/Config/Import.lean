import Tase2South.Config.Exchange
import Tase2South.Config.Reading

/-!
# The three imports of a configuration

`importTlsConfig`, `src/tase2_client_config.cpp:873–947`, and `TASE2::setJsonConfig`,
`src/tase2.cpp:9–21`, with the exact condition under which no import applies an accessor
outside its type and no exception escapes.
-/

namespace Tase2South.Config

open Tase2South.Base Tase2South.Json

/-! ### The TLS files -/

/-- The body of both certificate loops, `src/tase2_client_config.cpp:912–924,933–945`. -/
def importCertFile (files : List String) (cert : Value) : Except Failure (List String) := do
  match ← cert.guarded "cert_file" Value.isString Value.getString with
  | none => return files
  | some certFileName => return files ++ [certFileName.val]

/-- `importTlsConfig`, `src/tase2_client_config.cpp:873–947`. -/
def importTlsConfig (env : ImportEnv) (tlsConfig : String) (config : TASE2ClientConfig) :
    Except Failure TASE2ClientConfig := do
  match env.parse tlsConfig with
  | none => return config
  | some document =>
    if document.isObject then
      match ← document.guarded "tls_conf" Value.isObject .ok with
      | none => return config
      | some tlsConf =>
        let privateKey ← tlsConf.guarded "private_key" Value.isString Value.getString
        let ownCert ← tlsConf.guarded "own_cert" Value.isString Value.getString
        let caCerts ← tlsConf.guarded "ca_certs" Value.isArray Value.getArray
        let caCertificates ← (caCerts.getD []).foldlM importCertFile config.caCertificates
        let remoteCerts ← tlsConf.guarded "remote_certs" Value.isArray Value.getArray
        let remoteCertificates ←
          (remoteCerts.getD []).foldlM importCertFile config.remoteCertificates
        return { config with
          privateKey := (privateKey.map Subtype.val).getD config.privateKey
          ownCertificate := (ownCert.map Subtype.val).getD config.ownCertificate
          caCertificates, remoteCertificates }
    else
      return config

/-- `TASE2::setJsonConfig`, `src/tase2.cpp:9–21`. -/
def setJsonConfig (env : ImportEnv)
    (stackConfiguration msgConfiguration tlsConfiguration : String) :
    Except Failure TASE2ClientConfig := do
  let config ← importExchangeConfig env msgConfiguration .fresh
  let config ← importProtocolConfig env stackConfiguration config
  importTlsConfig env tlsConfiguration config

/-! ### Typing conditions -/

/-- The address of the connection is a valid one. -/
def validAddress (env : ImportEnv) (connection : Value) : Bool :=
  ((connection.find? "ip_addr").bind Value.text?).any fun ip ↦ env.isValidIPAddress ip.val

/-- The port of the connection, when it is an `int`. -/
def portOf (connection : Value) : Option Int := (connection.find? "port").bind Value.int?

/-- The connection is an object with a textual address; a valid address comes with an `int`
as its port, and an accepted connection with a valid OSI section, if any. -/
structure ConnectionWellTyped (env : ImportEnv) (connection : Value) : Prop where
  isObject : connection.isObject = true
  address : connection.MemberIs "ip_addr" Value.isString
  port : validAddress env connection = true → (portOf connection).isSome
  osi : validAddress env connection = true → ∀ n, portOf connection = some n →
    0 < n → n < 65636 → ∀ osi, connection.find? "osi" = some osi → OsiValid osi

/-- A member of the given name, when there is one, is an array of well-typed elements. -/
def ArrayOf (v : Value) (name : String) (good : Value → Prop) : Prop :=
  ∀ w, v.find? name = some w → ∃ es, w.array? = some es ∧ ∀ e ∈ es, good e

/-- A member that is not there is an array of well-typed elements. -/
theorem arrayOf_of_none {v : Value} {name : String} {good : Value → Prop}
    (h : v.find? name = none) : ArrayOf v name good := by
  simp [ArrayOf, h]

/-- A member that is an array with good elements is one of well-typed elements. -/
theorem arrayOf_of_some {v : Value} {name : String} {good : Value → Prop} {es : List Value}
    (h : v.find? name = some (.array es)) (hgood : ∀ e ∈ es, good e) : ArrayOf v name good := by
  intro w hw
  rw [h, Option.some.injEq] at hw
  subst hw
  exact ⟨es, rfl, hgood⟩

/-- The transport layer is an object; if it has connections, they are well typed and the
backup timeout is an `int`. -/
structure TransportWellTyped (env : ImportEnv) (transportLayer : Value) : Prop where
  isObject : transportLayer.isObject = true
  connections : ArrayOf transportLayer "connections" (ConnectionWellTyped env)
  timeout : (transportLayer.find? "connections").isSome →
    transportLayer.MemberIs "backupTimeout" Value.isInt

/-- The application layer is an object whose polling interval is an `int`; unless that is
negative, its data sets and transfer sets are well typed. -/
structure ApplicationWellTyped (applicationLayer : Value) : Prop where
  isObject : applicationLayer.isObject = true
  interval : applicationLayer.MemberIs "polling_interval" Value.isInt
  datasets : 0 ≤ applicationLayer.intOr "polling_interval" 0 →
    ArrayOf applicationLayer "datasets" DatasetWellTyped
  transferSets : 0 ≤ applicationLayer.intOr "polling_interval" 0 →
    ArrayOf applicationLayer "dataset_transfer_sets" TransferSetWellTyped

/-- The `protocol_stack` object of a document that passes the gate. -/
def protocolStackOf (env : ImportEnv) (protocolConfig : String) : Option Value :=
  (env.parse protocolConfig).bind fun document ↦
    if document.isObject && traverseAndCheckTypes document then
      (document.find? "protocol_stack").filter Value.isObject
    else none

/-- Every layer that the importer reaches is well typed. -/
def StackWellTyped (env : ImportEnv) (protocolConfig : String) : Prop :=
  ∀ stack, protocolStackOf env protocolConfig = some stack →
    ∀ transport, stack.find? "transport_layer" = some transport →
      TransportWellTyped env transport ∧ ((transport.find? "connections").isSome →
        ∀ application, stack.find? "application_layer" = some application →
          ApplicationWellTyped application)

/-- The `tls_conf` object of a document. -/
def tlsConfOf (env : ImportEnv) (tlsConfig : String) : Option Value :=
  (env.parse tlsConfig).bind fun document ↦ (document.find? "tls_conf").filter Value.isObject

/-- The elements of both certificate arrays are objects. -/
def TlsWellTyped (env : ImportEnv) (tlsConfig : String) : Prop :=
  ∀ tlsConf, tlsConfOf env tlsConfig = some tlsConf → ∀ name ∈ ["ca_certs", "remote_certs"],
    ∀ cert ∈ ((tlsConf.find? name).bind Value.array?).getD [], cert.isObject = true

/-! ### Connections -/

/-- A connection without a valid address is skipped, whatever its port. -/
theorem acceptsConnection_of_invalid {env : ImportEnv} {connection : Value}
    (hobj : connection.isObject = true) (haddr : connection.MemberIs "ip_addr" Value.isString)
    (hv : validAddress env connection = false) :
    acceptsConnection env connection = .ok false := by
  rw [acceptsConnection, Value.memberOr_eq_ok_iff, and_iff_right hobj]
  cases hip : connection.find? "ip_addr" with
  | none => rfl
  | some ip =>
    obtain ⟨s, hs⟩ := Value.completes_getString_iff.mpr (haddr ip hip)
    have ht := Value.getString_eq_ok_iff.mp hs
    have hs' : env.isValidIPAddress s = false := by simpa [validAddress, hip, ht] using hv
    simp [hs, hs']

/-- With a valid address, the guards read the port. -/
theorem acceptsConnection_of_valid {env : ImportEnv} {connection : Value}
    (hv : validAddress env connection = true) :
    acceptsConnection env connection = connection.memberOr "port" (fun port ↦ do
      let portVal ← port.getInt
      return !(portVal ≤ 0 || 65636 ≤ portVal)) true := by
  rw [validAddress, Option.any_eq_true] at hv
  obtain ⟨s, ht, hs⟩ := hv
  obtain ⟨ip, hip, ht⟩ := Option.bind_eq_some_iff.mp ht
  rw [acceptsConnection, Value.memberOr_of_some hip, Value.getString_eq_ok_iff.mpr ht, ok_bind,
    if_pos hs]

/-- The group of an accepted connection is built exactly when its OSI section, if any, is
valid. -/
theorem completes_importGroup_iff {connection ip : Value} {s : CText} {n : Int}
    (hip : connection.find? "ip_addr" = some ip) (hs : ip.text? = some s)
    (hn : portOf connection = some n) :
    Completes (importGroup connection) ↔
      ∀ osi, connection.find? "osi" = some osi → OsiValid osi := by
  have hobj := Value.isObject_of_find? hip
  obtain ⟨port, hport, hpn⟩ := Option.bind_eq_some_iff.mp hn
  simp only [importGroup, Value.member_eq hip, Value.member_eq hport, ok_bind,
    Value.getString_eq_ok_iff.mpr hs, Value.getInt_eq_ok_iff.mpr hpn]
  rw [completes_bind_of_forall, Value.completes_memberOr_iff, and_iff_right hobj]
  · simp only [completes_importJsonConnectionOsiConfig_iff]
  · intro group _
    rw [Value.guarded_getBool_eq hobj, ok_bind]
    exact completes_ok _

/-- With a valid address, a pass over the connection completes exactly when the port is an
`int` and, where it is in range, the OSI section is valid. -/
theorem completes_importConnection_of_valid {env : ImportEnv} {connection : Value}
    (hv : validAddress env connection = true) (groups : List RedGroup) :
    Completes (importConnection env groups connection) ↔
      ∃ n, portOf connection = some n ∧ (0 < n → n < 65636 →
        ∀ osi, connection.find? "osi" = some osi → OsiValid osi) := by
  obtain ⟨s, ht, -⟩ := (Option.any_eq_true _ _).mp hv
  obtain ⟨ip, hip, hs⟩ := Option.bind_eq_some_iff.mp ht
  have hobj := Value.isObject_of_find? hip
  rw [importConnection, acceptsConnection_of_valid hv]
  cases hport : connection.find? "port" with
  | none =>
    simp [Value.memberOr_of_none hobj hport, importGroup, Value.member_eq hip,
      Value.member_eq_error hport, Value.getString_eq_ok_iff.mpr hs, portOf, hport]
  | some port =>
    rw [Value.memberOr_of_some hport]
    cases hn : port.int? with
    | none => simp [Value.getInt, hn, portOf, hport]
    | some n =>
      have hport' : portOf connection = some n := by simp [portOf, hport, hn]
      rw [Value.getInt_eq_ok_iff.mpr hn, ok_bind, pure_eq_ok, ok_bind]
      by_cases hr : 0 < n ∧ n < 65636
      · have hacc : (!(decide (n ≤ 0) || decide (65636 ≤ n))) = true := by
          simp only [Bool.not_eq_true', Bool.or_eq_false_iff, decide_eq_false_iff_not]
          omega
        simp only [if_pos hacc, pure_eq_ok]
        rw [completes_bind_of_forall fun group _ ↦ completes_ok _,
          completes_importGroup_iff hip hs hport']
        simp [hport', hr]
      · have hrej : ¬ (!(decide (n ≤ 0) || decide (65636 ≤ n))) = true := by
          simp only [Bool.not_eq_true', Bool.or_eq_false_iff, decide_eq_false_iff_not]
          omega
        rw [if_neg hrej]
        exact iff_of_true (completes_ok _) ⟨n, hport', fun h₁ h₂ ↦ absurd ⟨h₁, h₂⟩ hr⟩

/-- A pass over one connection completes exactly when the connection is well typed. -/
theorem completes_importConnection_iff (env : ImportEnv) (groups : List RedGroup)
    (connection : Value) :
    Completes (importConnection env groups connection) ↔
      ConnectionWellTyped env connection := by
  by_cases hobj : connection.isObject = true
  · by_cases haddr : connection.MemberIs "ip_addr" Value.isString
    · cases hv : validAddress env connection with
      | false =>
        have hw : ConnectionWellTyped env connection :=
          ⟨hobj, haddr, by simp [hv], by simp [hv]⟩
        simp [importConnection, acceptsConnection_of_invalid hobj haddr hv, hw]
      | true =>
        rw [completes_importConnection_of_valid hv]
        constructor
        · rintro ⟨n, hn, hosi⟩
          refine ⟨hobj, haddr, fun _ ↦ by simp [hn], fun _ m hm h₁ h₂ ↦ ?_⟩
          rw [hn, Option.some.injEq] at hm
          subst hm
          exact hosi h₁ h₂
        · intro hw
          obtain ⟨n, hn⟩ := Option.isSome_iff_exists.mp (hw.port hv)
          exact ⟨n, hn, hw.osi hv n hn⟩
    · refine iff_of_false (fun ⟨g, hg⟩ ↦ haddr fun ip hip ↦ ?_) fun hw ↦ haddr hw.address
      rw [importConnection, bind_eq_ok_iff] at hg
      obtain ⟨b, hb, -⟩ := hg
      rw [acceptsConnection, Value.memberOr_of_some hip, bind_eq_ok_iff] at hb
      obtain ⟨s, hs, -⟩ := hb
      exact Value.completes_getString_iff.mp ⟨s, hs⟩
  · have hfail : ¬ Completes (importConnection env groups connection) := by
      simp [importConnection, acceptsConnection, Value.memberOr, Value.hasMember, hobj]
    exact iff_of_false hfail fun hw ↦ hobj hw.isObject

/-! ### The layers -/

/-- The transport layer is imported exactly when it is well typed. -/
theorem completes_importTransportLayer_iff (env : ImportEnv) (transportLayer : Value)
    (config : TASE2ClientConfig) :
    Completes (importTransportLayer env transportLayer config) ↔
      TransportWellTyped env transportLayer := by
  by_cases hobj : transportLayer.isObject = true
  · rw [importTransportLayer, Value.hasMember_eq hobj, ok_bind]
    cases hc : transportLayer.find? "connections" with
    | none =>
      have hw : TransportWellTyped env transportLayer :=
        ⟨hobj, arrayOf_of_none hc, by simp [hc]⟩
      simp [hw]
    | some connections =>
      have htime : Completes (transportLayer.memberOr "backupTimeout"
          (fun w ↦ (fun n ↦ (n % 2 ^ 64).toNat) <$> w.getInt) config.backupConnectionTimeout) ↔
            transportLayer.MemberIs "backupTimeout" Value.isInt := by
        rw [Value.completes_memberOr_iff, and_iff_right hobj]
        simp only [completes_map_iff, Value.completes_getInt_iff, Value.MemberIs]
      simp only [Option.isSome_some, if_true, Value.member_eq hc, ok_bind, pure_eq_ok]
      have hiff : ∀ es : List Value, (∃ groups,
          es.foldlM (importConnection env) config.connections = .ok groups) ↔
            ∀ c ∈ es, ConnectionWellTyped env c := fun es ↦
        completes_foldlM_iff (completes_importConnection_iff env) es config.connections
      simp only [completes_bind_iff, completes_ok, and_true]
      constructor
      · rintro ⟨es, hes, groups, hg, t, ht⟩
        refine ⟨hobj, ?_, fun _ ↦ htime.mp ⟨t, ht⟩⟩
        intro w hw
        rw [hc, Option.some.injEq] at hw
        subst hw
        exact ⟨es, Value.getArray_eq_ok_iff.mp hes, (hiff es).mp ⟨groups, hg⟩⟩
      · intro hw
        obtain ⟨es, hes, hgood⟩ := hw.connections connections hc
        obtain ⟨groups, hg⟩ := (hiff es).mpr hgood
        obtain ⟨t, ht⟩ := htime.mpr (hw.timeout (by simp [hc]))
        exact ⟨es, Value.getArray_eq_ok_iff.mpr hes, groups, hg, t, ht⟩
  · have hfail : ¬ Completes (importTransportLayer env transportLayer config) := by
      simp [importTransportLayer, Value.hasMember, hobj]
    exact iff_of_false hfail fun hw ↦ hobj hw.isObject

/-- The transport layer only sets the connections and the backup timeout, and ends the import
when it has no connections. -/
theorem importTransportLayer_eq_ok {env : ImportEnv} {transportLayer : Value}
    {config : TASE2ClientConfig} {r : Flow TASE2ClientConfig}
    (h : importTransportLayer env transportLayer config = .ok r) :
    if (transportLayer.find? "connections").isSome then
      ∃ groups timeout, r = .next { config with
        connections := groups, backupConnectionTimeout := timeout }
    else r = .stop config := by
  have hobj := ((completes_importTransportLayer_iff env transportLayer config).mp ⟨r, h⟩).isObject
  rw [importTransportLayer, Value.hasMember_eq hobj, ok_bind] at h
  split at h
  · next hc =>
    simp only [bind_eq_ok_iff, pure_eq_ok, Except.ok.injEq] at h
    obtain ⟨_, -, _, -, groups, -, timeout, -, rfl⟩ := h
    rw [if_pos hc]
    exact ⟨groups, timeout, rfl⟩
  · next hc =>
    rw [if_neg hc]
    exact (Except.ok.inj h).symm

/-- The data sets an application layer lists. -/
def datasetsOf (applicationLayer : Value) : List Dataset :=
  (((applicationLayer.find? "datasets").bind Value.array?).getD []).filterMap datasetOf

/-- The transfer sets an application layer lists. -/
def transferSetsOf (codes : DsConditionCodes) (applicationLayer : Value) :
    List DatasetTransferSet :=
  (((applicationLayer.find? "dataset_transfer_sets").bind Value.array?).getD []).filterMap
    (transferSetOf codes)

/-- The configuration after a well-typed application layer. -/
def TASE2ClientConfig.addApplication (codes : DsConditionCodes) (applicationLayer : Value)
    (config : TASE2ClientConfig) : TASE2ClientConfig :=
  (transferSetsOf codes applicationLayer).foldl TASE2ClientConfig.addTransferSet
    ((datasetsOf applicationLayer).foldl TASE2ClientConfig.addDataset
      { config with
        pollingInterval := applicationLayer.intOr "polling_interval" config.pollingInterval })

/-- A member that holds an array of elements whose import completes exactly when they are
good is imported exactly when they all are. -/
theorem completes_memberOr_foldlM_iff {v : Value} {name : String} {good : Value → Prop}
    {body : TASE2ClientConfig → Value → Except Failure TASE2ClientConfig}
    (hbody : ∀ c e, Completes (body c e) ↔ good e) (hobj : v.isObject = true)
    (config : TASE2ClientConfig) :
    Completes (v.memberOr name (fun w ↦ do (← w.getArray).foldlM body config) config) ↔
      ArrayOf v name good := by
  rw [Value.completes_memberOr_iff, and_iff_right hobj]
  refine forall₂_congr fun w _ ↦ ?_
  rw [completes_bind_iff]
  simp only [Value.getArray_eq_ok_iff, completes_foldlM_iff hbody]

/-- Where every element's import applies its reading, the array is imported by applying the
readings in order. -/
theorem memberOr_foldlM_eq {v : Value} {name : String} {good : Value → Prop} {ρ : Type}
    {read : Value → Option ρ} {add : TASE2ClientConfig → ρ → TASE2ClientConfig}
    {body : TASE2ClientConfig → Value → Except Failure TASE2ClientConfig}
    (hbody : ∀ e, good e → ∀ c, body c e = .ok ((read e).elim c (add c)))
    (hobj : v.isObject = true) (h : ArrayOf v name good) (config : TASE2ClientConfig) :
    v.memberOr name (fun w ↦ do (← w.getArray).foldlM body config) config =
      .ok (((((v.find? name).bind Value.array?).getD []).filterMap read).foldl add config) := by
  rw [Value.memberOr_eq_ok_iff, and_iff_right hobj]
  cases hf : v.find? name with
  | none => rfl
  | some w =>
    obtain ⟨es, hes, hgood⟩ := h w hf
    dsimp only
    rw [Value.getArray_eq_ok_iff.mpr hes, ok_bind,
      foldlM_eq_ok_foldl (fun c e he ↦ hbody e (hgood e he) c)]
    simp only [Option.bind_some, hes, Option.getD_some, List.foldl_filterMap]
    congr 2
    funext c e
    cases read e <;> rfl

/-- Where a present polling interval is an `int`, reading it returns. -/
theorem memberOr_pollingInterval_eq {applicationLayer : Value}
    (hobj : applicationLayer.isObject = true)
    (h : applicationLayer.MemberIs "polling_interval" Value.isInt) :
    applicationLayer.memberOr "polling_interval" (fun w ↦ some <$> w.getInt) none =
      .ok ((applicationLayer.find? "polling_interval").bind Value.int?) := by
  rw [Value.memberOr_eq_ok_iff, and_iff_right hobj]
  cases hf : applicationLayer.find? "polling_interval" with
  | none => rfl
  | some w =>
    obtain ⟨n, hn⟩ := Value.completes_getInt_iff.mpr (h w hf)
    dsimp only
    rw [hn, map_ok, Option.bind_some, Value.getInt_eq_ok_iff.mp hn]

/-- A negative interval is one that the layer gives. -/
theorem any_pollingInterval_iff (applicationLayer : Value) :
    (((applicationLayer.find? "polling_interval").bind Value.int?).any (· < 0)) = true ↔
      ¬ 0 ≤ applicationLayer.intOr "polling_interval" 0 := by
  rw [Value.intOr]
  cases (applicationLayer.find? "polling_interval").bind Value.int? with
  | none => simp
  | some n => simp

/-- The sets are imported exactly when both arrays are well typed. -/
theorem completes_importSets_iff {codes : DsConditionCodes} {applicationLayer : Value}
    (hobj : applicationLayer.isObject = true) (config : TASE2ClientConfig) :
    Completes (importSets codes applicationLayer config) ↔
      ArrayOf applicationLayer "datasets" DatasetWellTyped ∧
        ArrayOf applicationLayer "dataset_transfer_sets" TransferSetWellTyped := by
  rw [importSets, completes_bind_iff]
  simp only [completes_memberOr_foldlM_iff (completes_importTransferSet_iff codes) hobj]
  rw [← completes_memberOr_foldlM_iff completes_importDataset_iff hobj config]
  constructor
  · rintro ⟨c, hc, ht⟩
    exact ⟨⟨c, hc⟩, ht⟩
  · rintro ⟨⟨c, hc⟩, ht⟩
    exact ⟨c, hc, ht⟩

/-- Well-typed sets are imported by applying their readings. -/
theorem importSets_eq {codes : DsConditionCodes} {applicationLayer : Value}
    (hobj : applicationLayer.isObject = true)
    (hd : ArrayOf applicationLayer "datasets" DatasetWellTyped)
    (ht : ArrayOf applicationLayer "dataset_transfer_sets" TransferSetWellTyped)
    (config : TASE2ClientConfig) :
    importSets codes applicationLayer config =
      .ok ((transferSetsOf codes applicationLayer).foldl TASE2ClientConfig.addTransferSet
        ((datasetsOf applicationLayer).foldl TASE2ClientConfig.addDataset config)) := by
  rw [importSets, memberOr_foldlM_eq (fun _ he c ↦ importDataset_eq he c) hobj hd, ok_bind,
    memberOr_foldlM_eq (fun _ he c ↦ importTransferSet_eq he c) hobj ht]
  rfl

/-- The application layer is imported exactly when it is well typed. -/
theorem completes_importApplicationLayer_iff (codes : DsConditionCodes)
    (applicationLayer : Value) (config : TASE2ClientConfig) :
    Completes (importApplicationLayer codes applicationLayer config) ↔
      ApplicationWellTyped applicationLayer := by
  by_cases hobj : applicationLayer.isObject = true
  · by_cases hint : applicationLayer.MemberIs "polling_interval" Value.isInt
    · rw [importApplicationLayer, memberOr_pollingInterval_eq hobj hint, ok_bind]
      by_cases hneg : 0 ≤ applicationLayer.intOr "polling_interval" 0
      · rw [if_neg (fun h ↦ (any_pollingInterval_iff applicationLayer).mp h hneg)]
        rw [completes_map_iff, completes_importSets_iff hobj]
        constructor
        · intro h
          exact ⟨hobj, hint, fun _ ↦ h.1, fun _ ↦ h.2⟩
        · intro hw
          exact ⟨hw.datasets hneg, hw.transferSets hneg⟩
      · rw [if_pos ((any_pollingInterval_iff applicationLayer).mpr hneg)]
        exact iff_of_true (completes_ok _)
          ⟨hobj, hint, fun h ↦ absurd h hneg, fun h ↦ absurd h hneg⟩
    · refine iff_of_false (fun ⟨r, hr⟩ ↦ hint ?_) fun hw ↦ hint hw.interval
      rw [importApplicationLayer, bind_eq_ok_iff] at hr
      obtain ⟨n, hn, -⟩ := hr
      intro w hw
      exact Value.completes_getInt_iff.mp
        (completes_map_iff.mp ((Value.completes_memberOr_iff.mp ⟨n, hn⟩).2 w hw))
  · have hfail : ¬ Completes (importApplicationLayer codes applicationLayer config) := by
      simp [importApplicationLayer, Value.memberOr, Value.hasMember, hobj]
    exact iff_of_false hfail fun hw ↦ hobj hw.isObject

/-- A well-typed application layer is imported by applying its readings, unless its polling
interval is negative, which ends the import. -/
theorem importApplicationLayer_eq (codes : DsConditionCodes) {applicationLayer : Value}
    (h : ApplicationWellTyped applicationLayer) (config : TASE2ClientConfig) :
    importApplicationLayer codes applicationLayer config =
      .ok (if 0 ≤ applicationLayer.intOr "polling_interval" 0 then
        .next (config.addApplication codes applicationLayer) else .stop config) := by
  rw [importApplicationLayer, memberOr_pollingInterval_eq h.isObject h.interval, ok_bind]
  by_cases hneg : 0 ≤ applicationLayer.intOr "polling_interval" 0
  · rw [if_neg (fun h ↦ (any_pollingInterval_iff applicationLayer).mp h hneg), if_pos hneg,
      importSets_eq h.isObject (h.datasets hneg) (h.transferSets hneg)]
    rfl
  · rw [if_pos ((any_pollingInterval_iff applicationLayer).mpr hneg), if_neg hneg]
    rfl

/-! ### The stack -/

/-- The import is the import of the stack object behind the gate. -/
theorem importProtocolConfig_eq (env : ImportEnv) (protocolConfig : String)
    (config : TASE2ClientConfig) :
    importProtocolConfig env protocolConfig config =
      match protocolStackOf env protocolConfig with
      | none => .ok { config with protocolConfigComplete := false }
      | some stack =>
        importProtocolStack env stack { config with protocolConfigComplete := false } := by
  unfold importProtocolConfig protocolStackOf
  cases env.parse protocolConfig with
  | none => rfl
  | some document =>
    dsimp only [Option.bind_some]
    by_cases hgate : (document.isObject && traverseAndCheckTypes document) = true
    · have hobj : document.isObject = true := ((Bool.and_eq_true _ _).mp hgate).1
      rw [if_pos hgate, if_pos hgate, Value.guarded_object_eq hobj, ok_bind]
      cases (document.find? "protocol_stack").filter Value.isObject with
      | none => rfl
      | some stack => rfl
    · rw [if_neg hgate, if_neg hgate]
      rfl

/-- A stack object is imported exactly when the layers it reaches are well typed. -/
theorem completes_importProtocolStack_iff (env : ImportEnv) {stack : Value}
    (hobj : stack.isObject = true) (config : TASE2ClientConfig) :
    Completes (importProtocolStack env stack config) ↔
      ∀ transport, stack.find? "transport_layer" = some transport →
        TransportWellTyped env transport ∧ ((transport.find? "connections").isSome →
          ∀ application, stack.find? "application_layer" = some application →
            ApplicationWellTyped application) := by
  rw [importProtocolStack, Value.hasMember_eq hobj, ok_bind]
  cases ht : stack.find? "transport_layer" with
  | none => simp
  | some transport =>
    simp only [Option.isSome_some, if_true, Value.member_eq ht, ok_bind, Option.some.injEq,
      forall_eq']
    by_cases hw : TransportWellTyped env transport
    · obtain ⟨r, hr⟩ := (completes_importTransportLayer_iff env transport config).mpr hw
      have hflow := importTransportLayer_eq_ok hr
      rw [hr, ok_bind]
      split at hflow
      · next hc =>
        obtain ⟨groups, timeout, rfl⟩ := hflow
        simp only [hw, true_and, hc, forall_const, Value.hasMember_eq hobj, ok_bind]
        cases ha : stack.find? "application_layer" with
        | none => simp
        | some application =>
          simp only [Option.isSome_some, if_true, Value.member_eq ha, ok_bind,
            Option.some.injEq, forall_eq']
          rw [completes_bind_of_forall, completes_importApplicationLayer_iff]
          intro r _
          cases r <;> simp
      · next hc =>
        subst hflow
        simp [hw, hc]
    · refine iff_of_false (fun h ↦ hw ?_) fun h ↦ hw h.1
      obtain ⟨r, hr, -⟩ := completes_bind_iff.mp h
      exact (completes_importTransportLayer_iff env transport config).mp ⟨r, hr⟩

/-- Whatever passes the gate as a stack is an object. -/
theorem isObject_of_protocolStackOf {env : ImportEnv} {protocolConfig : String} {stack : Value}
    (h : protocolStackOf env protocolConfig = some stack) : stack.isObject = true := by
  obtain ⟨document, -, h⟩ := Option.bind_eq_some_iff.mp h
  split at h
  · exact (Option.filter_eq_some_iff.mp h).2
  · cases h

/-- A document that passes the gate has its `protocol_stack` object imported. -/
theorem protocolStackOf_eq_some {env : ImportEnv} {protocolConfig : String}
    {document stack : Value} (hparse : env.parse protocolConfig = some document)
    (hgate : traverseAndCheckTypes document = true)
    (hfind : document.find? "protocol_stack" = some stack) (hobj : stack.isObject = true) :
    protocolStackOf env protocolConfig = some stack := by
  simp [protocolStackOf, hparse, Value.isObject_of_find? hfind, hgate, hfind, hobj,
    Option.filter]

/-- The stack is imported exactly when it is well typed. -/
theorem completes_importProtocolConfig_iff (env : ImportEnv) (protocolConfig : String)
    (config : TASE2ClientConfig) :
    Completes (importProtocolConfig env protocolConfig config) ↔
      StackWellTyped env protocolConfig := by
  rw [importProtocolConfig_eq, StackWellTyped]
  cases hs : protocolStackOf env protocolConfig with
  | none => simp
  | some stack =>
    simp only [completes_importProtocolStack_iff env (isObject_of_protocolStackOf hs),
      Option.some.injEq, forall_eq']

/-- A stack without connections is well typed when its application layer is. -/
theorem stackWellTyped_of_application {env : ImportEnv} {protocolConfig : String}
    {application : Value}
    (hstack : protocolStackOf env protocolConfig = some (.object
      [("transport_layer", .object [("connections", .array [])]),
        ("application_layer", application)]))
    (happlication : ApplicationWellTyped application) : StackWellTyped env protocolConfig := by
  intro stack hs transport ht
  rw [hstack, Option.some.injEq] at hs
  subst hs
  have htransport : .object [("connections", .array [])] = transport := Option.some.inj ht
  subst htransport
  refine ⟨⟨rfl, arrayOf_of_some rfl (by simp), fun _ ↦ Value.memberIs_of_none rfl⟩, ?_⟩
  intro _ application' ha
  have heq : application = application' := Option.some.inj ha
  exact heq ▸ happlication

/-! ### The certificates -/

/-- A pass over one certificate completes exactly when the certificate is an object. -/
theorem completes_importCertFile_iff (files : List String) (cert : Value) :
    Completes (importCertFile files cert) ↔ cert.isObject = true := by
  rw [importCertFile, completes_bind_of_forall]
  · exact Value.completes_guarded_iff fun w hw ↦ Value.completes_getString_iff.mpr hw
  · intro file _
    cases file <;> simp

/-- The TLS files are imported exactly when the certificates are objects. -/
theorem completes_importTlsConfig_iff (env : ImportEnv) (tlsConfig : String)
    (config : TASE2ClientConfig) :
    Completes (importTlsConfig env tlsConfig config) ↔ TlsWellTyped env tlsConfig := by
  unfold importTlsConfig TlsWellTyped tlsConfOf
  cases env.parse tlsConfig with
  | none => simp
  | some document =>
    simp only [Option.bind_some]
    by_cases hobj : document.isObject = true
    · rw [if_pos hobj, Value.guarded_object_eq hobj, ok_bind]
      cases hf : (document.find? "tls_conf").filter Value.isObject with
      | none => simp
      | some tlsConf =>
        have htls : tlsConf.isObject = true := (Option.filter_eq_some_iff.mp hf).2
        have hcerts : ∀ (l : List Value) (s : List String),
            (∃ files, l.foldlM importCertFile s = .ok files) ↔
              ∀ c ∈ l, c.isObject = true := fun l s ↦
          completes_foldlM_iff completes_importCertFile_iff l s
        simp only [Value.guarded_getString_eq htls, Value.guarded_getArray_eq htls, ok_bind,
          completes_bind_iff, pure_eq_ok, completes_ok, and_true, hcerts, Option.some.injEq,
          forall_eq', List.forall_mem_cons, List.not_mem_nil, false_imp_iff, implies_true]
        constructor
        · rintro ⟨files, hca, hremote⟩
          exact ⟨(hcerts _ _).mp ⟨files, hca⟩, hremote⟩
        · rintro ⟨hca, hremote⟩
          obtain ⟨files, hfiles⟩ := (hcerts _ config.caCertificates).mpr hca
          exact ⟨files, hfiles, hremote⟩
    · simp [hobj, Value.find?_eq_none hobj]

/-! ### The configuration -/

/-- The three imports return exactly when each of the three texts is well typed. -/
theorem completes_setJsonConfig_iff (env : ImportEnv)
    (stackConfiguration msgConfiguration tlsConfiguration : String) :
    Completes (setJsonConfig env stackConfiguration msgConfiguration tlsConfiguration) ↔
      ExchangeWellTyped env msgConfiguration ∧ StackWellTyped env stackConfiguration ∧
        TlsWellTyped env tlsConfiguration := by
  rw [setJsonConfig, completes_bind_iff,
    ← completes_importExchangeConfig_iff env msgConfiguration .fresh]
  simp only [completes_bind_iff, completes_importTlsConfig_iff]
  constructor
  · rintro ⟨c, hc, c', hc', ht⟩
    exact ⟨⟨c, hc⟩, (completes_importProtocolConfig_iff env stackConfiguration c).mp ⟨c', hc'⟩,
      ht⟩
  · rintro ⟨⟨c, hc⟩, hs, ht⟩
    obtain ⟨c', hc'⟩ := (completes_importProtocolConfig_iff env stackConfiguration c).mpr hs
    exact ⟨c, hc, c', hc', ht⟩

/-- A stack configuration whose connection has a valid address and no port. -/
def portlessText : String :=
  "\x7b\"protocol_stack\":\x7b\"transport_layer\":\x7b\"connections\":" ++
    "[\x7b\"ip_addr\":\"127.0.0.1\"\x7d]\x7d\x7d\x7d"

/-- The document that `portlessText` parses to. -/
def portlessStack : Value :=
  .object [("protocol_stack", .object [("transport_layer", .object [("connections",
    .array [.object [("ip_addr", .string "127.0.0.1")]])])])]

/-- Importing `portlessText` takes the port that the connection does not have. -/
theorem not_completes_setJsonConfig_portless :
    ¬ Completes (setJsonConfig (.ofTable [(portlessText, portlessStack)]) portlessText "" "") := by
  intro h
  rw [setJsonConfig, completes_bind_iff] at h
  obtain ⟨c, -, h⟩ := h
  obtain ⟨c', hc', -⟩ := completes_bind_iff.mp h
  have hw := (completes_importProtocolConfig_iff _ _ _).mp ⟨c', hc'⟩
  have hgate : traverseAndCheckTypes portlessStack = true := by
    rw [traverseAndCheckTypes, checkLoop_eq]
    decide
  have hstack := protocolStackOf_eq_some
    (ImportEnv.parse_ofTable_self portlessText portlessStack []) hgate rfl rfl
  have htransport := (hw _ hstack _ rfl).1
  obtain ⟨es, hes, hgood⟩ := htransport.connections _ rfl
  cases hes
  have hconn := hgood _ (List.mem_cons_self ..)
  exact absurd (hconn.port (by decide)) (by decide)

end Tase2South.Config
