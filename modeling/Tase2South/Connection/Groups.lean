import Tase2South.Config.Coverage
import Tase2South.Connection.Addressing

/-!
# The list of connections

The connection loop of `importProtocolConfig`, `src/tase2_client_config.cpp:275–324`, as a filter
and a map over the entries of the document. The loop compares a port with 65636 and reads it
whether it is there or not.
-/

namespace Tase2South.Connection

open Tase2South.Base Tase2South.Json Tase2South.Config

/-! ### Well-typed stacks -/

/-- Every present member of a connection has its type, and its OSI section is valid. -/
structure ConnectionTyped (connection : Value) : Prop where
  isObject : connection.isObject = true
  address : connection.MemberIs "ip_addr" Value.isString
  port : connection.MemberIs "port" (·.type = .number)
  tls : connection.MemberIs "tls" Value.isBool
  osi : ∀ osi, connection.find? "osi" = some osi → OsiValid osi

/-- Every present member of a transport layer has its type. -/
structure TransportTyped (transportLayer : Value) : Prop where
  isObject : transportLayer.isObject = true
  connections : ArrayOf transportLayer "connections" ConnectionTyped
  timeout : transportLayer.MemberIs "backupTimeout" Value.isInt

/-- Every scalar member named in the table has the type of the table, and both layers of the
stack are well typed. -/
structure DocumentTyped (document : Value) : Prop where
  members : ∀ m ∈ document.scalarMembers true, WellTypedMember m
  isObject : ∀ stack, document.find? "protocol_stack" = some stack → stack.isObject = true
  transport : ∀ stack, document.find? "protocol_stack" = some stack →
    ∀ transport, stack.find? "transport_layer" = some transport → TransportTyped transport
  application : ∀ stack, document.find? "protocol_stack" = some stack →
    ∀ application, stack.find? "application_layer" = some application →
      ApplicationWellTyped application

/-- The document of a stack configuration, if it has one, is well typed. -/
def StackTyped (env : ImportEnv) (protocolConfig : String) : Prop :=
  ∀ document, env.parse protocolConfig = some document → DocumentTyped document

/-! ### What the entries describe -/

/-- The entries of a transport layer. -/
def entriesOf (transportLayer : Value) : List Value :=
  ((transportLayer.find? "connections").bind Value.array?).getD []

/-- The entries of `connections` in a stack object. -/
def stackEntries (stack : Value) : List Value :=
  (stack.find? "transport_layer").elim [] entriesOf

/-- The entries of `connections` in a stack configuration. -/
def connectionEntries (env : ImportEnv) (protocolConfig : String) : List Value :=
  ((env.parse protocolConfig).bind (·.find? "protocol_stack")).elim [] stackEntries

/-- The entry has a valid address and a port that a connection can have. -/
def ValidConnection (env : ImportEnv) (entry : Value) : Prop :=
  validAddress env entry = true ∧ ∃ port ∈ portOf entry, 1 ≤ port ∧ port ≤ 65535

/-- The entry has a valid address and a port that the importer lets through. -/
def AcceptedConnection (env : ImportEnv) (entry : Value) : Prop :=
  validAddress env entry = true ∧ ∃ port ∈ portOf entry, 0 < port ∧ port < 65636

instance (env : ImportEnv) : DecidablePred (ValidConnection env) :=
  fun _ ↦ inferInstanceAs (Decidable (_ ∧ ∃ _ ∈ _, _))

instance (env : ImportEnv) : DecidablePred (AcceptedConnection env) :=
  fun _ ↦ inferInstanceAs (Decidable (_ ∧ ∃ _ ∈ _, _))

/-- The group an entry describes. -/
def groupOf (entry : Value) : RedGroup where
  ipAddr := entry.textOr "ip_addr" ""
  tcpPort := entry.intOr "port" 0
  osiParameters := (entry.find? "osi").elim {} osiParametersOf
  isOsiParametersEnabled := (entry.find? "osi").isSome
  tls := entry.boolOr "tls" false

/-- After the import the connections are the groups of the valid entries, in document order. -/
def ImportsConnections (env : ImportEnv) (protocolConfig : String) : Prop :=
  ∃ config, importProtocolConfig env protocolConfig .fresh = .ok config ∧
    config.connections =
      ((connectionEntries env protocolConfig).filter (ValidConnection env)).map groupOf

/-- Every entry with a valid address has a port that fits an `int` and is not between the
largest port and the constant that the importer compares with. -/
def PortsDecided (env : ImportEnv) (entries : List Value) : Prop :=
  ∀ entry ∈ entries, validAddress env entry = true →
    ∃ port ∈ portOf entry, port < 65536 ∨ 65636 ≤ port

/-! ### One entry -/

/-- The group of an accepted entry is the one it describes. -/
theorem importGroup_eq {env : ImportEnv} {entry : Value} (ht : ConnectionTyped entry)
    (h : AcceptedConnection env entry) : importGroup entry = .ok (groupOf entry) := by
  obtain ⟨haddress, port, hport, -, -⟩ := h
  obtain ⟨s, hs, -⟩ := (Option.any_eq_true _ _).mp haddress
  obtain ⟨ip, hip, hip'⟩ := Option.bind_eq_some_iff.mp hs
  obtain ⟨w, hw, hw'⟩ := Option.bind_eq_some_iff.mp hport
  have htls : entry.guarded "tls" Value.isBool Value.getBool =
      .ok ((entry.find? "tls").bind Value.bool?) := Value.guarded_getBool_eq ht.isObject
  have haddr : entry.textOr "ip_addr" "" = s := by simp [Value.textOr, hs]
  have hportOr : entry.intOr "port" 0 = port := by
    rw [Value.intOr]
    change (portOf entry).getD 0 = port
    rw [hport, Option.getD_some]
  simp only [importGroup, Value.member_eq hip, Value.getString_eq_ok_iff.mpr hip',
    Value.member_eq hw, Value.getInt_eq_ok_iff.mpr hw', ok_bind, htls, groupOf, haddr, hportOr,
    Value.boolOr]
  cases hosi : entry.find? "osi" with
  | none =>
    rw [Value.memberOr_of_none ht.isObject hosi, ok_bind]
    rfl
  | some osi =>
    rw [Value.memberOr_of_some hosi]
    have hvalid := ht.osi osi hosi
    obtain ⟨g, hg⟩ := (completes_importJsonConnectionOsiConfig_iff osi
      { ipAddr := s, tcpPort := port, tls := false }).mpr hvalid
    rw [hg, ok_bind, eq_of_importJsonConnectionOsiConfig hvalid rfl hg]
    rfl

/-- Whether the loop builds a group for an entry whose port it can read. -/
theorem acceptsConnection_eq {env : ImportEnv} {entry : Value} (ht : ConnectionTyped entry)
    (hport : validAddress env entry = true → (portOf entry).isSome) :
    acceptsConnection env entry = .ok (AcceptedConnection env entry) := by
  cases hv : validAddress env entry with
  | false =>
    rw [acceptsConnection_of_invalid ht.isObject ht.address hv]
    simp [AcceptedConnection, hv]
  | true =>
    obtain ⟨port, hp⟩ := Option.isSome_iff_exists.mp (hport hv)
    obtain ⟨w, hw, hw'⟩ := Option.bind_eq_some_iff.mp hp
    rw [acceptsConnection_of_valid hv, Value.memberOr_of_some hw,
      Value.getInt_eq_ok_iff.mpr hw', ok_bind, pure_eq_ok]
    congr 1
    rw [Bool.eq_iff_iff]
    simp [AcceptedConnection, hv, hp]

/-- A pass adds the group of an accepted entry. -/
theorem importConnection_eq {env : ImportEnv} {entry : Value} (ht : ConnectionTyped entry)
    (hport : validAddress env entry = true → (portOf entry).isSome) (groups : List RedGroup) :
    importConnection env groups entry =
      .ok (groups ++ if AcceptedConnection env entry then [groupOf entry] else []) := by
  rw [importConnection, acceptsConnection_eq ht hport, ok_bind]
  by_cases h : AcceptedConnection env entry
  · simp [h, importGroup_eq ht h]
  · simp [h]

/-- The loop adds the groups of the accepted entries in order. -/
theorem foldlM_importConnection {env : ImportEnv} {entries : List Value}
    (ht : ∀ entry ∈ entries, ConnectionTyped entry)
    (hport : ∀ entry ∈ entries, validAddress env entry = true → (portOf entry).isSome)
    (groups : List RedGroup) :
    entries.foldlM (importConnection env) groups =
      .ok (groups ++ (entries.filter (AcceptedConnection env)).map groupOf) := by
  induction entries generalizing groups with
  | nil => simp
  | cons entry entries ih =>
    rw [List.forall_mem_cons] at ht hport
    rw [List.foldlM_cons, importConnection_eq ht.1 hport.1, ok_bind, ih ht.2 hport.2]
    by_cases h : AcceptedConnection env entry
    · simp [h]
    · simp [h]

/-! ### The layers -/

/-- The connections of a transport layer come from the loop over its entries. -/
theorem connections_of_importTransportLayer {env : ImportEnv} {transportLayer : Value}
    {config : TASE2ClientConfig} {r : Flow TASE2ClientConfig}
    (h : importTransportLayer env transportLayer config = .ok r) :
    (entriesOf transportLayer).foldlM (importConnection env) config.connections =
      .ok r.state.connections := by
  have hobj := ((completes_importTransportLayer_iff env transportLayer config).mp ⟨r, h⟩).isObject
  rw [importTransportLayer, Value.hasMember_eq hobj, ok_bind] at h
  rw [entriesOf]
  cases hc : transportLayer.find? "connections" with
  | none =>
    rw [hc] at h
    cases h
    rfl
  | some w =>
    simp only [hc, Option.isSome_some, if_true, Value.member_eq hc, ok_bind, bind_eq_ok_iff,
      pure_eq_ok, Except.ok.injEq] at h
    obtain ⟨entries, hentries, groups, hgroups, timeout, -, rfl⟩ := h
    rw [Option.bind_some, Value.getArray_eq_ok_iff.mp hentries]
    exact hgroups

/-- The application layer leaves the connections as they are. -/
theorem connections_addApplication (codes : DsConditionCodes) (applicationLayer : Value)
    (config : TASE2ClientConfig) :
    (config.addApplication codes applicationLayer).connections = config.connections := by
  have herase (d : Dataset) (c : TASE2ClientConfig) :
      (c.addDataset d).connections = c.connections :=
    foldl_frame TASE2ClientConfig.erasePolled TASE2ClientConfig.connections (fun _ _ ↦ rfl)
      d.refs c
  rw [TASE2ClientConfig.addApplication, foldl_frame TASE2ClientConfig.addTransferSet
    TASE2ClientConfig.connections (fun _ _ ↦ rfl), foldl_frame TASE2ClientConfig.addDataset
      TASE2ClientConfig.connections (fun c d ↦ herase d c)]

/-- The connections of a stack object come from the loop over its entries. -/
theorem connections_of_importProtocolStack {env : ImportEnv} {stack : Value}
    {config c : TASE2ClientConfig} (hobj : stack.isObject = true)
    (h : importProtocolStack env stack config = .ok c) :
    (stackEntries stack).foldlM (importConnection env) config.connections =
      .ok c.connections := by
  obtain ⟨r, hr, rfl⟩ := importProtocolStack_eq_ok hobj h
  have hlayer : (stackEntries stack).foldlM (importConnection env) config.connections =
      .ok r.state.connections := by
    rw [stackEntries]
    cases ht : stack.find? "transport_layer" with
    | none =>
      rw [ht] at hr
      cases hr
      rfl
    | some transport =>
      rw [ht] at hr
      exact connections_of_importTransportLayer hr
  rw [hlayer]
  cases stackApplication stack with
  | none => rfl
  | some application => exact congrArg Except.ok (connections_addApplication _ _ _).symm

/-- A well-typed stack configuration is imported like its stack object. -/
theorem protocolStackOf_eq_of_typed {env : ImportEnv} {protocolConfig : String}
    (h : StackTyped env protocolConfig) :
    protocolStackOf env protocolConfig =
      (env.parse protocolConfig).bind (·.find? "protocol_stack") := by
  rw [protocolStackOf]
  cases hp : env.parse protocolConfig with
  | none => rfl
  | some document =>
    have hdoc := h document hp
    rw [Option.bind_some, Option.bind_some]
    cases hs : document.find? "protocol_stack" with
    | none => simp
    | some stack =>
      have hgate : traverseAndCheckTypes document = true :=
        (traverseAndCheckTypes_eq_true_iff document).mpr fun m hm _ ↦ hdoc.members m hm
      simp [Value.isObject_of_find? hs, hgate, Option.filter, hdoc.isObject stack hs]

/-- The connections of a stack configuration come from the loop over its entries. -/
theorem connections_of_importProtocolConfig {env : ImportEnv} {protocolConfig : String}
    (ht : StackTyped env protocolConfig) {config c : TASE2ClientConfig}
    (h : importProtocolConfig env protocolConfig config = .ok c) :
    (connectionEntries env protocolConfig).foldlM (importConnection env) config.connections =
      .ok c.connections := by
  rw [importProtocolConfig_eq, protocolStackOf_eq_of_typed ht] at h
  rw [connectionEntries]
  cases hs : (env.parse protocolConfig).bind (·.find? "protocol_stack") with
  | none =>
    rw [hs] at h
    cases h
    rfl
  | some stack =>
    rw [hs] at h
    obtain ⟨document, hp, hfind⟩ := Option.bind_eq_some_iff.mp hs
    have hloop := connections_of_importProtocolStack ((ht document hp).isObject stack hfind) h
    exact hloop

/-! ### The whole import -/

section Typed

variable {env : ImportEnv} {protocolConfig : String} (ht : StackTyped env protocolConfig)

include ht

/-- Every entry of a well-typed stack configuration is well typed. -/
theorem connectionTyped_of_mem {entry : Value}
    (he : entry ∈ connectionEntries env protocolConfig) : ConnectionTyped entry := by
  rw [connectionEntries] at he
  cases hs : (env.parse protocolConfig).bind (·.find? "protocol_stack") with
  | none => simp [hs] at he
  | some stack =>
    rw [hs, Option.elim_some, stackEntries] at he
    obtain ⟨document, hp, hfind⟩ := Option.bind_eq_some_iff.mp hs
    cases htransport : stack.find? "transport_layer" with
    | none => simp [htransport] at he
    | some transport =>
      rw [htransport, Option.elim_some, entriesOf] at he
      cases hc : transport.find? "connections" with
      | none => simp [hc] at he
      | some w =>
        have htyped := (ht document hp).transport stack hfind transport htransport
        obtain ⟨entries, hw, hgood⟩ := htyped.connections w hc
        rw [hc, Option.bind_some, hw, Option.getD_some] at he
        exact hgood entry he

/-- The import of a well-typed stack configuration returns exactly when every entry with a valid
address has a port that fits an `int`. -/
theorem completes_importProtocolConfig_of_typed (config : TASE2ClientConfig) :
    Completes (importProtocolConfig env protocolConfig config) ↔
      ∀ entry ∈ connectionEntries env protocolConfig,
        validAddress env entry = true → (portOf entry).isSome := by
  rw [completes_importProtocolConfig_iff, StackWellTyped, protocolStackOf_eq_of_typed ht,
    connectionEntries]
  cases hs : (env.parse protocolConfig).bind (·.find? "protocol_stack") with
  | none => simp
  | some stack =>
    obtain ⟨document, hp, hfind⟩ := Option.bind_eq_some_iff.mp hs
    simp only [Option.some.injEq, forall_eq', Option.elim_some, stackEntries]
    cases htransport : stack.find? "transport_layer" with
    | none => simp
    | some transport =>
      have htyped := (ht document hp).transport stack hfind transport htransport
      simp only [Option.some.injEq, forall_eq', Option.elim_some]
      constructor
      · rintro ⟨hw, -⟩ entry he hv
        rw [entriesOf] at he
        cases hc : transport.find? "connections" with
        | none => simp [hc] at he
        | some w =>
          obtain ⟨entries, hes, hgood⟩ := hw.connections w hc
          rw [hc, Option.bind_some, hes, Option.getD_some] at he
          exact (hgood entry he).port hv
      · intro hport
        refine ⟨⟨htyped.isObject, fun w hc ↦ ?_, fun _ ↦ htyped.timeout⟩, fun _ ↦
          (ht document hp).application stack hfind⟩
        obtain ⟨entries, hes, hgood⟩ := htyped.connections w hc
        refine ⟨entries, hes, fun entry he ↦ ?_⟩
        have hin : entry ∈ entriesOf transport := by
          rw [entriesOf, hc, Option.bind_some, hes]
          exact he
        exact ⟨(hgood entry he).isObject, (hgood entry he).address, hport entry hin,
          fun _ _ _ _ _ ↦ (hgood entry he).osi⟩

/-- When it returns, the connections are the groups of the accepted entries. -/
theorem connections_eq_of_typed {c : TASE2ClientConfig}
    (h : importProtocolConfig env protocolConfig .fresh = .ok c) :
    c.connections =
      ((connectionEntries env protocolConfig).filter (AcceptedConnection env)).map groupOf := by
  have hport := (completes_importProtocolConfig_of_typed ht .fresh).mp ⟨c, h⟩
  have hloop := connections_of_importProtocolConfig ht h
  rw [foldlM_importConnection (fun entry he ↦ connectionTyped_of_mem ht he) hport] at hloop
  exact (Except.ok.inj hloop).symm

omit ht in
/-- A valid entry is accepted. -/
theorem ValidConnection.accepted {entry : Value} (h : ValidConnection env entry) :
    AcceptedConnection env entry := by
  obtain ⟨hv, port, hp, hlow, hhigh⟩ := h
  exact ⟨hv, port, hp, by omega, by omega⟩

omit ht in
/-- Where every port is decided, an entry is accepted exactly when it is valid. -/
theorem accepted_iff_valid {entry : Value} (h : validAddress env entry = true →
    ∃ port ∈ portOf entry, port < 65536 ∨ 65636 ≤ port) :
    AcceptedConnection env entry ↔ ValidConnection env entry := by
  constructor
  · rintro ⟨hv, port, hp, hlow, hhigh⟩
    obtain ⟨port', hp', hdecided⟩ := h hv
    have heq : port = port' := Option.mem_unique hp hp'
    exact ⟨hv, port, hp, by omega, by omega⟩
  · exact ValidConnection.accepted

/-- When only the valid entries become connections, every accepted entry is valid. -/
theorem valid_of_accepted (h : ImportsConnections env protocolConfig) {entry : Value}
    (he : entry ∈ connectionEntries env protocolConfig) (haccepted : AcceptedConnection env entry) :
    ValidConnection env entry := by
  obtain ⟨config, himport, hconnections⟩ := h
  rw [connections_eq_of_typed ht himport] at hconnections
  -- the accepted entries are as many as the valid ones among them, so all of them are valid
  have hvalid : (connectionEntries env protocolConfig).filter (ValidConnection env) =
      ((connectionEntries env protocolConfig).filter (AcceptedConnection env)).filter
        (ValidConnection env) := by
    rw [List.filter_filter]
    apply List.filter_congr
    intro e _
    by_cases hvalid : ValidConnection env e
    · simp [hvalid, hvalid.accepted]
    · simp [hvalid]
  have hlength := congrArg List.length hconnections
  rw [List.length_map, List.length_map, hvalid, eq_comm,
    List.length_filter_eq_length_iff] at hlength
  have hall := hlength entry (List.mem_filter.mpr ⟨he, decide_eq_true haccepted⟩)
  exact of_decide_eq_true hall

/-- A well-typed stack configuration is imported into the groups of its valid entries exactly
when every entry with a valid address has a port that fits an `int` and is not one of the 100
ports above the largest. -/
theorem importsConnections_iff :
    ImportsConnections env protocolConfig ↔
      PortsDecided env (connectionEntries env protocolConfig) := by
  constructor
  · intro h entry he hv
    obtain ⟨config, himport, -⟩ := id h
    have hport := (completes_importProtocolConfig_of_typed ht .fresh).mp ⟨config, himport⟩ entry
      he hv
    obtain ⟨port, hp⟩ := Option.isSome_iff_exists.mp hport
    refine ⟨port, hp, ?_⟩
    by_contra hbetween
    have haccepted : AcceptedConnection env entry := ⟨hv, port, hp, by omega, by omega⟩
    obtain ⟨-, port', hp', hlow, hhigh⟩ := valid_of_accepted ht h he haccepted
    have heq : port = port' := Option.mem_unique hp hp'
    omega
  · intro hdecided
    have hport : ∀ entry ∈ connectionEntries env protocolConfig,
        validAddress env entry = true → (portOf entry).isSome := by
      intro entry he hv
      obtain ⟨port, hp, -⟩ := hdecided entry he hv
      exact Option.isSome_iff_exists.mpr ⟨port, hp⟩
    obtain ⟨config, h⟩ := (completes_importProtocolConfig_of_typed ht .fresh).mpr hport
    refine ⟨config, h, ?_⟩
    rw [connections_eq_of_typed ht h]
    congr 1
    apply List.filter_congr
    intro entry he
    rw [decide_eq_decide]
    exact accepted_iff_valid (hdecided entry he)

end Typed

/-! ### A port above the largest -/

/-- A stack configuration with a connection whose port is 65536. -/
def highPortText : String :=
  "\x7b\"protocol_stack\":\x7b\"transport_layer\":\x7b\"connections\":" ++
    "[\x7b\"ip_addr\":\"127.0.0.1\",\"port\":65536\x7d]\x7d\x7d\x7d"

/-- The connection in the document of `highPortText`. -/
def highPortEntry : Value := .object [("ip_addr", .string "127.0.0.1"), ("port", .int 65536)]

/-- The document that `highPortText` parses to. -/
def highPortStack : Value :=
  .object [("protocol_stack", .object [("transport_layer",
    .object [("connections", .array [highPortEntry])])])]

/-- A parser that reads `highPortText`. -/
def highPortEnv : ImportEnv := .ofTable [(highPortText, highPortStack)]

private theorem connectionTyped_highPort : ConnectionTyped highPortEntry where
  isObject := rfl
  address w h := by
    cases h
    rfl
  port w h := by
    cases h
    rfl
  tls := Value.memberIs_of_none rfl
  osi osi h := by cases h

private theorem stackTyped_highPort : StackTyped highPortEnv highPortText := by
  intro document hp
  cases Option.some.inj hp
  refine ⟨?_, fun stack hs ↦ ?_, fun stack hs transport ht ↦ ?_, fun stack hs application ha ↦ ?_⟩
  · have hip : cString "ip_addr" = "ip_addr" := by decide
    have hport : cString "port" = "port" := by decide
    intro m hm expected he
    simp [highPortStack, highPortEntry, Value.scalarMembers, Value.membersScalars,
      Value.elemsScalars, Value.isScalar, Value.isObject, Value.isArray, hip, hport] at hm
    obtain rfl | rfl := hm
    · cases (show some JsonType.string = some expected from he)
      exact .inl rfl
    · cases (show some JsonType.number = some expected from he)
      exact .inl rfl
  · cases hs
    rfl
  · cases hs
    cases ht
    refine ⟨rfl, arrayOf_of_some rfl ?_, Value.memberIs_of_none rfl⟩
    simpa using connectionTyped_highPort
  · cases hs
    cases ha

/-- The equivalence holds of `highPortText`. -/
theorem importsConnections_iff_highPort :
    ImportsConnections highPortEnv highPortText ↔
      PortsDecided highPortEnv (connectionEntries highPortEnv highPortText) :=
  importsConnections_iff stackTyped_highPort

/-- The connection with the port 65536 is kept. -/
theorem not_importsConnections_highPort :
    StackTyped highPortEnv highPortText ∧ ¬ ImportsConnections highPortEnv highPortText := by
  refine ⟨stackTyped_highPort, fun ⟨config, h, hconnections⟩ ↦ ?_⟩
  rw [connections_eq_of_typed stackTyped_highPort h] at hconnections
  revert hconnections
  decide

end Tase2South.Connection
