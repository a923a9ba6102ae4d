import Tase2South.Config.Osi
import Tase2South.Config.TypeGate

/-!
# The protocol stack

`importProtocolConfig`, `src/tase2_client_config.cpp:228–513`: the connections of the
transport layer, then the polling interval, the data sets and the transfer sets of the
application layer. Each part of the document has a pure reading (what the importer makes of
it) and a typing condition (when its accessors are valid); the import returns exactly under
the conditions, and then applies the readings.
-/

namespace Tase2South.Config

open Tase2South.Base Tase2South.Json

/-! ### Connections -/

/-- The guards of the connection loop, `src/tase2_client_config.cpp:277–294`: whether a group
is built for the connection. -/
def acceptsConnection (env : ImportEnv) (connection : Value) : Except Failure Bool :=
  connection.memberOr "ip_addr" (fun ip ↦ do
    let srvIp ← ip.getString
    if env.isValidIPAddress srvIp then
      connection.memberOr "port" (fun port ↦ do
        let portVal ← port.getInt
        return !(portVal ≤ 0 || 65636 ≤ portVal)) true
    else
      return false) false

/-- The group of an accepted connection, `src/tase2_client_config.cpp:296–322`. -/
def importGroup (connection : Value) : Except Failure RedGroup := do
  let ipAddr ← (← connection.member "ip_addr").getString
  let tcpPort ← (← connection.member "port").getInt
  let group : RedGroup := { ipAddr, tcpPort, tls := false }
  let group ← connection.memberOr "osi" (importJsonConnectionOsiConfig · group) group
  let tls ← connection.guarded "tls" Value.isBool Value.getBool
  return { group with tls := tls.getD group.tls }

/-- The body of the connection loop, `src/tase2_client_config.cpp:275–324`. -/
def importConnection (env : ImportEnv) (groups : List RedGroup) (connection : Value) :
    Except Failure (List RedGroup) := do
  if ← acceptsConnection env connection then
    return groups ++ [← importGroup connection]
  else
    return groups

/-- `src/tase2_client_config.cpp:265–329`: the connections and the time to wait before the
backup connection, an `int` stored in a `uint64_t`. -/
def importTransportLayer (env : ImportEnv) (transportLayer : Value)
    (config : TASE2ClientConfig) : Except Failure (Flow TASE2ClientConfig) := do
  if ← transportLayer.hasMember "connections" then
    let connections ← (← transportLayer.member "connections").getArray
    let groups ← connections.foldlM (importConnection env) config.connections
    let timeout ← transportLayer.memberOr "backupTimeout"
      (fun w ↦ (fun n ↦ (n % 2 ^ 64).toNat) <$> w.getInt) config.backupConnectionTimeout
    return .next { config with connections := groups, backupConnectionTimeout := timeout }
  else
    return .stop config

/-! ### Data sets -/

/-- `m_polledDatapoints.erase (ref)`. -/
def TASE2ClientConfig.erasePolled (config : TASE2ClientConfig) (ref : String) :
    TASE2ClientConfig :=
  { config with
    polledDatapoints := config.polledDatapoints.erase ref
    polled_exchanged := fun r h ↦
      config.polled_exchanged r (Finmap.mem_erase.mp h).2 }

/-- The body of the entry loop, `src/tase2_client_config.cpp:374–392`. -/
def importEntry (domainName : String) (s : TASE2ClientConfig × List String)
    (entryVal : Value) : TASE2ClientConfig × List String :=
  match entryVal.text? with
  | none => s
  | some name =>
    let ref := domainName ++ ":" ++ name
    (match s.1.getExchangeDefinitionByRef ref with
      | some _ => s.1.erasePolled ref
      | none => s.1, s.2 ++ [name.val])

/-- The body of the data set loop, `src/tase2_client_config.cpp:352–407`. -/
def importDataset (config : TASE2ClientConfig) (datasetVal : Value) :
    Except Failure TASE2ClientConfig := do
  if datasetVal.isObject then
    match ← datasetVal.guarded "dataset_ref" Value.isString Value.getString with
    | none => return config
    | some datasetRef =>
      let domainName ←
        datasetVal.memberOr "domain" (fun w ↦ Subtype.val <$> w.getString) "vcc"
      let entries ← datasetVal.guarded "entries" Value.isArray Value.getArray
      let (config, names) := (entries.getD []).foldl (importEntry domainName) (config, [])
      let dynamic ← datasetVal.guarded "dynamic" Value.isBool Value.getBool
      let dataset : Dataset := ⟨domainName, datasetRef, names, dynamic.getD false⟩
      return { config with datasets := config.datasets.emplace datasetRef dataset }
  else
    return config

/-! ### Transfer sets -/

/-- The body of the condition loop, `src/tase2_client_config.cpp:443–452`. -/
def addCondition (codes : DsConditionCodes) (conditions : BitVec 32) (dsConVal : Value) :
    BitVec 32 :=
  match dsConVal.text?.bind fun name ↦ codes.dsConditions.lookup name.val with
  | none => conditions
  | some code => conditions ||| code

/-- The condition loop, `src/tase2_client_config.cpp:441–457`. -/
def importConditions (codes : DsConditionCodes) (w : Value) : Except Failure (BitVec 32) :=
  (fun es ↦ es.foldl (addCondition codes) 0#32) <$> w.getArray

/-- The body of the transfer set loop, `src/tase2_client_config.cpp:412–509`. -/
def importTransferSet (codes : DsConditionCodes) (config : TASE2ClientConfig)
    (dstsVal : Value) : Except Failure TASE2ClientConfig := do
  if dstsVal.isObject then
    let domain ← dstsVal.memberOr "domain" (fun w ↦ Subtype.val <$> w.getString) ""
    if ← dstsVal.hasMember "name" then
      let dstsRef ← (← dstsVal.member "name").getString
      let datasetRef ← dstsVal.memberOr "dataset_ref" (fun w ↦ Subtype.val <$> w.getString) ""
      let dsConditions ← dstsVal.memberOr "dsConditions" (importConditions codes) 0#32
      let interval ← dstsVal.memberOr "interval" Value.getInt 0
      let tle ← dstsVal.memberOr "tle" Value.getInt 0
      let integrityCheck ← dstsVal.memberOr "integrityCheck" Value.getInt 0
      let critical ← dstsVal.memberOr "critical" Value.getBool false
      let rbe ← dstsVal.memberOr "rbe" Value.getBool false
      let bufferTime ← dstsVal.memberOr "bufTm" Value.getInt 0
      let startTime ← dstsVal.memberOr "startTime" Value.getInt 0
      let allChangesReported ← dstsVal.memberOr "allChangesReported" Value.getBool false
      let dsts : DatasetTransferSet :=
        { domain, dstsRef, datasetRef, dsConditions, startTime, interval, tle, bufferTime,
          integrityCheck, critical, rbe, allChangesReported }
      return { config with dsTranferSets := config.dsTranferSets.emplace dstsRef dsts }
    else
      return config
  else
    return config

/-! ### The layers -/

/-- The data sets, then the transfer sets, `src/tase2_client_config.cpp:350–510`. -/
def importSets (codes : DsConditionCodes) (applicationLayer : Value)
    (config : TASE2ClientConfig) : Except Failure TASE2ClientConfig := do
  let config ← applicationLayer.memberOr "datasets"
    (fun w ↦ do (← w.getArray).foldlM importDataset config) config
  applicationLayer.memberOr "dataset_transfer_sets"
    (fun w ↦ do (← w.getArray).foldlM (importTransferSet codes) config) config

/-- `src/tase2_client_config.cpp:337–510`: a negative interval ends the import. -/
def importApplicationLayer (codes : DsConditionCodes) (applicationLayer : Value)
    (config : TASE2ClientConfig) : Except Failure (Flow TASE2ClientConfig) := do
  let intVal ← applicationLayer.memberOr "polling_interval" (fun w ↦ some <$> w.getInt) none
  if intVal.any (· < 0) then
    return .stop config
  else
    Flow.next <$> importSets codes applicationLayer
      { config with pollingInterval := intVal.getD config.pollingInterval }

/-- `src/tase2_client_config.cpp:257–512`, from the `protocol_stack` object on. -/
def importProtocolStack (env : ImportEnv) (protocolStack : Value)
    (config : TASE2ClientConfig) : Except Failure TASE2ClientConfig := do
  if ← protocolStack.hasMember "transport_layer" then
    match ← importTransportLayer env (← protocolStack.member "transport_layer") config with
    | .stop config => return config
    | .next config =>
      if ← protocolStack.hasMember "application_layer" then
        match ← importApplicationLayer env.codes
          (← protocolStack.member "application_layer") config with
        | .stop config => return config
        | .next config => return { config with protocolConfigComplete := true }
      else
        return config
  else
    return config

/-- `importProtocolConfig`, `src/tase2_client_config.cpp:228–513`. -/
def importProtocolConfig (env : ImportEnv) (protocolConfig : String)
    (config : TASE2ClientConfig) : Except Failure TASE2ClientConfig := do
  let config := { config with protocolConfigComplete := false }
  match env.parse protocolConfig with
  | none => return config
  | some document =>
    if document.isObject && traverseAndCheckTypes document then
      match ← document.guarded "protocol_stack" Value.isObject .ok with
      | none => return config
      | some protocolStack => importProtocolStack env protocolStack config
    else
      return config

end Tase2South.Config
