import Tase2South.Base.UnorderedMap
import Tase2South.Json.Value

/-!
# Configuration records

The records of `include/tase2_client_config.hpp` and the tables of
`src/tase2_client_config.cpp`. A definition carries that its ref has a separator, no NUL and
a type with a name; a map of definitions carries that each is stored under its own ref; the
configuration carries that every polled ref is an exchanged one.
-/

namespace Tase2South.Config

open Tase2South.Base Tase2South.Json

/-! ### Data point types -/

/-- `DPTYPE`, `include/tase2_client_config.hpp:26–48`. -/
inductive DPTYPE where
  | real
  | realQ
  | realQTime
  | realQTimeExt
  | state
  | stateQ
  | stateQTime
  | stateQTimeExt
  | discrete
  | discreteQ
  | discreteQTime
  | discreteQTimeExt
  | stateSup
  | stateSupQ
  | stateSupQTime
  | stateSupQTimeExt
  | command
  | setPointReal
  | setPointDiscrete
  | unknown
  deriving DecidableEq, Repr

/-- The enumerator's value; `DP_TYPE_UNKNOWN` is `-1`. -/
def DPTYPE.code : DPTYPE → Int
  | .real => 0
  | .realQ => 1
  | .realQTime => 2
  | .realQTimeExt => 3
  | .state => 4
  | .stateQ => 5
  | .stateQTime => 6
  | .stateQTimeExt => 7
  | .discrete => 8
  | .discreteQ => 9
  | .discreteQTime => 10
  | .discreteQTimeExt => 11
  | .stateSup => 12
  | .stateSupQ => 13
  | .stateSupQTime => 14
  | .stateSupQTimeExt => 15
  | .command => 16
  | .setPointReal => 17
  | .setPointDiscrete => 18
  | .unknown => -1

/-- `type < COMMAND`. -/
def DPTYPE.isMonitoring (type : DPTYPE) : Bool := type.code < DPTYPE.command.code

/-- `dpTypeMap`, `src/tase2_client_config.cpp:101–120`. -/
def dpTypeMap : List (String × DPTYPE) :=
  [("State", .state), ("StateQ", .stateQ), ("StateQTime", .stateQTime),
    ("StateQTimeExt", .stateQTimeExt), ("Real", .real), ("RealQ", .realQ),
    ("RealQTime", .realQTime), ("RealQTimeExt", .realQTimeExt), ("Discrete", .discrete),
    ("DiscreteQ", .discreteQ), ("DiscreteQTime", .discreteQTime),
    ("DiscreteQTimeExt", .discreteQTimeExt), ("StateSup", .stateSup),
    ("StateSupQ", .stateSupQ), ("StateSupQTime", .stateSupQTime),
    ("StateSupQTimeExt", .stateSupQTimeExt), ("Command", .command),
    ("SetPointReal", .setPointReal), ("SetPointDiscrete", .setPointDiscrete)]

/-- `getDpTypeFromString`, `src/tase2_client_config.cpp:122–131`. -/
def getDpTypeFromString (type : String) : DPTYPE := (dpTypeMap.lookup type).getD .unknown

/-! ### Exchanged definitions -/

/-- `DataExchangeDefinition`. The importer builds one only for a ref with a colon and a
recognised type. -/
structure DataExchangeDefinition where
  ref : String
  type : DPTYPE
  label : String
  colon : ':' ∈ ref.toList
  text : nul ∉ ref.toList
  known : type ≠ .unknown
  deriving DecidableEq

/-- A status point `icc1:point1`. -/
def statusPoint : DataExchangeDefinition :=
  ⟨"icc1:point1", .state, "TS1", by decide, by decide, by decide⟩

/-- `splitExchangeRef`, `src/tase2_client_config.cpp:173–180`. -/
def splitExchangeRef (ref : String) : String × String := splitFirst ':' ref

/-- A map of definitions, each stored under its own ref. -/
structure DefinitionMap where
  map : UnorderedMap String DataExchangeDefinition
  keyed : ∀ r d, map.lookup r = some d → d.ref = r

namespace DefinitionMap

/-- The empty map. -/
def empty : DefinitionMap where
  map := ∅
  keyed := by simp

/-- `map[def->ref] = def`. -/
def assign (m : DefinitionMap) (d : DataExchangeDefinition) : DefinitionMap where
  map := m.map.insert d.ref d
  keyed := by
    intro r e h
    by_cases hr : r = d.ref
    · subst hr
      rw [Finmap.lookup_insert] at h
      rw [← Option.some.inj h]
    · rw [Finmap.lookup_insert_of_ne _ hr] at h
      exact m.keyed r e h

/-- `map.erase (ref)`. -/
def erase (m : DefinitionMap) (ref : String) : DefinitionMap where
  map := m.map.erase ref
  keyed := by
    intro r e h
    by_cases hr : r = ref
    · subst hr
      rw [Finmap.lookup_erase] at h
      cases h
    · rw [Finmap.lookup_erase_ne hr] at h
      exact m.keyed r e h

/-- Maps with the same entries are the same. -/
@[ext] theorem ext {m n : DefinitionMap} (h : m.map = n.map) : m = n := by
  cases m
  cases n
  cases h
  rfl

end DefinitionMap

/-! ### Data sets and transfer sets -/

/-- `Dataset`. -/
structure Dataset where
  domain : String
  datasetRef : String
  entries : List String
  dynamic : Bool
  deriving DecidableEq, Repr

/-- `DatasetTransferSet`; `std::make_shared` starts it with zero in every field. -/
structure DatasetTransferSet where
  domain : String
  dstsRef : String
  datasetRef : String
  dsConditions : BitVec 32
  startTime : Int
  interval : Int
  tle : Int
  bufferTime : Int
  integrityCheck : Int
  critical : Bool
  rbe : Bool
  allChangesReported : Bool
  deriving DecidableEq, Repr

/-- The library's `TASE2_DS_CONDITION_…` flags. -/
structure DsConditionCodes where
  interval : BitVec 32
  integrity : BitVec 32
  change : BitVec 32
  operatorRequested : BitVec 32
  externalEvent : BitVec 32

/-- `dsConditions`, `src/tase2_client_config.cpp:60–65`. -/
def DsConditionCodes.dsConditions (codes : DsConditionCodes) : List (String × BitVec 32) :=
  [("interval", codes.interval), ("integrity", codes.integrity), ("change", codes.change),
    ("operator_request", codes.operatorRequested), ("external_event", codes.externalEvent)]

/-! ### Connections -/

/-- A selector of the library: a byte count and a fixed buffer. -/
structure OsiSelector (capacity : Nat) where
  size : UInt8
  value : Vector UInt8 capacity
  deriving DecidableEq, Repr

/-- `std::make_shared` starts a selector with zero in every byte. -/
def OsiSelector.zero (capacity : Nat) : OsiSelector capacity := ⟨0, Vector.replicate capacity 0⟩

/-- The presentation selector, `Tase2_PSelector`. -/
abbrev PSelector := OsiSelector 16

/-- The session selector, `Tase2_SSelector`. -/
abbrev SSelector := OsiSelector 16

/-- The transport selector, `Tase2_TSelector`. -/
abbrev TSelector := OsiSelector 4

/-- `OsiParameters`, `include/tase2_client_config.hpp:60–72`. -/
@[ext] structure OsiParameters where
  localApTitle : String := ""
  localAeQualifier : Int := 0
  remoteApTitle : String := ""
  remoteAeQualifier : Int := 0
  localTSelector : TSelector := .zero 4
  remoteTSelector : TSelector := .zero 4
  localSSelector : SSelector := .zero 16
  remoteSSelector : SSelector := .zero 16
  localPSelector : PSelector := .zero 16
  remotePSelector : PSelector := .zero 16
  deriving DecidableEq, Repr

/-- `RedGroup`, `include/tase2_client_config.hpp:74–81`; `std::make_shared` starts it with
zero in every field. -/
structure RedGroup where
  ipAddr : String := ""
  tcpPort : Int := 0
  osiParameters : OsiParameters := {}
  isOsiParametersEnabled : Bool := false
  tls : Bool := false
  deriving DecidableEq, Repr

/-! ### The configuration -/

/-- `TASE2ClientConfig`, `include/tase2_client_config.hpp:114–255`. -/
structure TASE2ClientConfig where
  connections : List RedGroup
  polledDatapoints : DefinitionMap
  datasets : UnorderedMap String Dataset
  exchangeDefinitions : UnorderedMap String DataExchangeDefinition
  exchangeDefinitionsRef : DefinitionMap
  dsTranferSets : UnorderedMap String DatasetTransferSet
  protocolConfigComplete : Bool
  exchangeConfigComplete : Bool
  privateKey : String
  ownCertificate : String
  remoteCertificates : List String
  caCertificates : List String
  backupConnectionTimeout : Nat
  pollingInterval : Int
  polled_exchanged : ∀ r, r ∈ polledDatapoints.map → r ∈ exchangeDefinitionsRef.map

/-- `new TASE2ClientConfig ()`. -/
def TASE2ClientConfig.fresh : TASE2ClientConfig where
  connections := []
  polledDatapoints := .empty
  datasets := ∅
  exchangeDefinitions := ∅
  exchangeDefinitionsRef := .empty
  dsTranferSets := ∅
  protocolConfigComplete := false
  exchangeConfigComplete := false
  privateKey := ""
  ownCertificate := ""
  remoteCertificates := []
  caCertificates := []
  backupConnectionTimeout := 5000
  pollingInterval := 0
  polled_exchanged := by
    intro r h
    exact absurd h Finmap.notMem_empty

/-- `getExchangeDefinitionByRef`, `src/tase2_client_config.cpp:949–958`. -/
def TASE2ClientConfig.getExchangeDefinitionByRef (config : TASE2ClientConfig) (ref : String) :
    Option DataExchangeDefinition :=
  config.exchangeDefinitionsRef.map.lookup ref

/-- What the importers use from outside this repository: the parser of rapidjson, the
validity test of `inet_pton` for `AF_INET`, and the library's condition flags. -/
structure ImportEnv where
  parse : String → Option Value
  isValidIPAddress : String → Bool
  codes : DsConditionCodes

/-- An environment that parses the listed texts and accepts the loopback address. -/
def ImportEnv.ofTable (table : List (String × Value)) : ImportEnv where
  parse text := table.lookup text
  isValidIPAddress := (· == "127.0.0.1")
  codes := ⟨1, 2, 4, 8, 16⟩

/-- The first listed text has its document. -/
@[simp] theorem ImportEnv.parse_ofTable_self (text : String) (document : Value)
    (table : List (String × Value)) :
    (ImportEnv.ofTable ((text, document) :: table)).parse text = some document := by
  simp [ImportEnv.ofTable]

/-! ### Facts about the stored definitions -/

/-- A definition found by its ref has that ref. -/
theorem TASE2ClientConfig.ref_of_getExchangeDefinitionByRef {config : TASE2ClientConfig}
    {ref : String} {d : DataExchangeDefinition}
    (h : config.getExchangeDefinitionByRef ref = some d) : d.ref = ref :=
  config.exchangeDefinitionsRef.keyed ref d h

/-- The ref of a definition is its domain, a colon and its name. -/
theorem DataExchangeDefinition.join_splitExchangeRef (d : DataExchangeDefinition) :
    (splitExchangeRef d.ref).1 ++ ":" ++ (splitExchangeRef d.ref).2 = d.ref :=
  join_splitFirst d.colon

/-- The parts that a stored ref was joined from are C strings. -/
theorem TASE2ClientConfig.cString_of_getExchangeDefinitionByRef {config : TASE2ClientConfig}
    {domain name : String} {d : DataExchangeDefinition}
    (h : config.getExchangeDefinitionByRef (domain ++ ":" ++ name) = some d) :
    cString domain = domain ∧ cString name = name := by
  have href := ref_of_getExchangeDefinitionByRef h
  have hnul := d.text
  rw [href] at hnul
  constructor
  · exact cString_eq_self fun hn ↦ hnul (by simp [hn])
  · exact cString_eq_self fun hn ↦ hnul (by simp [hn])

/-- The domain of a definition is a C string. -/
theorem DataExchangeDefinition.cString_domain (d : DataExchangeDefinition) :
    cString (splitExchangeRef d.ref).1 = (splitExchangeRef d.ref).1 :=
  cString_eq_self fun h ↦ d.text (mem_of_mem_splitFirst (.inl h))

/-- The name of a definition is a C string. -/
theorem DataExchangeDefinition.cString_name (d : DataExchangeDefinition) :
    cString (splitExchangeRef d.ref).2 = (splitExchangeRef d.ref).2 :=
  cString_eq_self fun h ↦ d.text (mem_of_mem_splitFirst (.inr h))

end Tase2South.Config
