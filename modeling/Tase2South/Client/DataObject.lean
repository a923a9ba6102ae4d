import Tase2South.Base.Fallible
import Tase2South.Base.Numeral
import Tase2South.Config.Types

/-!
# Data objects

`m_createDataObject` and its helpers, `src/tase2_client.cpp:25–35,113–138,496–627`: the data
object of a point value. Point values and `float` numbers belong to the library, so their
types and getters are parameters.
-/

namespace Tase2South.Client

open Tase2South.Base Tase2South.Config

/-- What ends a call early: `at` outside its container, a null connection or a missing
parameter used as if it were there, or a number that `stol` cannot convert. -/
inductive ClientFault where
  | outOfRange
  | absentConnection
  | absentParameter
  | conversion (error : ConversionError)
  deriving DecidableEq, Repr

/-! ### The library's point values -/

/-- The library's `TASE2_DATA_FLAGS_…`, as `int` operands. -/
structure DataFlagCodes where
  validityValid : BitVec 32
  validityHeld : BitVec 32
  validitySuspect : BitVec 32
  validityNotValid : BitVec 32
  currentSourceTelemetered : BitVec 32
  currentSourceEntered : BitVec 32
  currentSourceCalculated : BitVec 32
  currentSourceEstimated : BitVec 32
  normalValue : BitVec 32

/-- The `Tase2_PointValue_…` functions on a type of point values and a type of `float`. -/
structure PointLib (PV F : Type) where
  createDiscrete : Int → PV
  createReal : F → PV
  getValueDiscrete : PV → Int
  getValueStateSupplemental : PV → Int
  getValueState : PV → Int
  getValueReal : PV → F
  getFlags : PV → BitVec 32
  codes : DataFlagCodes

/-- A library whose point values remember how they were made, with whole numbers for
`float`. -/
def PointLib.tagged : PointLib (Int ⊕ Int) Int where
  createDiscrete := .inl
  createReal := .inr
  getValueDiscrete value := value.elim id fun _ ↦ 0
  getValueStateSupplemental value := value.elim id fun _ ↦ 0
  getValueState value := value.elim id fun _ ↦ 0
  getValueReal value := value.elim (fun _ ↦ 0) id
  getFlags _ := 0
  codes := ⟨0, 4, 8, 12, 0, 16, 32, 48, 64⟩

/-- `validityToString`, `src/tase2_client.cpp:496–516`. -/
def validityToString (codes : DataFlagCodes) (flags : BitVec 32) : String :=
  if flags ||| codes.validityValid ≠ 0 then "valid"
  else if flags ||| codes.validityHeld ≠ 0 then "held"
  else if flags ||| codes.validitySuspect ≠ 0 then "suspect"
  else if flags ||| codes.validityNotValid ≠ 0 then "invalid"
  else ""

/-- `currentSourceToString`, `src/tase2_client.cpp:518–538`. -/
def currentSourceToString (codes : DataFlagCodes) (flags : BitVec 32) : String :=
  if flags ||| codes.currentSourceTelemetered ≠ 0 then "telemetered"
  else if flags ||| codes.currentSourceEntered ≠ 0 then "entered"
  else if flags ||| codes.currentSourceCalculated ≠ 0 then "calculated"
  else if flags ||| codes.currentSourceEstimated ≠ 0 then "estimated"
  else ""

/-- `normalValueToString`, `src/tase2_client.cpp:540–548`. -/
def normalValueToString (codes : DataFlagCodes) (flags : BitVec 32) : String :=
  if flags ||| codes.normalValue ≠ 0 then "normal" else "abnormal"

/-! ### Type names -/

/-- `DpTypeMap`, `src/tase2_client.cpp:113–132`, the names of the types. -/
def dpTypeMap : List (DPTYPE × String) :=
  [(.state, "State"), (.stateQ, "StateQ"), (.stateQTime, "StateQTime"),
    (.stateQTimeExt, "StateQTimeExt"), (.real, "Real"), (.realQ, "RealQ"),
    (.realQTime, "RealQTime"), (.realQTimeExt, "RealQTimeExt"), (.discrete, "Discrete"),
    (.discreteQ, "DiscreteQ"), (.discreteQTime, "DiscreteQTime"),
    (.discreteQTimeExt, "DiscreteQTimeExt"), (.stateSup, "StateSup"),
    (.stateSupQ, "StateSupQ"), (.stateSupQTime, "StateSupQTime"),
    (.stateSupQTimeExt, "StateSupQTimeExt"), (.command, "Command"),
    (.setPointReal, "SetPointReal"), (.setPointDiscrete, "SetPointDiscrete")]

/-- `dpTypeToStr`, `src/tase2_client.cpp:134–138`. -/
def dpTypeToStr (type : DPTYPE) : Except ClientFault String :=
  match dpTypeMap.lookup type with
  | some name => .ok name
  | none => .error .outOfRange

/-- `hasQuality`, `src/tase2_client.cpp:25–29`. -/
def hasQuality (type : DPTYPE) : Bool :=
  type.code.tmod 4 ≠ 0 && type.code < DPTYPE.command.code

/-- `hasTimestamp`, `src/tase2_client.cpp:31–35`. -/
def hasTimestamp (type : DPTYPE) : Bool :=
  2 ≤ type.code.tmod 4 && type.code < DPTYPE.command.code

/-! ### Data objects -/

/-- The scalar values of a `Datapoint`; a `double` is only ever made from a `float`. -/
inductive DpValue (F : Type) where
  | string (s : String)
  | integer (n : Int)
  | double (x : F)
  deriving DecidableEq

/-- A `Datapoint` with named scalar values. -/
structure Datapoint (F : Type) where
  name : String
  elems : List (String × DpValue F)
  deriving DecidableEq

section

variable {PV F : Type} (lib : PointLib PV F)

/-- The value element, `src/tase2_client.cpp:562–603`: the getter goes by the type. -/
def valueElems (value : PV) : DPTYPE → List (String × DpValue F)
  | .command | .setPointDiscrete | .discrete | .discreteQ | .discreteQTime
  | .discreteQTimeExt => [("do_value", .integer (lib.getValueDiscrete value))]
  | .stateSup | .stateSupQ | .stateSupQTime | .stateSupQTimeExt =>
    [("do_value", .integer (lib.getValueStateSupplemental value))]
  | .state | .stateQ | .stateQTime | .stateQTimeExt =>
    [("do_value", .integer (lib.getValueState value))]
  | .setPointReal | .real | .realQ | .realQTime | .realQTimeExt =>
    [("do_value", .double (lib.getValueReal value))]
  | .unknown => []

/-- The quality elements, `src/tase2_client.cpp:605–614`. -/
def qualityElems (value : PV) (type : DPTYPE) : List (String × DpValue F) :=
  if hasQuality type then
    let flags := lib.getFlags value
    [("do_validity", .string (validityToString lib.codes flags)),
      ("do_cs", .string (currentSourceToString lib.codes flags)),
      ("do_quality_normal_value", .string (normalValueToString lib.codes flags))]
  else []

/-- The time elements, `src/tase2_client.cpp:616–620`; a `uint64_t` is cast to `long`. -/
def timeElems (ts : Nat) (type : DPTYPE) : List (String × DpValue F) :=
  if hasTimestamp type then
    [("do_ts", .integer (BitVec.ofNat 64 ts).toInt), ("do_ts_validity", .string "valid")]
  else []

/-- `m_createDataObject`, `src/tase2_client.cpp:550–627`. -/
def createDataObject (value : PV) (domain name : String) (ts : Nat) (type : DPTYPE) :
    Except ClientFault (Datapoint F) := do
  let typeName ← dpTypeToStr type
  return ⟨"data_object", [("do_type", .string typeName), ("do_domain", .string domain),
    ("do_name", .string name)] ++ valueElems lib value type ++ qualityElems lib value type ++
      timeElems ts type⟩

end

/-! ### Reading a data object back -/

section

variable {PV F : Type} {lib : PointLib PV F}

/-- The value of the first element of a name. -/
def Datapoint.elem (p : Datapoint F) (name : String) : Option (DpValue F) :=
  p.elems.lookup name

/-- The text of an element. -/
def Datapoint.text (p : Datapoint F) (name : String) : Option String :=
  (p.elem name).bind fun
    | .string s => some s
    | _ => none

/-- The name of a type. -/
def dpTypeName (type : DPTYPE) : String := (dpTypeMap.lookup type).getD ""

/-- Every recognised type has a name. -/
theorem dpTypeToStr_eq {type : DPTYPE} (h : type ≠ .unknown) :
    dpTypeToStr type = .ok (dpTypeName type) := by
  cases type with
  | unknown => exact absurd rfl h
  | _ => rfl

/-- The names of types are those with which a configuration is read. -/
theorem getDpTypeFromString_eq_iff {type : DPTYPE} (h : type ≠ .unknown) (name : String) :
    getDpTypeFromString name = type ↔ name = dpTypeName type := by
  constructor
  · intro ht
    rw [getDpTypeFromString] at ht
    cases hl : Config.dpTypeMap.lookup name with
    | none => exact absurd (by rw [← ht, hl]; rfl) h
    | some t =>
      have heq : t = type := by simpa [hl] using ht
      obtain ⟨as, bs, hmap, -⟩ := List.lookup_eq_some_iff.mp hl
      have hmem : (name, t) ∈ Config.dpTypeMap := by
        rw [hmap]
        simp
      have hall : ∀ e ∈ Config.dpTypeMap, e.1 = dpTypeName e.2 := by decide
      exact heq ▸ hall _ hmem
  · rintro rfl
    cases type with
    | unknown => exact absurd rfl h
    | _ => decide

/-- Types with one name are the same. -/
theorem dpTypeName_inj {type type' : DPTYPE} (h : type ≠ .unknown) (h' : type' ≠ .unknown)
    (heq : dpTypeName type = dpTypeName type') : type = type' := by
  rw [← (getDpTypeFromString_eq_iff h _).mpr rfl, heq]
  exact (getDpTypeFromString_eq_iff h' _).mpr rfl

/-- The value element of a type, when it has one. -/
theorem lookup_do_value (lib : PointLib PV F) (value : PV) (type : DPTYPE)
    (rest : List (String × DpValue F)) (h : type ≠ .unknown) :
    (valueElems lib value type ++ rest).lookup "do_value" =
      (valueElems lib value type).head?.map Prod.snd := by
  cases type with
  | unknown => exact absurd rfl h
  | _ => rfl

/-- The object of a recognised type is created, and has its type, domain, name and value. -/
theorem createDataObject_eq_ok (lib : PointLib PV F) (value : PV) (domain name : String)
    (ts : Nat) {type : DPTYPE} (h : type ≠ .unknown) :
    ∃ p, createDataObject lib value domain name ts type = .ok p ∧
      p.text "do_type" = some (dpTypeName type) ∧ p.text "do_domain" = some domain ∧
      p.text "do_name" = some name ∧
      p.elem "do_value" = (valueElems lib value type).head?.map Prod.snd := by
  refine ⟨_, by rw [createDataObject, dpTypeToStr_eq h]; rfl, rfl, rfl, rfl, ?_⟩
  simp only [Datapoint.elem, List.append_assoc, List.cons_append, List.nil_append]
  exact lookup_do_value lib value type _ h

end

end Tase2South.Client
