import Tase2South.Client.DataObject

/-!
# The format of a data object

`m_createDataObject`, `src/tase2_client.cpp:550–627`, as an encoder. What an object says is a
record whose optional parts go by the type, as `hasQuality` and `hasTimestamp`
(`src/tase2_client.cpp:25–35`) put them there; a reader that looks the elements up by their
names gets the record back.
-/

namespace Tase2South.Client

open Tase2South.Base Tase2South.Config

/-! ### What an object says -/

/-- The types with a `float` for a value. -/
def isReal : DPTYPE → Bool
  | .real | .realQ | .realQTime | .realQTimeExt | .setPointReal => true
  | _ => false

/-- The quality texts. -/
structure QualityTexts where
  validity : String
  currentSource : String
  normalValue : String
  deriving DecidableEq, Repr

/-- The elements of the quality texts. -/
def QualityTexts.elems {F : Type} (q : QualityTexts) : List (String × DpValue F) :=
  [("do_validity", .string q.validity), ("do_cs", .string q.currentSource),
    ("do_quality_normal_value", .string q.normalValue)]

/-- The elements of a time. -/
def timestampElems {F : Type} (time : Int) : List (String × DpValue F) :=
  [("do_ts", .integer time), ("do_ts_validity", .string "valid")]

section

variable {F : Type}

/-- The value is one of the type. -/
def DpValue.fits (type : DPTYPE) : DpValue F → Bool
  | .string _ => false
  | .integer _ => !isReal type
  | .double _ => isReal type

/-- What a data object says of a point: it has quality and a time as its type demands. -/
@[ext] structure DataObject (F : Type) where
  type : DPTYPE
  domain : String
  name : String
  value : DpValue F
  quality : Option QualityTexts
  time : Option Int
  known : type ≠ .unknown
  fits : value.fits type = true
  quality_isSome : quality.isSome = hasQuality type
  time_isSome : time.isSome = hasTimestamp type

/-- The elements of an object. -/
def DataObject.encode (o : DataObject F) : Datapoint F where
  name := "data_object"
  elems := [("do_type", .string (dpTypeName o.type)), ("do_domain", .string o.domain),
    ("do_name", .string o.name), ("do_value", o.value)] ++
      o.quality.elim [] QualityTexts.elems ++ o.time.elim [] timestampElems

/-! ### Reading the elements -/

/-- The number of an element. -/
def Datapoint.number (p : Datapoint F) (name : String) : Option Int :=
  (p.elem name).bind fun
    | .integer n => some n
    | _ => none

/-- The quality texts, when all three are there. -/
def Datapoint.quality (p : Datapoint F) : Option QualityTexts := do
  let validity ← p.text "do_validity"
  let currentSource ← p.text "do_cs"
  let normalValue ← p.text "do_quality_normal_value"
  return ⟨validity, currentSource, normalValue⟩

/-- What the elements say, when they are those of an object. -/
def Datapoint.decode (p : Datapoint F) : Option (DataObject F) := do
  let type ← getDpTypeFromString <$> p.text "do_type"
  let domain ← p.text "do_domain"
  let name ← p.text "do_name"
  let value ← p.elem "do_value"
  let quality := p.quality
  let time := p.number "do_ts"
  if h : type ≠ .unknown ∧ value.fits type = true ∧ quality.isSome = hasQuality type ∧
      time.isSome = hasTimestamp type then
    some ⟨type, domain, name, value, quality, time, h.1, h.2.1, h.2.2.1, h.2.2.2⟩
  else none

/-- Decoding finds each part. -/
theorem Datapoint.decode_eq_some {p : Datapoint F} {o : DataObject F}
    (htype : p.text "do_type" = some (dpTypeName o.type))
    (hdomain : p.text "do_domain" = some o.domain) (hname : p.text "do_name" = some o.name)
    (hvalue : p.elem "do_value" = some o.value) (hquality : p.quality = o.quality)
    (htime : p.number "do_ts" = o.time) : p.decode = some o := by
  have hread : getDpTypeFromString (dpTypeName o.type) = o.type :=
    (getDpTypeFromString_eq_iff o.known _).mpr rfl
  simp only [Datapoint.decode, htype, hdomain, hname, hvalue, hquality, htime, hread,
    Option.map_eq_map, Option.map_some, Option.bind_eq_bind, Option.bind_some]
  exact dif_pos ⟨o.known, o.fits, o.quality_isSome, o.time_isSome⟩

/-- An encoded object is read back. -/
theorem DataObject.decode_encode (o : DataObject F) : o.encode.decode = some o := by
  apply Datapoint.decode_eq_some
  · rfl
  · rfl
  · rfl
  · rfl
  · rw [Datapoint.quality]
    simp only [Datapoint.text, Datapoint.elem, DataObject.encode]
    cases o.quality with
    | none => cases o.time <;> rfl
    | some q => cases o.time <;> rfl
  · rw [Datapoint.number]
    simp only [Datapoint.elem, DataObject.encode]
    cases o.quality with
    | none => cases o.time <;> rfl
    | some q => cases o.time <;> rfl

/-- Objects with the same elements say the same. -/
theorem DataObject.encode_inj {o o' : DataObject F} (h : o.encode = o'.encode) : o = o' := by
  have hsome := o.decode_encode
  rw [h, o'.decode_encode] at hsome
  exact (Option.some.inj hsome).symm

end

/-! ### The object of a point value -/

section

variable {PV F : Type} (lib : PointLib PV F)

/-- The value of the type, `src/tase2_client.cpp:562–603`. -/
def typedValue (value : PV) : DPTYPE → DpValue F
  | .command | .setPointDiscrete | .discrete | .discreteQ | .discreteQTime
  | .discreteQTimeExt => .integer (lib.getValueDiscrete value)
  | .stateSup | .stateSupQ | .stateSupQTime | .stateSupQTimeExt =>
    .integer (lib.getValueStateSupplemental value)
  | .state | .stateQ | .stateQTime | .stateQTimeExt => .integer (lib.getValueState value)
  | .setPointReal | .real | .realQ | .realQTime | .realQTimeExt =>
    .double (lib.getValueReal value)
  | .unknown => .integer 0

/-- The quality texts of the flags of a value. -/
def qualityTexts (value : PV) : QualityTexts where
  validity := validityToString lib.codes (lib.getFlags value)
  currentSource := currentSourceToString lib.codes (lib.getFlags value)
  normalValue := normalValueToString lib.codes (lib.getFlags value)

/-- A clock reading as `long`. -/
def longTime (ts : Nat) : Int := (BitVec.ofNat 64 ts).toInt

theorem fits_typedValue (value : PV) {type : DPTYPE} (h : type ≠ .unknown) :
    (typedValue lib value type).fits type = true := by
  cases type with
  | unknown => exact absurd rfl h
  | _ => rfl

/-- What the object of a point value says. -/
def objectOf (value : PV) (domain name : String) (ts : Nat) (type : DPTYPE)
    (known : type ≠ .unknown) : DataObject F where
  type
  domain
  name
  value := typedValue lib value type
  quality := if hasQuality type then some (qualityTexts lib value) else none
  time := if hasTimestamp type then some (longTime ts) else none
  known
  fits := fits_typedValue lib value known
  quality_isSome := by cases hasQuality type <;> rfl
  time_isSome := by cases hasTimestamp type <;> rfl

/-- Creating a data object is encoding what the object of the value says. -/
theorem createDataObject_eq_encode (value : PV) (domain name : String) (ts : Nat)
    {type : DPTYPE} (known : type ≠ .unknown) :
    createDataObject lib value domain name ts type =
      .ok (objectOf lib value domain name ts type known).encode := by
  have hvalue : valueElems lib value type = [("do_value", typedValue lib value type)] := by
    cases type with
    | unknown => exact absurd rfl known
    | _ => rfl
  have hquality : qualityElems lib value type =
      (if hasQuality type then some (qualityTexts lib value) else none).elim []
        QualityTexts.elems := by
    rw [qualityElems]
    cases hasQuality type <;> rfl
  have htime : (timeElems ts type : List (String × DpValue F)) =
      (if hasTimestamp type then some (longTime ts) else none).elim [] timestampElems := by
    rw [timeElems]
    cases hasTimestamp type <;> rfl
  rw [createDataObject, dpTypeToStr_eq known, ok_bind, hvalue, hquality, htime]
  rfl

/-- Two clock readings are one time when they agree in 64 bits. -/
theorem longTime_eq_iff (ts ts' : Nat) :
    longTime ts = longTime ts' ↔ ts % 2 ^ 64 = ts' % 2 ^ 64 := by
  rw [longTime, longTime, BitVec.toInt_inj]
  constructor
  · intro h
    simpa only [BitVec.toNat_ofNat] using congrArg BitVec.toNat h
  · intro h
    apply BitVec.eq_of_toNat_eq
    rw [BitVec.toNat_ofNat, BitVec.toNat_ofNat, h]

/-- A data object says its type, domain, name and value, the quality texts of a type with quality
and the time of a type with a timestamp, modulo 2^64: two calls build the same object exactly when
they agree on these, and reading it gives them back. -/
theorem createDataObject_lossless {type : DPTYPE} (known : type ≠ .unknown) (value : PV)
    (domain name : String) (ts : Nat) :
    (∃ p, createDataObject lib value domain name ts type = .ok p ∧
      p.decode = some (objectOf lib value domain name ts type known)) ∧
    ∀ value' domain' name' ts' type', type' ≠ .unknown →
      (createDataObject lib value domain name ts type =
          createDataObject lib value' domain' name' ts' type' ↔
        type = type' ∧ domain = domain' ∧ name = name' ∧
          typedValue lib value type = typedValue lib value' type ∧
          (hasQuality type = true → qualityTexts lib value = qualityTexts lib value') ∧
          (hasTimestamp type = true → ts % 2 ^ 64 = ts' % 2 ^ 64)) := by
  constructor
  · exact ⟨_, createDataObject_eq_encode lib value domain name ts known,
      DataObject.decode_encode _⟩
  · intro value' domain' name' ts' type' known'
    rw [createDataObject_eq_encode lib value domain name ts known,
      createDataObject_eq_encode lib value' domain' name' ts' known', Except.ok.injEq]
    constructor
    · intro h
      have hobject := DataObject.encode_inj h
      obtain ⟨rfl, rfl, rfl, hvalue, hquality, htime⟩ := (DataObject.ext_iff).mp hobject
      refine ⟨rfl, rfl, rfl, hvalue, fun hq ↦ ?_, fun ht ↦ ?_⟩
      · simpa only [objectOf, hq, if_true, Option.some.injEq] using hquality
      · rw [← longTime_eq_iff]
        simpa only [objectOf, ht, if_true, Option.some.injEq] using htime
    · rintro ⟨rfl, rfl, rfl, hvalue, hquality, htime⟩
      apply congrArg
      apply DataObject.ext
      · rfl
      · rfl
      · rfl
      · exact hvalue
      · cases hq : hasQuality type with
        | false => simp only [objectOf, hq, Bool.false_eq_true, if_false]
        | true => simp only [objectOf, hq, if_true, hquality hq]
      · cases ht : hasTimestamp type with
        | false => simp only [objectOf, ht, Bool.false_eq_true, if_false]
        | true => simp only [objectOf, ht, if_true, (longTime_eq_iff ts ts').mpr (htime ht)]

/-- A real value with quality and a time is read back. -/
theorem createDataObject_lossless_realQTime :
    (∃ p, createDataObject .tagged (.inr 5) "icc1" "point1" 7 .realQTime = .ok p ∧
      p.decode = some (objectOf .tagged (.inr 5) "icc1" "point1" 7 .realQTime (by decide))) ∧
    ∀ value' domain' name' ts' type', type' ≠ .unknown →
      (createDataObject PointLib.tagged (.inr 5) "icc1" "point1" 7 .realQTime =
          createDataObject .tagged value' domain' name' ts' type' ↔
        .realQTime = type' ∧ "icc1" = domain' ∧ "point1" = name' ∧
          typedValue PointLib.tagged (.inr 5) .realQTime =
            typedValue .tagged value' .realQTime ∧
          (hasQuality .realQTime = true →
            qualityTexts PointLib.tagged (.inr 5) = qualityTexts .tagged value') ∧
          (hasTimestamp .realQTime = true → 7 % 2 ^ 64 = ts' % 2 ^ 64)) :=
  createDataObject_lossless .tagged (by decide) (.inr 5) "icc1" "point1" 7

end

end Tase2South.Client
