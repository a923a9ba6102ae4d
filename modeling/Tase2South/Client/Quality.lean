import Tase2South.Base.BitField
import Tase2South.Client.DataObject

/-!
# Quality in data objects

`validityToString`, `currentSourceToString` and `normalValueToString`,
`src/tase2_client.cpp:496–548`, through the data object of a definition with quality. The flags
are combined with each constant by `|`, so the result is compared with zero whatever they are.
-/

namespace Tase2South.Client

open Tase2South.Base Tase2South.Config

/-! ### The flag word -/

/-- The meanings of the validity field. -/
inductive Validity where
  | valid
  | held
  | suspect
  | notValid
  deriving DecidableEq, Repr

/-- The meanings of the current source field. -/
inductive CurrentSource where
  | telemetered
  | entered
  | calculated
  | estimated
  deriving DecidableEq, Repr

/-- The `TASE2_DATA_FLAGS_VALIDITY_…` constant. -/
def DataFlagCodes.validity (codes : DataFlagCodes) : Validity → BitVec 32
  | .valid => codes.validityValid
  | .held => codes.validityHeld
  | .suspect => codes.validitySuspect
  | .notValid => codes.validityNotValid

/-- The `TASE2_DATA_FLAGS_CURRENT_SOURCE_…` constant. -/
def DataFlagCodes.currentSource (codes : DataFlagCodes) : CurrentSource → BitVec 32
  | .telemetered => codes.currentSourceTelemetered
  | .entered => codes.currentSourceEntered
  | .calculated => codes.currentSourceCalculated
  | .estimated => codes.currentSourceEstimated

/-- The text that the source has for a validity. -/
def Validity.name : Validity → String
  | .valid => "valid"
  | .held => "held"
  | .suspect => "suspect"
  | .notValid => "invalid"

/-- The text that the source has for a current source. -/
def CurrentSource.name : CurrentSource → String
  | .telemetered => "telemetered"
  | .entered => "entered"
  | .calculated => "calculated"
  | .estimated => "estimated"

/-- The layout of the flag word: each group of constants has the codes of one field, the two
fields are disjoint, and the normal value has a bit of its own. -/
structure FlagFields (codes : DataFlagCodes) where
  validity : BitField 32 Validity
  currentSource : BitField 32 CurrentSource
  validity_code : validity.code = codes.validity
  currentSource_code : currentSource.code = codes.currentSource
  disjoint : validity.mask &&& currentSource.mask = 0
  normalValue_ne_zero : codes.normalValue ≠ 0
  normalValue_separate : codes.normalValue &&& (validity.mask ||| currentSource.mask) = 0

/-- The flags have the normal value bit. -/
def DataFlagCodes.NormalValue (codes : DataFlagCodes) (flags : BitVec 32) : Prop :=
  flags &&& codes.normalValue ≠ 0

instance (codes : DataFlagCodes) (flags : BitVec 32) : Decidable (codes.NormalValue flags) :=
  inferInstanceAs (Decidable (_ ≠ _))

/-- Flags that have the normal value bit are not all zero. -/
theorem DataFlagCodes.NormalValue.flags_ne_zero {codes : DataFlagCodes} {flags : BitVec 32}
    (h : codes.NormalValue flags) : flags ≠ 0 := by
  rintro rfl
  exact h BitVec.zero_and

/-! ### What the three functions return -/

private theorem or_ne_zero_iff (flags code : BitVec 32) :
    flags ||| code ≠ 0 ↔ ¬ (flags = 0 ∧ code = 0) :=
  not_congr BitVec.or_eq_zero_iff

/-- In a chain of tests by `|` the first one fails only for flags and a constant that are both zero,
and then the next constant, being another one, is not zero. -/
theorem or_chain_eq {flags first next : BitVec 32} (h : next ≠ first) (a b rest : String) :
    (if flags ||| first ≠ 0 then a else if flags ||| next ≠ 0 then b else rest) =
      if flags = 0 ∧ first = 0 then b else a := by
  by_cases hzero : flags = 0 ∧ first = 0
  · have hnext : next ≠ 0 := fun heq ↦ h (heq.trans hzero.2.symm)
    rw [if_neg (fun hne ↦ (or_ne_zero_iff _ _).mp hne hzero),
      if_pos ((or_ne_zero_iff _ _).mpr fun heq ↦ hnext heq.2), if_pos hzero]
  · rw [if_pos ((or_ne_zero_iff _ _).mpr hzero), if_neg hzero]

/-- The validity is called valid, unless the flags and that constant are both zero. -/
theorem validityToString_eq {codes : DataFlagCodes} (fields : FlagFields codes)
    (flags : BitVec 32) :
    validityToString codes flags =
      if flags = 0 ∧ codes.validityValid = 0 then "held" else "valid" := by
  have hdistinct : codes.validity .held ≠ codes.validity .valid := by
    rw [← fields.validity_code]
    exact fields.validity.distinct.ne (by decide)
  exact or_chain_eq hdistinct _ _ _

/-- The current source is named in the same way. -/
theorem currentSourceToString_eq {codes : DataFlagCodes} (fields : FlagFields codes)
    (flags : BitVec 32) :
    currentSourceToString codes flags =
      if flags = 0 ∧ codes.currentSourceTelemetered = 0 then "entered" else "telemetered" := by
  have hdistinct : codes.currentSource .entered ≠ codes.currentSource .telemetered := by
    rw [← fields.currentSource_code]
    exact fields.currentSource.distinct.ne (by decide)
  exact or_chain_eq hdistinct _ _ _

/-- Every value is called normal. -/
theorem normalValueToString_eq {codes : DataFlagCodes} (fields : FlagFields codes)
    (flags : BitVec 32) : normalValueToString codes flags = "normal" := by
  rw [normalValueToString,
    if_pos ((or_ne_zero_iff _ _).mpr fun h ↦ fields.normalValue_ne_zero h.2)]

section

variable {PV F : Type} {lib : PointLib PV F}

/-! ### Quality that is reported -/

/-- The quality elements of the object are the names of what the flags of the value carry. -/
structure ReportsQuality (lib : PointLib PV F) (fields : FlagFields lib.codes) (value : PV)
    (p : Datapoint F) : Prop where
  validity : ∀ v, fields.validity.Carries (lib.getFlags value) v →
    p.text "do_validity" = some v.name
  currentSource : ∀ c, fields.currentSource.Carries (lib.getFlags value) c →
    p.text "do_cs" = some c.name
  normalValue : p.text "do_quality_normal_value" =
    some (if lib.codes.NormalValue (lib.getFlags value) then "normal" else "abnormal")

/-- The validity and the current source that an object shows. -/
def Datapoint.qualityPair (p : Datapoint F) : Option String × Option String :=
  (p.text "do_validity", p.text "do_cs")

/-- Two values carry different validities or different current sources. -/
def QualityDiffers (lib : PointLib PV F) (fields : FlagFields lib.codes) (value value' : PV) :
    Prop :=
  fields.validity.Differ (lib.getFlags value) (lib.getFlags value') ∨
    fields.currentSource.Differ (lib.getFlags value) (lib.getFlags value')

/-- The flags carry no other validity than the valid one, no other current source than the
telemetered one, and the normal value bit. -/
structure ValidTelemeteredNormal (lib : PointLib PV F) (fields : FlagFields lib.codes)
    (value : PV) : Prop where
  validity : ∀ v, fields.validity.Carries (lib.getFlags value) v → v = .valid
  currentSource : ∀ c, fields.currentSource.Carries (lib.getFlags value) c → c = .telemetered
  normalValue : lib.codes.NormalValue (lib.getFlags value)

/-- One of the two flag words is zero and the other is not, and a first constant is zero. -/
def ZeroTellsApart (lib : PointLib PV F) (value value' : PV) : Prop :=
  Xor (lib.getFlags value = 0) (lib.getFlags value' = 0) ∧
    (lib.codes.validityValid = 0 ∨ lib.codes.currentSourceTelemetered = 0)

/-- The object of a definition with quality is created, and its quality elements are what the
three functions return. -/
theorem createDataObject_quality (lib : PointLib PV F) (value : PV) (domain name : String)
    (ts : Nat) {type : DPTYPE} (hknown : type ≠ .unknown) (h : hasQuality type = true) :
    ∃ p, createDataObject lib value domain name ts type = .ok p ∧
      p.text "do_validity" = some (validityToString lib.codes (lib.getFlags value)) ∧
      p.text "do_cs" = some (currentSourceToString lib.codes (lib.getFlags value)) ∧
      p.text "do_quality_normal_value" =
        some (normalValueToString lib.codes (lib.getFlags value)) := by
  refine ⟨_, by rw [createDataObject, dpTypeToStr_eq hknown]; rfl, ?_⟩
  rw [qualityElems, if_pos h]
  cases type with
  | unknown => exact absurd rfl hknown
  | _ => exact ⟨rfl, rfl, rfl⟩

/-- What `createDataObject` shows is the quality of the value exactly when the flags carry the
three meanings that are shown. -/
theorem reportsQuality_of_shown {fields : FlagFields lib.codes} {value : PV} {p : Datapoint F}
    (hvalidity : p.text "do_validity" = some (validityToString lib.codes (lib.getFlags value)))
    (hsource : p.text "do_cs" = some (currentSourceToString lib.codes (lib.getFlags value)))
    (hnormal : p.text "do_quality_normal_value" =
      some (normalValueToString lib.codes (lib.getFlags value))) :
    ReportsQuality lib fields value p ↔ ValidTelemeteredNormal lib fields value := by
  rw [validityToString_eq fields] at hvalidity
  rw [currentSourceToString_eq fields] at hsource
  rw [normalValueToString_eq fields] at hnormal
  constructor
  · intro h
    have hbit : lib.codes.NormalValue (lib.getFlags value) := by
      by_contra hn
      have hname := hnormal.symm.trans h.normalValue
      rw [if_neg hn] at hname
      exact absurd hname (by decide)
    have hne := hbit.flags_ne_zero
    refine ⟨fun v hv ↦ ?_, fun c hc ↦ ?_, hbit⟩
    · have hname := hvalidity.symm.trans (h.validity v hv)
      rw [if_neg fun hz ↦ hne hz.1] at hname
      cases v with
      | valid => rfl
      | _ => exact absurd hname (by decide)
    · have hname := hsource.symm.trans (h.currentSource c hc)
      rw [if_neg fun hz ↦ hne hz.1] at hname
      cases c with
      | telemetered => rfl
      | _ => exact absurd hname (by decide)
  · intro h
    have hne := h.normalValue.flags_ne_zero
    refine ⟨fun v hv ↦ ?_, fun c hc ↦ ?_, ?_⟩
    · rw [hvalidity, if_neg fun hz ↦ hne hz.1, h.validity v hv]
      rfl
    · rw [hsource, if_neg fun hz ↦ hne hz.1, h.currentSource c hc]
      rfl
    · rw [hnormal, if_pos h.normalValue]

private theorem pair_ne_iff (a a' v s : Prop) [Decidable a] [Decidable a'] [Decidable v]
    [Decidable s] {x y z w : String} (hxy : x ≠ y) (hzw : z ≠ w) :
    (some (if a ∧ v then x else y), some (if a ∧ s then z else w)) ≠
      (some (if a' ∧ v then x else y), some (if a' ∧ s then z else w)) ↔
        Xor a a' ∧ (v ∨ s) := by
  unfold Xor
  by_cases a <;> by_cases a' <;> by_cases v <;> by_cases s <;> simp_all [Ne.symm]

/-- Two objects show different pairs exactly when a zero flag word tells them apart. -/
theorem qualityPair_ne_iff (fields : FlagFields lib.codes) {value value' : PV}
    {p p' : Datapoint F}
    (hp : p.qualityPair = (some (validityToString lib.codes (lib.getFlags value)),
      some (currentSourceToString lib.codes (lib.getFlags value))))
    (hp' : p'.qualityPair = (some (validityToString lib.codes (lib.getFlags value')),
      some (currentSourceToString lib.codes (lib.getFlags value')))) :
    p.qualityPair ≠ p'.qualityPair ↔ ZeroTellsApart lib value value' := by
  rw [hp, hp', validityToString_eq fields, validityToString_eq fields,
    currentSourceToString_eq fields, currentSourceToString_eq fields]
  exact pair_ne_iff _ _ _ _ (by decide) (by decide)

/-- The objects of definitions with quality are created; each reports the quality of its value
exactly when that is valid, telemetered and normal, and two values of different validity or
current source show different pairs exactly when a zero flag word tells them apart. -/
theorem reportsQuality_iff (lib : PointLib PV F) (fields : FlagFields lib.codes)
    (value value' : PV) (domain name domain' name' : String) (ts ts' : Nat)
    {type type' : DPTYPE} (hknown : type ≠ .unknown) (hknown' : type' ≠ .unknown)
    (h : hasQuality type = true) (h' : hasQuality type' = true) :
    ∃ p p', createDataObject lib value domain name ts type = .ok p ∧
      createDataObject lib value' domain' name' ts' type' = .ok p' ∧
      (ReportsQuality lib fields value p ↔ ValidTelemeteredNormal lib fields value) ∧
      (QualityDiffers lib fields value value' →
        (p.qualityPair ≠ p'.qualityPair ↔ ZeroTellsApart lib value value')) := by
  obtain ⟨p, hp, hvalidity, hsource, hnormal⟩ :=
    createDataObject_quality lib value domain name ts hknown h
  obtain ⟨p', hp', hvalidity', hsource', -⟩ :=
    createDataObject_quality lib value' domain' name' ts' hknown' h'
  refine ⟨p, p', hp, hp', reportsQuality_of_shown hvalidity hsource hnormal, fun _ ↦ ?_⟩
  exact qualityPair_ne_iff fields (by rw [Datapoint.qualityPair, hvalidity, hsource])
    (by rw [Datapoint.qualityPair, hvalidity', hsource'])

end

/-! ### A suspect value -/

/-- A library whose point values are a whole number and a flag word. -/
def PointLib.flagged : PointLib (Int × BitVec 32) Int where
  createDiscrete value := (value, 0)
  createReal value := (value, 0)
  getValueDiscrete := Prod.fst
  getValueStateSupplemental := Prod.fst
  getValueState := Prod.fst
  getValueReal := Prod.fst
  getFlags := Prod.snd
  codes := ⟨0, 4, 8, 12, 0, 16, 32, 48, 64⟩

/-- The validity and the current source are fields of the flag word of `PointLib.flagged`. -/
def flaggedFields : FlagFields PointLib.flagged.codes where
  validity :=
    { mask := 12
      code := PointLib.flagged.codes.validity
      within := fun v ↦ by cases v <;> decide
      distinct := fun v w h ↦ by revert h; cases v <;> cases w <;> decide }
  currentSource :=
    { mask := 48
      code := PointLib.flagged.codes.currentSource
      within := fun c ↦ by cases c <;> decide
      distinct := fun c d h ↦ by revert h; cases c <;> cases d <;> decide }
  validity_code := rfl
  currentSource_code := rfl
  disjoint := by decide
  normalValue_ne_zero := by decide
  normalValue_separate := by decide

/-- The equivalence holds of a held value and a suspect one. -/
theorem reportsQuality_iff_suspect :
    ∃ p p', createDataObject .flagged (1, 4) "icc1" "point1" 0 .stateQ = .ok p ∧
      createDataObject .flagged (1, 8) "icc1" "point1" 0 .stateQ = .ok p' ∧
      (ReportsQuality .flagged flaggedFields (1, 4) p ↔
        ValidTelemeteredNormal .flagged flaggedFields (1, 4)) ∧
      (QualityDiffers .flagged flaggedFields (1, 4) (1, 8) →
        (p.qualityPair ≠ p'.qualityPair ↔ ZeroTellsApart .flagged (1, 4) (1, 8))) :=
  reportsQuality_iff .flagged flaggedFields (1, 4) (1, 8) "icc1" "point1" "icc1" "point1" 0 0
    (by decide) (by decide) (by decide) (by decide)

/-- A held value and a suspect one are both called valid, telemetered and normal. -/
theorem not_reportsQuality_suspect :
    ∃ p p', createDataObject .flagged (1, 4) "icc1" "point1" 0 .stateQ = .ok p ∧
      createDataObject .flagged (1, 8) "icc1" "point1" 0 .stateQ = .ok p' ∧
      ¬ ReportsQuality .flagged flaggedFields (1, 4) p ∧
      ¬ ReportsQuality .flagged flaggedFields (1, 8) p' ∧
      QualityDiffers .flagged flaggedFields (1, 4) (1, 8) ∧ p.qualityPair = p'.qualityPair := by
  refine ⟨_, _, rfl, rfl, fun h ↦ ?_, fun h ↦ ?_, .inl ⟨.held, .suspect, ?_, ?_, ?_⟩, rfl⟩
  · exact absurd (h.validity .held (by decide)) (by decide)
  · exact absurd (h.validity .suspect (by decide)) (by decide)
  · decide
  · decide
  · decide

end Tase2South.Client
