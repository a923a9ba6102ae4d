import Tase2South.Base.Fallible
import Tase2South.Base.Text

/-!
# JSON documents and their accessors

Values as rapidjson holds them after parsing: numbers without a fraction apart from the
others, object members in document order with repeated names kept. An accessor is valid on
its own type only and is a failure elsewhere; the guarded forms test before they access.
-/

namespace Tase2South.Json

open Tase2South.Base

/-- A parsed value. A number that is not an integer literal is `mantissa · 10 ^ exponent`. -/
inductive Value where
  | null
  | bool (b : Bool)
  | int (n : Int)
  | real (mantissa exponent : Int)
  | string (s : String)
  | array (elems : List Value)
  | object (members : List (String × Value))
  deriving Inhabited, Repr

/-- `rapidjson::Type`. -/
inductive JsonType where
  | null
  | false
  | true
  | object
  | array
  | string
  | number
  deriving DecidableEq, Repr

/-- What ends a reader of a document early: an accessor outside its own type or on a member
that is not there, or an exception raised with a text. -/
inductive Failure where
  | access
  | raised (message : String)
  deriving DecidableEq, Repr

namespace Value

/-- `GetType`. -/
def type : Value → JsonType
  | .null => .null
  | .bool false => .false
  | .bool true => .true
  | .int _ => .number
  | .real _ _ => .number
  | .string _ => .string
  | .array _ => .array
  | .object _ => .object

/-- `IsObject`. -/
def isObject : Value → Bool
  | .object _ => true
  | _ => false

/-- `IsArray`. -/
def isArray : Value → Bool
  | .array _ => true
  | _ => false

/-- `IsString`. -/
def isString : Value → Bool
  | .string _ => true
  | _ => false

/-- `IsBool`. -/
def isBool : Value → Bool
  | .bool _ => true
  | _ => false

/-- The number fits a 32-bit `int`. -/
def fitsInt (n : Int) : Bool := decide (-2147483648 ≤ n ∧ n ≤ 2147483647)

/-- `IsInt`: an integer literal that fits an `int`. -/
def isInt : Value → Bool
  | .int n => fitsInt n
  | _ => false

/-- Neither an object nor an array. -/
def isScalar (v : Value) : Bool := !v.isObject && !v.isArray

/-- The first member of a name, on an object. -/
def find? (v : Value) (name : String) : Option Value :=
  match v with
  | .object members => (members.find? (·.1 == name)).map Prod.snd
  | _ => none

/-- The text of a string, read as a C string. -/
def text? : Value → Option CText
  | .string s => some (cText s)
  | _ => none

/-- The elements of an array. -/
def array? : Value → Option (List Value)
  | .array es => some es
  | _ => none

/-- The number of an integer that fits an `int`. -/
def int? : Value → Option Int
  | .int n => if fitsInt n then some n else none
  | _ => none

/-- The truth value of a Boolean. -/
def bool? : Value → Option Bool
  | .bool b => some b
  | _ => none

/-- The text of a member, or another text. -/
def textOr (v : Value) (name otherwise : String) : String :=
  (((v.find? name).bind text?).map Subtype.val).getD otherwise

/-- The number of a member, or another number. -/
def intOr (v : Value) (name : String) (otherwise : Int) : Int :=
  ((v.find? name).bind int?).getD otherwise

/-- The truth value of a member, or another one. -/
def boolOr (v : Value) (name : String) (otherwise : Bool) : Bool :=
  ((v.find? name).bind bool?).getD otherwise

/-- A member of that name, when there is one, passes the test. -/
def MemberIs (v : Value) (name : String) (test : Value → Bool) : Prop :=
  ∀ w, v.find? name = some w → test w = true

/-! ### Accessors -/

/-- `HasMember`, valid on an object. -/
def hasMember (v : Value) (name : String) : Except Failure Bool :=
  if v.isObject then .ok (v.find? name).isSome else .error .access

/-- `operator[]` with a member name, valid when the member is there. -/
def member (v : Value) (name : String) : Except Failure Value :=
  match v.find? name with
  | some w => .ok w
  | none => .error .access

/-- `GetArray`, valid on an array. -/
def getArray (v : Value) : Except Failure (List Value) :=
  match v.array? with
  | some es => .ok es
  | none => .error .access

/-- `GetString`, valid on a string. -/
def getString (v : Value) : Except Failure CText :=
  match v.text? with
  | some s => .ok s
  | none => .error .access

/-- `GetInt`, valid on an integer that fits an `int`. -/
def getInt (v : Value) : Except Failure Int :=
  match v.int? with
  | some n => .ok n
  | none => .error .access

/-- `GetBool`, valid on a Boolean. -/
def getBool (v : Value) : Except Failure Bool :=
  match v.bool? with
  | some b => .ok b
  | none => .error .access

/-- The pattern `if (v.HasMember (name)) x = v[name].Get… ();` with the value `x` keeps
otherwise. -/
def memberOr {α : Type} (v : Value) (name : String) (get : Value → Except Failure α)
    (otherwise : α) : Except Failure α := do
  if ← v.hasMember name then
    get (← v.member name)
  else
    return otherwise

/-- The pattern `v.HasMember (name) && v[name].Is… ()` followed by `v[name].Get… ()`: what
the member holds, when it passes the test. -/
def guarded {α : Type} (v : Value) (name : String) (test : Value → Bool)
    (get : Value → Except Failure α) : Except Failure (Option α) := do
  if ← v.hasMember name then
    let w ← v.member name
    if test w then
      return some (← get w)
    else
      return none
  else
    return none

/-! ### What the accessors return -/

section Accessors

variable {α : Type} {v w : Value} {name : String} {get : Value → Except Failure α}
  {otherwise a : α}

/-- Only an object has members. -/
theorem isObject_of_find? (h : v.find? name = some w) : v.isObject = true := by
  cases v <;> simp_all [find?, isObject]

/-- What is not an object has no member. -/
theorem find?_eq_none (h : ¬ v.isObject = true) : v.find? name = none := by
  cases v <;> simp_all [find?, isObject]

/-- A member that is not there passes every test. -/
theorem memberIs_of_none {test : Value → Bool} (h : v.find? name = none) :
    v.MemberIs name test := by
  simp [MemberIs, h]

/-- On an object the member test says whether the member is there. -/
theorem hasMember_eq (h : v.isObject = true) : v.hasMember name = .ok (v.find? name).isSome := by
  rw [hasMember, if_pos h]

/-- A member that is there is returned. -/
theorem member_eq (h : v.find? name = some w) : v.member name = .ok w := by
  rw [member, h]

/-- A member that is not there cannot be taken. -/
theorem member_eq_error (h : v.find? name = none) : v.member name = .error .access := by
  rw [member, h]

/-- An array access is valid exactly on an array. -/
theorem completes_getArray_iff : Completes v.getArray ↔ v.isArray = true := by
  cases v <;> simp [getArray, array?, isArray]

/-- The elements read are those the value holds. -/
theorem getArray_eq_ok_iff {es : List Value} : v.getArray = .ok es ↔ v.array? = some es := by
  unfold getArray
  split
  · next t ht => simp [ht]
  · next ht => simp [ht]

/-- A string access is valid exactly on a string. -/
theorem completes_getString_iff : Completes v.getString ↔ v.isString = true := by
  cases v <;> simp [getString, text?, isString]

/-- The text read is the text the value holds. -/
theorem getString_eq_ok_iff {s : CText} : v.getString = .ok s ↔ v.text? = some s := by
  unfold getString
  split
  · next t ht => simp [ht]
  · next ht => simp [ht]

/-- A number access is valid exactly on an integer that fits. -/
theorem completes_getInt_iff : Completes v.getInt ↔ v.isInt = true := by
  cases v with
  | int n => cases h : fitsInt n <;> simp [getInt, int?, isInt, h]
  | _ => simp [getInt, int?, isInt]

/-- The number read is the number the value holds. -/
theorem getInt_eq_ok_iff {n : Int} : v.getInt = .ok n ↔ v.int? = some n := by
  unfold getInt
  split
  · next t ht => simp [ht]
  · next ht => simp [ht]

/-- A Boolean access is valid exactly on a Boolean. -/
theorem completes_getBool_iff : Completes v.getBool ↔ v.isBool = true := by
  cases v <;> simp [getBool, bool?, isBool]

/-- The truth value read is the one the value holds. -/
theorem getBool_eq_ok_iff {b : Bool} : v.getBool = .ok b ↔ v.bool? = some b := by
  unfold getBool
  split
  · next t ht => simp [ht]
  · next ht => simp [ht]

/-- An absent member leaves the other value. -/
theorem memberOr_of_none (hv : v.isObject = true) (h : v.find? name = none) :
    v.memberOr name get otherwise = .ok otherwise := by
  simp [memberOr, hasMember_eq hv, h, pure, Except.pure]

/-- A present member is read. -/
theorem memberOr_of_some (h : v.find? name = some w) :
    v.memberOr name get otherwise = get w := by
  simp [memberOr, hasMember_eq (isObject_of_find? h), member_eq h, h]

/-- A guarded read returns what the member yields, or the other value. -/
theorem memberOr_eq_ok_iff :
    v.memberOr name get otherwise = .ok a ↔
      v.isObject = true ∧ (match v.find? name with
        | none => otherwise = a
        | some w => get w = .ok a) := by
  by_cases hv : v.isObject = true
  · cases h : v.find? name with
    | none => simp [memberOr_of_none hv h, hv]
    | some w => simp [memberOr_of_some h, hv]
  · simp [memberOr, hasMember, hv]

/-- A guarded read is valid when the value is an object and a present member can be read. -/
theorem completes_memberOr_iff :
    Completes (v.memberOr name get otherwise) ↔
      v.isObject = true ∧ ∀ w, v.find? name = some w → Completes (get w) := by
  by_cases hv : v.isObject = true
  · cases h : v.find? name with
    | none => simp [memberOr_of_none hv h, hv]
    | some w => simp [memberOr_of_some h, hv]
  · simp [memberOr, hasMember, hv]

/-- A guarded read is valid exactly on an object, when the accessor is valid wherever the
test passes. -/
theorem completes_guarded_iff {test : Value → Bool}
    (hget : ∀ w, test w = true → Completes (get w)) :
    Completes (v.guarded name test get) ↔ v.isObject = true := by
  by_cases hv : v.isObject = true
  · cases h : v.find? name with
    | none => simp [guarded, hasMember_eq hv, h, hv]
    | some w =>
      by_cases ht : test w = true
      · obtain ⟨a, ha⟩ := hget w ht
        simp [guarded, hasMember_eq hv, member_eq h, h, ht, ha, hv]
      · simp [guarded, hasMember_eq hv, member_eq h, h, ht, hv]
  · simp [guarded, hasMember, hv]

/-- The guarded string read of an object returns the text of the member. -/
theorem guarded_getString_eq (hv : v.isObject = true) :
    v.guarded name isString getString = .ok ((v.find? name).bind text?) := by
  cases h : v.find? name with
  | none => simp [guarded, hasMember_eq hv, h]
  | some w =>
    cases w <;>
      simp [guarded, hasMember_eq hv, member_eq h, h, isString, getString, text?]

/-- The guarded array read of an object returns the elements of the member. -/
theorem guarded_getArray_eq (hv : v.isObject = true) :
    v.guarded name isArray getArray = .ok ((v.find? name).bind array?) := by
  cases h : v.find? name with
  | none => simp [guarded, hasMember_eq hv, h]
  | some w =>
    cases w <;>
      simp [guarded, hasMember_eq hv, member_eq h, h, isArray, getArray, array?]

/-- The guarded Boolean read of an object returns the truth value of the member. -/
theorem guarded_getBool_eq (hv : v.isObject = true) :
    v.guarded name isBool getBool = .ok ((v.find? name).bind bool?) := by
  cases h : v.find? name with
  | none => simp [guarded, hasMember_eq hv, h]
  | some w =>
    cases w <;>
      simp [guarded, hasMember_eq hv, member_eq h, h, isBool, getBool, bool?]

/-- The guarded object read of an object returns the member when it is an object itself. -/
theorem guarded_object_eq (hv : v.isObject = true) :
    v.guarded name isObject .ok = .ok ((v.find? name).filter isObject) := by
  cases h : v.find? name with
  | none => simp [guarded, hasMember_eq hv, h]
  | some w =>
    by_cases hw : w.isObject = true
    · simp [guarded, hasMember_eq hv, member_eq h, h, hw, Option.filter]
    · simp [guarded, hasMember_eq hv, member_eq h, h, hw, Option.filter]

/-- Where a present member is an `int`, reading it or a default returns. -/
theorem memberOr_getInt_eq {d : Int} (hv : v.isObject = true) (h : v.MemberIs name isInt) :
    v.memberOr name getInt d = .ok (v.intOr name d) := by
  rw [memberOr_eq_ok_iff, and_iff_right hv]
  cases hf : v.find? name with
  | none => simp [intOr, hf]
  | some w =>
    obtain ⟨n, hn⟩ := completes_getInt_iff.mpr (h w hf)
    rw [getInt_eq_ok_iff] at hn
    simp [intOr, hf, getInt_eq_ok_iff, hn]

/-- Where a present member is a Boolean, reading it or a default returns. -/
theorem memberOr_getBool_eq {d : Bool} (hv : v.isObject = true)
    (h : v.MemberIs name isBool) : v.memberOr name getBool d = .ok (v.boolOr name d) := by
  rw [memberOr_eq_ok_iff, and_iff_right hv]
  cases hf : v.find? name with
  | none => simp [boolOr, hf]
  | some w =>
    obtain ⟨n, hn⟩ := completes_getBool_iff.mpr (h w hf)
    rw [getBool_eq_ok_iff] at hn
    simp [boolOr, hf, getBool_eq_ok_iff, hn]

/-- Where a present member is a string, reading it or a default returns. -/
theorem memberOr_getString_eq {d : String} (hv : v.isObject = true)
    (h : v.MemberIs name isString) :
    v.memberOr name (fun w ↦ Subtype.val <$> w.getString) d = .ok (v.textOr name d) := by
  rw [memberOr_eq_ok_iff, and_iff_right hv]
  cases hf : v.find? name with
  | none => simp [textOr, hf]
  | some w =>
    obtain ⟨s, hs⟩ := completes_getString_iff.mpr (h w hf)
    simp only [hs, map_ok, textOr, hf, Option.bind_some]
    rw [getString_eq_ok_iff] at hs
    simp [hs]

end Accessors

/-- The text of a member or a default without NUL is a C string. -/
theorem cString_textOr (v : Value) (name : String) {d : String} (hd : nul ∉ d.toList) :
    cString (v.textOr name d) = v.textOr name d := by
  apply cString_eq_self
  rw [textOr]
  cases (v.find? name).bind text? with
  | none => exact hd
  | some t => exact t.property

/-! ### Edited documents -/

/-- The members of a name of an object, each replaced by its image. -/
def mapMember (v : Value) (name : String) (f : Value → Value) : Value :=
  match v with
  | .object ms => .object (ms.map fun m ↦ if m.1 == name then (m.1, f m.2) else m)
  | v => v

/-- An array with other elements. -/
def mapElems (v : Value) (f : List Value → List Value) : Value :=
  match v with
  | .array es => .array (f es)
  | v => v

/-- An object with replaced members is an object. -/
@[simp] theorem isObject_mapMember (v : Value) (name : String) (f : Value → Value) :
    (v.mapMember name f).isObject = v.isObject := by
  cases v <;> rfl

/-- The replaced member is found under its name. -/
@[simp] theorem find?_mapMember_self (v : Value) (name : String) (f : Value → Value) :
    (v.mapMember name f).find? name = (v.find? name).map f := by
  cases v with
  | object ms =>
    simp only [mapMember, find?]
    induction ms with
    | nil => rfl
    | cons m ms ih =>
      rw [List.map_cons, List.find?_cons, List.find?_cons]
      cases hm : m.1 == name with
      | false =>
        simp only [Bool.false_eq_true, if_false, hm]
        exact ih
      | true =>
        simp only [if_true, hm]
        rfl
  | _ => rfl

/-- A member of another name is found as before. -/
theorem find?_mapMember_of_ne {v : Value} {name other : String} {f : Value → Value}
    (h : other ≠ name) : (v.mapMember name f).find? other = v.find? other := by
  cases v with
  | object ms =>
    simp only [mapMember, find?]
    induction ms with
    | nil => rfl
    | cons m ms ih =>
      rw [List.map_cons, List.find?_cons, List.find?_cons]
      cases hm : m.1 == name with
      | false =>
        simp only [Bool.false_eq_true, if_false]
        cases m.1 == other with
        | false => exact ih
        | true => rfl
      | true =>
        have hne : (m.1 == other) = false := by
          rw [beq_eq_false_iff_ne, eq_of_beq hm]
          exact Ne.symm h
        simp only [if_true, hne]
        exact ih
  | _ => rfl

/-- The elements of an edited array. -/
@[simp] theorem array?_mapElems (v : Value) (f : List Value → List Value) :
    (v.mapElems f).array? = v.array?.map f := by
  cases v <;> rfl

/-- Induction over a document: scalars, then arrays and objects from what they hold. -/
theorem induct {P : Value → Prop} (scalar : ∀ v, v.isScalar = true → P v)
    (array : ∀ es, (∀ e ∈ es, P e) → P (.array es))
    (object : ∀ ms, (∀ m ∈ ms, P m.2) → P (.object ms)) : ∀ v, P v
  | .null => scalar _ rfl
  | .bool _ => scalar _ rfl
  | .int _ => scalar _ rfl
  | .real _ _ => scalar _ rfl
  | .string _ => scalar _ rfl
  | .array es => array es fun e _ ↦ induct scalar array object e
  | .object ms => object ms fun m _ ↦ induct scalar array object m.2
termination_by v => sizeOf v
decreasing_by
  · next h =>
    have := List.sizeOf_lt_of_mem h
    simp only [Value.array.sizeOf_spec]
    omega
  · next h =>
    have := List.sizeOf_lt_of_mem h
    have hm : sizeOf m.2 < sizeOf m := by
      cases m
      simp only [Prod.mk.sizeOf_spec]
      omega
    simp only [Value.object.sizeOf_spec]
    omega

end Value

end Tase2South.Json
