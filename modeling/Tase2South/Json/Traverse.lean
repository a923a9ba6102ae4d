import Mathlib.Algebra.GroupWithZero.Nat
import Tase2South.Json.Value

/-!
# Checking every leaf of a document with an explicit stack

The loop keeps the values still to visit on a stack, each with the path built for it: a member
name follows a dot unless the path so far is empty, an array position is written in brackets.
The loop is the conjunction of the check over all leaves. A check that accepts every path with
a dot or a bracket only ever sees the members whose path is their bare name.
-/

namespace Tase2South.Json

open Tase2South.Base

/-- The path of a member. -/
def memberPath (parent name : String) : String :=
  if parent.isEmpty then name else parent ++ "." ++ name

/-- The path of an array element. -/
def elementPath (parent : String) (i : Nat) : String := parent ++ "[" ++ toString i ++ "]"

/-- The path has a dot or a bracket in it. -/
def Compound (path : String) : Prop := '.' ∈ path.toList ∨ '[' ∈ path.toList

/-- A scalar member of some object of a document: whether its path is its bare name, the
name as `GetString` reads it and the value. -/
structure ScalarMember where
  bare : Bool
  name : String
  value : Value

namespace Value

/-- What a value puts on the stack, in document order. -/
def children (path : String) : Value → List (String × Value)
  | .object ms => ms.map fun m ↦ (memberPath path (cString m.1), m.2)
  | .array es => es.mapIdx fun i e ↦ (elementPath path i, e)
  | _ => []

mutual

/-- The check holds at every leaf, each taken with its path. -/
def allLeaves (check : String → Value → Bool) (path : String) : Value → Bool
  | .object ms => allMembers check path ms
  | .array es => allElems check path 0 es
  | v => check path v

/-- The check holds at every leaf below the members of an object. -/
def allMembers (check : String → Value → Bool) (path : String) : List (String × Value) → Bool
  | [] => true
  | (n, w) :: ms =>
    w.allLeaves check (memberPath path (cString n)) && allMembers check path ms

/-- The check holds at every leaf below the elements of an array, from a position on. -/
def allElems (check : String → Value → Bool) (path : String) : Nat → List Value → Bool
  | _, [] => true
  | i, e :: es => e.allLeaves check (elementPath path i) && allElems check path (i + 1) es

end

mutual

/-- The scalar members at every depth below a value. -/
def scalarMembers (bare : Bool) : Value → List ScalarMember
  | .object ms => membersScalars bare ms
  | .array es => elemsScalars es
  | _ => []

/-- The scalar members among and below the members of an object. -/
def membersScalars (bare : Bool) : List (String × Value) → List ScalarMember
  | [] => []
  | (n, w) :: ms =>
    (if w.isScalar then [⟨bare, cString n, w⟩] else []) ++
      w.scalarMembers (bare && (cString n).isEmpty) ++ membersScalars bare ms

/-- The scalar members below the elements of an array. -/
def elemsScalars : List Value → List ScalarMember
  | [] => []
  | e :: es => e.scalarMembers false ++ elemsScalars es

end

end Value

open Value

/-- The size of the values that are still to visit. -/
noncomputable def pending (stack : List (String × Value)) : Nat :=
  (stack.map fun p ↦ sizeOf p.2).sum

private theorem pending_append (xs ys : List (String × Value)) :
    pending (xs ++ ys) = pending xs + pending ys := by
  simp [pending]

private theorem pending_reverse (xs : List (String × Value)) :
    pending xs.reverse = pending xs := by
  simp [pending]

private theorem sizeOf_pos (v : Value) : 0 < sizeOf v := by
  cases v <;> simp only [Value.null.sizeOf_spec, Value.bool.sizeOf_spec, Value.int.sizeOf_spec,
    Value.real.sizeOf_spec, Value.string.sizeOf_spec, Value.array.sizeOf_spec,
    Value.object.sizeOf_spec] <;> omega

private theorem pending_elements_lt (f : Nat → String) (es : List Value) :
    pending (es.mapIdx fun i e ↦ (f i, e)) < sizeOf es := by
  induction es generalizing f with
  | nil => simp [pending]
  | cons e es ih =>
    have h := ih fun i ↦ f (i + 1)
    simp only [pending, List.mapIdx_cons, List.map_cons, List.sum_cons,
      List.cons.sizeOf_spec] at h ⊢
    omega

private theorem pending_members_lt (f : String → String) (ms : List (String × Value)) :
    pending (ms.map fun m ↦ (f m.1, m.2)) < sizeOf ms := by
  induction ms with
  | nil => simp [pending]
  | cons m ms ih =>
    obtain ⟨n, w⟩ := m
    simp only [pending, List.map_cons, List.sum_cons, List.cons.sizeOf_spec,
      Prod.mk.sizeOf_spec] at ih ⊢
    omega

private theorem pending_children_lt (path : String) (v : Value) :
    pending (v.children path) < sizeOf v := by
  have hpos := sizeOf_pos v
  cases v with
  | array es =>
    have h := pending_elements_lt (elementPath path) es
    simp only [children, Value.array.sizeOf_spec]
    omega
  | object ms =>
    have h := pending_members_lt (fun n ↦ memberPath path (cString n)) ms
    simp only [children, Value.object.sizeOf_spec]
    omega
  | _ => simpa only [pending, children, List.map_nil, List.sum_nil] using hpos

/-- The explicit-stack loop: pop a value; push what it holds, or check it as a leaf. The head
of the list is the back of the stack. -/
def checkLoop (check : String → Value → Bool) :
    List (String × Value) → Bool → Bool
  | [], result => result
  | (parent, v) :: stack, result =>
    if v.isScalar then
      checkLoop check stack (result && check parent v)
    else
      checkLoop check ((v.children parent).reverse ++ stack) result
termination_by stack => pending stack
decreasing_by
  · have hpos := sizeOf_pos v
    simp only [pending, List.map_cons, List.sum_cons]
    omega
  · have h := pending_children_lt parent v
    rw [pending_append, pending_reverse]
    simp only [pending, List.map_cons, List.sum_cons] at h ⊢
    omega

/-! ### The loop is the conjunction over the leaves -/

section Loop

variable (check : String → Value → Bool)

private theorem allMembers_eq (path : String) (ms : List (String × Value)) :
    allMembers check path ms =
      ms.all fun m ↦ m.2.allLeaves check (memberPath path (cString m.1)) := by
  induction ms with
  | nil => rfl
  | cons m ms ih => rw [allMembers, List.all_cons, ih]

private theorem allElems_eq (path : String) (k : Nat) (es : List Value) :
    allElems check path k es =
      (es.mapIdx fun i e ↦ (elementPath path (i + k), e)).all
        fun p ↦ p.2.allLeaves check p.1 := by
  induction es generalizing k with
  | nil => rfl
  | cons e es ih =>
    rw [allElems, List.mapIdx_cons, List.all_cons, ih, Nat.zero_add]
    simp only [Nat.add_comm, Nat.add_left_comm]

/-- A container passes when everything it puts on the stack does. -/
theorem all_children (path : String) {v : Value} (h : v.isScalar = false) :
    ((v.children path).all fun p ↦ p.2.allLeaves check p.1) = v.allLeaves check path := by
  cases v with
  | object ms => simp [children, allLeaves, allMembers_eq, Function.comp_def]
  | array es => simp [children, allLeaves, allElems_eq]
  | _ => simp [isScalar, isObject, isArray] at h

/-- A leaf passes when the check holds at it. -/
theorem allLeaves_scalar (path : String) {v : Value} (h : v.isScalar = true) :
    v.allLeaves check path = check path v := by
  cases v with
  | object ms => simp [isScalar, isObject] at h
  | array es => simp [isScalar, isArray] at h
  | _ => rfl

/-- The loop adds to its result the conjunction of the check over all pending leaves. -/
theorem checkLoop_eq (stack : List (String × Value)) (result : Bool) :
    checkLoop check stack result =
      (result && stack.all fun p ↦ p.2.allLeaves check p.1) := by
  induction stack, result using checkLoop.induct check with
  | case1 result => simp [checkLoop]
  | case2 parent v stack result hv ih =>
    rw [checkLoop, if_pos hv, ih, List.all_cons, allLeaves_scalar check parent hv,
      Bool.and_assoc]
  | case3 parent v stack result hv ih =>
    rw [checkLoop, if_neg hv, ih, List.all_append, List.all_reverse,
      all_children check parent (Bool.not_eq_true _ ▸ hv), List.all_cons]

end Loop

/-! ### A check that looks at bare names only -/

section Bare

variable {check : String → Value → Bool}

private theorem compound_elementPath (path : String) (i : Nat) :
    Compound (elementPath path i) := by
  right
  simp [elementPath]

private theorem compound_memberPath {path : String} (h : path ≠ "") (name : String) :
    Compound (memberPath path name) := by
  left
  have he : path.isEmpty = false := by simpa using h
  simp [memberPath, he]

private theorem allLeaves_compound (hc : ∀ p w, Compound p → check p w = true) (v : Value) :
    ∀ path, Compound path → v.allLeaves check path = true := by
  induction v using Value.induct with
  | scalar v hv =>
    intro path hp
    rw [allLeaves_scalar check path hv, hc path v hp]
  | array es ih =>
    intro path hp
    rw [← all_children check path (by rfl), List.all_eq_true]
    intro p hm
    obtain ⟨i, hi, rfl⟩ := List.mem_mapIdx.mp hm
    exact ih _ (List.getElem_mem hi) _ (compound_elementPath path i)
  | object ms ih =>
    intro path hp
    have hne : path ≠ "" := by
      rintro rfl
      simp [Compound] at hp
    rw [← all_children check path (by rfl), List.all_eq_true]
    intro p hm
    obtain ⟨m, hm', rfl⟩ := List.mem_map.mp hm
    exact ih m hm' _ (compound_memberPath hne _)

private theorem allLeaves_container (hc : ∀ p w, Compound p → check p w = true) {path : String}
    (hpath : path ≠ "") {w : Value} (hw : w.isScalar = false) :
    w.allLeaves check path = true := by
  rw [← all_children check path hw, List.all_eq_true]
  intro p hp
  apply allLeaves_compound hc
  cases w with
  | array es =>
    obtain ⟨i, hi, rfl⟩ := List.mem_mapIdx.mp hp
    exact compound_elementPath _ i
  | object qs =>
    obtain ⟨q, -, rfl⟩ := List.mem_map.mp hp
    exact compound_memberPath hpath _
  | _ => simp [isScalar, isObject, isArray] at hw

/-- A scalar has no members. -/
theorem scalarMembers_of_isScalar {v : Value} (h : v.isScalar = true) (bare : Bool) :
    v.scalarMembers bare = [] := by
  cases v with
  | object ms => simp [isScalar, isObject] at h
  | array es => simp [isScalar, isArray] at h
  | _ => rw [scalarMembers] <;> simp

/-- Below a value whose path is not bare, no scalar member is bare. -/
theorem bare_eq_false_of_mem (v : Value) :
    ∀ m ∈ v.scalarMembers false, m.bare = false := by
  induction v using Value.induct with
  | scalar v hv =>
    intro m hm
    rw [scalarMembers_of_isScalar hv] at hm
    cases hm
  | array es ih =>
    rw [scalarMembers]
    induction es with
    | nil => simp [elemsScalars]
    | cons e es ihe =>
      intro m hm
      rcases List.mem_append.mp hm with hm | hm
      · exact ih e (by simp) m hm
      · exact ihe (fun e' he ↦ ih e' (by simp [he])) m hm
  | object ms ih =>
    rw [scalarMembers]
    induction ms with
    | nil => simp [membersScalars]
    | cons q ms ihm =>
      obtain ⟨n, w⟩ := q
      intro m hm
      simp only [membersScalars, Bool.false_and, List.mem_append] at hm
      rcases hm with (hm | hm) | hm
      · split at hm <;> simp_all
      · exact ih (n, w) (by simp) m hm
      · exact ihm (fun q hq ↦ ih q (by simp [hq])) m hm

private theorem allMembers_bare (hc : ∀ p w, Compound p → check p w = true)
    (ms : List (String × Value))
    (ih : ∀ m ∈ ms, m.2.isScalar = false → (m.2.allLeaves check "" = true ↔
      ∀ q ∈ m.2.scalarMembers true, q.bare = true → check q.name q.value = true)) :
    allMembers check "" ms = true ↔
      ∀ q ∈ membersScalars true ms, q.bare = true → check q.name q.value = true := by
  induction ms with
  | nil => simp [allMembers, membersScalars]
  | cons m ms ihm =>
    obtain ⟨n, w⟩ := m
    have hrest := ihm fun m hm ↦ ih m (by simp [hm])
    have hpath : memberPath "" (cString n) = cString n := by simp [memberPath]
    rw [allMembers, Bool.and_eq_true, hpath, hrest, membersScalars]
    simp only [Bool.true_and, List.forall_mem_append]
    cases hw : w.isScalar with
    | true =>
      simp [allLeaves_scalar check _ hw, scalarMembers_of_isScalar hw]
    | false =>
      cases hn : (cString n).isEmpty with
      | true =>
        have he : cString n = "" := by simpa using hn
        have hm := ih (n, w) (by simp) hw
        rw [he, hm]
        simp
      | false =>
        have hne : cString n ≠ "" := by simpa using hn
        have hl : w.allLeaves check (cString n) = true := allLeaves_container hc hne hw
        have hb := bare_eq_false_of_mem w
        constructor
        · rintro ⟨-, h⟩
          exact ⟨⟨by simp, fun q hq ht ↦ absurd ht (by simp [hb q hq])⟩, h⟩
        · rintro ⟨-, h⟩
          exact ⟨hl, h⟩

/-- A check that accepts every path with a dot or a bracket passes a container exactly when
it accepts the scalar members with a bare name. -/
theorem allLeaves_bare_iff (hc : ∀ p w, Compound p → check p w = true) (v : Value) :
    v.isScalar = false → (v.allLeaves check "" = true ↔
      ∀ q ∈ v.scalarMembers true, q.bare = true → check q.name q.value = true) := by
  induction v using Value.induct with
  | scalar v hv => simp [hv]
  | array es ih =>
    intro hs
    have hl : (Value.array es).allLeaves check "" = true := by
      rw [← all_children check _ hs, List.all_eq_true]
      intro p hp
      obtain ⟨i, hi, rfl⟩ := List.mem_mapIdx.mp hp
      exact allLeaves_compound hc _ _ (compound_elementPath _ i)
    have hb : ∀ m ∈ (Value.array es).scalarMembers true, m.bare = false :=
      bare_eq_false_of_mem (Value.array es)
    constructor
    · intro _ q hq ht
      exact absurd ht (by simp [hb q hq])
    · intro _
      exact hl
  | object ms ih =>
    intro _
    rw [allLeaves, scalarMembers]
    exact allMembers_bare hc ms ih

end Bare

end Tase2South.Json
