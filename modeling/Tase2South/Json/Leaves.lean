import Tase2South.Json.Traverse

/-!
# The leaves that the loop visits

The loop over the explicit stack, one iteration at a time, against the structural recursion over
a document: after one iteration for each of its values it has checked each leaf once.
-/

namespace Tase2South.Json

open Tase2South.Base

namespace Value

mutual

/-- The leaves of a value in document order, each with its path. -/
def leaves (path : String) : Value → List (String × Value)
  | .object ms => membersLeaves path ms
  | .array es => elemsLeaves path 0 es
  | v => [(path, v)]

/-- The leaves below the members of an object. -/
def membersLeaves (path : String) : List (String × Value) → List (String × Value)
  | [] => []
  | (n, w) :: ms => w.leaves (memberPath path (cString n)) ++ membersLeaves path ms

/-- The leaves below the elements of an array, from a position on. -/
def elemsLeaves (path : String) : Nat → List Value → List (String × Value)
  | _, [] => []
  | i, e :: es => e.leaves (elementPath path i) ++ elemsLeaves path (i + 1) es

end

mutual

/-- The number of values in a document: itself and those below it. -/
def nodes : Value → Nat
  | .object ms => 1 + membersNodes ms
  | .array es => 1 + elemsNodes es
  | _ => 1

/-- The number of values below the members of an object. -/
def membersNodes : List (String × Value) → Nat
  | [] => 0
  | (_, w) :: ms => w.nodes + membersNodes ms

/-- The number of values below the elements of an array. -/
def elemsNodes : List Value → Nat
  | [] => 0
  | e :: es => e.nodes + elemsNodes es

end

end Value

open Value

/-- What the loop has: the stack, whose back is the head of the list, the result so far, and the
leaves that it has checked. -/
structure CheckLoop where
  stack : List (String × Value)
  result : Bool
  checked : List (String × Value)

/-- The loop before its first iteration. -/
def CheckLoop.start (v : Value) : CheckLoop := ⟨[("", v)], true, []⟩

section Loop

variable (check : String → Value → Bool)

/-- One iteration of the loop; with an empty stack there is none. -/
def CheckLoop.next : CheckLoop → Option CheckLoop
  | ⟨[], _, _⟩ => none
  | ⟨(parent, v) :: stack, result, checked⟩ =>
    if v.isScalar then
      some ⟨stack, if check parent v then result else false, checked ++ [(parent, v)]⟩
    else
      some ⟨(v.children parent).reverse ++ stack, result, checked⟩

/-- The loop after a number of iterations. -/
def CheckLoop.iterations : Nat → CheckLoop → Option CheckLoop
  | 0, l => some l
  | k + 1, l => (l.next check).bind (CheckLoop.iterations k)

/-! ### Containers and what they hold -/

private theorem membersLeaves_eq (path : String) (ms : List (String × Value)) :
    membersLeaves path ms = ms.flatMap fun m ↦ m.2.leaves (memberPath path (cString m.1)) := by
  induction ms with
  | nil => rfl
  | cons m ms ih => rw [membersLeaves, List.flatMap_cons, ih]

private theorem elemsLeaves_eq (path : String) (k : Nat) (es : List Value) :
    elemsLeaves path k es =
      (es.mapIdx fun i e ↦ (elementPath path (i + k), e)).flatMap fun p ↦ p.2.leaves p.1 := by
  induction es generalizing k with
  | nil => rfl
  | cons e es ih =>
    rw [elemsLeaves, List.mapIdx_cons, List.flatMap_cons, ih, Nat.zero_add]
    simp only [Nat.add_comm, Nat.add_left_comm]

/-- The leaves of a container are those of what it puts on the stack. -/
theorem flatMap_leaves_children (path : String) {v : Value} (h : v.isScalar = false) :
    ((v.children path).flatMap fun p ↦ p.2.leaves p.1) = v.leaves path := by
  cases v with
  | object ms => rw [children, leaves, membersLeaves_eq, List.flatMap_map]
  | array es =>
    rw [children, leaves, elemsLeaves_eq]
    rfl
  | _ => simp [isScalar, isObject, isArray] at h

/-- A scalar is its own only leaf. -/
theorem leaves_of_isScalar (path : String) {v : Value} (h : v.isScalar = true) :
    v.leaves path = [(path, v)] := by
  cases v with
  | object ms => simp [isScalar, isObject] at h
  | array es => simp [isScalar, isArray] at h
  | _ => rfl

private theorem membersNodes_eq (ms : List (String × Value)) :
    membersNodes ms = (ms.map fun m ↦ m.2.nodes).sum := by
  induction ms with
  | nil => rfl
  | cons m ms ih => rw [membersNodes, List.map_cons, List.sum_cons, ih]

private theorem elemsNodes_eq (es : List Value) : elemsNodes es = (es.map nodes).sum := by
  induction es with
  | nil => rfl
  | cons e es ih => rw [elemsNodes, List.map_cons, List.sum_cons, ih]

/-- The number of values on a stack and below. -/
def stackNodes (stack : List (String × Value)) : Nat := (stack.map fun p ↦ p.2.nodes).sum

/-- A container is one value more than what it puts on the stack. -/
theorem nodes_of_container (path : String) {v : Value} (h : v.isScalar = false) :
    v.nodes = stackNodes (v.children path) + 1 := by
  cases v with
  | object ms =>
    rw [nodes, membersNodes_eq, stackNodes, children, List.map_map, Nat.add_comm]
    rfl
  | array es =>
    have hmap : ((es.mapIdx fun i e ↦ (elementPath path i, e)).map fun p ↦ p.2.nodes) =
        es.map nodes := by
      apply List.ext_getElem
      · simp
      · intro i _ _
        simp
    rw [nodes, elemsNodes_eq, stackNodes, children, hmap, Nat.add_comm]
  | _ => simp [isScalar, isObject, isArray] at h

/-- A scalar is one value. -/
theorem nodes_of_isScalar {v : Value} (h : v.isScalar = true) : v.nodes = 1 := by
  cases v with
  | object ms => simp [isScalar, isObject] at h
  | array es => simp [isScalar, isArray] at h
  | _ => rfl

/-- The conjunction over the leaves is the one of the structural recursion. -/
theorem all_leaves (v : Value) : ∀ path,
    ((v.leaves path).all fun p ↦ check p.1 p.2) = v.allLeaves check path := by
  have hcontainer : ∀ {w : Value}, w.isScalar = false →
      (∀ path, ∀ p ∈ w.children path, ∀ path',
        ((p.2.leaves path').all fun q ↦ check q.1 q.2) = p.2.allLeaves check path') →
      ∀ path, ((w.leaves path).all fun q ↦ check q.1 q.2) = w.allLeaves check path := by
    intro w hw ih path
    rw [← flatMap_leaves_children path hw, List.all_flatMap, ← all_children check path hw,
      Bool.eq_iff_iff, List.all_eq_true, List.all_eq_true]
    exact forall₂_congr fun p hp ↦ by rw [ih path p hp]
  induction v using Value.induct with
  | scalar v hv =>
    intro path
    rw [leaves_of_isScalar path hv, allLeaves_scalar check path hv, List.all_cons, List.all_nil,
      Bool.and_true]
  | array es ih =>
    refine hcontainer rfl fun path p hp ↦ ?_
    obtain ⟨i, hi, rfl⟩ := List.mem_mapIdx.mp hp
    exact ih _ (List.getElem_mem hi)
  | object ms ih =>
    refine hcontainer rfl fun path p hp ↦ ?_
    obtain ⟨m, hm, rfl⟩ := List.mem_map.mp hp
    exact ih m hm

/-! ### The loop against the recursion -/

/-- As many iterations as there are values on the stack and below empty it; they check each leaf
once, from the back, and the result is the conjunction. -/
theorem iterations_stackNodes (stack : List (String × Value)) (result : Bool)
    (checked : List (String × Value)) :
    (CheckLoop.mk stack result checked).iterations check (stackNodes stack) =
      some ⟨[], result && stack.all fun p ↦ p.2.allLeaves check p.1,
        checked ++ stack.flatMap fun p ↦ (p.2.leaves p.1).reverse⟩ := by
  induction stack, result using checkLoop.induct check generalizing checked with
  | case1 result => simp [stackNodes, CheckLoop.iterations]
  | case2 parent v stack result hv ih =>
    have hnodes : stackNodes ((parent, v) :: stack) = stackNodes stack + 1 := by
      rw [stackNodes, List.map_cons, List.sum_cons, nodes_of_isScalar hv, Nat.add_comm]
      rfl
    have hresult : (if check parent v then result else false) = (result && check parent v) := by
      cases check parent v <;> simp
    rw [hnodes, CheckLoop.iterations, CheckLoop.next, if_pos hv, Option.bind_some, hresult, ih]
    rw [List.all_cons, List.flatMap_cons, allLeaves_scalar check parent hv,
      leaves_of_isScalar parent hv, Bool.and_assoc, List.append_assoc, List.reverse_singleton]
  | case3 parent v stack result hv ih =>
    have hcontainer : v.isScalar = false := Bool.eq_false_iff.mpr hv
    have hnodes : stackNodes ((parent, v) :: stack) =
        stackNodes ((v.children parent).reverse ++ stack) + 1 := by
      rw [stackNodes, List.map_cons, List.sum_cons, nodes_of_container parent hcontainer,
        stackNodes, stackNodes, List.map_append, List.map_reverse, List.sum_append,
        List.sum_reverse]
      omega
    rw [hnodes, CheckLoop.iterations, CheckLoop.next, if_neg hv, Option.bind_some, ih]
    rw [List.all_append, List.all_reverse, all_children check parent hcontainer, List.all_cons,
      List.flatMap_append, List.flatMap_cons, ← flatMap_leaves_children parent hcontainer,
      List.reverse_flatMap]
    rfl

/-- The whole loop over a document. -/
theorem iterations_start (v : Value) :
    (CheckLoop.start v).iterations check v.nodes =
      some ⟨[], v.allLeaves check "", (v.leaves "").reverse⟩ := by
  have hloop := iterations_stackNodes check [("", v)] true []
  have hnodes : stackNodes [("", v)] = v.nodes := Nat.add_zero _
  rw [hnodes] at hloop
  simpa [CheckLoop.start] using hloop

end Loop

end Tase2South.Json
