import Mathlib.Data.List.TakeWhile

/-!
# Lifetimes of objects in a history

A program acquires objects that it must release once and may not use afterwards, and borrows
objects that it may not release. The identity of a released object can come back with a new
object, so both duties are about the history until the identity comes in again.
-/

namespace Tase2South.Base

universe u

/-- What a program does with an object. -/
inductive Touch (κ : Type u) where
  | acquire (k : κ)
  | borrow (k : κ)
  | use (k : κ)
  | release (k : κ)
  deriving DecidableEq, Repr

variable {κ : Type u}

/-- The object that comes in. -/
def Touch.begins : Touch κ → Option κ
  | .acquire k => some k
  | .borrow k => some k
  | .use _ => none
  | .release _ => none

/-- The object is released exactly once, and not used afterwards. -/
def ReleasedOnce (k : κ) (ts : List (Touch κ)) : Prop :=
  ∃ held rest, ts = held ++ .release k :: rest ∧
    .release k ∉ held ∧ .release k ∉ rest ∧ .use k ∉ rest

variable [DecidableEq κ]

/-- The history until the object comes in again. -/
def lifetime (k : κ) (ts : List (Touch κ)) : List (Touch κ) :=
  ts.takeWhile fun t ↦ t.begins ≠ some k

/-- In its lifetime every acquired object is released exactly once and not used afterwards, and
no borrowed object is released. -/
def Disciplined : List (Touch κ) → Prop
  | [] => True
  | .acquire k :: ts => ReleasedOnce k (lifetime k ts) ∧ Disciplined ts
  | .borrow k :: ts => .release k ∉ lifetime k ts ∧ Disciplined ts
  | .use _ :: ts => Disciplined ts
  | .release _ :: ts => Disciplined ts

/-- No object is used or released before it comes in. -/
def SelfContained (ts : List (Touch κ)) : Prop :=
  ∀ k, .use k ∉ lifetime k ts ∧ .release k ∉ lifetime k ts

/-- A history that keeps the discipline and needs nothing from before it. -/
structure WellOwned (ts : List (Touch κ)) : Prop where
  disciplined : Disciplined ts
  selfContained : SelfContained ts

variable {ts us : List (Touch κ)} {k : κ}

/-- A lifetime ends in the first part of a history or takes in all of it. -/
theorem lifetime_append (k : κ) (ts us : List (Touch κ)) :
    lifetime k (ts ++ us) = lifetime k ts ∨
      lifetime k ts = ts ∧ lifetime k (ts ++ us) = ts ++ lifetime k us := by
  unfold lifetime
  rw [List.takeWhile_append]
  split
  · next hlen =>
    exact Or.inr ⟨(List.takeWhile_prefix _).eq_of_length hlen, rfl⟩
  · exact Or.inl rfl

omit [DecidableEq κ] in
/-- An object that is released once stays so where a further history does not touch it. -/
theorem ReleasedOnce.append (h : ReleasedOnce k ts) (huse : .use k ∉ us)
    (hrelease : .release k ∉ us) : ReleasedOnce k (ts ++ us) := by
  obtain ⟨held, rest, rfl, hheld, hrest, hused⟩ := h
  refine ⟨held, rest ++ us, by simp, hheld, ?_, ?_⟩
  · simp [hrest, hrelease]
  · simp [hused, huse]

/-- A history that needs nothing from before it can follow one that keeps the discipline. -/
theorem Disciplined.append (ht : Disciplined ts) (hu : WellOwned us) :
    Disciplined (ts ++ us) := by
  induction ts with
  | nil => exact hu.disciplined
  | cons t ts ih =>
    rw [List.cons_append]
    cases t with
    | acquire k =>
      refine ⟨?_, ih ht.2⟩
      rcases lifetime_append k ts us with h | ⟨hall, h⟩
      · rw [h]
        exact ht.1
      · rw [h]
        have honce := ht.1
        rw [hall] at honce
        exact honce.append (hu.selfContained k).1 (hu.selfContained k).2
    | borrow k =>
      refine ⟨?_, ih ht.2⟩
      rcases lifetime_append k ts us with h | ⟨hall, h⟩
      · rw [h]
        exact ht.1
      · have hnot := ht.1
        rw [hall] at hnot
        rw [h, List.mem_append, not_or]
        exact ⟨hnot, (hu.selfContained k).2⟩
    | use k => exact ih ht
    | release k => exact ih ht

/-- Histories that need nothing from before them can follow each other. -/
theorem SelfContained.append (ht : SelfContained ts) (hu : SelfContained us) :
    SelfContained (ts ++ us) := by
  intro k
  rcases lifetime_append k ts us with h | ⟨hall, h⟩
  · rw [h]
    exact ht k
  · have hnot := ht k
    rw [hall] at hnot
    rw [h, List.mem_append, not_or, List.mem_append, not_or]
    exact ⟨⟨hnot.1, (hu k).1⟩, hnot.2, (hu k).2⟩

/-- An empty history is well owned. -/
theorem wellOwned_nil : WellOwned ([] : List (Touch κ)) :=
  ⟨trivial, fun _ ↦ ⟨List.not_mem_nil, List.not_mem_nil⟩⟩

/-- Well-owned histories can follow each other. -/
theorem WellOwned.append (ht : WellOwned ts) (hu : WellOwned us) : WellOwned (ts ++ us) :=
  ⟨ht.disciplined.append hu, ht.selfContained.append hu.selfContained⟩

/-- An object that is acquired, used and released at once is well owned. -/
theorem wellOwned_acquire_use_release (k : κ) :
    WellOwned [.acquire k, .use k, .release k] := by
  constructor
  · refine ⟨⟨[.use k], [], ?_, ?_, ?_, ?_⟩, trivial⟩
    · simp [lifetime, Touch.begins]
    · simp
    · simp
    · simp
  · intro l
    by_cases hl : k = l
    · simp [lifetime, Touch.begins, hl]
    · simp [lifetime, Touch.begins, hl, Ne.symm hl]

/-- An object that is borrowed and used is well owned. -/
theorem wellOwned_borrow_use (k : κ) : WellOwned [.borrow k, .use k] := by
  constructor
  · refine ⟨?_, trivial⟩
    simp [lifetime, Touch.begins]
  · intro l
    by_cases hl : k = l
    · simp [lifetime, Touch.begins, hl]
    · simp [lifetime, Touch.begins, hl, Ne.symm hl]

/-- An object that is only borrowed is well owned. -/
theorem wellOwned_borrow (k : κ) : WellOwned [.borrow k] := by
  constructor
  · refine ⟨?_, trivial⟩
    simp [lifetime]
  · intro l
    by_cases hl : k = l
    · simp [lifetime, Touch.begins, hl]
    · simp [lifetime, Touch.begins, hl]

end Tase2South.Base
