import Mathlib.Data.List.TakeWhile

/-!
# Texts, C strings and the first separator

A `std::string` may hold any character; handed on as `const char*` it ends at its first NUL.
Splitting at the first separator follows `find` and `substr`: without a separator both parts
are the whole text. Searching from the end finds the last place of a pattern.
-/

namespace Tase2South.Base

/-- The character that ends a C string. -/
def nul : Char := Char.ofNat 0

/-- The text a reader of the `const char*` sees. -/
def cString (s : String) : String := String.ofList (s.toList.takeWhile (· != nul))

/-- The text before the first separator and the text after it. -/
def splitFirst (sep : Char) (s : String) : String × String :=
  if sep ∈ s.toList then
    (String.ofList (s.toList.takeWhile (· != sep)),
      String.ofList ((s.toList.dropWhile (· != sep)).drop 1))
  else (s, s)

private theorem notMem_takeWhile_bne (sep : Char) (as : List Char) :
    sep ∉ as.takeWhile (· != sep) := by
  intro h
  have hb := List.mem_takeWhile_imp h
  simp at hb

private theorem takeWhile_append_sep (sep : Char) (as bs : List Char) (h : sep ∉ as) :
    (as ++ sep :: bs).takeWhile (· != sep) = as := by
  induction as with
  | nil => simp
  | cons a as ih =>
    rw [List.mem_cons, not_or] at h
    rw [List.cons_append, List.takeWhile_cons, if_pos (by simpa using Ne.symm h.1), ih h.2]

private theorem dropWhile_append_sep (sep : Char) (as bs : List Char) (h : sep ∉ as) :
    (as ++ sep :: bs).dropWhile (· != sep) = sep :: bs := by
  induction as with
  | nil => simp
  | cons a as ih =>
    rw [List.mem_cons, not_or] at h
    rw [List.cons_append, List.dropWhile_cons, if_pos (by simpa using Ne.symm h.1), ih h.2]

/-- A C string holds no NUL. -/
theorem nul_notMem_cString (s : String) : nul ∉ (cString s).toList := by
  rw [cString, String.toList_ofList]
  exact notMem_takeWhile_bne nul s.toList

/-- A text without NUL is its own C string. -/
theorem cString_eq_self {s : String} (h : nul ∉ s.toList) : cString s = s := by
  apply String.toList_inj.mp
  rw [cString, String.toList_ofList, List.takeWhile_eq_self_iff]
  intro c hc
  have hne : c ≠ nul := fun he ↦ h (he ▸ hc)
  simpa using hne

/-- A text that a `const char*` can hand on whole. -/
abbrev CText := {s : String // nul ∉ s.toList}

/-- The C string of a text. -/
def cText (s : String) : CText := ⟨cString s, nul_notMem_cString s⟩

/-- Reading a C string again changes nothing. -/
@[simp] theorem cString_cString (s : String) : cString (cString s) = cString s :=
  cString_eq_self (nul_notMem_cString s)

/-- Joining two texts with the separator puts it between their characters. -/
theorem toList_join (sep : Char) (a b : String) :
    (a ++ String.singleton sep ++ b).toList = a.toList ++ sep :: b.toList := by
  simp

/-- The part before the first separator holds none, when there is one. -/
theorem sep_notMem_splitFirst_fst {sep : Char} {s : String} (h : sep ∈ s.toList) :
    sep ∉ (splitFirst sep s).1.toList := by
  rw [splitFirst, if_pos h, String.toList_ofList]
  exact notMem_takeWhile_bne sep s.toList

/-- Splitting a joined text gives back its parts exactly when the first holds no separator. -/
theorem splitFirst_join_iff (sep : Char) (a b : String) :
    splitFirst sep (a ++ String.singleton sep ++ b) = (a, b) ↔ sep ∉ a.toList := by
  have hs : sep ∈ (a ++ String.singleton sep ++ b).toList := by
    rw [toList_join]
    simp
  constructor
  · intro h
    have hn := sep_notMem_splitFirst_fst hs
    rwa [h] at hn
  · intro h
    rw [splitFirst, if_pos hs, toList_join, takeWhile_append_sep sep _ _ h,
      dropWhile_append_sep sep _ _ h]
    simp

/-- Joining the two parts of a text with a separator gives the text back. -/
theorem join_splitFirst {sep : Char} {s : String} (h : sep ∈ s.toList) :
    (splitFirst sep s).1 ++ String.singleton sep ++ (splitFirst sep s).2 = s := by
  apply String.toList_inj.mp
  obtain ⟨as, bs, hs, hn⟩ := List.eq_append_cons_of_mem h
  rw [splitFirst, if_pos h, toList_join, String.toList_ofList, String.toList_ofList, hs,
    takeWhile_append_sep sep as bs hn, dropWhile_append_sep sep as bs hn]
  simp

/-- The two parts of a text have only characters of the text. -/
theorem mem_of_mem_splitFirst {sep c : Char} {s : String}
    (h : c ∈ (splitFirst sep s).1.toList ∨ c ∈ (splitFirst sep s).2.toList) : c ∈ s.toList := by
  unfold splitFirst at h
  split at h
  · rw [String.toList_ofList, String.toList_ofList] at h
    cases h with
    | inl h => exact (List.takeWhile_sublist _).mem h
    | inr h => exact (List.dropWhile_sublist _).mem (List.mem_of_mem_drop h)
  · cases h with
    | inl h => exact h
    | inr h => exact h

/-! ### The last place of a pattern -/

/-- The last number with the property is the first that is found from above. -/
theorem find?_reverse_range_eq_some {p : Nat → Bool} {n j : Nat} :
    (List.range n).reverse.find? p = some j ↔
      j < n ∧ p j = true ∧ ∀ i, j < i → i < n → p i = false := by
  induction n with
  | zero => simp
  | succ n ih =>
    rw [List.range_succ, List.reverse_append, List.reverse_singleton, List.singleton_append]
    cases hn : p n with
    | true =>
      rw [List.find?_cons_of_pos hn, Option.some.injEq]
      constructor
      · rintro rfl
        exact ⟨Nat.lt_succ_self n, hn, fun i hlow hhigh ↦ by omega⟩
      · rintro ⟨hlt, -, hlast⟩
        by_contra hne
        have hfalse := hlast n (by omega) (Nat.lt_succ_self n)
        rw [hn] at hfalse
        cases hfalse
    | false =>
      rw [List.find?_cons_of_neg (by simp [hn]), ih]
      constructor
      · rintro ⟨hlt, hj, hlast⟩
        refine ⟨by omega, hj, fun i hlow hhigh ↦ ?_⟩
        by_cases hi : i = n
        · rw [hi, hn]
        · exact hlast i hlow (by omega)
      · rintro ⟨hlt, hj, hlast⟩
        have hne : j ≠ n := by
          rintro rfl
          rw [hn] at hj
          cases hj
        exact ⟨by omega, hj, fun i hlow hhigh ↦ hlast i hlow (by omega)⟩

/-- A pattern stands at the last place where it fits exactly when the text ends with it. -/
theorem prefix_drop_iff_suffix {α : Type*} {pattern text : List α}
    (h : pattern.length ≤ text.length) :
    pattern <+: text.drop (text.length - pattern.length) ↔ pattern <:+ text := by
  constructor
  · intro hstarts
    have hlength : pattern.length = (text.drop (text.length - pattern.length)).length := by
      rw [List.length_drop]
      omega
    rw [hstarts.eq_of_length hlength]
    exact List.drop_suffix _ _
  · intro hsuffix
    refine ⟨[], ?_⟩
    rw [List.append_nil]
    exact List.suffix_iff_eq_drop.mp hsuffix

end Tase2South.Base
