import Mathlib.Data.BitVec
import Mathlib.Logic.Function.Basic

/-!
# Codes in the fields of a flag word

A field of a flag word has a mask and gives each of its meanings a code within the mask, no two
of them the same. A word carries the meaning whose code its masked bits are.
-/

namespace Tase2South.Base

universe u

/-- A field of a word of `w` bits with a code for each meaning. -/
structure BitField (w : Nat) (α : Type u) where
  mask : BitVec w
  code : α → BitVec w
  within : ∀ a, code a &&& mask = code a
  distinct : Function.Injective code

namespace BitField

variable {w : Nat} {α : Type u} (field : BitField w α)

/-- The masked bits of the word are the code. -/
def Carries (word : BitVec w) (a : α) : Prop := word &&& field.mask = field.code a

/-- The two words carry different meanings. -/
def Differ (word word' : BitVec w) : Prop :=
  ∃ a b, field.Carries word a ∧ field.Carries word' b ∧ a ≠ b

instance (word : BitVec w) (a : α) : Decidable (field.Carries word a) :=
  inferInstanceAs (Decidable (_ = _))

end BitField

/-! ### Flags together -/

section

variable {w : Nat} {flags known : List (BitVec w)}

/-- Flags together in one word. -/
def unionOf (flags : List (BitVec w)) : BitVec w := flags.foldl (· ||| ·) 0#w

/-- A bit of the word is a bit of one of the flags. -/
theorem getLsbD_unionOf (flags : List (BitVec w)) (i : Nat) :
    (unionOf flags).getLsbD i = true ↔ ∃ c ∈ flags, c.getLsbD i = true := by
  have hfold : ∀ word : BitVec w, (flags.foldl (· ||| ·) word).getLsbD i = true ↔
      word.getLsbD i = true ∨ ∃ c ∈ flags, c.getLsbD i = true := by
    induction flags with
    | nil => simp
    | cons c flags ih =>
      intro word
      rw [List.foldl_cons, ih, BitVec.getLsbD_or, Bool.or_eq_true, or_assoc]
      simp only [List.exists_mem_cons_iff]
  rw [unionOf, hfold]
  simp

/-- Every flag is within the word. -/
theorem and_unionOf_of_mem {c : BitVec w} (h : c ∈ flags) : c &&& unionOf flags = c := by
  apply BitVec.eq_of_getLsbD_eq
  intro i _
  rw [BitVec.getLsbD_and]
  cases hc : c.getLsbD i with
  | false => rfl
  | true => exact (getLsbD_unionOf flags i).mpr ⟨c, h, hc⟩

/-- Some known flags together are all the known flags within them. -/
theorem unionOf_filter_within (h : ∀ c ∈ flags, c ∈ known) :
    unionOf (known.filter fun c ↦ c &&& unionOf flags == c) = unionOf flags := by
  apply BitVec.eq_of_getLsbD_eq
  intro i _
  rw [Bool.eq_iff_iff, getLsbD_unionOf]
  constructor
  · rintro ⟨c, hc, hbit⟩
    have hwithin := eq_of_beq (List.mem_filter.mp hc).2
    rw [← hwithin, BitVec.getLsbD_and, Bool.and_eq_true] at hbit
    exact hbit.2
  · intro hbit
    obtain ⟨c, hc, hbit⟩ := (getLsbD_unionOf flags i).mp hbit
    exact ⟨c, List.mem_filter.mpr ⟨h c hc, beq_iff_eq.mpr (and_unionOf_of_mem hc)⟩, hbit⟩

end

end Tase2South.Base
