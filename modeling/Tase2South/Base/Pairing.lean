import Mathlib.Data.List.Forall2

/-!
# Lists matched by position

Two lists whose elements correspond one to one, and two lists that are read side by side
although one may be longer: what holds of every pair, said of one of the lists.
-/

namespace Tase2South.Base

universe u v

variable {α : Type u} {β : Type v}

/-- Where a relation to the partner says the same of every element, a pairing has it exactly
when every element does. -/
theorem forall₂_iff_forall_mem {R Q : α → β → Prop} {C : α → Prop} {as : List α} {bs : List β}
    (h : List.Forall₂ R as bs) (hq : ∀ a ∈ as, ∀ b, R a b → (Q a b ↔ C a)) :
    List.Forall₂ Q as bs ↔ ∀ a ∈ as, C a := by
  induction h with
  | nil => simp
  | cons hab _ ih =>
    rw [List.forall₂_cons, List.forall_mem_cons, hq _ (List.mem_cons_self ..) _ hab,
      ih fun a ha ↦ hq a (List.mem_cons_of_mem _ ha)]

/-- A property of the partners is a property of the elements. -/
theorem forall_mem_iff_of_forall₂ {R : α → β → Prop} {Q : β → Prop} {C : α → Prop}
    {as : List α} {bs : List β} (h : List.Forall₂ R as bs)
    (hq : ∀ a ∈ as, ∀ b, R a b → (Q b ↔ C a)) : (∀ b ∈ bs, Q b) ↔ ∀ a ∈ as, C a := by
  induction h with
  | nil => simp
  | cons hab _ ih =>
    rw [List.forall_mem_cons, List.forall_mem_cons, hq _ (List.mem_cons_self ..) _ hab,
      ih fun a ha ↦ hq a (List.mem_cons_of_mem _ ha)]

/-- Functions that agree on partners give the same list. -/
theorem map_eq_map_of_forall₂ {γ : Type*} {R : α → β → Prop} {f : α → γ} {g : β → γ}
    {as : List α} {bs : List β} (h : List.Forall₂ R as bs) (hfg : ∀ a b, R a b → g b = f a) :
    bs.map g = as.map f := by
  induction h with
  | nil => rfl
  | cons hab _ ih => rw [List.map_cons, List.map_cons, ih, hfg _ _ hab]

/-- A pairing stays one when both lists are read beside the same third list. -/
theorem forall₂_zip_right {γ : Type*} {R : α → β → Prop} {as : List α} {bs : List β}
    (h : List.Forall₂ R as bs) (cs : List γ) :
    List.Forall₂ (fun p q ↦ R p.1 q.1 ∧ q.2 = p.2) (as.zip cs) (bs.zip cs) := by
  induction h generalizing cs with
  | nil => exact .nil
  | cons hab _ ih =>
    cases cs with
    | nil => exact .nil
    | cons c cs => exact .cons ⟨hab, rfl⟩ (ih cs)

/-- Side by side with a list that is at least as long, every element has the image there
exactly when the images are its initial part. -/
theorem forall_mem_zip_iff_map_prefix {f : α → β} {as : List α} {bs : List β}
    (hlen : as.length ≤ bs.length) :
    (∀ q ∈ as.zip bs, f q.1 = q.2) ↔ as.map f <+: bs := by
  induction as generalizing bs with
  | nil => simp
  | cons a as ih =>
    cases bs with
    | nil => simp at hlen
    | cons b bs =>
      have hlen' : as.length ≤ bs.length := by simpa using hlen
      rw [List.zip_cons_cons, List.forall_mem_cons, ih hlen', List.map_cons,
        List.cons_prefix_cons]

end Tase2South.Base
