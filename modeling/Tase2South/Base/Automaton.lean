import Mathlib.Data.Option.Basic

/-!
# Words that a partial automaton accepts

A discipline on a sequence of calls is a partial transition function: it says which call may come
next, and what has been reached afterwards. A sequence keeps the discipline when the automaton
runs through it.
-/

namespace Tase2South.Base

universe u v

variable {σ : Type u} {α : Type v} (next : σ → α → Option σ)

/-- The automaton runs through the word from one state to another. -/
def Leads (s : σ) (word : List α) (t : σ) : Prop := word.foldlM next s = some t

instance [DecidableEq σ] (s : σ) (word : List α) (t : σ) : Decidable (Leads next s word t) :=
  inferInstanceAs (Decidable (word.foldlM next s = some t))

/-- The empty word leads to where it starts only. -/
theorem leads_nil_iff {s t : σ} : Leads next s [] t ↔ s = t := by
  rw [Leads, List.foldlM_nil]
  exact Option.some_inj

/-- A word leads on from where its first letter does. -/
theorem leads_cons_iff {s t : σ} {a : α} {word : List α} :
    Leads next s (a :: word) t ↔ ∃ u, next s a = some u ∧ Leads next u word t := by
  rw [Leads, List.foldlM_cons]
  exact Option.bind_eq_some_iff

/-- A word of one letter leads to where the letter does. -/
theorem leads_singleton_iff {s t : σ} {a : α} : Leads next s [a] t ↔ next s a = some t := by
  simp only [leads_cons_iff, leads_nil_iff, exists_eq_right]

/-- A word leads on from where its first part does. -/
theorem leads_append_iff {s t : σ} {first last : List α} :
    Leads next s (first ++ last) t ↔ ∃ u, Leads next s first u ∧ Leads next u last t := by
  rw [Leads, List.foldlM_append]
  exact Option.bind_eq_some_iff

/-- A word followed by another leads to where the other leads from its end. -/
theorem Leads.append {s t u : σ} {first last : List α} (hfirst : Leads next s first t)
    (hlast : Leads next t last u) : Leads next s (first ++ last) u :=
  (leads_append_iff next).mpr ⟨t, hfirst, hlast⟩

/-- Letters that keep a state lead nowhere else. -/
theorem leads_self_of_forall {s : σ} {word : List α} (h : ∀ a ∈ word, next s a = some s) :
    Leads next s word s := by
  induction word with
  | nil => exact (leads_nil_iff next).mpr rfl
  | cons a word ih =>
    rw [List.forall_mem_cons] at h
    exact (leads_cons_iff next).mpr ⟨s, h.1, ih h.2⟩

end Tase2South.Base
