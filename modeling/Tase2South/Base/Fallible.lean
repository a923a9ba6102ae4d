import Mathlib.Data.List.Basic
import Mathlib.Data.List.TakeWhile

/-!
# Fallible steps and loops with an early return

Completion of an `Except` computation, and the two loop shapes an imperative importer
uses: a loop that skips an element with `continue`, and a loop whose body may leave the
whole function with `return`. The rules relate a loop to one pass of its body, so that a
caller never unfolds the recursion.
-/

namespace Tase2South.Base

universe u v w

section Completion

variable {ε : Type u} {α β : Type v}

/-- The computation returns a value: it raises nothing and reaches no fault. -/
def Completes (x : Except ε α) : Prop := ∃ a, x = .ok a

/-- A pure value is a returned value. -/
@[simp] theorem pure_eq_ok (a : α) : (pure a : Except ε α) = .ok a := rfl

/-- Throwing is an error. -/
@[simp] theorem throw_eq_error (e : ε) : (throw e : Except ε α) = .error e := rfl

/-- A returned value completes. -/
@[simp] theorem completes_ok (a : α) : Completes (.ok a : Except ε α) := ⟨a, rfl⟩

/-- A raised error does not complete. -/
@[simp] theorem not_completes_error (e : ε) : ¬ Completes (.error e : Except ε α) := by
  rintro ⟨a, h⟩
  cases h

/-- A sequence returns exactly when both of its parts return. -/
theorem bind_eq_ok_iff {x : Except ε α} {f : α → Except ε β} {b : β} :
    x >>= f = .ok b ↔ ∃ a, x = .ok a ∧ f a = .ok b := by
  cases x with
  | error e => simp [bind, Except.bind]
  | ok a => simp [bind, Except.bind]

/-- A sequence completes exactly when its second part completes on the result of the first. -/
theorem completes_bind_iff {x : Except ε α} {f : α → Except ε β} :
    Completes (x >>= f) ↔ ∃ a, x = .ok a ∧ Completes (f a) := by
  constructor
  · rintro ⟨b, hb⟩
    obtain ⟨a, ha, hf⟩ := bind_eq_ok_iff.mp hb
    exact ⟨a, ha, b, hf⟩
  · rintro ⟨a, ha, b, hb⟩
    exact ⟨b, bind_eq_ok_iff.mpr ⟨a, ha, hb⟩⟩

/-- A returned value steps into its continuation. -/
@[simp] theorem ok_bind (a : α) (f : α → Except ε β) : (Except.ok a >>= f) = f a := rfl

/-- An error skips its continuation. -/
@[simp] theorem error_bind (e : ε) (f : α → Except ε β) :
    ((Except.error e : Except ε α) >>= f) = .error e := rfl

/-- A function applied to a returned value. -/
@[simp] theorem map_ok (f : α → β) (a : α) : f <$> (Except.ok a : Except ε α) = .ok (f a) := rfl

/-- An error stays when a function is applied. -/
@[simp] theorem map_error (f : α → β) (e : ε) :
    f <$> (Except.error e : Except ε α) = .error e := rfl

/-- Applying a function to the result returns exactly when the computation does. -/
theorem map_eq_ok_iff {x : Except ε α} {f : α → β} {b : β} :
    f <$> x = .ok b ↔ ∃ a, x = .ok a ∧ f a = b := by
  cases x <;> simp

/-- Applying a function to the result changes nothing about completion. -/
@[simp] theorem completes_map_iff {x : Except ε α} {f : α → β} :
    Completes (f <$> x) ↔ Completes x := by
  cases x <;> simp

/-- A sequence whose second part completes whatever the first returns. -/
theorem completes_bind_of_forall {x : Except ε α} {f : α → Except ε β}
    (hf : ∀ a, x = .ok a → Completes (f a)) : Completes (x >>= f) ↔ Completes x := by
  rw [completes_bind_iff]
  constructor
  · rintro ⟨a, ha, -⟩
    exact ⟨a, ha⟩
  · rintro ⟨a, ha⟩
    exact ⟨a, ha, hf a ha⟩

end Completion

/-! ### Loops that only skip -/

section Skip

variable {ε : Type u} {α : Type v} {σ : Type w}

/-- When one pass completes or not by its element alone, the loop completes exactly when
every element is good. -/
theorem completes_foldlM_iff {body : σ → α → Except ε σ} {good : α → Prop}
    (h : ∀ s a, Completes (body s a) ↔ good a) (l : List α) (s : σ) :
    Completes (l.foldlM body s) ↔ ∀ a ∈ l, good a := by
  induction l generalizing s with
  | nil => simp
  | cons a as ih =>
    rw [List.foldlM_cons, completes_bind_iff, List.forall_mem_cons]
    constructor
    · rintro ⟨s', hs, hrest⟩
      exact ⟨(h s a).mp ⟨s', hs⟩, (ih s').mp hrest⟩
    · rintro ⟨ha, has⟩
      obtain ⟨s', hs⟩ := (h s a).mpr ha
      exact ⟨s', hs, (ih s').mpr has⟩

/-- When each call completes or not by its argument alone, a list of them completes exactly when
every argument is good. -/
theorem completes_mapM_iff {β : Type w} {f : α → Except ε β} {good : α → Prop}
    (h : ∀ a, Completes (f a) ↔ good a) (l : List α) :
    Completes (l.mapM f) ↔ ∀ a ∈ l, good a := by
  induction l with
  | nil => simp
  | cons a as ih =>
    rw [List.mapM_cons, completes_bind_iff, List.forall_mem_cons]
    constructor
    · rintro ⟨b, hb, hrest⟩
      obtain ⟨bs, hbs, -⟩ := completes_bind_iff.mp hrest
      exact ⟨(h a).mp ⟨b, hb⟩, ih.mp ⟨bs, hbs⟩⟩
    · rintro ⟨ha, has⟩
      obtain ⟨b, hb⟩ := (h a).mpr ha
      obtain ⟨bs, hbs⟩ := ih.mpr has
      exact ⟨b, hb, completes_bind_iff.mpr ⟨bs, hbs, completes_ok _⟩⟩

/-- A loop whose passes all return is the pure fold of what they return. -/
theorem foldlM_eq_ok_foldl {body : σ → α → Except ε σ} {g : σ → α → σ} {l : List α}
    (h : ∀ s, ∀ a ∈ l, body s a = .ok (g s a)) (s : σ) :
    l.foldlM body s = .ok (l.foldl g s) := by
  induction l generalizing s with
  | nil => rfl
  | cons a as ih =>
    rw [List.foldlM_cons, h s a (by simp), ok_bind, List.foldl_cons]
    exact ih (fun s b hb ↦ h s b (by simp [hb])) (g s a)

/-- What every pass that returns keeps, a loop that returns keeps. -/
theorem foldlM_invariant {body : σ → α → Except ε σ} {Inv : σ → Prop}
    (h : ∀ s a s', Inv s → body s a = .ok s' → Inv s') {l : List α} {s t : σ} (hs : Inv s)
    (hrun : l.foldlM body s = .ok t) : Inv t := by
  induction l generalizing s with
  | nil =>
    cases hrun
    exact hs
  | cons a as ih =>
    rw [List.foldlM_cons] at hrun
    obtain ⟨s', hs', hrest⟩ := bind_eq_ok_iff.mp hrun
    exact ih (h s a s' hs hs') hrest

/-- What no pass changes, a pure loop does not change. -/
theorem foldl_frame {β : Type*} (g : σ → α → σ) (f : σ → β) (h : ∀ s a, f (g s a) = f s)
    (l : List α) (s : σ) : f (l.foldl g s) = f s := by
  induction l generalizing s with
  | nil => rfl
  | cons a as ih => rw [List.foldl_cons, ih, h]

end Skip

/-! ### Loops with an early return -/

section Return

variable {ε : Type u} {α : Type v} {σ : Type w}

/-- What one pass of a loop decides: go on with the next element, or leave the function. -/
inductive Flow (σ : Type w) where
  | next (state : σ)
  | stop (state : σ)
  deriving DecidableEq, Repr

/-- The state a pass ends in, whichever way it goes on. -/
def Flow.state : Flow σ → σ
  | .next s => s
  | .stop s => s

/-- Run the body over the elements until one pass leaves the function or fails. -/
def forFlow (body : α → σ → Except ε (Flow σ)) : List α → σ → Except ε (Flow σ)
  | [], s => .ok (.next s)
  | a :: as, s =>
    match body a s with
    | .error e => .error e
    | .ok (.stop s') => .ok (.stop s')
    | .ok (.next s') => forFlow body as s'

/-- The elements a loop reaches when it goes on only past those where `go` holds. -/
def reached (go : α → Prop) [DecidablePred go] : List α → List α
  | [] => []
  | a :: as => a :: if go a then reached go as else []

/-- Of the elements a loop reaches, those kept are the first that a loop over the kept ones
reaches. -/
theorem filter_reached_isPrefix (go : α → Prop) [DecidablePred go] (keep : α → Bool) (l : List α) :
    (reached go l).filter keep <+: reached go (l.filter keep) := by
  induction l with
  | nil => exact List.prefix_rfl
  | cons a as ih =>
    rw [reached]
    by_cases hgo : go a
    · rw [if_pos hgo]
      by_cases hk : keep a = true
      · rw [List.filter_cons_of_pos hk, List.filter_cons_of_pos hk, reached, if_pos hgo]
        exact (List.prefix_cons_inj a).mpr ih
      · rw [List.filter_cons_of_neg hk, List.filter_cons_of_neg hk]
        exact ih
    · rw [if_neg hgo]
      by_cases hk : keep a = true
      · rw [List.filter_cons_of_pos hk, List.filter_cons_of_pos hk, reached]
        exact (List.prefix_cons_inj a).mpr List.nil_prefix
      · rw [List.filter_cons_of_neg hk]
        exact List.nil_prefix

/-- A loop that goes on past every element it reaches that is not kept, and past every kept
element, goes on past all. -/
theorem forall_of_forall_reached {go : α → Prop} [DecidablePred go] {keep : α → Bool}
    {l : List α} (hreached : ∀ a ∈ reached go l, keep a = false → go a)
    (hkept : ∀ a ∈ l.filter keep, go a) : ∀ a ∈ l, go a := by
  induction l with
  | nil => exact hkept
  | cons b as ih =>
    have hb : go b := by
      cases hk : keep b with
      | false => exact hreached b (by rw [reached]; exact List.mem_cons_self) hk
      | true => exact hkept b (List.mem_filter.mpr ⟨List.mem_cons_self, hk⟩)
    rw [reached, if_pos hb] at hreached
    rw [List.forall_mem_cons]
    refine ⟨hb, ih (fun a ha ↦ hreached a (List.mem_cons_of_mem b ha)) fun a ha ↦ hkept a ?_⟩
    rw [List.mem_filter] at ha ⊢
    exact ⟨List.mem_cons_of_mem b ha.1, ha.2⟩

/-- When a loop goes on past every element it reaches that is not kept, a loop over the kept
elements reaches the same kept ones. -/
theorem reached_filter_eq {go : α → Prop} [DecidablePred go] {keep : α → Bool} {l : List α}
    (h : ∀ a ∈ reached go l, keep a = false → go a) :
    reached go (l.filter keep) = (reached go l).filter keep := by
  induction l with
  | nil => rfl
  | cons b as ih =>
    rw [reached] at h ⊢
    by_cases hgo : go b
    · rw [if_pos hgo] at h ⊢
      have hrest := ih fun a ha ↦ h a (List.mem_cons_of_mem b ha)
      by_cases hk : keep b = true
      · rw [List.filter_cons_of_pos hk, List.filter_cons_of_pos hk, reached, if_pos hgo, hrest]
      · rw [List.filter_cons_of_neg hk, List.filter_cons_of_neg hk, hrest]
    · have hk : keep b = true := by
        by_contra hn
        exact hgo (h b List.mem_cons_self (Bool.eq_false_iff.mpr hn))
      rw [if_neg hgo, List.filter_cons_of_pos hk, List.filter_cons_of_pos hk, reached,
        if_neg hgo, List.filter_nil]

/-- Every element reached is one of the list. -/
theorem mem_of_mem_reached {go : α → Prop} [DecidablePred go] {l : List α} {a : α}
    (h : a ∈ reached go l) : a ∈ l := by
  induction l with
  | nil => exact h
  | cons b as ih =>
    rw [reached, List.mem_cons] at h
    obtain rfl | h := h
    · exact List.mem_cons_self
    · split at h
      · exact List.mem_cons_of_mem b (ih h)
      · cases h

/-- A loop that goes on past every element reaches them all. -/
theorem reached_eq_self {go : α → Prop} [DecidablePred go] {l : List α} (h : ∀ a ∈ l, go a) :
    reached go l = l := by
  induction l with
  | nil => rfl
  | cons b as ih =>
    rw [List.forall_mem_cons] at h
    rw [reached, if_pos h.1, ih h.2]

/-- A loop that goes on past the elements whose items are all kept sees, of the items in a row,
those before the first that is not kept. -/
theorem flatMap_reached_eq {β γ : Type*} {go : α → Prop} [DecidablePred go] {items : α → List β}
    {keep : β → Bool} {l : List α} (hgo : ∀ a ∈ l, go a ↔ ∀ b ∈ items a, keep b = true)
    (g : β → Option γ) :
    (reached go l).flatMap (fun a ↦ ((items a).takeWhile keep).filterMap g) =
      ((l.flatMap items).takeWhile keep).filterMap g := by
  induction l with
  | nil => rfl
  | cons a as ih =>
    rw [List.forall_mem_cons] at hgo
    rw [reached, List.flatMap_cons, List.flatMap_cons]
    by_cases ha : go a
    · have hall := hgo.1.mp ha
      rw [if_pos ha, ih hgo.2, List.takeWhile_eq_self_iff.mpr hall,
        List.takeWhile_append_of_pos hall, List.filterMap_append]
    · have hlen : ((items a).takeWhile keep).length ≠ (items a).length := by
        intro h
        refine ha (hgo.1.mpr (List.takeWhile_eq_self_iff.mp ?_))
        exact (List.takeWhile_prefix keep).eq_of_length h
      rw [if_neg ha, List.flatMap_nil, List.append_nil, List.takeWhile_append, if_neg hlen]

/-- When one pass completes, and goes on, by its element alone, the loop completes exactly
when every element it reaches is good. -/
theorem completes_forFlow_iff {body : α → σ → Except ε (Flow σ)} {good go : α → Prop}
    [DecidablePred go] (hgood : ∀ a s, Completes (body a s) ↔ good a)
    (hflow : ∀ a s r, body a s = .ok r → ((∃ s', r = .next s') ↔ go a)) (l : List α) (s : σ) :
    Completes (forFlow body l s) ↔ ∀ a ∈ reached go l, good a := by
  induction l generalizing s with
  | nil => simp [forFlow, reached]
  | cons a as ih =>
    have hg := hgood a s
    rw [forFlow, reached, List.forall_mem_cons]
    cases hb : body a s with
    | error e =>
      rw [hb] at hg
      have hn : ¬ good a := fun h ↦ not_completes_error e (hg.mpr h)
      simp [hn]
    | ok r =>
      rw [hb] at hg
      have hy : good a := hg.mp (completes_ok r)
      have hgo := hflow a s r hb
      cases r with
      | stop s' =>
        have hn : ¬ go a := by simpa using hgo
        simp [hy, hn]
      | next s' =>
        have hyes : go a := by simpa using hgo
        simp [hy, hyes, ih]

/-- A loop that returns stops with its first element, or goes past it and returns from there. -/
theorem forFlow_cons_eq_ok {body : α → σ → Except ε (Flow σ)} {a : α} {as : List α} {s : σ}
    {r : Flow σ} (h : forFlow body (a :: as) s = .ok r) :
    (∃ s', body a s = .ok (.stop s') ∧ r = .stop s') ∨
      ∃ s', body a s = .ok (.next s') ∧ forFlow body as s' = .ok r := by
  rw [forFlow] at h
  cases hb : body a s with
  | error e =>
    rw [hb] at h
    cases h
  | ok q =>
    rw [hb] at h
    cases q with
    | stop s' => exact .inl ⟨s', rfl, (Except.ok.inj h).symm⟩
    | next s' => exact .inr ⟨s', rfl, h⟩

/-- When the state a pass ends in is a function of its element and the state before, the loop
ends in the fold of that function over the elements it reaches. -/
theorem forFlow_state_eq {body : α → σ → Except ε (Flow σ)} {go : α → Prop}
    [DecidablePred go] {g : σ → α → σ} {l : List α}
    (hflow : ∀ a s r, body a s = .ok r → ((∃ s', r = .next s') ↔ go a))
    (hstate : ∀ a s r, body a s = .ok r → r.state = g s a) {s : σ} {r : Flow σ}
    (hr : forFlow body l s = .ok r) : r.state = (reached go l).foldl g s := by
  induction l generalizing s with
  | nil =>
    cases hr
    rfl
  | cons a as ih =>
    rw [reached, List.foldl_cons]
    rcases forFlow_cons_eq_ok hr with ⟨s', hb, rfl⟩ | ⟨s', hb, hrest⟩
    · have hn : ¬ go a := by simpa using hflow a s _ hb
      rw [← hstate a s _ hb, if_neg hn]
      rfl
    · have hyes : go a := (hflow a s _ hb).mp ⟨s', rfl⟩
      rw [← hstate a s _ hb, if_pos hyes]
      exact ih hrest

/-- The loop goes past its last element exactly when every pass goes on. -/
theorem forFlow_next_iff {body : α → σ → Except ε (Flow σ)} {go : α → Prop}
    (hflow : ∀ a s r, body a s = .ok r → ((∃ s', r = .next s') ↔ go a)) {l : List α} {s : σ}
    {r : Flow σ} (h : forFlow body l s = .ok r) : (∃ s', r = .next s') ↔ ∀ a ∈ l, go a := by
  induction l generalizing s with
  | nil =>
    cases h
    simp
  | cons a as ih =>
    rw [List.forall_mem_cons]
    rcases forFlow_cons_eq_ok h with ⟨s', hb, rfl⟩ | ⟨s', hb, hrest⟩
    · have hn : ¬ go a := by simpa using hflow a s _ hb
      simp [hn]
    · have hyes : go a := (hflow a s _ hb).mp ⟨s', rfl⟩
      rw [ih hrest, and_iff_right hyes]

end Return

end Tase2South.Base
