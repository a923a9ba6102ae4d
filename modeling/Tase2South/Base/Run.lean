import Mathlib.Data.List.Chain
import Tase2South.Base.Fallible

/-!
# Runs of a guarded transition system

A system is a partial step function over a list of actions. An invariant may need that
every step of the run meets a condition on the state before it and on its action; the run
rules carry that condition along, so that a development proves one step at a time.
-/

namespace Tase2South.Base

universe u v w

variable {σ : Type u} {act : Type v} {ε : Type w} (step : σ → act → Except ε σ)

/-- Take the actions in order; a step that fails ends the run. -/
def run : σ → List act → Except ε σ
  | s, [] => .ok s
  | s, a :: as =>
    match step s a with
    | .error e => .error e
    | .ok s' => run s' as

/-- Every step of the run meets the condition at the state it starts from. -/
def StepsMeet (cond : σ → act → Prop) : σ → List act → Prop
  | _, [] => True
  | s, a :: as => cond s a ∧ ∀ s', step s a = .ok s' → StepsMeet cond s' as

/-- Every state that the run reaches has the property. -/
def Always (P : σ → Prop) : σ → List act → Prop
  | s, [] => P s
  | s, a :: as => P s ∧ ∀ s', step s a = .ok s' → Always P s' as

/-- A run that returns takes its first action and returns from there. -/
theorem run_cons_eq_ok_iff {s t : σ} {a : act} {as : List act} :
    run step s (a :: as) = .ok t ↔ ∃ s', step s a = .ok s' ∧ run step s' as = .ok t := by
  simp only [run]
  cases step s a with
  | error e => simp
  | ok s' => simp

/-- A run of one more action takes it from where the others lead. -/
theorem run_concat_eq_ok {s t u : σ} {as : List act} {a : act} (hrun : run step s as = .ok t)
    (hstep : step t a = .ok u) : run step s (as ++ [a]) = .ok u := by
  induction as generalizing s with
  | nil =>
    cases hrun
    exact (run_cons_eq_ok_iff step).mpr ⟨u, hstep, rfl⟩
  | cons b as ih =>
    obtain ⟨s', hs', hrest⟩ := (run_cons_eq_ok_iff step).mp hrun
    exact (run_cons_eq_ok_iff step).mpr ⟨s', hs', ih hrest⟩

/-- A run goes on where another ends. -/
theorem run_append_eq_ok {s t u : σ} {as bs : List act} (hfirst : run step s as = .ok t)
    (hlast : run step t bs = .ok u) : run step s (as ++ bs) = .ok u := by
  induction as generalizing s with
  | nil =>
    cases hfirst
    exact hlast
  | cons a as ih =>
    obtain ⟨s', hs', hrest⟩ := (run_cons_eq_ok_iff step).mp hfirst
    exact (run_cons_eq_ok_iff step).mpr ⟨s', hs', ih hrest⟩

/-- When a step of a kind brings every state off the target nearer to it, a run of such steps
reaches the target. -/
theorem exists_run_of_rank {allowed : act → Prop} {Inv target : σ → Prop} (rank : σ → Nat)
    (hstep : ∀ s, Inv s → ¬ target s →
      ∃ a s', allowed a ∧ step s a = .ok s' ∧ Inv s' ∧ rank s' < rank s) {s : σ} (hs : Inv s) :
    ∃ as t, (∀ a ∈ as, allowed a) ∧ run step s as = .ok t ∧ Inv t ∧ target t := by
  induction hrank : rank s using Nat.strong_induction_on generalizing s with
  | _ k ih =>
    by_cases htarget : target s
    · exact ⟨[], s, by simp, rfl, hs, htarget⟩
    · obtain ⟨a, s', ha, hs', hinv, hless⟩ := hstep s hs htarget
      obtain ⟨as, t, hall, hrun, ht⟩ := ih _ (hrank ▸ hless) hinv rfl
      refine ⟨a :: as, t, List.forall_mem_cons.mpr ⟨ha, hall⟩, ?_, ht⟩
      exact (run_cons_eq_ok_iff step).mpr ⟨s', hs', hrun⟩

/-- Along a run, the condition holds at the first step and along the rest. -/
theorem stepsMeet_cons_iff {cond : σ → act → Prop} {s s' : σ} {a : act} {as : List act}
    (h : step s a = .ok s') :
    StepsMeet step cond s (a :: as) ↔ cond s a ∧ StepsMeet step cond s' as := by
  simp only [StepsMeet, h, Except.ok.injEq, forall_eq']

/-- The guarded induction rule: an invariant that every step meeting the condition keeps
holds in the state a run of such steps reaches. -/
theorem run_invariant_of_stepsMeet {cond : σ → act → Prop} {Inv : σ → Prop}
    (hstep : ∀ s a s', Inv s → cond s a → step s a = .ok s' → Inv s')
    {s t : σ} {as : List act} (hs : Inv s) (hmeet : StepsMeet step cond s as)
    (hrun : run step s as = .ok t) : Inv t := by
  induction as generalizing s with
  | nil =>
    cases hrun
    exact hs
  | cons a as ih =>
    obtain ⟨s', hs', hrest⟩ := (run_cons_eq_ok_iff step).mp hrun
    obtain ⟨hc, hmeet'⟩ := (stepsMeet_cons_iff step hs').mp hmeet
    exact ih (hstep s a s' hs hc hs') hmeet' hrest

/-- The guarded induction rule for what looks back at the steps taken: it holds before the first
step, and every step that meets the condition hands it on. -/
theorem run_history {cond : σ → act → Prop} {H : List act → σ → Prop}
    (hstep : ∀ as s a s', H as s → cond s a → step s a = .ok s' → H (as ++ [a]) s')
    {s t : σ} {as : List act} (hs : H [] s) (hmeet : StepsMeet step cond s as)
    (hrun : run step s as = .ok t) : H as t := by
  have hafter : ∀ (before : List act) (u : σ), H before u → StepsMeet step cond u as →
      run step u as = .ok t → H (before ++ as) t := by
    clear hs hmeet hrun
    induction as with
    | nil =>
      intro before u hu _ hrun
      cases hrun
      rwa [List.append_nil]
    | cons a as ih =>
      intro before u hu hmeet hrun
      obtain ⟨u', hu', hrest⟩ := (run_cons_eq_ok_iff step).mp hrun
      obtain ⟨hc, hmeet'⟩ := (stepsMeet_cons_iff step hu').mp hmeet
      rw [List.append_cons]
      exact ih (before ++ [a]) u' (hstep before u a u' hu hc hu') hmeet' hrest
  exact hafter [] s hs hmeet hrun

/-- A condition that asks nothing is met by every run. -/
theorem stepsMeet_true (s : σ) (as : List act) : StepsMeet step (fun _ _ ↦ True) s as := by
  induction as generalizing s with
  | nil => trivial
  | cons a as ih => exact ⟨trivial, fun s' _ ↦ ih s'⟩

/-- A condition that an action meets in every state is met by a run of such actions. -/
theorem stepsMeet_of_forall {cond : σ → act → Prop} {as : List act} (h : ∀ a ∈ as, ∀ s, cond s a)
    (s : σ) : StepsMeet step cond s as := by
  induction as generalizing s with
  | nil => trivial
  | cons a as ih =>
    rw [List.forall_mem_cons] at h
    exact ⟨h.1 s, fun s' _ ↦ ih h.2 s'⟩

/-- A condition that the invariant implies is met by every run. -/
theorem stepsMeet_of_invariant {cond : σ → act → Prop} {Inv : σ → Prop}
    (hcond : ∀ s a, Inv s → cond s a)
    (hstep : ∀ s a s', Inv s → step s a = .ok s' → Inv s') {s : σ} (hs : Inv s) (as : List act) :
    StepsMeet step cond s as := by
  induction as generalizing s with
  | nil => trivial
  | cons a as ih => exact ⟨hcond s a hs, fun s' hs' ↦ ih (hstep s a s' hs hs')⟩

/-- The induction rule: an invariant that every step keeps holds in every state reached. -/
theorem run_invariant {Inv : σ → Prop}
    (hstep : ∀ s a s', Inv s → step s a = .ok s' → Inv s')
    {s t : σ} {as : List act} (hs : Inv s) (hrun : run step s as = .ok t) : Inv t :=
  run_invariant_of_stepsMeet step (fun s a s' hi _ h ↦ hstep s a s' hi h) hs
    (stepsMeet_true step s as) hrun

/-- When every step either keeps the invariant or breaks it for good, according to a
condition, the invariant is intact at the end exactly when every step met the condition. -/
theorem stepsMeet_iff_of_broken {cond : σ → act → Prop} {Inv Broken : σ → Prop}
    (hkeep : ∀ s a s', Inv s → cond s a → step s a = .ok s' → Inv s')
    (hbreak : ∀ s a s', Inv s → ¬ cond s a → step s a = .ok s' → Broken s')
    (hstay : ∀ s a s', Broken s → step s a = .ok s' → Broken s')
    {s t : σ} {as : List act} (hs : Inv s) (hrun : run step s as = .ok t) :
    (StepsMeet step cond s as ∧ Inv t) ∨ (¬ StepsMeet step cond s as ∧ Broken t) := by
  induction as generalizing s with
  | nil =>
    cases hrun
    exact .inl ⟨trivial, hs⟩
  | cons a as ih =>
    obtain ⟨s', hs', hrest⟩ := (run_cons_eq_ok_iff step).mp hrun
    rw [stepsMeet_cons_iff step hs']
    by_cases hc : cond s a
    · rcases ih (hkeep s a s' hs hc hs') hrest with ⟨hm, hi⟩ | ⟨hm, hb⟩
      · exact .inl ⟨⟨hc, hm⟩, hi⟩
      · exact .inr ⟨fun h ↦ hm h.2, hb⟩
    · exact .inr ⟨fun h ↦ hc h.1, run_invariant step hstay (hbreak s a s' hs hc hs') hrest⟩

/-- The property holds in the state a run starts from. -/
theorem always_head {P : σ → Prop} {s : σ} {as : List act} (h : Always step P s as) : P s := by
  cases as with
  | nil => exact h
  | cons a as => exact h.1

/-- A property that the invariant implies holds along every run whose steps meet the
condition. -/
theorem always_of_stepsMeet {cond : σ → act → Prop} {Inv P : σ → Prop}
    (hP : ∀ s, Inv s → P s)
    (hkeep : ∀ s a s', Inv s → cond s a → step s a = .ok s' → Inv s')
    {s : σ} {as : List act} (hs : Inv s) (hmeet : StepsMeet step cond s as) :
    Always step P s as := by
  induction as generalizing s with
  | nil => exact hP s hs
  | cons a as ih =>
    exact ⟨hP s hs, fun s' hs' ↦ ih (hkeep s a s' hs hmeet.1 hs') (hmeet.2 s' hs')⟩

/-- When a step that meets the condition keeps the invariant, and one that does not reaches a
state without the property, the property holds in every state of a run exactly when every
step of the run meets the condition. -/
theorem always_iff_stepsMeet {cond : σ → act → Prop} {Inv P : σ → Prop}
    (hP : ∀ s, Inv s → P s)
    (hkeep : ∀ s a s', Inv s → cond s a → step s a = .ok s' → Inv s')
    (hbreak : ∀ s a, Inv s → ¬ cond s a → ∃ s', step s a = .ok s' ∧ ¬ P s')
    {s : σ} {as : List act} (hs : Inv s) :
    Always step P s as ↔ StepsMeet step cond s as := by
  induction as generalizing s with
  | nil => exact iff_of_true (hP s hs) trivial
  | cons a as ih =>
    rw [Always, StepsMeet, and_iff_right (hP s hs)]
    constructor
    · intro h
      by_cases hc : cond s a
      · exact ⟨hc, fun s' hs' ↦ (ih (hkeep s a s' hs hc hs')).mp (h s' hs')⟩
      · obtain ⟨s', hs', hn⟩ := hbreak s a hs hc
        exact absurd (always_head step (h s' hs')) hn
    · rintro ⟨hc, h⟩ s' hs'
      exact (ih (hkeep s a s' hs hc hs')).mpr (h s' hs')

/-- Two conditions that agree wherever the invariant holds are met by the same runs, when steps
that meet them keep the invariant. -/
theorem stepsMeet_congr {cond cond' : σ → act → Prop} {Inv : σ → Prop}
    (hiff : ∀ s a, Inv s → (cond s a ↔ cond' s a))
    (hkeep : ∀ s a s', Inv s → cond' s a → step s a = .ok s' → Inv s')
    {s : σ} {as : List act} (hs : Inv s) :
    StepsMeet step cond s as ↔ StepsMeet step cond' s as := by
  induction as generalizing s with
  | nil => exact Iff.rfl
  | cons a as ih =>
    rw [StepsMeet, StepsMeet, hiff s a hs]
    constructor
    · rintro ⟨hc, h⟩
      exact ⟨hc, fun s' hs' ↦ (ih (hkeep s a s' hs hc hs')).mp (h s' hs')⟩
    · rintro ⟨hc, h⟩
      exact ⟨hc, fun s' hs' ↦ (ih (hkeep s a s' hs hc hs')).mpr (h s' hs')⟩

/-- The rule of bounded response: every step reaches the goal, or it keeps the invariant, raises no
rank, and lowers it on a tick. Then a run passes the goal, or has spent a rank on every tick. -/
theorem reaches_or_rank_le {cond : σ → act → Prop} {tick : act → Bool} (Inv goal : σ → Prop)
    (rank : σ → Nat)
    (hstep : ∀ s a s', Inv s → cond s a → step s a = .ok s' → goal s' ∨
      (Inv s' ∧ rank s' ≤ rank s ∧ (tick a = true → rank s' ≤ rank s - 1)))
    {s t : σ} {as : List act} (hs : Inv s) (hmeet : StepsMeet step cond s as)
    (hrun : run step s as = .ok t) :
    (∃ done rest u, as = done ++ rest ∧ run step s done = .ok u ∧ goal u) ∨
      (Inv t ∧ rank t ≤ rank s - as.countP tick) := by
  induction as generalizing s with
  | nil =>
    cases hrun
    exact .inr ⟨hs, le_rfl⟩
  | cons a as ih =>
    obtain ⟨s', hs', hrest⟩ := (run_cons_eq_ok_iff step).mp hrun
    obtain ⟨hc, hmeet'⟩ := (stepsMeet_cons_iff step hs').mp hmeet
    rcases hstep s a s' hs hc hs' with hgoal | ⟨hinv, hle, htick⟩
    · refine .inl ⟨[a], as, s', rfl, ?_, hgoal⟩
      exact (run_cons_eq_ok_iff step).mpr ⟨s', hs', rfl⟩
    · rcases ih hinv hmeet' hrest with ⟨done, rest, u, rfl, hdone, hu⟩ | ⟨hlast, hrank⟩
      · refine .inl ⟨a :: done, rest, u, rfl, ?_, hu⟩
        exact (run_cons_eq_ok_iff step).mpr ⟨s', hs', hdone⟩
      · refine .inr ⟨hlast, ?_⟩
        by_cases ha : tick a = true
        · have hless := htick ha
          rw [List.countP_cons_of_pos ha]
          omega
        · rw [List.countP_cons_of_neg ha]
          omega

/-- When no step raises a rank and every tick of the run lowers it, a run with as many ticks as
the rank has used it up. -/
theorem rank_le_of_ticks {cond : σ → act → Prop} {tick : act → Bool} (Inv : σ → Prop)
    (rank : σ → Nat)
    (hstep : ∀ s a s', Inv s → cond s a → step s a = .ok s' →
      Inv s' ∧ rank s' ≤ rank s ∧ (tick a = true → rank s' ≤ rank s - 1))
    {s t : σ} {as : List act} (hs : Inv s) (hmeet : StepsMeet step cond s as)
    (hrun : run step s as = .ok t) : Inv t ∧ rank t ≤ rank s - as.countP tick := by
  rcases reaches_or_rank_le step Inv (fun _ ↦ False) rank
    (fun s a s' hs hc h ↦ .inr (hstep s a s' hs hc h)) hs hmeet hrun with
    ⟨_, _, _, _, _, hnever⟩ | hspent
  · exact hnever.elim
  · exact hspent

/-! ### Two machines -/

section Simulation

variable {τ call ε' : Type*} (atomic : τ → call → Except ε' τ)

/-- The rule of simulation: every step is none, or the next one, of a machine that still has some
calls to do. A run then is a run of that machine over the first of its calls. -/
theorem run_simulates {cond : τ → call → Prop} {Rel : τ → List call → σ → Prop}
    (hstep : ∀ t calls s a s', Rel t calls s → (∀ c ∈ calls.head?, cond t c) →
      step s a = .ok s' → Rel t calls s' ∨
        ∃ c rest t', calls = c :: rest ∧ atomic t c = .ok t' ∧ Rel t' rest s')
    {t : τ} {calls : List call} {s s' : σ} {as : List act} (hs : Rel t calls s)
    (hmeet : StepsMeet atomic cond t calls) (hrun : run step s as = .ok s') :
    ∃ done rest t', calls = done ++ rest ∧ run atomic t done = .ok t' ∧ Rel t' rest s' := by
  have hkeep : ∀ u a u', (∃ done rest t', calls = done ++ rest ∧ run atomic t done = .ok t' ∧
      StepsMeet atomic cond t' rest ∧ Rel t' rest u) → step u a = .ok u' →
        ∃ done rest t', calls = done ++ rest ∧ run atomic t done = .ok t' ∧
          StepsMeet atomic cond t' rest ∧ Rel t' rest u' := by
    rintro u a u' ⟨done, rest, t', hcalls, hdone, hmeet, hrel⟩ h
    have hnext : ∀ c ∈ rest.head?, cond t' c := by
      cases rest with
      | nil => simp
      | cons c rest =>
        intro c' hc
        cases hc
        exact hmeet.1
    rcases hstep t' rest u a u' hrel hnext h with hsame | ⟨c, rest, t'', rfl, hc, hrel'⟩
    · exact ⟨done, rest, t', hcalls, hdone, hmeet, hsame⟩
    · exact ⟨done ++ [c], rest, t'', by rw [hcalls, List.append_cons],
        run_concat_eq_ok atomic hdone hc, hmeet.2 t'' hc, hrel'⟩
  obtain ⟨done, rest, t', hcalls, hdone, -, hrel⟩ :=
    run_invariant step hkeep ⟨[], calls, t, rfl, rfl, hmeet, hs⟩ hrun
  exact ⟨done, rest, t', hcalls, hdone, hrel⟩

end Simulation

/-! ### What the steps of a run are labelled with -/

section Trace

variable {β : Type*} (label : σ → act → σ → List β)

/-- The labels of the steps of a run, in their order. -/
def trace : σ → List act → List β
  | _, [] => []
  | s, a :: as =>
    match step s a with
    | .error _ => []
    | .ok s' => label s a s' ++ trace s' as

/-- The first step is labelled first. -/
theorem trace_cons {s s' : σ} {a : act} {as : List act} (h : step s a = .ok s') :
    trace step label s (a :: as) = label s a s' ++ trace step label s' as := by
  rw [trace, h]

/-- When every step takes its label from what the state before it still owes, so does the run,
as long as the labels are as they are expected to be. -/
theorem trace_of_owed {cond : σ → act → Prop} {good : β → Prop} (Inv : σ → Prop)
    (owed : σ → List β)
    (hstep : ∀ s a s', Inv s → cond s a → step s a = .ok s' → (∀ b ∈ label s a s', good b) →
      Inv s' ∧ owed s = label s a s' ++ owed s')
    {s t : σ} {as : List act} (hs : Inv s) (hmeet : StepsMeet step cond s as)
    (hrun : run step s as = .ok t) (hgood : ∀ b ∈ trace step label s as, good b) :
    Inv t ∧ owed s = trace step label s as ++ owed t := by
  induction as generalizing s with
  | nil =>
    cases hrun
    exact ⟨hs, rfl⟩
  | cons a as ih =>
    obtain ⟨s', hs', hrest⟩ := (run_cons_eq_ok_iff step).mp hrun
    obtain ⟨hc, hmeet'⟩ := (stepsMeet_cons_iff step hs').mp hmeet
    rw [trace_cons step label hs', List.forall_mem_append] at hgood
    obtain ⟨hinv, howed⟩ := hstep s a s' hs hc hs' hgood.1
    obtain ⟨hlast, howedRest⟩ := ih hinv hmeet' hrest hgood.2
    refine ⟨hlast, ?_⟩
    rw [trace_cons step label hs', howed, howedRest, List.append_assoc]

/-- When every label is paid for by a rank that no step raises, the run has no more labels than
the rank it starts with. -/
theorem length_trace_le {cond : σ → act → Prop} (Inv : σ → Prop) (rank : σ → Nat)
    (hstep : ∀ s a s', Inv s → cond s a → step s a = .ok s' →
      Inv s' ∧ (label s a s').length + rank s' ≤ rank s)
    {s : σ} {as : List act} (hs : Inv s) (hmeet : StepsMeet step cond s as) :
    (trace step label s as).length ≤ rank s := by
  induction as generalizing s with
  | nil => exact Nat.zero_le _
  | cons a as ih =>
    rw [trace]
    cases hs' : step s a with
    | error e => exact Nat.zero_le _
    | ok s' =>
      obtain ⟨hinv, hpaid⟩ := hstep s a s' hs hmeet.1 hs'
      have hrest := ih hinv (hmeet.2 s' hs')
      simp only [List.length_append]
      omega

/-- When every step is unlabelled, or labelled with a time that is due and from which the next one
is due after a gap, the labels of a run are a gap apart, and the last one says what is due. -/
theorem trace_spaced (label : σ → act → σ → List Nat) {cond : σ → act → Prop} {gap : Nat}
    (Inv : σ → Prop) (due : σ → Nat)
    (hstep : ∀ s a s', Inv s → cond s a → step s a = .ok s' → Inv s' ∧
      (label s a s' = [] ∧ due s' = due s ∨
        ∃ now, label s a s' = [now] ∧ due s ≤ now ∧ due s' = now + gap))
    {s : σ} {as : List act} (hs : Inv s) (hmeet : StepsMeet step cond s as) :
    (trace step label s as).IsChain (fun earlier later ↦ earlier + gap ≤ later) ∧
      (∀ first ∈ (trace step label s as).head?, due s ≤ first) ∧
      ∀ t, run step s as = .ok t → Inv t ∧
        due t = ((trace step label s as).getLast?.map (· + gap)).getD (due s) := by
  induction as generalizing s with
  | nil =>
    refine ⟨.nil, nofun, fun t h ↦ ?_⟩
    cases h
    exact ⟨hs, rfl⟩
  | cons a as ih =>
    cases hs' : step s a with
    | error e =>
      rw [trace, run, hs']
      exact ⟨.nil, nofun, nofun⟩
    | ok s' =>
      obtain ⟨hinv, hlabel⟩ := hstep s a s' hs hmeet.1 hs'
      obtain ⟨hchain, hfirst, hlast⟩ := ih hinv (hmeet.2 s' hs')
      rw [trace_cons step label hs', run, hs']
      rcases hlabel with ⟨hnone, hsame⟩ | ⟨now, hone, hdue, hnext⟩
      · rw [hnone, List.nil_append, ← hsame]
        exact ⟨hchain, hfirst, hlast⟩
      · rw [hone, List.singleton_append]
        refine ⟨?_, fun first h ↦ ?_, fun t h ↦ ?_⟩
        · rw [List.isChain_cons]
          exact ⟨fun later h ↦ hnext ▸ hfirst later h, hchain⟩
        · cases h
          exact hdue
        · obtain ⟨ht, hduet⟩ := hlast t h
          refine ⟨ht, hduet.trans ?_⟩
          rw [List.getLast?_cons, hnext]
          cases (trace step label s' as).getLast? <;> rfl

end Trace

/-- A fold of which every pass either keeps the invariant or breaks it for good, according to
a condition on its element. -/
theorem foldl_iff_of_broken {f : σ → act → σ} {cond : act → Prop} {Inv Broken : σ → Prop}
    (hkeep : ∀ s a, Inv s → cond a → Inv (f s a))
    (hbreak : ∀ s a, Inv s → ¬ cond a → Broken (f s a))
    (hstay : ∀ s a, Broken s → Broken (f s a)) {s : σ} (as : List act) (hs : Inv s) :
    ((∀ a ∈ as, cond a) ∧ Inv (as.foldl f s)) ∨
      (¬ (∀ a ∈ as, cond a) ∧ Broken (as.foldl f s)) := by
  induction as generalizing s with
  | nil => exact .inl ⟨by simp, hs⟩
  | cons a as ih =>
    rw [List.forall_mem_cons, List.foldl_cons]
    by_cases hc : cond a
    · rcases ih (hkeep s a hs hc) with ⟨hm, hi⟩ | ⟨hm, hb⟩
      · exact .inl ⟨⟨hc, hm⟩, hi⟩
      · exact .inr ⟨fun h ↦ hm h.2, hb⟩
    · refine .inr ⟨fun h ↦ hc h.1, ?_⟩
      exact List.foldlRecOn as f (hbreak s a hs hc) fun t ht b _ ↦ hstay t b ht

end Tase2South.Base
