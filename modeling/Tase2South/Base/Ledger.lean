import Mathlib.Data.List.Count
import Mathlib.Data.List.Nodup

/-!
# Ledgers of acquired and released resources

A ledger is the history of acquiring and releasing handles. Exactly-once release is a
property of the whole history, so that a second release and a missing one are both visible
in it; the tracking relation ties the history to the handles a program still holds.
-/

namespace Tase2South.Base

universe u

/-- One step in the life of a resource. -/
inductive LedgerEntry (ρ : Type u) where
  | acquire (r : ρ)
  | release (r : ρ)
  deriving DecidableEq, Repr

variable {ρ : Type u} [DecidableEq ρ]

/-- How often the history releases a resource. -/
def releases (log : List (LedgerEntry ρ)) (r : ρ) : Nat := log.count (.release r)

/-- No resource is released twice. -/
def AtMostOnce (log : List (LedgerEntry ρ)) : Prop := ∀ r, releases log r ≤ 1

/-- Every resource that was acquired has been released exactly once. -/
def ExactlyOnce (log : List (LedgerEntry ρ)) : Prop :=
  ∀ r, .acquire r ∈ log → releases log r = 1

/-- The program holds each acquired resource until its one release, and releases nothing
that it never acquired. -/
structure Tracks (log : List (LedgerEntry ρ)) (held : List ρ) : Prop where
  nodup : held.Nodup
  acquired : ∀ r ∈ held, .acquire r ∈ log
  unreleased : ∀ r ∈ held, releases log r = 0
  settled : ∀ r, .acquire r ∈ log → r ∉ held → releases log r = 1
  foreign : ∀ r, .acquire r ∉ log → releases log r = 0

/-- Either an acquired resource was dropped without a release, or one was released and is
still held. -/
def Lost (log : List (LedgerEntry ρ)) (held : List ρ) : Prop :=
  (∃ r, .acquire r ∈ log ∧ r ∉ held ∧ releases log r = 0) ∨ ∃ r ∈ held, 0 < releases log r

/-- Every resource that was acquired has been released or is held. -/
def Accounted (log : List (LedgerEntry ρ)) (held : List ρ) : Prop :=
  ∀ r, .acquire r ∈ log → .release r ∈ log ∨ r ∈ held

@[simp] theorem releases_nil (r : ρ) : releases ([] : List (LedgerEntry ρ)) r = 0 := rfl

@[simp] theorem releases_append (log new : List (LedgerEntry ρ)) (r : ρ) :
    releases (log ++ new) r = releases log r + releases new r := List.count_append

/-- An acquisition releases nothing. -/
@[simp] theorem releases_acquire (q r : ρ) : releases [LedgerEntry.acquire q] r = 0 := by
  simp [releases]

/-- Releasing a list of handles releases each as often as it is listed. -/
@[simp] theorem releases_map_release (held : List ρ) (r : ρ) :
    releases (held.map LedgerEntry.release) r = held.count r := by
  apply List.count_map_of_injective
  intro a b h
  exact LedgerEntry.release.inj h

omit [DecidableEq ρ] in
/-- Releases acquire nothing. -/
@[simp] theorem acquire_notMem_map_release (held : List ρ) (r : ρ) :
    LedgerEntry.acquire r ∉ held.map LedgerEntry.release := by
  simp

/-- A program that has done nothing tracks the empty history. -/
theorem tracks_nil : Tracks ([] : List (LedgerEntry ρ)) [] := by
  constructor <;> simp

/-- Keeping a fresh resource extends the tracking by it. -/
theorem Tracks.acquire {log : List (LedgerEntry ρ)} {held : List ρ} (h : Tracks log held)
    {r : ρ} (hr : .acquire r ∉ log) : Tracks (log ++ [.acquire r]) (held ++ [r]) := by
  have hn : r ∉ held := fun hm ↦ hr (h.acquired r hm)
  refine ⟨?_, ?_, ?_, ?_, ?_⟩
  · simpa [List.nodup_append] using ⟨h.nodup, fun a ha he ↦ hn (he ▸ ha)⟩
  · intro q hq
    rcases List.mem_append.mp hq with hq | hq
    · exact List.mem_append_left _ (h.acquired q hq)
    · simp_all
  · intro q hq
    rcases List.mem_append.mp hq with hq | hq
    · simp [h.unreleased q hq]
    · have he : q = r := by simpa using hq
      simp [he, h.foreign r hr]
  · intro q hq hqn
    simp only [List.mem_append, List.mem_singleton, LedgerEntry.acquire.injEq, not_or] at hq hqn
    rcases hq with hq | hq
    · simp [h.settled q hq hqn.1]
    · exact absurd hq hqn.2
  · intro q hq
    simp only [List.mem_append, not_or] at hq
    simp [h.foreign q hq.1]

/-- Tracking does not depend on the order in which the resources are held. -/
theorem Tracks.perm {log : List (LedgerEntry ρ)} {held held' : List ρ} (h : Tracks log held)
    (hp : held.Perm held') : Tracks log held' where
  nodup := hp.nodup_iff.mp h.nodup
  acquired r hr := h.acquired r (hp.mem_iff.mpr hr)
  unreleased r hr := h.unreleased r (hp.mem_iff.mpr hr)
  settled r hr hn := h.settled r hr fun hm ↦ hn (hp.mem_iff.mp hm)
  foreign := h.foreign

/-- A loss does not depend on the order in which the resources are held. -/
theorem Lost.perm {log : List (LedgerEntry ρ)} {held held' : List ρ} (h : Lost log held)
    (hp : held.Perm held') : Lost log held' := by
  rcases h with ⟨r, hr, hn, hz⟩ | ⟨r, hr, hpos⟩
  · exact .inl ⟨r, hr, fun hm ↦ hn (hp.mem_iff.mpr hm), hz⟩
  · exact .inr ⟨r, hp.mem_iff.mp hr, hpos⟩

/-- Releasing everything that is held settles the history. -/
theorem Tracks.releaseAll {log : List (LedgerEntry ρ)} {held : List ρ} (h : Tracks log held) :
    Tracks (log ++ held.map LedgerEntry.release) [] := by
  refine ⟨List.nodup_nil, by simp, by simp, ?_, ?_⟩
  · intro r hr _
    have hlog : .acquire r ∈ log := by simpa using hr
    by_cases hm : r ∈ held
    · simp [h.unreleased r hm, List.count_eq_one_of_mem h.nodup hm]
    · simp [h.settled r hlog hm, List.count_eq_zero_of_not_mem hm]
  · intro r hr
    have hlog : .acquire r ∉ log := fun hm ↦ hr (List.mem_append_left _ hm)
    have hm : r ∉ held := fun hm ↦ hlog (h.acquired r hm)
    simp [h.foreign r hlog, List.count_eq_zero_of_not_mem hm]

/-- A tracked history releases nothing twice. -/
theorem Tracks.atMostOnce {log : List (LedgerEntry ρ)} {held : List ρ} (h : Tracks log held) :
    AtMostOnce log := by
  intro r
  by_cases ha : .acquire r ∈ log
  · by_cases hm : r ∈ held
    · simp [h.unreleased r hm]
    · simp [h.settled r ha hm]
  · simp [h.foreign r ha]

/-- A tracked history of which nothing is held any more released everything once. -/
theorem Tracks.exactlyOnce {log : List (LedgerEntry ρ)} (h : Tracks log []) :
    ExactlyOnce log := fun r hr ↦ h.settled r hr (by simp)

/-- Dropping a fresh resource loses it. -/
theorem Tracks.lost_of_drop {log : List (LedgerEntry ρ)} {held : List ρ} (h : Tracks log held)
    {r : ρ} (hr : .acquire r ∉ log) : Lost (log ++ [.acquire r]) held :=
  .inl ⟨r, by simp, fun hm ↦ hr (h.acquired r hm), by simp [h.foreign r hr]⟩

/-- Releasing what stays held loses it. -/
theorem lost_of_release {log : List (LedgerEntry ρ)} {held : List ρ} (hne : held ≠ []) :
    Lost (log ++ held.map LedgerEntry.release) held := by
  obtain ⟨r, hr⟩ := List.exists_mem_of_ne_nil held hne
  refine .inr ⟨r, hr, ?_⟩
  have hc : 0 < held.count r := List.count_pos_iff.mpr hr
  simp only [releases_append, releases_map_release]
  omega

/-- A loss stays a loss when only fresh resources are acquired and kept or dropped. -/
theorem Lost.acquire {log : List (LedgerEntry ρ)} {held : List ρ} (h : Lost log held)
    {r : ρ} (hr : .acquire r ∉ log) (kept : List ρ) (hk : ∀ q ∈ kept, q = r) :
    Lost (log ++ [.acquire r]) (held ++ kept) := by
  rcases h with ⟨q, hq, hn, hz⟩ | ⟨q, hq, hpos⟩
  · refine .inl ⟨q, List.mem_append_left _ hq, ?_, by simpa using hz⟩
    simp only [List.mem_append, not_or]
    exact ⟨hn, fun hm ↦ hr (hk q hm ▸ hq)⟩
  · exact .inr ⟨q, List.mem_append_left _ hq, by simpa using hpos⟩

/-- A loss stays a loss when everything held is released and stays held. -/
theorem Lost.releaseAll {log : List (LedgerEntry ρ)} {held : List ρ} (h : Lost log held) :
    Lost (log ++ held.map LedgerEntry.release) held := by
  rcases h with ⟨q, hq, hn, hz⟩ | ⟨q, hq, -⟩
  · exact .inl ⟨q, List.mem_append_left _ hq, hn, by
      simp [hz, List.count_eq_zero_of_not_mem hn]⟩
  · exact lost_of_release (List.ne_nil_of_mem hq)

/-- Whatever was lost is not released exactly once when everything held is released last. -/
theorem Lost.not_exactlyOnce {log : List (LedgerEntry ρ)} {held : List ρ} (h : Lost log held)
    (hacq : ∀ r ∈ held, .acquire r ∈ log) :
    ¬ ExactlyOnce (log ++ held.map LedgerEntry.release) := by
  intro he
  rcases h with ⟨q, hq, hn, hz⟩ | ⟨q, hq, hpos⟩
  · have := he q (List.mem_append_left _ hq)
    simp [hz, List.count_eq_zero_of_not_mem hn] at this
  · have := he q (List.mem_append_left _ (hacq q hq))
    have hc : 0 < held.count q := List.count_pos_iff.mpr hq
    simp only [releases_append, releases_map_release] at this
    omega

omit [DecidableEq ρ] in
/-- Acquired resources that are held are accounted for. -/
theorem accounted_acquire (held : List ρ) : Accounted (held.map LedgerEntry.acquire) held := by
  intro r hr
  right
  simpa using hr

omit [DecidableEq ρ] in
/-- Two histories with their own accounts have one together. -/
theorem Accounted.append {log new : List (LedgerEntry ρ)} {held kept : List ρ}
    (h : Accounted log held) (hnew : Accounted new kept) :
    Accounted (log ++ new) (held ++ kept) := by
  intro r hr
  simp only [List.mem_append] at hr ⊢
  rcases hr with hr | hr
  · exact (h r hr).imp .inl .inl
  · exact (hnew r hr).imp .inr .inr

/-! ### What precedes each entry -/

section Preceded

variable {α : Type*} {P : List α → α → Prop} {history : List α} {a : α}

/-- Every entry of the history stands in the relation to what precedes it. -/
def EachPreceded (P : List α → α → Prop) (history : List α) : Prop :=
  ∀ before a, before ++ [a] <+: history → P before a

/-- An empty history has no entry. -/
theorem eachPreceded_nil : EachPreceded P [] := by
  intro before a h
  simp at h

/-- One more entry is preceded by the whole history before it. -/
theorem EachPreceded.concat (h : EachPreceded P history) (ha : P history a) :
    EachPreceded P (history ++ [a]) := by
  intro before b hb
  rcases List.prefix_concat_iff.mp hb with heq | hb
  · obtain ⟨rfl, hba⟩ := List.append_inj' heq rfl
    cases hba
    exact ha
  · exact h before b hb

/-- Entries that may stand anywhere may be added. -/
theorem EachPreceded.append (h : EachPreceded P history) {new : List α}
    (hnew : ∀ a ∈ new, ∀ before, P before a) : EachPreceded P (history ++ new) := by
  induction new generalizing history with
  | nil => rwa [List.append_nil]
  | cons b new ih =>
    rw [List.forall_mem_cons] at hnew
    rw [← List.singleton_append, ← List.append_assoc]
    exact ih (h.concat (hnew.1 history)) hnew.2

end Preceded

end Tase2South.Base
