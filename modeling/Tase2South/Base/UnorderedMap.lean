import Mathlib.Data.Finmap

/-!
# Hash maps with an unspecified iteration order

A hash map is a finite map; `insert` of a pair keeps an entry that is already there, while
assignment through the index operator is `Finmap.insert`. Iterating over the map visits its
entries in some order: any list of them, each once. Elements assigned under their own keys
leave the last element of each key.
-/

namespace Tase2South.Base

universe u v

/-- A map from keys to values, without an order of its own. -/
abbrev UnorderedMap (κ : Type u) (V : Type v) := Finmap fun _ : κ ↦ V

namespace UnorderedMap

variable {κ : Type u} {V : Type v} [DecidableEq κ]

/-- `insert` of a pair: an entry under the same key stays. -/
def emplace (m : UnorderedMap κ V) (k : κ) (v : V) : UnorderedMap κ V :=
  if k ∈ m then m else m.insert k v

/-- Insert the pairs one after the other; the first of each key stays. -/
def emplaceAll (m : UnorderedMap κ V) (entries : List (κ × V)) : UnorderedMap κ V :=
  entries.foldl (fun m e ↦ m.emplace e.1 e.2) m

/-- Assign the pairs through the index operator one after the other; the last of each key
stays. -/
def assignAll (m : UnorderedMap κ V) (entries : List (κ × V)) : UnorderedMap κ V :=
  entries.foldl (fun m e ↦ m.insert e.1 e.2) m

/-- Erase the keys one after the other. -/
def eraseAll (m : UnorderedMap κ V) (keys : List κ) : UnorderedMap κ V :=
  keys.foldl (fun m k ↦ m.erase k) m

/-- The list visits every entry of the map once. -/
def IterationOrder (m : UnorderedMap κ V) (order : List (κ × V)) : Prop :=
  ((order.map fun e ↦ (⟨e.1, e.2⟩ : Sigma fun _ : κ ↦ V) : List _) : Multiset _) = m.entries

instance [DecidableEq V] (m : UnorderedMap κ V) (order : List (κ × V)) :
    Decidable (m.IterationOrder order) :=
  inferInstanceAs (Decidable (_ = _))

/-- An insertion is seen under its key unless an entry was there. -/
theorem lookup_emplace (m : UnorderedMap κ V) (k j : κ) (v : V) :
    (m.emplace k v).lookup j = if j = k ∧ k ∉ m then some v else m.lookup j := by
  unfold emplace
  by_cases hk : k ∈ m
  · simp [hk]
  · by_cases hj : j = k
    · subst hj
      simp [hk]
    · simp [hk, hj, Finmap.lookup_insert_of_ne m hj]

/-- After inserting pairs into a map, a key holds its old value, or else the value of its
first pair. -/
theorem lookup_emplaceAll (m : UnorderedMap κ V) (entries : List (κ × V)) (k : κ) :
    (m.emplaceAll entries).lookup k =
      (m.lookup k).or ((entries.find? (·.1 = k)).map Prod.snd) := by
  induction entries generalizing m with
  | nil => simp [emplaceAll]
  | cons e rest ih =>
    change ((m.emplace e.1 e.2).emplaceAll rest).lookup k = _
    rw [ih, lookup_emplace, List.find?_cons]
    by_cases hk : e.1 = k
    · subst hk
      by_cases hm : e.1 ∈ m
      · obtain ⟨b, hb⟩ := Finmap.mem_iff.mp hm
        simp [hm, hb]
      · have hn := Finmap.lookup_eq_none.mpr hm
        simp [hm, hn]
    · have hk' : k ≠ e.1 := Ne.symm hk
      simp [hk, hk']

/-- After assigning pairs, a key holds the value of its last pair, or else its old value. -/
theorem lookup_assignAll (m : UnorderedMap κ V) (entries : List (κ × V)) (k : κ) :
    (m.assignAll entries).lookup k =
      ((entries.reverse.find? (·.1 = k)).map Prod.snd).or (m.lookup k) := by
  induction entries generalizing m with
  | nil => simp [assignAll]
  | cons e rest ih =>
    change (assignAll (m.insert e.1 e.2) rest).lookup k = _
    rw [ih, List.reverse_cons, List.find?_append]
    cases rest.reverse.find? (·.1 = k) with
    | some last => simp
    | none =>
      by_cases hk : e.1 = k
      · subst hk
        simp
      · simp [hk, Finmap.lookup_insert_of_ne m (Ne.symm hk)]

/-- After erasing keys, exactly the others keep their values. -/
theorem lookup_eraseAll (m : UnorderedMap κ V) (keys : List κ) (k : κ) :
    (m.eraseAll keys).lookup k = if k ∈ keys then none else m.lookup k := by
  induction keys generalizing m with
  | nil => simp [eraseAll]
  | cons j rest ih =>
    change (eraseAll (m.erase j) rest).lookup k = _
    rw [ih]
    by_cases hr : k ∈ rest
    · simp [hr]
    · by_cases hj : k = j
      · subst hj
        simp [Finmap.lookup_erase]
      · simp [hr, hj, Finmap.lookup_erase_ne hj]

/-- The keys after erasing are the others. -/
theorem mem_eraseAll (m : UnorderedMap κ V) (keys : List κ) (k : κ) :
    k ∈ m.eraseAll keys ↔ k ∉ keys ∧ k ∈ m := by
  rw [← Finmap.lookup_isSome, lookup_eraseAll]
  by_cases hk : k ∈ keys
  · simp [hk]
  · simp [hk, Finmap.lookup_isSome]

/-- The visited pairs are the entries of the map. -/
theorem IterationOrder.mem_iff {m : UnorderedMap κ V} {order : List (κ × V)}
    (h : m.IterationOrder order) (k : κ) (v : V) :
    (k, v) ∈ order ↔ m.lookup k = some v := by
  rw [← Option.mem_def, Finmap.mem_lookup_iff, ← h, Multiset.mem_coe, List.mem_map]
  constructor
  · intro hm
    exact ⟨(k, v), hm, rfl⟩
  · rintro ⟨⟨k', v'⟩, hm, he⟩
    cases he
    exact hm

omit [DecidableEq κ] in
/-- Every map can be visited. -/
theorem exists_iterationOrder (m : UnorderedMap κ V) : ∃ order, m.IterationOrder order := by
  obtain ⟨entries, hentries⟩ := Quot.exists_rep m.entries
  refine ⟨entries.map fun e ↦ (e.1, e.2), ?_⟩
  rw [IterationOrder, List.map_map, ← hentries]
  exact congrArg _ (List.map_id entries)

omit [DecidableEq κ] in
/-- No key is visited twice. -/
theorem IterationOrder.nodup_keys {m : UnorderedMap κ V} {order : List (κ × V)}
    (h : m.IterationOrder order) : (order.map Prod.fst).Nodup := by
  have hm := m.nodupKeys
  rw [← h, Multiset.coe_nodupKeys] at hm
  simpa [List.NodupKeys, List.keys, Function.comp_def] using hm

end UnorderedMap

/-! ### The last element of a key -/

section LastWith

variable {α : Type u} {κ : Type v} [DecidableEq κ]

/-- The last element of a list that has the given key. -/
def lastWith (key : α → κ) (l : List α) (k : κ) : Option α := l.reverse.find? (key · = k)

variable {key : α → κ} {l : List α} {k : κ} {a : α}

/-- The last element with a key is in the list and has the key. -/
theorem mem_of_lastWith (h : lastWith key l k = some a) : a ∈ l ∧ key a = k := by
  constructor
  · exact List.mem_reverse.mp (List.mem_of_find?_eq_some h)
  · simpa using List.find?_some h

/-- There is a last element exactly when some element has the key. -/
theorem isSome_lastWith_iff : (lastWith key l k).isSome ↔ ∃ a ∈ l, key a = k := by
  simp [lastWith, List.find?_isSome]

/-- The last element of two lists is that of the second, if any. -/
theorem lastWith_append (l l' : List α) :
    lastWith key (l ++ l') k = (lastWith key l' k).or (lastWith key l k) := by
  rw [lastWith, List.reverse_append, List.find?_append]
  rfl

/-- A last element that is kept is the last of those kept. -/
theorem lastWith_filter_of_lastWith {keep : α → Bool} (h : lastWith key l k = some a)
    (ha : keep a = true) : lastWith key (l.filter keep) k = some a := by
  rw [lastWith, ← List.filter_reverse, List.find?_filter]
  rw [lastWith, List.find?_eq_some_iff_append] at h
  obtain ⟨hk, before, after, heq, hbefore⟩ := h
  rw [List.find?_eq_some_iff_append]
  refine ⟨by simp [ha, of_decide_eq_true hk], before, after, heq, fun b hb ↦ ?_⟩
  have hne := hbefore b hb
  simp only [Bool.not_eq_true', decide_eq_false_iff_not] at hne
  simp [hne]

/-- Dropping elements that yield other keys leaves the last element of a key. -/
theorem lastWith_filterMap_filter {β : Type*} {l : List β} {keep : β → Bool} {f : β → Option α}
    (h : ∀ b ∈ l, keep b = false → ∀ a ∈ f b, key a ≠ k) :
    lastWith key ((l.filter keep).filterMap f) k = lastWith key (l.filterMap f) k := by
  induction l with
  | nil => rfl
  | cons b l ih =>
    have hrest := ih fun c hc ↦ h c (List.mem_cons_of_mem b hc)
    rw [← List.singleton_append, List.filter_append, List.filterMap_append,
      List.filterMap_append, lastWith_append, lastWith_append, hrest]
    congr 1
    cases hb : keep b with
    | true => simp [hb]
    | false =>
      have hne := h b List.mem_cons_self hb
      cases hf : f b with
      | none => simp [hb, hf]
      | some a => simp [hb, hf, lastWith, hne a hf]

/-- Elements with other keys added at the end leave the last element of a key. -/
theorem lastWith_append_of_forall {l' : List α} (h : ∀ a ∈ l', key a ≠ k) :
    lastWith key (l ++ l') k = lastWith key l k := by
  have hnone : lastWith key l' k = none := by
    rw [← Option.not_isSome_iff_eq_none, isSome_lastWith_iff]
    rintro ⟨a, ha, hk⟩
    exact h a ha hk
  rw [lastWith_append, hnone, Option.none_or]

/-- Elements stored under their keys in an empty map: the last of each key stays. -/
theorem lookup_assignAll_empty (key : α → κ) (l : List α) (k : κ) :
    (UnorderedMap.assignAll ∅ (l.map fun a ↦ (key a, a))).lookup k = lastWith key l k := by
  rw [UnorderedMap.lookup_assignAll, Finmap.lookup_empty, Option.or_none, ← List.map_reverse,
    List.find?_map, Option.map_map]
  exact Option.map_id'

/-- Elements inserted under their keys in an empty map: the first of each key stays. -/
theorem lookup_emplaceAll_empty (key : α → κ) (l : List α) (k : κ) :
    (UnorderedMap.emplaceAll ∅ (l.map fun a ↦ (key a, a))).lookup k = l.find? (key · = k) := by
  rw [UnorderedMap.lookup_emplaceAll, Finmap.lookup_empty, Option.none_or, List.find?_map,
    Option.map_map]
  exact Option.map_id'

/-- Where no key is given twice, the first element of a key is the only one. -/
theorem find?_key_eq_some_iff (hl : (l.map key).Nodup) :
    l.find? (key · = k) = some a ↔ a ∈ l ∧ key a = k := by
  induction l with
  | nil => simp
  | cons b l ih =>
    rw [List.map_cons, List.nodup_cons] at hl
    rw [List.find?_cons]
    by_cases hb : key b = k
    · rw [decide_eq_true hb]
      simp only [Option.some.injEq, List.mem_cons]
      constructor
      · rintro rfl
        exact ⟨.inl rfl, hb⟩
      · rintro ⟨rfl | ha, hk⟩
        · rfl
        · exact absurd (List.mem_map.mpr ⟨a, ha, hk.trans hb.symm⟩) hl.1
    · rw [decide_eq_false hb]
      simp only [ih hl.2, List.mem_cons]
      constructor
      · rintro ⟨ha, hk⟩
        exact ⟨.inr ha, hk⟩
      · rintro ⟨rfl | ha, hk⟩
        · exact absurd hk hb
        · exact ⟨ha, hk⟩

/-- Where no key is given twice, the last element of a key is the only one. -/
theorem lastWith_eq_some_iff (hl : (l.map key).Nodup) :
    lastWith key l k = some a ↔ a ∈ l ∧ key a = k := by
  have hreverse : (l.reverse.map key).Nodup := by
    rw [List.map_reverse, List.nodup_reverse]
    exact hl
  rw [lastWith, find?_key_eq_some_iff hreverse, List.mem_reverse]

/-- Elements inserted under keys of their own are what the map is visited by. -/
theorem perm_of_emplaceAll_empty (hl : (l.map key).Nodup) {order : List (κ × α)}
    (h : (UnorderedMap.emplaceAll ∅ (l.map fun a ↦ (key a, a))).IterationOrder order) :
    (order.map Prod.snd).Perm l := by
  have hmem : ∀ k a, (k, a) ∈ order ↔ a ∈ l ∧ key a = k := by
    intro k a
    rw [h.mem_iff, lookup_emplaceAll_empty, find?_key_eq_some_iff hl]
  have hkeys : (order.map Prod.snd).map key = order.map Prod.fst := by
    rw [List.map_map]
    exact List.map_congr_left fun p hp ↦ ((hmem p.1 p.2).mp hp).2
  have hnodup : (order.map Prod.snd).Nodup := by
    apply List.Nodup.of_map key
    rw [hkeys]
    exact h.nodup_keys
  rw [List.perm_ext_iff_of_nodup hnodup (List.Nodup.of_map key hl)]
  intro a
  rw [List.mem_map]
  constructor
  · rintro ⟨p, hp, rfl⟩
    exact ((hmem p.1 p.2).mp hp).1
  · intro ha
    exact ⟨(key a, a), (hmem (key a) a).mpr ⟨ha, rfl⟩, rfl⟩

end LastWith

end Tase2South.Base
