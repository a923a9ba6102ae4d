import Tase2South.Config.Selector

/-!
# What an OSI section stores

`importJsonConnectionOsiConfig` as a whole, `src/tase2_client_config.cpp:515–762`: it raises on
every section that is not valid, and on a valid one stores what is there and leaves the rest. A
text ends at its first NUL, as everywhere in the configuration.
-/

namespace Tase2South.Config

open Tase2South.Base Tase2South.Json

/-! ### Raising -/

section Raising

variable {α β : Type}

/-- The reader raises `ConfigurationException`. -/
def Raises (x : Except Failure α) : Prop := ∃ msg, x = .error (configurationException msg)

/-- The reader completes or raises `ConfigurationException`. -/
def CompletesOrRaises (x : Except Failure α) : Prop := Completes x ∨ Raises x

/-- Raising a `ConfigurationException` is raising one. -/
theorem completesOrRaises_throw (msg : String) :
    CompletesOrRaises (throw (configurationException msg) : Except Failure α) :=
  .inr ⟨msg, rfl⟩

/-- A reader after another completes or raises `ConfigurationException` if both do. -/
theorem CompletesOrRaises.bind {x : Except Failure α} {f : α → Except Failure β}
    (hx : CompletesOrRaises x) (hf : ∀ a, CompletesOrRaises (f a)) :
    CompletesOrRaises (x >>= f) := by
  rcases hx with ⟨a, rfl⟩ | ⟨msg, rfl⟩
  · exact hf a
  · exact .inr ⟨msg, rfl⟩

/-- A reader that completes or raises `ConfigurationException` raises it exactly when it does not
complete. -/
theorem CompletesOrRaises.raises_iff {x : Except Failure α} (h : CompletesOrRaises x) :
    Raises x ↔ ¬ Completes x := by
  constructor
  · rintro ⟨msg, rfl⟩
    exact not_completes_error _
  · exact h.resolve_left

/-- A member of an object that is read only when it is there. -/
theorem completesOrRaises_memberOr {osi : Value} (hobj : osi.isObject = true) {name : String}
    {get : Value → Except Failure α} (otherwise : α) (h : ∀ v, CompletesOrRaises (get v)) :
    CompletesOrRaises (osi.memberOr name get otherwise) := by
  cases hfind : osi.find? name with
  | none =>
    rw [Value.memberOr_of_none hobj hfind]
    exact .inl (completes_ok _)
  | some v =>
    rw [Value.memberOr_of_some hfind]
    exact h v

end Raising

section Blocks

variable {osi : Value}

/-- An AE qualifier block completes or raises. -/
theorem completesOrRaises_importAeQualifier (hobj : osi.isObject = true) (name : String)
    (current : Int) : CompletesOrRaises (importAeQualifier osi name current) := by
  refine completesOrRaises_memberOr hobj current fun v ↦ ?_
  by_cases hv : v.isInt = true
  · rw [if_pos hv]
    exact .inl (Value.completes_getInt_iff.mpr hv)
  · rw [if_neg hv]
    exact completesOrRaises_throw _

/-- An AP title block completes or raises. -/
theorem completesOrRaises_importApTitle (hobj : osi.isObject = true) (name : String)
    (current : String) : CompletesOrRaises (importApTitle osi name current) := by
  refine completesOrRaises_memberOr hobj current fun v ↦ ?_
  by_cases hv : v.isString = true
  · rw [if_pos hv]
    refine CompletesOrRaises.bind (.inl (Value.completes_getString_iff.mpr hv)) fun s ↦ ?_
    dsimp only
    split
    · exact .inl (completes_ok _)
    · exact completesOrRaises_throw _
  · rw [if_neg hv]
    exact completesOrRaises_throw _

/-- A selector block completes or raises. -/
theorem completesOrRaises_importSelector {capacity : Nat} (hobj : osi.isObject = true)
    (name : String) (selector : OsiSelector capacity) :
    CompletesOrRaises (importSelector osi name selector) := by
  refine completesOrRaises_memberOr hobj selector fun v ↦ ?_
  by_cases hv : v.isString = true
  · rw [if_pos hv]
    refine CompletesOrRaises.bind (.inl (Value.completes_getString_iff.mpr hv)) fun s ↦ ?_
    rw [OsiSelector.parse]
    split
    · exact .inl (completes_ok _)
    · next msg _ => exact .inr ⟨msg, rfl⟩
  · rw [if_neg hv]
    exact completesOrRaises_throw _

/-- The six selector blocks complete or raise. -/
theorem completesOrRaises_importJsonConnectionOsiSelectors (hobj : osi.isObject = true)
    (osiParams : OsiParameters) :
    CompletesOrRaises (importJsonConnectionOsiSelectors osi osiParams) := by
  have hselector {capacity : Nat} (name : String) (selector : OsiSelector capacity) :=
    completesOrRaises_importSelector hobj name selector
  rw [importJsonConnectionOsiSelectors]
  refine (hselector _ _).bind fun _ ↦ (hselector _ _).bind fun _ ↦ (hselector _ _).bind fun _ ↦ ?_
  refine (hselector _ _).bind fun _ ↦ (hselector _ _).bind fun _ ↦ (hselector _ _).bind fun _ ↦ ?_
  exact .inl (completes_ok _)

/-- The import of a section completes or raises. -/
theorem completesOrRaises_importJsonConnectionOsiConfig (osi : Value) (group : RedGroup) :
    CompletesOrRaises (importJsonConnectionOsiConfig osi group) := by
  rw [importJsonConnectionOsiConfig]
  by_cases hobj : osi.isObject = true
  · have hqualifier := completesOrRaises_importAeQualifier hobj
    have htitle := completesOrRaises_importApTitle hobj
    simp only [hobj, Bool.not_true, Bool.false_eq_true, if_false]
    refine (hqualifier _ _).bind fun _ ↦ (hqualifier _ _).bind fun _ ↦ ?_
    refine (htitle _ _).bind fun _ ↦ (htitle _ _).bind fun _ ↦ ?_
    refine (completesOrRaises_importJsonConnectionOsiSelectors hobj _).bind fun _ ↦ ?_
    exact .inl (completes_ok _)
  · simp only [hobj, Bool.not_false, if_true]
    exact completesOrRaises_throw _

end Blocks

/-! ### Storing -/

/-- What a field holds after the section: what a member that is there describes, or its previous
value. -/
def FieldStored {α : Type} (osi : Value) (name : String) (Describes : Value → α → Prop)
    (before after : α) : Prop :=
  match osi.find? name with
  | some v => Describes v after
  | none => after = before

/-- A qualifier is the number of the member. -/
def DescribesAeQualifier (v : Value) (qualifier : Int) : Prop := v.int? = some qualifier

/-- A title is the text of the member with dots for commas. -/
def DescribesApTitle (v : Value) (title : String) : Prop :=
  ∃ s, v.text? = some s ∧ title = commasToDots s

/-- A selector is the bytes of the member's tokens: their number is its size, each is stored at
its place, and behind them the buffer holds what it held. -/
def DescribesSelector {capacity : Nat} (before : OsiSelector capacity) (v : Value)
    (after : OsiSelector capacity) : Prop :=
  ∃ s bytes, v.text? = some s ∧
    List.Forall₂ (fun token (b : UInt8) ↦ stoul (selectorBase token) token = .ok b.toNat)
      (selectorTokens s) bytes ∧
    after.size.toNat = bytes.length ∧
    ∀ i, after.value[i]? = if i < bytes.length then bytes[i]? else before.value[i]?

/-- Every present field is stored, every absent one is left, and so is the rest of the group. -/
structure OsiStored (osi : Value) (before after : RedGroup) : Prop where
  localAeQualifier : FieldStored osi "local_ae_qualifier" DescribesAeQualifier
    before.osiParameters.localAeQualifier after.osiParameters.localAeQualifier
  remoteAeQualifier : FieldStored osi "remote_ae_qualifier" DescribesAeQualifier
    before.osiParameters.remoteAeQualifier after.osiParameters.remoteAeQualifier
  localApTitle : FieldStored osi "local_ap_title" DescribesApTitle
    before.osiParameters.localApTitle after.osiParameters.localApTitle
  remoteApTitle : FieldStored osi "remote_ap_title" DescribesApTitle
    before.osiParameters.remoteApTitle after.osiParameters.remoteApTitle
  localPSelector : FieldStored osi "local_psel"
    (DescribesSelector before.osiParameters.localPSelector)
    before.osiParameters.localPSelector after.osiParameters.localPSelector
  localSSelector : FieldStored osi "local_ssel"
    (DescribesSelector before.osiParameters.localSSelector)
    before.osiParameters.localSSelector after.osiParameters.localSSelector
  localTSelector : FieldStored osi "local_tsel"
    (DescribesSelector before.osiParameters.localTSelector)
    before.osiParameters.localTSelector after.osiParameters.localTSelector
  remotePSelector : FieldStored osi "remote_psel"
    (DescribesSelector before.osiParameters.remotePSelector)
    before.osiParameters.remotePSelector after.osiParameters.remotePSelector
  remoteSSelector : FieldStored osi "remote_ssel"
    (DescribesSelector before.osiParameters.remoteSSelector)
    before.osiParameters.remoteSSelector after.osiParameters.remoteSSelector
  remoteTSelector : FieldStored osi "remote_tsel"
    (DescribesSelector before.osiParameters.remoteTSelector)
    before.osiParameters.remoteTSelector after.osiParameters.remoteTSelector
  others : after = { before with
    osiParameters := after.osiParameters, isOsiParametersEnabled := true }

/-- The loop stores the bytes of its tokens one after the other. -/
theorem parseOsiTokens_eq_ok {selectorSize : Nat} {tokens : List (List Char)} {count n : Nat}
    {stores : List (Nat × UInt8)} (hcount : count ≤ selectorSize)
    (h : (parseOsiTokens selectorSize tokens count stores).result = .ok n) :
    ∃ bytes, List.Forall₂ (fun token (b : UInt8) ↦
        stoul (selectorBase token) token = .ok b.toNat) tokens bytes ∧
      n = count + bytes.length ∧ n ≤ selectorSize ∧
      (parseOsiTokens selectorSize tokens count stores).stores =
        stores ++ storesOf count bytes := by
  induction tokens generalizing count stores with
  | nil =>
    have hn := Except.ok.inj h
    refine ⟨[], .nil, hn.symm, hn ▸ hcount, ?_⟩
    simp [parseOsiTokens, storesOf]
  | cons token tokens ih =>
    rw [parseOsiTokens] at h ⊢
    by_cases hfull : selectorSize ≤ count
    · rw [if_pos hfull] at h
      cases h
    · rw [if_neg hfull] at h ⊢
      cases hok : stoul (selectorBase token) token with
      | error e => cases e <;> simp [hok] at h
      | ok ul =>
        by_cases hbyte : 255 < ul
        · simp [hok, hbyte] at h
        · simp only [hok, if_neg hbyte] at h ⊢
          obtain ⟨bytes, hbytes, hn, hfits, hstores⟩ := ih (Nat.lt_of_not_le hfull) h
          have htoNat : (UInt8.ofNat ul).toNat = ul := by
            rw [UInt8.toNat_ofNat']
            omega
          refine ⟨UInt8.ofNat ul :: bytes, .cons ?_ hbytes, ?_, hfits, ?_⟩
          · rw [hok, htoNat]
          · rw [hn, List.length_cons]
            omega
          · rw [hstores, storesOf_cons, List.append_assoc, List.singleton_append]

section Stored

variable {osi : Value} {name : String}

/-- A block stores its field when its reader describes it. -/
theorem fieldStored_of_memberOr {α : Type} {get : Value → Except Failure α} {before after : α}
    {Describes : Value → α → Prop} (h : osi.memberOr name get before = .ok after)
    (hget : ∀ v, get v = .ok after → Describes v after) :
    FieldStored osi name Describes before after := by
  have hread := (Value.memberOr_eq_ok_iff.mp h).2
  unfold FieldStored
  cases hfind : osi.find? name with
  | none =>
    rw [hfind] at hread
    exact hread.symm
  | some v =>
    rw [hfind] at hread
    exact hget v hread

/-- An AE qualifier block stores its field. -/
theorem fieldStored_importAeQualifier {before after : Int}
    (h : importAeQualifier osi name before = .ok after) :
    FieldStored osi name DescribesAeQualifier before after := by
  refine fieldStored_of_memberOr h fun v hv ↦ ?_
  split at hv
  · exact Value.getInt_eq_ok_iff.mp hv
  · cases hv

/-- An AP title block stores its field. -/
theorem fieldStored_importApTitle {before after : String}
    (h : importApTitle osi name before = .ok after) :
    FieldStored osi name DescribesApTitle before after := by
  refine fieldStored_of_memberOr h fun v hv ↦ ?_
  split at hv
  · obtain ⟨s, hs, htitle⟩ := bind_eq_ok_iff.mp hv
    refine ⟨s, Value.getString_eq_ok_iff.mp hs, ?_⟩
    dsimp only at htitle
    split at htitle
    · exact (Except.ok.inj htitle).symm
    · cases htitle
  · cases hv

/-- A selector block stores its field. -/
theorem fieldStored_importSelector {capacity : Nat} (hcapacity : capacity ≤ 255)
    {before after : OsiSelector capacity} (h : importSelector osi name before = .ok after) :
    FieldStored osi name (DescribesSelector before) before after := by
  refine fieldStored_of_memberOr h fun v hv ↦ ?_
  split at hv
  · obtain ⟨s, hs, hparse⟩ := bind_eq_ok_iff.mp hv
    rw [OsiSelector.parse] at hparse
    split at hparse
    · next count hcount =>
      rw [parseOsiSelector_eq, cString_eq_self s.2] at hcount hparse
      obtain ⟨bytes, hbytes, hn, hfits, hstores⟩ :=
        parseOsiTokens_eq_ok (Nat.zero_le capacity) hcount
      rw [Nat.zero_add] at hn
      refine ⟨s, bytes, Value.getString_eq_ok_iff.mp hs, hbytes, ?_, fun i ↦ ?_⟩
      · rw [← Except.ok.inj hparse, hn, UInt8.toNat_ofNat']
        omega
      · rw [← Except.ok.inj hparse, hstores, List.nil_append,
          getElem?_applyStores_storesOf _ (by rwa [Nat.zero_add, ← hn])]
        simp
    · cases hparse
  · cases hv

end Stored

/-- A section that is imported is stored. -/
theorem osiStored_of_eq_ok {osi : Value} {group g : RedGroup}
    (h : importJsonConnectionOsiConfig osi group = .ok g) : OsiStored osi group g := by
  have hobj := ((completes_importJsonConnectionOsiConfig_iff osi group).mp ⟨g, h⟩).isObject
  obtain ⟨⟨hlocalAe, hremoteAe, hlocalAp, hremoteAp⟩,
    ⟨hlocalP, hlocalS, hlocalT, hremoteP, hremoteS, hremoteT⟩, hothers⟩ :=
      (importJsonConnectionOsiConfig_eq_ok_iff hobj).mp h
  exact {
    localAeQualifier := fieldStored_importAeQualifier hlocalAe
    remoteAeQualifier := fieldStored_importAeQualifier hremoteAe
    localApTitle := fieldStored_importApTitle hlocalAp
    remoteApTitle := fieldStored_importApTitle hremoteAp
    localPSelector := fieldStored_importSelector (by omega) hlocalP
    localSSelector := fieldStored_importSelector (by omega) hlocalS
    localTSelector := fieldStored_importSelector (by omega) hlocalT
    remotePSelector := fieldStored_importSelector (by omega) hremoteP
    remoteSSelector := fieldStored_importSelector (by omega) hremoteS
    remoteTSelector := fieldStored_importSelector (by omega) hremoteT
    others := hothers }

/-! ### The whole section -/

/-- The section raises exactly when it is not valid; a valid one is stored. -/
structure ImportsOsiSection (osi : Value) (group : RedGroup) : Prop where
  raises_iff : Raises (importJsonConnectionOsiConfig osi group) ↔ ¬ OsiValid osi
  stored : OsiValid osi →
    ∃ g, importJsonConnectionOsiConfig osi group = .ok g ∧ OsiStored osi group g

/-- Every section is imported with its fields, or refused with an exception. -/
theorem importsOsiSection (osi : Value) (group : RedGroup) : ImportsOsiSection osi group := by
  have hcompletes := completes_importJsonConnectionOsiConfig_iff osi group
  constructor
  · rw [(completesOrRaises_importJsonConnectionOsiConfig osi group).raises_iff, hcompletes]
  · intro hvalid
    obtain ⟨g, hg⟩ := hcompletes.mpr hvalid
    exact ⟨g, hg, osiStored_of_eq_ok hg⟩

/-- A title is read up to its first NUL: what stands behind it is not checked. -/
theorem not_raises_titleBehindNul :
    ¬ (Raises (importJsonConnectionOsiConfig
        (.object [("local_ap_title", .string "1\x00a")]) {}) ↔
      ¬ ∀ c ∈ "1\x00a".toList, c.isDigit = true ∨ c = '.' ∨ c = ',') := by
  intro h
  have hletter : ¬ ∀ c ∈ "1\x00a".toList, c.isDigit = true ∨ c = '.' ∨ c = ',' := by
    intro hall
    have ha := hall 'a' (by decide)
    revert ha
    decide
  obtain ⟨msg, hmsg⟩ := h.mpr hletter
  cases hmsg

end Tase2South.Config
