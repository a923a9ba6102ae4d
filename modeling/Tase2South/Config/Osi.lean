import Tase2South.Base.Numeral
import Tase2South.Config.Types

/-!
# The OSI section of a connection

`importJsonConnectionOsiConfig`, `importJsonConnectionOsiSelectors` and `parseOsiSelector`,
`src/tase2_client_config.cpp:515–762`. The ten fields follow three patterns (an AE
qualifier, an AP title, a selector), each modelled once with the member it reads.
-/

namespace Tase2South.Config

open Tase2South.Base Tase2South.Json

/-- `ConfigurationException`, `include/tase2_client_config.hpp:50–57`. -/
def configurationException (msg : String) : Failure := .raised ("Configuration exception: " ++ msg)

/-! ### Selectors -/

/-- The delimiters `" ,.-"` of a selector. -/
def isSelectorDelim (c : Char) : Bool := c == ' ' || c == ',' || c == '.' || c == '-'

/-- What a run of the parser did: the bytes it stored, each with its position, and how it
ended. -/
structure SelectorRun where
  stores : List (Nat × UInt8)
  result : Except String Nat
  deriving DecidableEq

/-- The base a token is read with. -/
def selectorBase (token : List Char) : Nat := if token.take 2 = ['0', 'x'] then 16 else 10

/-- The loop of `parseOsiSelector` over the tokens still to come. -/
def parseOsiTokens (selectorSize : Nat) :
    List (List Char) → Nat → List (Nat × UInt8) → SelectorRun
  | [], count, stores => ⟨stores, .ok count⟩
  | token :: tokens, count, stores =>
    if selectorSize ≤ count then
      ⟨stores, .error "bad format for 'OSI Selector' (too many bytes)"⟩
    else
      match stoul (selectorBase token) token with
      | .error .invalidArgument =>
        ⟨stores, .error "bad format for 'OSI Selector' (not a byte)"⟩
      | .error .outOfRange =>
        ⟨stores, .error "bad format for 'OSI Selector (exceed an int)'"⟩
      | .ok ul =>
        if 255 < ul then
          ⟨stores, .error "bad format for 'OSI Selector' (exceed a byte)"⟩
        else
          parseOsiTokens selectorSize tokens (count + 1)
            (stores ++ [(count, UInt8.ofNat ul)])

/-- `parseOsiSelector`, `src/tase2_client_config.cpp:708–762`: `strtok_r` sees the text up to
its first NUL. -/
def parseOsiSelector (inputOsiSelector : String) (selectorSize : Nat) : SelectorRun :=
  parseOsiTokens selectorSize
    (strtokAll isSelectorDelim (cString inputOsiSelector).toList) 0 []

/-- The buffer after the stores. -/
def applyStores {capacity : Nat} (value : Vector UInt8 capacity) (stores : List (Nat × UInt8)) :
    Vector UInt8 capacity :=
  stores.foldl (fun v s ↦ v.setIfInBounds s.1 s.2) value

/-- `parseOsiPSelector`, `parseOsiSSelector` and `parseOsiTSelector`,
`src/tase2_client_config.cpp:687–706`: the three differ in the capacity of their buffer. The
returned count becomes the size. -/
def OsiSelector.parse {capacity : Nat} (selector : OsiSelector capacity)
    (inputOsiSelector : String) : Except Failure (OsiSelector capacity) :=
  let r := parseOsiSelector inputOsiSelector capacity
  match r.result with
  | .ok count => .ok ⟨UInt8.ofNat count, applyStores selector.value r.stores⟩
  | .error msg => .error (configurationException msg)

/-- One block of `importJsonConnectionOsiSelectors`, `src/tase2_client_config.cpp:604–685`. -/
def importSelector {capacity : Nat} (connOsiConfig : Value) (name : String)
    (selector : OsiSelector capacity) : Except Failure (OsiSelector capacity) :=
  connOsiConfig.memberOr name (fun v ↦
    if v.isString then do
      let inputOsiSelector ← v.getString
      selector.parse inputOsiSelector
    else
      throw (configurationException ("bad format for '" ++ name ++ "'"))) selector

/-! ### AE qualifiers and AP titles -/

/-- One AE qualifier block, `src/tase2_client_config.cpp:528–550`. -/
def importAeQualifier (connOsiConfig : Value) (name : String) (current : Int) :
    Except Failure Int :=
  connOsiConfig.memberOr name (fun v ↦
    if v.isInt then v.getInt
    else throw (configurationException ("bad format for '" ++ name ++ "'"))) current

/-- `std::replace` of every comma by a dot. -/
def commasToDots (title : String) : String :=
  String.ofList (title.toList.map fun c ↦ if c = ',' then '.' else c)

/-- Without its dots, the text matches `[0-9]*`. -/
def isDottedDigits (title : String) : Bool :=
  (title.toList.filter (· ≠ '.')).all Char.isDigit

/-- One AP title block, `src/tase2_client_config.cpp:553–597`. -/
def importApTitle (connOsiConfig : Value) (name : String) (current : String) :
    Except Failure String :=
  connOsiConfig.memberOr name (fun v ↦
    if v.isString then do
      let title := commasToDots (← v.getString)
      if isDottedDigits title then
        return title
      else
        throw (configurationException ("'" ++ name ++ "' is not valid"))
    else
      throw (configurationException ("bad format for '" ++ name ++ "'"))) current

/-! ### The section -/

/-- `importJsonConnectionOsiSelectors`, `src/tase2_client_config.cpp:604–685`. -/
def importJsonConnectionOsiSelectors (connOsiConfig : Value) (osiParams : OsiParameters) :
    Except Failure OsiParameters := do
  let localPSelector ← importSelector connOsiConfig "local_psel" osiParams.localPSelector
  let localSSelector ← importSelector connOsiConfig "local_ssel" osiParams.localSSelector
  let localTSelector ← importSelector connOsiConfig "local_tsel" osiParams.localTSelector
  let remotePSelector ← importSelector connOsiConfig "remote_psel" osiParams.remotePSelector
  let remoteSSelector ← importSelector connOsiConfig "remote_ssel" osiParams.remoteSSelector
  let remoteTSelector ← importSelector connOsiConfig "remote_tsel" osiParams.remoteTSelector
  return { osiParams with
    localPSelector, localSSelector, localTSelector,
    remotePSelector, remoteSSelector, remoteTSelector }

/-- `importJsonConnectionOsiConfig`, `src/tase2_client_config.cpp:515–602`. -/
def importJsonConnectionOsiConfig (connOsiConfig : Value) (iedConnectionParam : RedGroup) :
    Except Failure RedGroup := do
  if !connOsiConfig.isObject then
    throw (configurationException "'OSI' section is not valid")
  let osiParams := iedConnectionParam.osiParameters
  let localAeQualifier ←
    importAeQualifier connOsiConfig "local_ae_qualifier" osiParams.localAeQualifier
  let remoteAeQualifier ←
    importAeQualifier connOsiConfig "remote_ae_qualifier" osiParams.remoteAeQualifier
  let localApTitle ← importApTitle connOsiConfig "local_ap_title" osiParams.localApTitle
  let remoteApTitle ← importApTitle connOsiConfig "remote_ap_title" osiParams.remoteApTitle
  let osiParams ← importJsonConnectionOsiSelectors connOsiConfig { osiParams with
    localAeQualifier, remoteAeQualifier, localApTitle, remoteApTitle }
  return { iedConnectionParam with
    osiParameters := osiParams, isOsiParametersEnabled := true }

/-! ### When a section is valid -/

/-- A present AE qualifier is an `int`. -/
def AeQualifierValid (connOsiConfig : Value) (name : String) : Prop :=
  ∀ v, connOsiConfig.find? name = some v → v.isInt = true

/-- A present AP title is a text of digits, dots and commas. -/
def ApTitleValid (connOsiConfig : Value) (name : String) : Prop :=
  ∀ v, connOsiConfig.find? name = some v →
    ∃ s, v.text? = some s ∧ ∀ c ∈ s.val.toList, c.isDigit = true ∨ c = '.' ∨ c = ','

/-- A present selector is a text that the selector parser accepts. -/
def SelectorValid (connOsiConfig : Value) (name : String) (capacity : Nat) : Prop :=
  ∀ v, connOsiConfig.find? name = some v →
    ∃ s, v.text? = some s ∧ Completes (parseOsiSelector s capacity).result

/-- The section is an object whose present fields are all valid. -/
structure OsiValid (connOsiConfig : Value) : Prop where
  isObject : connOsiConfig.isObject = true
  localAeQualifier : AeQualifierValid connOsiConfig "local_ae_qualifier"
  remoteAeQualifier : AeQualifierValid connOsiConfig "remote_ae_qualifier"
  localApTitle : ApTitleValid connOsiConfig "local_ap_title"
  remoteApTitle : ApTitleValid connOsiConfig "remote_ap_title"
  localPSelector : SelectorValid connOsiConfig "local_psel" 16
  localSSelector : SelectorValid connOsiConfig "local_ssel" 16
  localTSelector : SelectorValid connOsiConfig "local_tsel" 4
  remotePSelector : SelectorValid connOsiConfig "remote_psel" 16
  remoteSSelector : SelectorValid connOsiConfig "remote_ssel" 16
  remoteTSelector : SelectorValid connOsiConfig "remote_tsel" 4

section Patterns

variable {osi : Value} {name : String}

/-- An AE qualifier block completes exactly on a valid qualifier. -/
theorem completes_importAeQualifier_iff (hobj : osi.isObject = true) (current : Int) :
    Completes (importAeQualifier osi name current) ↔ AeQualifierValid osi name := by
  rw [importAeQualifier, Value.completes_memberOr_iff, and_iff_right hobj]
  refine forall₂_congr fun v _ ↦ ?_
  by_cases hv : v.isInt = true
  · simp [hv, Value.completes_getInt_iff]
  · simp [hv]

/-- After replacing commas, a text is dotted digits exactly when it has only digits, dots
and commas. -/
theorem isDottedDigits_commasToDots_iff (s : String) :
    isDottedDigits (commasToDots s) = true ↔
      ∀ c ∈ s.toList, c.isDigit = true ∨ c = '.' ∨ c = ',' := by
  simp only [isDottedDigits, commasToDots, String.toList_ofList, List.all_eq_true,
    List.mem_filter, List.mem_map, decide_eq_true_eq, and_imp, forall_exists_index,
    forall_apply_eq_imp_iff₂]
  refine forall₂_congr fun c _ ↦ ?_
  by_cases hc : c = ','
  · simp [hc]
  · by_cases hd : c = '.'
    · simp [hd]
    · simp [hc, hd]

/-- An AP title block completes exactly on a valid title. -/
theorem completes_importApTitle_iff (hobj : osi.isObject = true) (current : String) :
    Completes (importApTitle osi name current) ↔ ApTitleValid osi name := by
  rw [importApTitle, Value.completes_memberOr_iff, and_iff_right hobj]
  refine forall₂_congr fun v _ ↦ ?_
  cases v with
  | string s =>
    have h := isDottedDigits_commasToDots_iff (cText s).val
    by_cases hd : isDottedDigits (commasToDots (cText s).val) = true
    · simp [Value.isString, Value.getString, Value.text?, hd, ← h]
    · simp [Value.isString, Value.getString, Value.text?, hd, ← h]
  | _ => simp [Value.isString, Value.text?]

/-- A selector is stored exactly when the parser accepts its text. -/
theorem completes_parse_iff {capacity : Nat} (selector : OsiSelector capacity) (s : String) :
    Completes (selector.parse s) ↔ Completes (parseOsiSelector s capacity).result := by
  unfold OsiSelector.parse
  cases h : (parseOsiSelector s capacity).result with
  | error msg => simp [h]
  | ok count => simp [h]

/-- A selector block completes exactly on a valid selector. -/
theorem completes_importSelector_iff {capacity : Nat} (hobj : osi.isObject = true)
    (selector : OsiSelector capacity) :
    Completes (importSelector osi name selector) ↔ SelectorValid osi name capacity := by
  rw [importSelector, Value.completes_memberOr_iff, and_iff_right hobj]
  refine forall₂_congr fun v _ ↦ ?_
  cases v with
  | string s => simp [Value.isString, Value.getString, Value.text?, completes_parse_iff]
  | _ => simp [Value.isString, Value.text?]

end Patterns

/-- The six selector blocks return together, each from its own member. -/
theorem importJsonConnectionOsiSelectors_eq_ok_iff {osi : Value} {p q : OsiParameters} :
    importJsonConnectionOsiSelectors osi p = .ok q ↔
      importSelector osi "local_psel" p.localPSelector = .ok q.localPSelector ∧
      importSelector osi "local_ssel" p.localSSelector = .ok q.localSSelector ∧
      importSelector osi "local_tsel" p.localTSelector = .ok q.localTSelector ∧
      importSelector osi "remote_psel" p.remotePSelector = .ok q.remotePSelector ∧
      importSelector osi "remote_ssel" p.remoteSSelector = .ok q.remoteSSelector ∧
      importSelector osi "remote_tsel" p.remoteTSelector = .ok q.remoteTSelector ∧
      q.localAeQualifier = p.localAeQualifier ∧ q.remoteAeQualifier = p.remoteAeQualifier ∧
      q.localApTitle = p.localApTitle ∧ q.remoteApTitle = p.remoteApTitle := by
  simp only [importJsonConnectionOsiSelectors, bind_eq_ok_iff, pure_eq_ok, Except.ok.injEq]
  constructor
  · rintro ⟨lp, hlp, ls, hls, lt, hlt, rp, hrp, rs, hrs, rt, hrt, rfl⟩
    exact ⟨hlp, hls, hlt, hrp, hrs, hrt, rfl, rfl, rfl, rfl⟩
  · rintro ⟨hlp, hls, hlt, hrp, hrs, hrt, hla, hra, hlt', hrt'⟩
    refine ⟨_, hlp, _, hls, _, hlt, _, hrp, _, hrs, _, hrt, ?_⟩
    cases q
    simp_all

/-- The ten fields return together, each from its own member, and the section is marked
present. -/
theorem importJsonConnectionOsiConfig_eq_ok_iff {osi : Value} {group g : RedGroup}
    (hobj : osi.isObject = true) :
    importJsonConnectionOsiConfig osi group = .ok g ↔
      let p := group.osiParameters
      let q := g.osiParameters
      (importAeQualifier osi "local_ae_qualifier" p.localAeQualifier = .ok q.localAeQualifier ∧
      importAeQualifier osi "remote_ae_qualifier" p.remoteAeQualifier =
        .ok q.remoteAeQualifier ∧
      importApTitle osi "local_ap_title" p.localApTitle = .ok q.localApTitle ∧
      importApTitle osi "remote_ap_title" p.remoteApTitle = .ok q.remoteApTitle) ∧
      (importSelector osi "local_psel" p.localPSelector = .ok q.localPSelector ∧
      importSelector osi "local_ssel" p.localSSelector = .ok q.localSSelector ∧
      importSelector osi "local_tsel" p.localTSelector = .ok q.localTSelector ∧
      importSelector osi "remote_psel" p.remotePSelector = .ok q.remotePSelector ∧
      importSelector osi "remote_ssel" p.remoteSSelector = .ok q.remoteSSelector ∧
      importSelector osi "remote_tsel" p.remoteTSelector = .ok q.remoteTSelector) ∧
      g = { group with osiParameters := q, isOsiParametersEnabled := true } := by
  simp only [importJsonConnectionOsiConfig, hobj, Bool.not_true, Bool.false_eq_true, if_false,
    bind_eq_ok_iff, pure_eq_ok, Except.ok.injEq, importJsonConnectionOsiSelectors_eq_ok_iff]
  constructor
  · rintro ⟨la, hla, ra, hra, lt, hlt, rt, hrt, q, ⟨h1, h2, h3, h4, h5, h6, e1, e2, e3, e4⟩, rfl⟩
    exact ⟨⟨e1 ▸ hla, e2 ▸ hra, e3 ▸ hlt, e4 ▸ hrt⟩, ⟨h1, h2, h3, h4, h5, h6⟩, rfl⟩
  · rintro ⟨⟨hla, hra, hlt, hrt⟩, ⟨h1, h2, h3, h4, h5, h6⟩, hg⟩
    exact ⟨_, hla, _, hra, _, hlt, _, hrt, g.osiParameters,
      ⟨h1, h2, h3, h4, h5, h6, rfl, rfl, rfl, rfl⟩, hg.symm⟩

/-- The section is imported, without an exception, exactly when it is valid. -/
theorem completes_importJsonConnectionOsiConfig_iff (osi : Value) (group : RedGroup) :
    Completes (importJsonConnectionOsiConfig osi group) ↔ OsiValid osi := by
  by_cases hobj : osi.isObject = true
  · constructor
    · rintro ⟨g, hg⟩
      obtain ⟨⟨hla, hra, hlt, hrt⟩, ⟨h1, h2, h3, h4, h5, h6⟩, -⟩ :=
        (importJsonConnectionOsiConfig_eq_ok_iff hobj).mp hg
      exact ⟨hobj, (completes_importAeQualifier_iff hobj _).mp ⟨_, hla⟩,
        (completes_importAeQualifier_iff hobj _).mp ⟨_, hra⟩,
        (completes_importApTitle_iff hobj _).mp ⟨_, hlt⟩,
        (completes_importApTitle_iff hobj _).mp ⟨_, hrt⟩,
        (completes_importSelector_iff hobj _).mp ⟨_, h1⟩,
        (completes_importSelector_iff hobj _).mp ⟨_, h2⟩,
        (completes_importSelector_iff hobj _).mp ⟨_, h3⟩,
        (completes_importSelector_iff hobj _).mp ⟨_, h4⟩,
        (completes_importSelector_iff hobj _).mp ⟨_, h5⟩,
        (completes_importSelector_iff hobj _).mp ⟨_, h6⟩⟩
    · intro h
      let p := group.osiParameters
      obtain ⟨la, hla⟩ :=
        (completes_importAeQualifier_iff hobj p.localAeQualifier).mpr h.localAeQualifier
      obtain ⟨ra, hra⟩ :=
        (completes_importAeQualifier_iff hobj p.remoteAeQualifier).mpr h.remoteAeQualifier
      obtain ⟨lt, hlt⟩ := (completes_importApTitle_iff hobj p.localApTitle).mpr h.localApTitle
      obtain ⟨rt, hrt⟩ := (completes_importApTitle_iff hobj p.remoteApTitle).mpr h.remoteApTitle
      obtain ⟨lp, h1⟩ :=
        (completes_importSelector_iff hobj p.localPSelector).mpr h.localPSelector
      obtain ⟨ls, h2⟩ :=
        (completes_importSelector_iff hobj p.localSSelector).mpr h.localSSelector
      obtain ⟨lts, h3⟩ :=
        (completes_importSelector_iff hobj p.localTSelector).mpr h.localTSelector
      obtain ⟨rp, h4⟩ :=
        (completes_importSelector_iff hobj p.remotePSelector).mpr h.remotePSelector
      obtain ⟨rs, h5⟩ :=
        (completes_importSelector_iff hobj p.remoteSSelector).mpr h.remoteSSelector
      obtain ⟨rts, h6⟩ :=
        (completes_importSelector_iff hobj p.remoteTSelector).mpr h.remoteTSelector
      refine ⟨{ group with
        osiParameters := ⟨lt, la, rt, ra, lts, rts, ls, rs, lp, rp⟩
        isOsiParametersEnabled := true }, ?_⟩
      rw [importJsonConnectionOsiConfig_eq_ok_iff hobj]
      exact ⟨⟨hla, hra, hlt, hrt⟩, ⟨h1, h2, h3, h4, h5, h6⟩, rfl⟩
  · constructor
    · intro h
      simp [importJsonConnectionOsiConfig, hobj] at h
    · intro h
      exact absurd h.isObject hobj

/-! ### The values a section describes -/

/-- The selector a section describes: the bytes of the member's text, or zero bytes. -/
def parsedSelector (connOsiConfig : Value) (name : String) (capacity : Nat) :
    OsiSelector capacity :=
  match (connOsiConfig.find? name).bind Value.text? with
  | none => .zero capacity
  | some s =>
    let r := parseOsiSelector s capacity
    match r.result with
    | .ok count => ⟨UInt8.ofNat count, applyStores (OsiSelector.zero capacity).value r.stores⟩
    | .error _ => .zero capacity

/-- A selector block started on zero bytes yields the selector the section describes. -/
theorem eq_parsedSelector_of_importSelector {osi : Value} {name : String} {capacity : Nat}
    {selector : OsiSelector capacity}
    (h : importSelector osi name (.zero capacity) = .ok selector) :
    selector = parsedSelector osi name capacity := by
  rw [importSelector, Value.memberOr_eq_ok_iff] at h
  obtain ⟨-, h⟩ := h
  cases hf : osi.find? name with
  | none =>
    simp only [hf] at h
    simp [parsedSelector, hf, h]
  | some v =>
    simp only [hf] at h
    cases v with
    | string s =>
      simp only [Value.isString, if_true, Value.getString, Value.text?, ok_bind,
        OsiSelector.parse] at h
      simp only [parsedSelector, hf, Option.bind_some, Value.text?]
      split at h
      · exact (Except.ok.inj h).symm
      · cases h
    | _ => simp [Value.isString] at h

/-- A title block started on the empty text yields the member's text with dots for commas. -/
theorem eq_textOr_of_importApTitle {osi : Value} {name title : String}
    (h : importApTitle osi name "" = .ok title) : title = commasToDots (osi.textOr name "") := by
  rw [importApTitle, Value.memberOr_eq_ok_iff] at h
  have h := h.2
  cases hf : osi.find? name with
  | none =>
    simp only [hf] at h
    rw [Value.textOr, hf, ← h]
    rfl
  | some v =>
    simp only [hf] at h
    cases v with
    | string s =>
      simp only [Value.isString, if_true, Value.getString, Value.text?, ok_bind] at h
      rw [Value.textOr, hf]
      split at h
      · exact (Except.ok.inj h).symm
      · cases h
    | _ => simp [Value.isString] at h

/-- A qualifier block started on zero yields the member's number. -/
theorem eq_intOr_of_importAeQualifier {osi : Value} {name : String} {qualifier : Int}
    (h : importAeQualifier osi name 0 = .ok qualifier) : qualifier = osi.intOr name 0 := by
  rw [importAeQualifier, Value.memberOr_eq_ok_iff] at h
  have h := h.2
  cases hf : osi.find? name with
  | none =>
    simp only [hf] at h
    rw [Value.intOr, hf, ← h]
    rfl
  | some v =>
    simp only [hf] at h
    split at h
    · rw [Value.getInt_eq_ok_iff] at h
      rw [Value.intOr, hf, Option.bind_some, h]
      rfl
    · cases h

end Tase2South.Config
