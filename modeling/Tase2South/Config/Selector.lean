import Tase2South.Config.Osi

/-!
# What the selector parser accepts and what it stores

`parseOsiSelector`, `src/tase2_client_config.cpp:708–762`, against the grammar of a selector:
tokens between delimiters, each in full the numeral of a byte.
-/

namespace Tase2South.Config

open Tase2South.Base

/-! ### The grammar -/

/-- The maximal tokens between the delimiters. -/
def selectorTokens (s : String) : List (List Char) := maximalTokens isSelectorDelim s.toList

/-- A selector has no more tokens than fit, each in full the numeral of a byte. -/
structure SelectorGrammar (s : String) (capacity : Nat) : Prop where
  fits : (selectorTokens s).length ≤ capacity
  bytes : ∀ token ∈ selectorTokens s, ∃ n ≤ 255, IsNumeral token n

/-- The token starts with the numeral of a byte, whatever follows it: decimal digits, maybe
behind white space and a plus sign, or `0x` with the hexadecimal digits that follow, if any. -/
inductive LeadsWithByte : List Char → Prop
  | decimal {token digits : List Char} (hbase : token.take 2 ≠ ['0', 'x']) (hne : digits ≠ [])
      (h : LeadingDigits digits token) (hbyte : ofDigits 10 digits ≤ 255) : LeadsWithByte token
  | hexadecimal {cs : List Char} (hbyte : ofDigits 16 (cs.takeWhile (isDigitOf 16)) ≤ 255) :
      LeadsWithByte ('0' :: 'x' :: cs)

/-- The parser returns normally on the grammar and raises `ConfigurationException`, with
some text, on everything else. -/
def AcceptsItsGrammar (s : String) (capacity : Nat) : Prop :=
  (SelectorGrammar s capacity → ∃ count, (parseOsiSelector s capacity).result = .ok count) ∧
    (¬ SelectorGrammar s capacity → ∃ msg, (parseOsiSelector s capacity).result = .error msg)

/-! ### The conversion of one token -/

section Token

variable {token : List Char} {n : Nat}

/-- A numeral is read in full. -/
theorem scanNumeral_of_isNumeral (h : IsNumeral token n) :
    scanNumeral (selectorBase token) token = some ⟨false, n⟩ := by
  cases h with
  | decimal hne h =>
    have hbase : selectorBase token = 10 := by
      rw [selectorBase, if_neg]
      intro ht
      have hx : 'x' ∈ token := List.mem_of_mem_take (by rw [ht]; decide)
      exact absurd (h 'x' hx) (by decide)
    have hlead : LeadingDigits token ([] ++ ([] ++ (token ++ []))) :=
      .intro (fun c hc ↦ absurd hc List.not_mem_nil) (Or.inl rfl) h
        (fun c hc ↦ absurd hc (by simp))
    rw [List.nil_append, List.nil_append, List.append_nil] at hlead
    rw [hbase, hlead.scanNumeral hne]
  | hexadecimal hne h =>
    rw [show selectorBase _ = 16 from rfl, scanNumeral_hexadecimal,
      List.takeWhile_eq_self_iff.mpr h]

/-- The numeral of a byte converts to the byte. -/
theorem stoul_of_isNumeral (h : IsNumeral token n) (hn : n ≤ 255) :
    stoul (selectorBase token) token = .ok n :=
  (stoul_eq_ok_iff_of_scanNumeral (scanNumeral_of_isNumeral h)).mpr
    ⟨rfl, lt_of_le_of_lt hn (by decide)⟩

/-- A token without a minus sign converts to a byte exactly when it starts with one. -/
theorem leadsWithByte_iff (h : '-' ∉ token) :
    LeadsWithByte token ↔ ∃ n ≤ 255, stoul (selectorBase token) token = .ok n := by
  constructor
  · intro hlead
    cases hlead with
    | decimal hbase hne hlead hbyte =>
      refine ⟨_, hbyte, ?_⟩
      rw [selectorBase, if_neg hbase,
        stoul_eq_ok_iff_of_scanNumeral (hlead.scanNumeral hne)]
      exact ⟨rfl, lt_of_le_of_lt hbyte (by decide)⟩
    | hexadecimal hbyte =>
      refine ⟨_, hbyte, ?_⟩
      rw [show selectorBase _ = 16 from rfl,
        stoul_eq_ok_iff_of_scanNumeral (scanNumeral_hexadecimal _)]
      exact ⟨rfl, lt_of_le_of_lt hbyte (by decide)⟩
  · rintro ⟨n, hn, hok⟩
    by_cases hbase : token.take 2 = ['0', 'x']
    · have ht : token = '0' :: 'x' :: token.drop 2 := by
        conv_lhs => rw [← List.take_append_drop 2 token, hbase]
        rfl
      rw [ht, show selectorBase _ = 16 from rfl,
        stoul_eq_ok_iff_of_scanNumeral (scanNumeral_hexadecimal _)] at hok
      rw [ht]
      exact .hexadecimal (hok.1 ▸ hn)
    · rw [selectorBase, if_neg hbase] at hok
      cases hscan : scanNumeral 10 token with
      | none => simp [stoul, hscan] at hok
      | some m =>
        obtain ⟨digits, hne, hlead, rfl⟩ := (scanNumeral_ten_eq_some_iff h).mp hscan
        rw [stoul_eq_ok_iff_of_scanNumeral hscan] at hok
        exact .decimal hbase hne hlead (hok.1 ▸ hn)

end Token

/-! ### The loop -/

/-- The stores of the bytes at the positions from `start` on. -/
def storesOf (start : Nat) (bytes : List UInt8) : List (Nat × UInt8) :=
  (bytes.zipIdx start).map Prod.swap

/-- The first byte is stored first. -/
theorem storesOf_cons (start : Nat) (b : UInt8) (bytes : List UInt8) :
    storesOf start (b :: bytes) = (start, b) :: storesOf (start + 1) bytes := rfl

/-- The loop returns normally exactly when the remaining tokens fit and each converts to a
byte. -/
theorem completes_parseOsiTokens_iff {selectorSize : Nat} (tokens : List (List Char))
    {count : Nat} (stores : List (Nat × UInt8)) (hcount : count ≤ selectorSize) :
    Completes (parseOsiTokens selectorSize tokens count stores).result ↔
      count + tokens.length ≤ selectorSize ∧
        ∀ token ∈ tokens, ∃ n ≤ 255, stoul (selectorBase token) token = .ok n := by
  induction tokens generalizing count stores with
  | nil => simpa [parseOsiTokens] using hcount
  | cons token tokens ih =>
    rw [parseOsiTokens, List.forall_mem_cons, List.length_cons]
    by_cases hfull : selectorSize ≤ count
    · rw [if_pos hfull]
      constructor
      · intro h
        exact absurd h (not_completes_error _)
      · rintro ⟨hlen, -⟩
        omega
    · rw [if_neg hfull]
      cases hok : stoul (selectorBase token) token with
      | error e => cases e <;> simp
      | ok ul =>
        by_cases hbyte : 255 < ul
        · simp [hbyte]
        · have hnext : count + 1 ≤ selectorSize := by omega
          have hle : ul ≤ 255 := by omega
          have hlen : count + 1 + tokens.length = count + (tokens.length + 1) := by omega
          simp only [if_neg hbyte]
          rw [ih _ hnext, hlen]
          simp [hle]

/-- The loop over numerals of bytes stores them one after the other and counts them. -/
theorem parseOsiTokens_eq_of_forall₂ {selectorSize : Nat} {tokens : List (List Char)}
    {bytes : List UInt8} (h : List.Forall₂ (fun token b ↦ IsNumeral token b.toNat) tokens bytes)
    (count : Nat) (stores : List (Nat × UInt8)) (hlen : count + bytes.length ≤ selectorSize) :
    parseOsiTokens selectorSize tokens count stores =
      ⟨stores ++ storesOf count bytes, .ok (count + bytes.length)⟩ := by
  induction h generalizing count stores with
  | nil => simp [parseOsiTokens, storesOf]
  | @cons token b tokens bytes hb h ih =>
    rw [List.length_cons] at hlen
    have hbyte : b.toNat ≤ 255 := Nat.le_of_lt_succ b.toNat_lt
    have hroom : ¬ selectorSize ≤ count := by omega
    have hnext : count + 1 + bytes.length ≤ selectorSize := by omega
    rw [parseOsiTokens, if_neg hroom, stoul_of_isNumeral hb hbyte]
    simp only [Nat.not_lt.mpr hbyte, if_false, UInt8.ofNat_toNat]
    rw [ih _ _ hnext, storesOf_cons, List.append_assoc, List.length_cons]
    congr 2
    omega

/-- The loop stores below the capacity only, also when it raises. -/
theorem store_lt_of_parseOsiTokens {selectorSize : Nat} (tokens : List (List Char))
    (count : Nat) {stores : List (Nat × UInt8)}
    (h : ∀ store ∈ stores, store.1 < selectorSize) :
    ∀ store ∈ (parseOsiTokens selectorSize tokens count stores).stores,
      store.1 < selectorSize := by
  induction tokens generalizing count stores with
  | nil => exact h
  | cons token tokens ih =>
    rw [parseOsiTokens]
    by_cases hfull : selectorSize ≤ count
    · rwa [if_pos hfull]
    · rw [if_neg hfull]
      cases stoul (selectorBase token) token with
      | error e => cases e <;> exact h
      | ok ul =>
        by_cases hbyte : 255 < ul
        · simpa only [if_pos hbyte] using h
        · simp only [if_neg hbyte]
          refine ih (count + 1) (List.forall_mem_append.mpr ⟨h, ?_⟩)
          rw [List.forall_mem_singleton]
          exact Nat.lt_of_not_le hfull

/-! ### The grammar against the loop -/

section Grammar

variable {s : String} {capacity : Nat}

private theorem isSelectorDelim_nul : isSelectorDelim nul = false := by decide

private theorem no_minus_of_mem_selectorTokens {token : List Char}
    (h : token ∈ selectorTokens s) : '-' ∉ token :=
  fun hm ↦ absurd (isDelim_eq_false_of_mem_maximalTokens h '-' hm) (by decide)

/-- The parser reads the tokens of the C string. -/
theorem parseOsiSelector_eq :
    parseOsiSelector s capacity =
      parseOsiTokens capacity (selectorTokens (cString s)) 0 [] := by
  rw [parseOsiSelector, strtokAll_eq_maximalTokens]
  rfl

/-- The parser returns normally exactly when the tokens fit and each starts with the numeral
of a byte. -/
theorem completes_parseOsiSelector_iff :
    Completes (parseOsiSelector s capacity).result ↔
      (selectorTokens (cString s)).length ≤ capacity ∧
        ∀ token ∈ selectorTokens (cString s), LeadsWithByte token := by
  rw [parseOsiSelector_eq, completes_parseOsiTokens_iff _ _ (Nat.zero_le capacity),
    Nat.zero_add]
  refine and_congr_right fun _ ↦ forall₂_congr fun token hm ↦ ?_
  exact (leadsWithByte_iff (no_minus_of_mem_selectorTokens hm)).symm

/-- No numeral holds a NUL. -/
theorem nul_notMem_of_isNumeral {token : List Char} {n : Nat} (h : IsNumeral token n) :
    nul ∉ token := by
  intro hm
  cases h with
  | decimal hne h => exact absurd (h nul hm) (by decide)
  | hexadecimal hne h =>
    have hnul : nul ∉ ['0', 'x'] := by decide
    cases List.mem_append.mp (show nul ∈ ['0', 'x'] ++ _ from hm) with
    | inl hm => exact hnul hm
    | inr hm => exact absurd (h nul hm) (by decide)

/-- A text whose tokens are numerals holds no NUL. -/
theorem nul_notMem_of_forall_isNumeral
    (h : ∀ token ∈ selectorTokens s, ∃ n, IsNumeral token n) : nul ∉ s.toList := by
  intro hm
  obtain ⟨token, htoken, hc⟩ := exists_mem_maximalTokens hm isSelectorDelim_nul
  obtain ⟨n, hn⟩ := h token htoken
  exact nul_notMem_of_isNumeral hn hc

/-- A numeral starts with the numeral of a byte exactly when it is the numeral of a byte. -/
theorem leadsWithByte_of_isNumeral_iff {token : List Char} {n : Nat} (h : IsNumeral token n)
    (hminus : '-' ∉ token) : LeadsWithByte token ↔ n ≤ 255 := by
  rw [leadsWithByte_iff hminus]
  simp only [stoul_eq_ok_iff_of_scanNumeral (scanNumeral_of_isNumeral h)]
  constructor
  · rintro ⟨m, hm, rfl, -⟩
    exact hm
  · intro hn
    exact ⟨n, hn, rfl, lt_of_le_of_lt hn (by decide)⟩

/-- The grammar: no NUL, as many tokens as fit, each in full a numeral and starting with the
numeral of a byte. -/
theorem selectorGrammar_iff :
    SelectorGrammar s capacity ↔
      Completes (parseOsiSelector s capacity).result ∧
        nul ∉ s.toList ∧ ∀ token ∈ selectorTokens (cString s), ∃ n, IsNumeral token n := by
  rw [completes_parseOsiSelector_iff]
  constructor
  · intro h
    have hnumeral : ∀ token ∈ selectorTokens s, ∃ n, IsNumeral token n := by
      intro token hm
      obtain ⟨n, -, hn⟩ := h.bytes token hm
      exact ⟨n, hn⟩
    have hnul := nul_notMem_of_forall_isNumeral hnumeral
    rw [cString_eq_self hnul]
    refine ⟨⟨h.fits, fun token hm ↦ ?_⟩, hnul, hnumeral⟩
    obtain ⟨n, hbyte, hn⟩ := h.bytes token hm
    exact (leadsWithByte_of_isNumeral_iff hn (no_minus_of_mem_selectorTokens hm)).mpr hbyte
  · rintro ⟨⟨hfits, hlead⟩, hnul, hnumeral⟩
    rw [cString_eq_self hnul] at hfits hlead hnumeral
    refine ⟨hfits, fun token hm ↦ ?_⟩
    obtain ⟨n, hn⟩ := hnumeral token hm
    have hminus := no_minus_of_mem_selectorTokens hm
    exact ⟨n, (leadsWithByte_of_isNumeral_iff hn hminus).mp (hlead token hm), hn⟩

/-- The parser accepts its grammar, and only that, exactly when the text is not one of as many
tokens as fit, each starting with the numeral of a byte, in which a NUL stands or a token is
not in full a numeral. -/
theorem acceptsItsGrammar_iff (s : String) (capacity : Nat) :
    AcceptsItsGrammar s capacity ↔
      ((selectorTokens (cString s)).length ≤ capacity →
        (∀ token ∈ selectorTokens (cString s), LeadsWithByte token) →
          nul ∉ s.toList ∧ ∀ token ∈ selectorTokens (cString s), ∃ n, IsNumeral token n) := by
  rw [AcceptsItsGrammar, selectorGrammar_iff, ← and_imp, ← completes_parseOsiSelector_iff]
  cases h : (parseOsiSelector s capacity).result with
  | ok count => simp
  | error msg => simp

/-- A letter behind the digits is not seen. -/
theorem not_acceptsItsGrammar_letter : ¬ AcceptsItsGrammar "12a" 16 := by
  intro h
  have hok : (parseOsiSelector "12a" 16).result = .ok 1 := by decide
  obtain ⟨msg, hmsg⟩ := h.2 fun hgrammar ↦ by
    obtain ⟨n, -, hn⟩ := hgrammar.bytes ['1', '2', 'a'] (by decide)
    cases hn with
    | decimal hne h => exact absurd (h 'a' (by decide)) (by decide)
  rw [hok] at hmsg
  cases hmsg

end Grammar

/-! ### What is written -/

/-- The text writes these bytes: numerals, each behind a run of delimiters and up to the next
one. -/
inductive WrittenAs : List UInt8 → List Char → Prop
  | nil {gap : List Char} (hgap : ∀ c ∈ gap, isSelectorDelim c = true) : WrittenAs [] gap
  | cons {gap token rest : List Char} {b : UInt8} {bytes : List UInt8}
      (hgap : ∀ c ∈ gap, isSelectorDelim c = true) (hb : IsNumeral token b.toNat)
      (hrest : ∀ c ∈ rest.head?, isSelectorDelim c = true) (h : WrittenAs bytes rest) :
      WrittenAs (b :: bytes) (gap ++ (token ++ rest))

/-- No delimiter is in a numeral. -/
theorem isSelectorDelim_eq_false_of_isNumeral {token : List Char} {n : Nat}
    (h : IsNumeral token n) : ∀ c ∈ token, isSelectorDelim c = false := by
  have hdigit : ∀ {base : Nat} {c : Char}, base ≤ 36 → isDigitOf base c = true →
      isSelectorDelim c = false := by
    intro base c hbase hc
    have hspace : c ≠ ' ' := ne_of_isDigitOf hbase hc (by decide)
    have hcomma : c ≠ ',' := ne_of_isDigitOf hbase hc (by decide)
    have hdot : c ≠ '.' := ne_of_isDigitOf hbase hc (by decide)
    have hminus : c ≠ '-' := ne_of_isDigitOf hbase hc (by decide)
    simp [isSelectorDelim, hspace, hcomma, hdot, hminus]
  cases h with
  | decimal hne h => exact fun c hc ↦ hdigit (by decide) (h c hc)
  | hexadecimal hne h =>
    rw [List.forall_mem_cons, List.forall_mem_cons]
    exact ⟨by decide, by decide, fun c hc ↦ hdigit (by decide) (h c hc)⟩

/-- A numeral has a character. -/
theorem ne_nil_of_isNumeral {token : List Char} {n : Nat} (h : IsNumeral token n) :
    token ≠ [] := by
  cases h with
  | decimal hne h => exact hne
  | hexadecimal hne h => exact List.cons_ne_nil _ _

section Written

variable {bytes : List UInt8} {cs : List Char}

/-- What writes bytes holds no NUL. -/
theorem nul_notMem_of_writtenAs (h : WrittenAs bytes cs) : nul ∉ cs := by
  have hgap : ∀ {gap : List Char}, (∀ c ∈ gap, isSelectorDelim c = true) → nul ∉ gap :=
    fun h hm ↦ absurd (h nul hm) (by decide)
  induction h with
  | nil h => exact hgap h
  | cons h hb hrest hbytes ih =>
    rw [List.mem_append, List.mem_append, not_or, not_or]
    exact ⟨hgap h, nul_notMem_of_isNumeral hb, ih⟩

/-- The tokens are the numerals of the bytes in order. -/
theorem forall₂_strtokAll_of_writtenAs (h : WrittenAs bytes cs) :
    List.Forall₂ (fun token b ↦ IsNumeral token b.toNat) (strtokAll isSelectorDelim cs)
      bytes := by
  induction h with
  | @nil gap hgap =>
    rw [← List.append_nil gap, strtokAll_append_of_delims hgap]
    exact List.Forall₂.nil
  | cons hgap hb hrest h ih =>
    rw [strtokAll_append_of_delims hgap,
      strtokAll_append_of_token (ne_nil_of_isNumeral hb)
        (isSelectorDelim_eq_false_of_isNumeral hb) hrest]
    exact List.Forall₂.cons hb ih

/-- The parser reads what is written, when it fits. -/
theorem parseOsiSelector_of_writtenAs {capacity : Nat} (h : WrittenAs bytes cs)
    (hfits : bytes.length ≤ capacity) :
    parseOsiSelector (String.ofList cs) capacity = ⟨storesOf 0 bytes, .ok bytes.length⟩ := by
  have hnul : nul ∉ (String.ofList cs).toList := by
    rw [String.toList_ofList]
    exact nul_notMem_of_writtenAs h
  rw [parseOsiSelector, cString_eq_self hnul, String.toList_ofList,
    parseOsiTokens_eq_of_forall₂ (forall₂_strtokAll_of_writtenAs h) 0 [] (by rwa [Nat.zero_add]),
    List.nil_append, Nat.zero_add]

/-- Storing bytes from a position on replaces what stands there, and nothing else. -/
theorem getElem?_applyStores_storesOf {capacity : Nat} (value : Vector UInt8 capacity)
    {start : Nat} (hfits : start + bytes.length ≤ capacity) (i : Nat) :
    (applyStores value (storesOf start bytes))[i]? =
      if start ≤ i ∧ i < start + bytes.length then bytes[i - start]? else value[i]? := by
  induction bytes generalizing start value with
  | nil =>
    rw [List.length_nil, if_neg (by omega)]
    rfl
  | cons b bytes ih =>
    rw [List.length_cons] at hfits
    have hnext : start + 1 + bytes.length ≤ capacity := by omega
    have hstart : start < capacity := by omega
    rw [storesOf_cons, applyStores, List.foldl_cons, ← applyStores, ih _ hnext,
      List.length_cons]
    by_cases hi : i = start
    · rw [if_neg (by omega), if_pos (by omega), hi, Nat.sub_self]
      simp [hstart]
    · have hset : (value.setIfInBounds start b)[i]? = value[i]? :=
        Vector.getElem?_setIfInBounds_ne (Ne.symm hi)
      rw [hset]
      by_cases hin : start + 1 ≤ i ∧ i < start + 1 + bytes.length
      · have hsub : i - start = (i - (start + 1)) + 1 := by omega
        rw [if_pos hin, if_pos (by omega), hsub, List.getElem?_cons_succ]
      · rw [if_neg hin, if_neg (by omega)]

end Written

/-- The parser decodes every way of writing as many bytes as fit: it returns their number and
stores them at the positions from 0 on, and nothing behind them. On no text does it store at
or behind the capacity. -/
theorem parseOsiSelector_decodes (capacity : Nat) :
    (∀ bytes cs, bytes.length ≤ capacity → WrittenAs bytes cs →
      (parseOsiSelector (String.ofList cs) capacity).result = .ok bytes.length ∧
        (parseOsiSelector (String.ofList cs) capacity).stores = storesOf 0 bytes ∧
        ∀ (value : Vector UInt8 capacity) (i : Nat),
          (applyStores value (parseOsiSelector (String.ofList cs) capacity).stores)[i]? =
            if i < bytes.length then bytes[i]? else value[i]?) ∧
      ∀ s, ∀ store ∈ (parseOsiSelector s capacity).stores, store.1 < capacity := by
  constructor
  · intro bytes cs hfits h
    rw [parseOsiSelector_of_writtenAs h hfits]
    refine ⟨rfl, rfl, fun value i ↦ ?_⟩
    rw [getElem?_applyStores_storesOf value (by rwa [Nat.zero_add])]
    simp
  · intro s
    exact store_lt_of_parseOsiTokens _ 0 fun store h ↦ absurd h List.not_mem_nil

/-- The bytes 7 and 31 are written by a decimal numeral with a leading zero and a hexadecimal
one. -/
theorem writtenAs_twoBytes : WrittenAs [7, 31] " 07, 0x1F-".toList := by
  have hseven : IsNumeral ['0', '7'] 7 := .decimal (by decide) (List.all_eq_true.mp rfl)
  have hthirtyOne : IsNumeral ['0', 'x', '1', 'F'] 31 :=
    .hexadecimal (by decide) (List.all_eq_true.mp rfl)
  have hend : WrittenAs [] ['-'] := .nil (List.all_eq_true.mp rfl)
  have hlast : WrittenAs [31] ([',', ' '] ++ (['0', 'x', '1', 'F'] ++ ['-'])) := by
    refine .cons (List.all_eq_true.mp rfl) hthirtyOne ?_ hend
    rintro c ⟨⟩
    rfl
  have hboth : WrittenAs [7, 31]
      ([' '] ++ (['0', '7'] ++ ([',', ' '] ++ (['0', 'x', '1', 'F'] ++ ['-'])))) := by
    refine .cons (List.all_eq_true.mp rfl) hseven ?_ hlast
    rintro c ⟨⟩
    rfl
  exact hboth

/-- The parser decodes the bytes 7 and 31. -/
theorem parseOsiSelector_decodes_twoBytes :
    (parseOsiSelector (String.ofList " 07, 0x1F-".toList) 4).result = .ok 2 ∧
      (parseOsiSelector (String.ofList " 07, 0x1F-".toList) 4).stores = storesOf 0 [7, 31] :=
  have h := (parseOsiSelector_decodes 4).1 [7, 31] " 07, 0x1F-".toList (by decide)
    writtenAs_twoBytes
  ⟨h.1, h.2.1⟩

end Tase2South.Config
