import Mathlib.Algebra.Group.Int.Defs
import Mathlib.Algebra.Group.Nat.Defs
import Mathlib.Data.List.Basic
import Mathlib.Data.List.TakeWhile

/-!
# Tokens and numerals of the C library

`strtok_r` with a fixed delimiter set, and the number readers that stop at the first
character they cannot use: leading white space, an optional sign, with base 16 an optional
`0x` in front of a digit, then digits. The readers differ in what they do without a digit
and out of range.
-/

namespace Tase2South.Base

universe u

/-! ### Tokens -/

/-- Scan for maximal runs of characters that are no delimiters, with the run so far. -/
def scanTokens {α : Type u} (isDelim : α → Bool) (current : List α) : List α → List (List α)
  | [] => if current.isEmpty then [] else [current]
  | c :: cs =>
    if isDelim c then
      if current.isEmpty then scanTokens isDelim [] cs
      else current :: scanTokens isDelim [] cs
    else scanTokens isDelim (current ++ [c]) cs

/-- The tokens that repeated `strtok_r` returns. -/
def strtokAll {α : Type u} (isDelim : α → Bool) (cs : List α) : List (List α) :=
  scanTokens isDelim [] cs

/-- The maximal runs of characters that are no delimiters. -/
def maximalTokens {α : Type u} (isDelim : α → Bool) (cs : List α) : List (List α) :=
  (cs.splitOnP isDelim).filter fun token ↦ !token.isEmpty

section Tokens

variable {α : Type u} {isDelim : α → Bool}

/-- The scan keeps the parts of a split that hold a character. -/
theorem scanTokens_eq (cs current : List α) :
    scanTokens isDelim current cs =
      (cs.splitOnPPrepend isDelim current.reverse).filter fun token ↦ !token.isEmpty := by
  induction cs generalizing current with
  | nil =>
    rw [scanTokens, List.splitOnPPrepend_nil, List.reverse_reverse]
    cases current with
    | nil => rfl
    | cons c current => rfl
  | cons c cs ih =>
    by_cases hc : isDelim c = true
    · rw [scanTokens, if_pos hc, List.splitOnPPrepend_cons_pos hc, List.reverse_reverse, ih,
        List.reverse_nil]
      cases current with
      | nil => rfl
      | cons d current => rfl
    · rw [scanTokens, if_neg hc, ih, List.splitOnPPrepend_cons_neg (by simpa using hc),
        List.reverse_append]
      rfl

/-- Repeated `strtok_r` returns the maximal tokens in order. -/
theorem strtokAll_eq_maximalTokens (cs : List α) :
    strtokAll isDelim cs = maximalTokens isDelim cs := by
  rw [strtokAll, scanTokens_eq, List.reverse_nil, List.splitOnPPrepend_nil_right, maximalTokens]

/-- Delimiters in front of the first token are skipped. -/
theorem strtokAll_append_of_delims {gap : List α} (h : ∀ c ∈ gap, isDelim c = true)
    (rest : List α) : strtokAll isDelim (gap ++ rest) = strtokAll isDelim rest := by
  induction gap with
  | nil => rfl
  | cons c gap ih =>
    rw [List.forall_mem_cons] at h
    rw [List.cons_append, strtokAll, scanTokens, if_pos h.1]
    exact ih h.2

private theorem scanTokens_append {token : List α} (h : ∀ c ∈ token, isDelim c = false)
    (current rest : List α) :
    scanTokens isDelim current (token ++ rest) =
      scanTokens isDelim (current ++ token) rest := by
  induction token generalizing current with
  | nil => rw [List.nil_append, List.append_nil]
  | cons c token ih =>
    rw [List.forall_mem_cons] at h
    rw [List.cons_append, scanTokens, if_neg (by rw [h.1]; decide), ih h.2,
      List.append_assoc, List.singleton_append]

/-- A run of other characters up to a delimiter, or up to the end, is the first token. -/
theorem strtokAll_append_of_token {token rest : List α} (hne : token ≠ [])
    (h : ∀ c ∈ token, isDelim c = false) (hrest : ∀ c ∈ rest.head?, isDelim c = true) :
    strtokAll isDelim (token ++ rest) = token :: strtokAll isDelim rest := by
  have hempty : token.isEmpty = false := by simpa using hne
  rw [strtokAll, scanTokens_append h, List.nil_append]
  cases rest with
  | nil => simp [scanTokens, strtokAll, hempty]
  | cons c rest =>
    have hc : isDelim c = true := hrest c rfl
    simp [scanTokens, strtokAll, hc, hempty]

/-- A token holds no delimiter. -/
theorem isDelim_eq_false_of_mem_scanTokens {cs current token : List α}
    (hcurrent : ∀ c ∈ current, isDelim c = false)
    (h : token ∈ scanTokens isDelim current cs) : ∀ c ∈ token, isDelim c = false := by
  induction cs generalizing current with
  | nil =>
    rw [scanTokens] at h
    split at h
    · cases h
    · rw [List.mem_singleton.mp h]
      exact hcurrent
  | cons d cs ih =>
    rw [scanTokens] at h
    by_cases hd : isDelim d = true
    · rw [if_pos hd] at h
      split at h
      · exact ih (fun c hc ↦ absurd hc List.not_mem_nil) h
      · cases List.mem_cons.mp h with
        | inl h => rwa [h]
        | inr h => exact ih (fun c hc ↦ absurd hc List.not_mem_nil) h
    · rw [if_neg hd] at h
      refine ih (List.forall_mem_append.mpr ⟨hcurrent, ?_⟩) h
      rw [List.forall_mem_singleton]
      simpa using hd

/-- Every character that is no delimiter is in a token. -/
theorem exists_mem_scanTokens {cs current : List α} {c : α}
    (h : c ∈ current ∨ c ∈ cs ∧ isDelim c = false) :
    ∃ token ∈ scanTokens isDelim current cs, c ∈ token := by
  induction cs generalizing current with
  | nil =>
    have hc : c ∈ current := h.resolve_right fun hn ↦ nomatch hn.1
    rw [scanTokens, if_neg (by simpa using List.ne_nil_of_mem hc)]
    exact ⟨current, List.mem_cons_self, hc⟩
  | cons d cs ih =>
    rw [scanTokens]
    by_cases hd : isDelim d = true
    · rw [if_pos hd]
      cases h with
      | inl h =>
        rw [if_neg (by simpa using List.ne_nil_of_mem h)]
        exact ⟨current, List.mem_cons_self, h⟩
      | inr h =>
        have hne : c ≠ d := fun he ↦ by simp [he, hd] at h
        obtain ⟨token, hm, hc⟩ := ih (Or.inr ⟨(List.mem_cons.mp h.1).resolve_left hne, h.2⟩)
        split
        · exact ⟨token, hm, hc⟩
        · exact ⟨token, List.mem_cons_of_mem _ hm, hc⟩
    · rw [if_neg hd]
      refine ih ?_
      rw [List.mem_append, List.mem_singleton]
      cases h with
      | inl h => exact Or.inl (Or.inl h)
      | inr h =>
        cases List.mem_cons.mp h.1 with
        | inl he => exact Or.inl (Or.inr he)
        | inr hm => exact Or.inr ⟨hm, h.2⟩

/-- A maximal token holds no delimiter. -/
theorem isDelim_eq_false_of_mem_maximalTokens {cs token : List α}
    (h : token ∈ maximalTokens isDelim cs) : ∀ c ∈ token, isDelim c = false := by
  rw [← strtokAll_eq_maximalTokens, strtokAll] at h
  exact isDelim_eq_false_of_mem_scanTokens (fun c hc ↦ absurd hc List.not_mem_nil) h

/-- The maximal tokens hold every character that is no delimiter. -/
theorem exists_mem_maximalTokens {cs : List α} {c : α} (h : c ∈ cs) (hd : isDelim c = false) :
    ∃ token ∈ maximalTokens isDelim cs, c ∈ token := by
  rw [← strtokAll_eq_maximalTokens, strtokAll]
  exact exists_mem_scanTokens (Or.inr ⟨h, hd⟩)

end Tokens

/-! ### Numerals -/

/-- `isspace` in the C locale. -/
def isSpace (c : Char) : Bool := c.toNat = 32 || (9 ≤ c.toNat && c.toNat ≤ 13)

/-- The value of a digit, letters counting from ten on. -/
def digitValue (c : Char) : Nat :=
  if '0' ≤ c ∧ c ≤ '9' then c.toNat - '0'.toNat
  else if 'a' ≤ c ∧ c ≤ 'z' then c.toNat - 'a'.toNat + 10
  else if 'A' ≤ c ∧ c ≤ 'Z' then c.toNat - 'A'.toNat + 10
  else 36

/-- A digit of the base. -/
def isDigitOf (base : Nat) (c : Char) : Bool := digitValue c < base

/-- The number a digit sequence denotes. -/
def ofDigits (base : Nat) (cs : List Char) : Nat :=
  cs.foldl (fun n c ↦ n * base + digitValue c) 0

/-- A sign and a magnitude. -/
structure Numeral where
  negative : Bool
  magnitude : Nat
  deriving DecidableEq, Repr

/-- The signed value. -/
def Numeral.value (n : Numeral) : Int := if n.negative then -n.magnitude else n.magnitude

/-- Drop the prefix `0x` when a hexadecimal digit follows it. -/
def dropHexPrefix (base : Nat) (cs : List Char) : List Char :=
  match cs with
  | '0' :: x :: d :: rest =>
    if base = 16 ∧ (x = 'x' ∨ x = 'X') ∧ isDigitOf 16 d then d :: rest else cs
  | _ => cs

/-- The sign in front of the digits and what follows it. -/
def scanSign : List Char → Bool × List Char
  | '-' :: rest => (true, rest)
  | '+' :: rest => (false, rest)
  | cs => (false, cs)

/-- The leading numeral, when there is a digit. -/
def scanNumeral (base : Nat) (cs : List Char) : Option Numeral :=
  let (negative, rest) := scanSign (cs.dropWhile isSpace)
  let digits := (dropHexPrefix base rest).takeWhile (isDigitOf base)
  if digits.isEmpty then none else some ⟨negative, ofDigits base digits⟩

/-- What `std::stol` and `std::stoul` throw. -/
inductive ConversionError where
  | invalidArgument
  | outOfRange
  deriving DecidableEq, Repr

/-- `std::stoul` to a 64-bit `unsigned long`; a negated magnitude wraps. -/
def stoul (base : Nat) (cs : List Char) : Except ConversionError Nat :=
  match scanNumeral base cs with
  | none => .error .invalidArgument
  | some n =>
    if 2 ^ 64 ≤ n.magnitude then .error .outOfRange
    else .ok (if n.negative then (2 ^ 64 - n.magnitude) % 2 ^ 64 else n.magnitude)

/-- `std::stol` to a 64-bit `long`. -/
def stol (cs : List Char) : Except ConversionError Int :=
  match scanNumeral 10 cs with
  | none => .error .invalidArgument
  | some n =>
    if n.value < -2 ^ 63 ∨ 2 ^ 63 ≤ n.value then .error .outOfRange else .ok n.value

/-- `strtol` clamps to the range of `long` and yields zero without a digit. -/
def strtol (cs : List Char) : Int :=
  match scanNumeral 10 cs with
  | none => 0
  | some n => max (-2 ^ 63) (min n.value (2 ^ 63 - 1))

/-- `atoi`, the low 32 bits of `strtol`. -/
def atoi (cs : List Char) : Int := (strtol cs).bmod (2 ^ 32)

example : (strtokAll (fun c ↦ c == ' ' || c == ',') " 1,, 0x1f ".toList).map String.ofList =
    ["1", "0x1f"] := by decide

example : stoul 16 "0x1f".toList = .ok 31 ∧ stoul 10 "12a".toList = .ok 12 ∧
    stoul 10 "a".toList = .error .invalidArgument := by decide

/-- A numeral in full and the number it denotes: decimal digits, or `0x` and hexadecimal
digits. -/
inductive IsNumeral : List Char → Nat → Prop
  | decimal {digits : List Char} (hne : digits ≠ [])
      (h : ∀ c ∈ digits, isDigitOf 10 c = true) : IsNumeral digits (ofDigits 10 digits)
  | hexadecimal {digits : List Char} (hne : digits ≠ [])
      (h : ∀ c ∈ digits, isDigitOf 16 c = true) :
      IsNumeral ('0' :: 'x' :: digits) (ofDigits 16 digits)

/-- The text starts, behind white space and an optional plus sign, with exactly these decimal
digits. -/
inductive LeadingDigits (digits : List Char) : List Char → Prop
  | intro {white sign rest : List Char} (hwhite : ∀ c ∈ white, isSpace c = true)
      (hsign : sign = [] ∨ sign = ['+']) (hdigits : ∀ c ∈ digits, isDigitOf 10 c = true)
      (hrest : ∀ c ∈ rest.head?, isDigitOf 10 c = false) :
      LeadingDigits digits (white ++ (sign ++ (digits ++ rest)))

section Reading

variable {base : Nat} {c : Char} {cs digits rest : List Char}

/-- A digit is a character of `0-9`, `a-z` or `A-Z`. -/
theorem range_of_isDigitOf (hbase : base ≤ 36) (h : isDigitOf base c = true) :
    '0' ≤ c ∧ c ≤ '9' ∨ 'a' ≤ c ∧ c ≤ 'z' ∨ 'A' ≤ c ∧ c ≤ 'Z' := by
  rw [isDigitOf, decide_eq_true_iff] at h
  by_contra hn
  rw [not_or, not_or] at hn
  rw [digitValue, if_neg hn.1, if_neg hn.2.1, if_neg hn.2.2] at h
  omega

/-- A character outside the ranges of decimal digits and letters is no digit. -/
theorem ne_of_isDigitOf {d : Char} (hbase : base ≤ 36) (h : isDigitOf base c = true)
    (hd : ¬ ('0' ≤ d ∧ d ≤ '9' ∨ 'a' ≤ d ∧ d ≤ 'z' ∨ 'A' ≤ d ∧ d ≤ 'Z')) : c ≠ d := by
  rintro rfl
  exact hd (range_of_isDigitOf hbase h)

/-- A digit is no white space. -/
theorem isSpace_eq_false_of_isDigitOf (hbase : base ≤ 36) (h : isDigitOf base c = true) :
    isSpace c = false := by
  have hr := range_of_isDigitOf hbase h
  simp only [Char.le_def, UInt32.le_iff_toNat_le] at hr
  have ht : 48 ≤ c.toNat := by
    rcases hr with hr | hr | hr
    · exact hr.1
    · exact le_trans (by decide) hr.1
    · exact le_trans (by decide) hr.1
  simp only [isSpace, Bool.or_eq_false_iff, Bool.and_eq_false_iff, decide_eq_false_iff_not]
  omega

private theorem takeWhile_append_of_stop {p : Char → Bool} (h : ∀ c ∈ digits, p c = true)
    (hrest : ∀ c ∈ rest.head?, p c = false) : (digits ++ rest).takeWhile p = digits := by
  rw [List.takeWhile_append_of_pos h]
  cases rest with
  | nil => rw [List.takeWhile_nil, List.append_nil]
  | cons c rest =>
    rw [List.takeWhile_cons_of_neg (by rw [hrest c rfl]; decide), List.append_nil]

private theorem dropWhile_append_of_stop {p : Char → Bool} (h : ∀ c ∈ digits, p c = true)
    (hrest : ∀ c ∈ rest.head?, p c = false) : (digits ++ rest).dropWhile p = rest := by
  rw [List.dropWhile_append_of_pos h]
  cases rest with
  | nil => rfl
  | cons c rest => rw [List.dropWhile_cons_of_neg (by rw [hrest c rfl]; decide)]

private theorem head?_dropWhile {p : Char → Bool} : ∀ c ∈ (cs.dropWhile p).head?, p c = false := by
  intro c hc
  have h := List.head?_dropWhile_not p cs
  rwa [Option.mem_def.mp hc] at h

private theorem scanSign_of_digit (hbase : base ≤ 36) (h : isDigitOf base c = true) :
    scanSign (c :: rest) = (false, c :: rest) := by
  have hminus : c ≠ '-' := ne_of_isDigitOf hbase h (by decide)
  have hplus : c ≠ '+' := ne_of_isDigitOf hbase h (by decide)
  unfold scanSign
  split
  · exact absurd (List.cons.inj ‹_›).1 hminus
  · exact absurd (List.cons.inj ‹_›).1 hplus
  · rfl

/-- Without a minus sign, the text is an optional plus sign and what follows it. -/
theorem scanSign_of_no_minus (h : '-' ∉ cs) :
    ∃ sign, (sign = [] ∨ sign = ['+']) ∧ cs = sign ++ (scanSign cs).2 ∧
      (scanSign cs).1 = false := by
  unfold scanSign
  split
  · exact absurd List.mem_cons_self h
  · exact ⟨['+'], Or.inr rfl, rfl, rfl⟩
  · exact ⟨[], Or.inl rfl, rfl, rfl⟩

/-- Only base 16 has a prefix. -/
theorem dropHexPrefix_ten (cs : List Char) : dropHexPrefix 10 cs = cs := by
  unfold dropHexPrefix
  split
  · rw [if_neg fun h ↦ absurd h.1 (by decide)]
  · rfl

/-- Leading digits are what base 10 reads. -/
theorem LeadingDigits.scanNumeral (h : LeadingDigits digits cs) (hne : digits ≠ []) :
    scanNumeral 10 cs = some ⟨false, ofDigits 10 digits⟩ := by
  obtain ⟨hwhite, hsign, hdigits, hrest⟩ := h
  rename_i white sign rest
  cases digits with
  | nil => exact absurd rfl hne
  | cons d digits =>
    have hd : isDigitOf 10 d = true := hdigits d List.mem_cons_self
    have hread : scanSign (sign ++ (d :: digits ++ rest)) = (false, d :: digits ++ rest) := by
      rcases hsign with rfl | rfl
      · exact scanSign_of_digit (by decide) hd
      · rfl
    have hstop : ∀ c ∈ (sign ++ (d :: digits ++ rest)).head?, isSpace c = false := by
      rcases hsign with rfl | rfl
      · simpa using isSpace_eq_false_of_isDigitOf (by decide) hd
      · simp [isSpace]
    rw [Base.scanNumeral, dropWhile_append_of_stop hwhite hstop, hread]
    simp only [dropHexPrefix_ten, takeWhile_append_of_stop hdigits hrest]
    rfl

/-- Base 10 reads the leading digits of a text without a minus sign, and nothing else. -/
theorem scanNumeral_ten_eq_some_iff (h : '-' ∉ cs) {n : Numeral} :
    scanNumeral 10 cs = some n ↔
      ∃ digits, digits ≠ [] ∧ LeadingDigits digits cs ∧ n = ⟨false, ofDigits 10 digits⟩ := by
  constructor
  · intro hn
    have hsub : '-' ∉ cs.dropWhile isSpace := fun hm ↦ h ((List.dropWhile_sublist _).mem hm)
    obtain ⟨sign, hsign, hcs, hneg⟩ := scanSign_of_no_minus hsub
    have hlead : LeadingDigits ((scanSign (cs.dropWhile isSpace)).2.takeWhile (isDigitOf 10))
        (cs.takeWhile isSpace ++ (sign ++
          ((scanSign (cs.dropWhile isSpace)).2.takeWhile (isDigitOf 10) ++
            (scanSign (cs.dropWhile isSpace)).2.dropWhile (isDigitOf 10)))) :=
      .intro (fun c hc ↦ List.mem_takeWhile_imp hc) hsign
        (fun c hc ↦ List.mem_takeWhile_imp hc) head?_dropWhile
    rw [List.takeWhile_append_dropWhile, ← hcs, List.takeWhile_append_dropWhile] at hlead
    simp only [scanNumeral, dropHexPrefix_ten, hneg] at hn
    split at hn
    · cases hn
    · next he => exact ⟨_, by simpa using he, hlead, (Option.some.inj hn).symm⟩
  · rintro ⟨digits, hne, hlead, rfl⟩
    exact hlead.scanNumeral hne

/-- Behind `0x`, base 16 reads the digits up to the first other character; without one it
reads the zero. -/
theorem scanNumeral_hexadecimal (cs : List Char) :
    scanNumeral 16 ('0' :: 'x' :: cs) =
      some ⟨false, ofDigits 16 (cs.takeWhile (isDigitOf 16))⟩ := by
  have hread : ('0' :: 'x' :: cs).dropWhile isSpace = '0' :: 'x' :: cs := rfl
  have hsign : scanSign ('0' :: 'x' :: cs) = (false, '0' :: 'x' :: cs) := rfl
  rw [scanNumeral, hread, hsign]
  cases cs with
  | nil => rfl
  | cons c cs =>
    by_cases hc : isDigitOf 16 c = true
    · simp [dropHexPrefix, hc]
    · have hdrop : dropHexPrefix 16 ('0' :: 'x' :: c :: cs) = '0' :: 'x' :: c :: cs := by
        rw [dropHexPrefix, if_neg fun h ↦ hc h.2.2]
      have hzero : ('0' :: 'x' :: c :: cs).takeWhile (isDigitOf 16) = ['0'] := by
        rw [List.takeWhile_cons_of_pos (by decide), List.takeWhile_cons_of_neg (by decide)]
      simp only [hdrop, hzero, List.takeWhile_cons_of_neg hc]
      rfl

/-- A numeral without a sign converts exactly when it fits 64 bits. -/
theorem stoul_eq_ok_iff_of_scanNumeral {m n : Nat}
    (h : scanNumeral base cs = some ⟨false, m⟩) :
    stoul base cs = .ok n ↔ m = n ∧ m < 2 ^ 64 := by
  rw [stoul, h]
  show (if 2 ^ 64 ≤ m then Except.error ConversionError.outOfRange else Except.ok m) =
    Except.ok n ↔ _
  by_cases hm : 2 ^ 64 ≤ m
  · rw [if_pos hm]
    constructor
    · intro hout
      cases hout
    · rintro ⟨-, hlt⟩
      omega
  · rw [if_neg hm, Except.ok.injEq]
    constructor
    · intro heq
      exact ⟨heq, Nat.lt_of_not_ge hm⟩
    · rintro ⟨heq, -⟩
      exact heq

end Reading

/-- What `atoi` returns fits an `int`. -/
theorem atoi_range (cs : List Char) : -2 ^ 31 ≤ atoi cs ∧ atoi cs < 2 ^ 31 := by
  have hl := Int.le_bmod (x := strtol cs) (m := 2 ^ 32) (by decide)
  have hu := Int.bmod_lt (x := strtol cs) (m := 2 ^ 32) (by decide)
  unfold atoi
  omega

/-! ### Writing a number -/

/-- A decimal digit has the value that its place among the digits gives it. -/
theorem digitValue_of_isDigit {c : Char} (h : c.isDigit = true) :
    digitValue c = c.toNat - '0'.toNat := by
  rw [Char.isDigit, Bool.and_eq_true, decide_eq_true_eq, decide_eq_true_eq] at h
  rw [digitValue, if_pos ⟨h.1, h.2⟩]

/-- A decimal digit is a digit of base ten. -/
theorem isDigitOf_ten_of_isDigit {c : Char} (h : c.isDigit = true) : isDigitOf 10 c = true := by
  have hvalue := digitValue_of_isDigit h
  rw [Char.isDigit, Bool.and_eq_true, decide_eq_true_eq, decide_eq_true_eq] at h
  have hmost : c.toNat ≤ '9'.toNat := h.2
  rw [isDigitOf, decide_eq_true_eq, hvalue]
  have hnine : '9'.toNat = 57 := rfl
  have hzero : '0'.toNat = 48 := rfl
  omega

/-- Decimal digits denote the number that they are the digits of. -/
theorem ofDigits_ten_eq {cs : List Char} (h : ∀ c ∈ cs, c.isDigit = true) :
    ofDigits 10 cs = Nat.ofDigitChars 10 cs 0 := by
  rw [ofDigits, Nat.ofDigitChars_eq_foldl]
  apply List.foldl_ext
  intro n c hc
  rw [digitValue_of_isDigit (h c hc), Nat.mul_comm]

/-- The decimal digits of a number are a numeral of it. -/
theorem isNumeral_toDigits (n : Nat) : IsNumeral (Nat.toDigits 10 n) n := by
  have hdigits : ∀ c ∈ Nat.toDigits 10 n, c.isDigit = true :=
    fun c hc ↦ Nat.isDigit_of_mem_toDigits (by omega) le_rfl hc
  have hvalue : ofDigits 10 (Nat.toDigits 10 n) = n := by
    rw [ofDigits_ten_eq hdigits, Nat.ofDigitChars_ten_toDigits]
  have h := IsNumeral.decimal Nat.toDigits_ne_nil fun c hc ↦ isDigitOf_ten_of_isDigit (hdigits c hc)
  rwa [hvalue] at h

end Tase2South.Base
