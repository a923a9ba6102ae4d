import Tase2South.Plugin.Operation

/-!
# Parameters that are no numbers

`TASE2::operation` on an array of exactly `count` parameters, `src/tase2.cpp:98–250`. The value
and the selection are read with `atoi` and `atof`, which cannot fail, the time with `stol`,
which throws, and the first parameter is read before the count is looked at.
-/

namespace Tase2South.Plugin

open Tase2South.Base Tase2South.Config Tase2South.Client

/-! ### Numbers that are given -/

/-- The text starts with a numeral in the range of `int`. -/
def isIntNumeral (text : String) : Bool :=
  (scanNumeral 10 (cString text).toList).any fun n ↦ -2 ^ 31 ≤ n.value && n.value < 2 ^ 31

/-- The text starts with a numeral in the range of `long`. -/
def isLongNumeral (text : String) : Bool :=
  (scanNumeral 10 (cString text).toList).any fun n ↦ -2 ^ 63 ≤ n.value && n.value < 2 ^ 63

/-- `stol` returns for a text that starts with a numeral in the range of `long`, and throws for any
other. -/
theorem stol_eq (text : String) :
    (isLongNumeral text = true → ∃ time, stol (cString text).toList = .ok time) ∧
      (isLongNumeral text = false → ∃ error, stol (cString text).toList = .error error) := by
  unfold isLongNumeral stol
  cases scanNumeral 10 (cString text).toList with
  | none =>
    constructor
    · intro h
      cases h
    · exact fun _ ↦ ⟨_, rfl⟩
  | some n =>
    simp only [Option.any_some, Bool.and_eq_true, decide_eq_true_eq, Bool.and_eq_false_iff,
      decide_eq_false_iff_not]
    split
    · constructor
      · omega
      · exact fun _ ↦ ⟨_, rfl⟩
    · constructor
      · exact fun _ ↦ ⟨_, rfl⟩
      · omega

/-- The text starts with a numeral in the range of the value's type; which texts do for `float`
is a parameter, as floating point is. -/
def isValueNumeral (isFloatNumeral : String → Bool) (kind : DPTYPE) : String → Bool :=
  match kind with
  | .setPointReal => isFloatNumeral
  | _ => isIntNumeral

/-- The parameters have the numbers of an operation: value, selection and time. -/
def NumbersGiven (isFloatNumeral : String → Bool) (kind : DPTYPE) (params : List PluginParameter) :
    Prop :=
  isValueNumeral isFloatNumeral kind (givenText params 4) = true ∧
    isIntNumeral (givenText params 5) = true ∧ isLongNumeral (givenText params 6) = true

/-! ### Reading the parameters -/

/-- A parameter below the count is read. -/
theorem parameter_eq_ok {params : List PluginParameter} {index : Nat}
    (h : index < params.length) : parameter params index = .ok (givenText params index) := by
  rw [parameter, givenText, List.getElem?_eq_getElem h]
  rfl

/-- With seven parameters, all are read, and the time decides. -/
theorem controlCall_eq {params : List PluginParameter} (h : 6 < params.length) :
    (isLongNumeral (givenText params 6) = true →
        controlCall params = .ok (givenCall params)) ∧
      (isLongNumeral (givenText params 6) = false →
        ¬ Completes (controlCall params)) := by
  have hread : ∀ index ≤ 6, parameter params index = .ok (givenText params index) :=
    fun index hindex ↦ parameter_eq_ok (by omega)
  constructor
  · intro hlong
    obtain ⟨time, htime⟩ := (stol_eq _).1 hlong
    simp only [controlCall, hread 2 (by omega), hread 3 (by omega), hread 4 (by omega),
      hread 5 (by omega), hread 6 (by omega), ok_bind, htime]
    simp [givenCall, htime, Except.toOption]
  · intro hlong
    obtain ⟨error, herror⟩ := (stol_eq _).2 hlong
    have hcall : controlCall params = .error (.conversion error) := by
      simp only [controlCall, hread 2 (by omega), hread 3 (by omega), hread 4 (by omega),
        hread 5 (by omega), hread 6 (by omega), ok_bind, herror]
      rfl
    rw [hcall]
    exact not_completes_error _

section

variable {PV F : Type} (lib : PointLib PV F) (atof : String → F) (isFloatNumeral : String → Bool)
  (now : Nat)

/-- A control operation on a running client, with enough parameters, whose numbers matter. -/
def NeedsNumbers (client : Option (TASE2Client PV F)) (name : String)
    (params : List PluginParameter) : Prop :=
  client.isSome ∧ name = "TASE2Command" ∧ isControl (operationType (givenText params 0)) ∧
    6 < params.length

/-- The operation reads no parameter beyond the last and raises nothing; without the numbers
it needs it returns false, sends nothing and ingests nothing. -/
structure OperatesSafely (client : Option (TASE2Client PV F)) (name : String)
    (params : List PluginParameter) : Prop where
  returns : Completes (operation lib atof now client name params.length params)
  refuses : NeedsNumbers client name params →
    ¬ NumbersGiven isFloatNumeral (operationType (givenText params 0)) params →
    ∀ result events,
      operation lib atof now client name params.length params = .ok (result, events) →
        result = false ∧ requests events = [] ∧ readings events = []

/-- When the operation is safe: on a running client it has a first parameter, and a control
operation with enough parameters has its time, and its other numbers unless the call does not
get through. -/
def SafeParameters (client : Option (TASE2Client PV F)) (name : String)
    (params : List PluginParameter) : Prop :=
  ∀ c, client = some c → name = "TASE2Command" →
    params ≠ [] ∧ (isControl (operationType (givenText params 0)) → 6 < params.length →
      isLongNumeral (givenText params 6) = true ∧
        (NumbersGiven isFloatNumeral (operationType (givenText params 0)) params ∨
          ¬ c.GetsThrough (givenText params 2) (givenText params 3)))

/-- An operation that returns false and does nothing is safe. -/
theorem operatesSafely_of_eq {client : Option (TASE2Client PV F)} {name : String}
    {params : List PluginParameter}
    (h : operation lib atof now client name params.length params = .ok (false, [])) :
    OperatesSafely lib atof isFloatNumeral now client name params where
  returns := ⟨_, h⟩
  refuses := by
    intro _ _ result events hrun
    rw [h] at hrun
    cases hrun
    exact ⟨rfl, rfl, rfl⟩

/-- A type that is not one of the three control operations is refused. -/
theorem operation_of_not_isControl (client : TASE2Client PV F) (count : Int)
    {params : List PluginParameter} (hparams : params ≠ [])
    (hkind : ¬ isControl (operationType (givenText params 0))) :
    operation lib atof now (some client) "TASE2Command" count params = .ok (false, []) := by
  simp only [operation, if_true, parameter_eq_ok (List.length_pos_of_ne_nil hparams), ok_bind]
  split
  · next h => exact absurd (.inl h) hkind
  · next h => exact absurd (.inr (.inl h)) hkind
  · next h => exact absurd (.inr (.inr h)) hkind
  · rfl

/-- A control operation with enough parameters is safe exactly when it has its time, and its
other numbers unless the call does not get through. -/
theorem operatesSafely_control_iff (client : TASE2Client PV F) {params : List PluginParameter}
    (hkind : isControl (operationType (givenText params 0))) (hcount : 6 < params.length) :
    OperatesSafely lib atof isFloatNumeral now (some client) "TASE2Command" params ↔
      isLongNumeral (givenText params 6) = true ∧
        (NumbersGiven isFloatNumeral (operationType (givenText params 0)) params ∨
          ¬ client.GetsThrough (givenText params 2) (givenText params 3)) := by
  have hrun := operation_eq lib atof now client params.length
    (parameter_eq_ok (by omega : 0 < params.length)) hkind
  rw [if_pos (by omega)] at hrun
  cases hlong : isLongNumeral (givenText params 6) with
  | false =>
    -- the time throws
    refine iff_of_false (fun h ↦ ?_) fun h ↦ Bool.false_ne_true h.1
    have hreturns := h.returns
    rw [hrun, completes_bind_iff] at hreturns
    obtain ⟨call, hcall, -⟩ := hreturns
    exact (controlCall_eq hcount).2 hlong ⟨call, hcall⟩
  | true =>
    rw [(controlCall_eq hcount).1 hlong, ok_bind] at hrun
    rw [and_iff_right rfl]
    by_cases hthrough : client.GetsThrough (givenText params 2) (givenText params 3)
    · -- the request is issued, whatever the numbers are
      obtain ⟨connection, events, -, hsend, hrequests⟩ := sendControl_of_getsThrough lib now
        (controlRequest atof (operationType (givenText params 0)) (givenCall params))
        (createdValue lib atof (operationType (givenText params 0)) (givenCall params)) hthrough
      rw [show client.sendControl lib now (givenCall params).domain (givenCall params).name _ _ = _
        from hsend] at hrun
      rw [or_iff_left (not_not_intro hthrough)]
      constructor
      · intro h
        by_contra hnumbers
        have hnone := (h.refuses ⟨rfl, rfl, hkind, hcount⟩ hnumbers _ _ hrun).2.1
        rw [hrequests] at hnone
        cases hnone
      · intro hnumbers
        exact ⟨⟨_, hrun⟩, fun _ h ↦ absurd hnumbers h⟩
    · rw [show client.sendControl lib now (givenCall params).domain (givenCall params).name _ _ = _
        from sendControl_of_not_getsThrough lib now _ _ hthrough] at hrun
      exact iff_of_true (operatesSafely_of_eq lib atof isFloatNumeral now hrun) (.inr hthrough)

/-- On an array of exactly `count` parameters, an operation reads none beyond the last, raises
nothing and refuses what lacks its numbers, exactly when its parameters are safe. -/
theorem operatesSafely_iff (client : Option (TASE2Client PV F)) (name : String)
    (params : List PluginParameter) :
    OperatesSafely lib atof isFloatNumeral now client name params ↔
      SafeParameters isFloatNumeral client name params := by
  cases client with
  | none =>
    refine iff_of_true (operatesSafely_of_eq lib atof isFloatNumeral now rfl) ?_
    intro c hc
    cases hc
  | some c =>
    by_cases hname : name = "TASE2Command"
    · subst hname
      have hsafe : SafeParameters isFloatNumeral (some c) "TASE2Command" params ↔
          params ≠ [] ∧ (isControl (operationType (givenText params 0)) → 6 < params.length →
            isLongNumeral (givenText params 6) = true ∧
              (NumbersGiven isFloatNumeral (operationType (givenText params 0)) params ∨
                ¬ c.GetsThrough (givenText params 2) (givenText params 3))) :=
        ⟨fun h ↦ h c rfl rfl, fun h _ hc _ ↦ by cases hc; exact h⟩
      rw [hsafe]
      by_cases hparams : params = []
      · -- the first parameter is read before the count is tested
        subst hparams
        refine iff_of_false (fun h ↦ ?_) fun h ↦ h.1 rfl
        exact not_completes_error _ h.returns
      · rw [and_iff_right hparams]
        by_cases hkind : isControl (operationType (givenText params 0))
        · by_cases hcount : 6 < params.length
          · rw [operatesSafely_control_iff lib atof isFloatNumeral now c hkind hcount]
            simp only [hkind, hcount, forall_const]
          · refine iff_of_true (operatesSafely_of_eq lib atof isFloatNumeral now ?_)
              fun _ h ↦ absurd h hcount
            rw [operation_eq lib atof now c params.length
              (parameter_eq_ok (List.length_pos_of_ne_nil hparams)) hkind, if_neg (by omega)]
        · exact iff_of_true (operatesSafely_of_eq lib atof isFloatNumeral now
            (operation_of_not_isControl lib atof now c params.length hparams hkind))
            fun h ↦ absurd h hkind
    · refine iff_of_true (operatesSafely_of_eq lib atof isFloatNumeral now ?_)
        fun _ _ h ↦ absurd h hname
      rw [operation]
      exact if_neg hname

end

/-! ### A value that is no number -/

/-- A discrete set point whose value is no number. -/
def wordParams : List PluginParameter :=
  [⟨"co_type", "SetPointDiscrete"⟩, ⟨"co_scope", "domain"⟩, ⟨"co_domain", "icc1"⟩,
    ⟨"co_name", "point1"⟩, ⟨"co_value", "high"⟩, ⟨"co_se", "0"⟩, ⟨"co_ts", "0"⟩]

/-- The set point is sent, with the value zero. -/
theorem not_operatesSafely_word :
    ¬ OperatesSafely .tagged (fun _ ↦ (0 : Int)) (fun _ ↦ true) 0 (some setPointClient)
      "TASE2Command" wordParams := by
  have hkind : isControl (operationType (givenText wordParams 0)) := .inr (.inr (by decide))
  rw [operatesSafely_control_iff .tagged _ _ 0 setPointClient hkind (by decide)]
  rintro ⟨-, hnumbers | hthrough⟩
  · exact absurd hnumbers.1 (by decide)
  · exact hthrough ⟨by decide, rfl⟩

end Tase2South.Plugin
