import Tase2South.Json.Leaves

/-!
# The type gate of the protocol stack

`expectedTypeMap`, `isCorrectType` and `traverseAndCheckTypes`,
`src/tase2_client_config.cpp:67–99,133–149,182–226`. The gate looks a value up under the
whole path built for it, and no key of the table has a dot or a bracket.
-/

namespace Tase2South.Config

open Tase2South.Base Tase2South.Json

/-- `expectedTypeMap`, `src/tase2_client_config.cpp:67–99`. -/
def expectedTypeMap : List (String × JsonType) :=
  [("protocol_stack", .object), ("transport_layer", .object), ("application_layer", .object),
    ("datasets", .array), ("connections", .array), ("ip_addr", .string), ("port", .number),
    ("tls", .true), ("dataset_ref", .string), ("entries", .array),
    ("polling_interval", .number), ("dataset_transfer_sets", .array), ("name", .string),
    ("dsConditions", .array), ("interval", .number), ("tle", .number), ("bufTm", .number),
    ("integrityCheck", .number), ("critical", .true), ("rbe", .true),
    ("allChangesReported", .true), ("osi", .object), ("local_ap_title", .string),
    ("local_ae_qualifier", .number), ("remote_ap_title", .string),
    ("remote_ae_qualifier", .number), ("local_psel", .string), ("local_ssel", .string),
    ("local_tsel", .string), ("remote_psel", .string), ("remote_ssel", .string),
    ("remote_tsel", .string)]

/-- `isCorrectType`, `src/tase2_client_config.cpp:133–149`. -/
def isCorrectType (parameter : String) (value : Value) : Bool :=
  match expectedTypeMap.lookup parameter with
  | none => true
  | some expected =>
    if value.isBool then expected == .true else expected == value.type

/-- `traverseAndCheckTypes`, `src/tase2_client_config.cpp:182–226`. -/
def traverseAndCheckTypes (value : Value) : Bool := checkLoop isCorrectType [("", value)] true

/-! ### The loop and the leaves -/

/-- The loop ends after one iteration for each value of the document, with each leaf checked
once under its path, and returns what the structural recursion over the document does: the
conjunction over its leaves. -/
structure ChecksEachLeaf (value : Value) : Prop where
  ends : ∃ l, (CheckLoop.start value).iterations isCorrectType value.nodes = some l ∧
    l.stack = [] ∧ l.checked = (value.leaves "").reverse ∧ l.result = traverseAndCheckTypes value
  returns : traverseAndCheckTypes value = value.allLeaves isCorrectType ""
  conjunction : value.allLeaves isCorrectType "" =
    (value.leaves "").all fun leaf ↦ isCorrectType leaf.1 leaf.2

/-- The gate is the conjunction of the test over the leaves. -/
theorem traverseAndCheckTypes_eq (value : Value) :
    traverseAndCheckTypes value = value.allLeaves isCorrectType "" := by
  simp [traverseAndCheckTypes, checkLoop_eq]

/-- On every document the loop ends and checks each leaf once. -/
theorem checksEachLeaf (value : Value) : ChecksEachLeaf value where
  ends := by
    refine ⟨_, iterations_start isCorrectType value, rfl, rfl, ?_⟩
    rw [traverseAndCheckTypes_eq]
  returns := traverseAndCheckTypes_eq value
  conjunction := (all_leaves isCorrectType value "").symm

/-! ### What a member should be -/

/-- The value has the type a table entry gives; either truth value counts as `true`. -/
def HasType (value : Value) (expected : JsonType) : Prop :=
  value.type = expected ∨ value.isBool = true ∧ expected = .true

/-- A member named by a key of the table has the type the table gives that key. -/
def WellTypedMember (m : ScalarMember) : Prop :=
  ∀ expected, expectedTypeMap.lookup m.name = some expected → HasType m.value expected

/-- No key is expected to be `false`. -/
theorem expected_ne_false {name : String} {expected : JsonType}
    (h : expectedTypeMap.lookup name = some expected) : expected ≠ .false := by
  have hall : ∀ p ∈ expectedTypeMap, p.2 ≠ .false := by decide
  obtain ⟨xs, ys, he, -⟩ := List.lookup_eq_some_iff.mp h
  exact hall (name, expected) (by simp [he])

/-- The test of the source decides whether the value has the type the table gives. -/
theorem isCorrectType_iff (name : String) (value : Value) :
    isCorrectType name value = true ↔
      ∀ expected, expectedTypeMap.lookup name = some expected → HasType value expected := by
  unfold isCorrectType
  split
  · next h => simp [h]
  · next expected h =>
    have hf := expected_ne_false h
    simp only [h, Option.some.injEq, forall_eq']
    cases value with
    | bool b =>
      cases b
      · simpa [HasType, Value.isBool, Value.type] using fun he : JsonType.false = expected ↦
          absurd he.symm hf
      · simp [HasType, Value.isBool, Value.type, @eq_comm _ JsonType.true]
    | _ => simpa [HasType, Value.isBool, Value.type] using eq_comm

/-- A path with a dot or a bracket is no key of the table, so it is always correct. -/
theorem isCorrectType_of_compound (path : String) (value : Value) (h : Compound path) :
    isCorrectType path value = true := by
  have hkeys : ∀ p ∈ expectedTypeMap, ¬ Compound p.1 := by
    simp only [Compound]
    decide
  rw [isCorrectType_iff]
  intro expected he
  obtain ⟨xs, ys, heq, -⟩ := List.lookup_eq_some_iff.mp he
  exact absurd h (hkeys (path, expected) (by simp [heq]))

/-- No member stands under the empty path. -/
theorem isCorrectType_empty (value : Value) : isCorrectType "" value = true := by
  rfl

/-- The gate passes exactly when the scalar members whose path is their bare name are well
typed; it never looks at the others. -/
theorem traverseAndCheckTypes_eq_true_iff (v : Value) :
    traverseAndCheckTypes v = true ↔
      ∀ m ∈ v.scalarMembers true, m.bare = true → WellTypedMember m := by
  rw [traverseAndCheckTypes_eq]
  cases hv : v.isScalar with
  | true =>
    rw [allLeaves_scalar isCorrectType "" hv, isCorrectType_empty]
    cases v <;> simp_all [Value.scalarMembers, Value.isScalar, Value.isObject, Value.isArray]
  | false =>
    rw [allLeaves_bare_iff isCorrectType_of_compound v hv]
    simp only [isCorrectType_iff, WellTypedMember]

/-- The gate guarantees the type of every scalar member exactly when it rejects for a member
with a bare path, or every member it does not look at is well typed. -/
theorem traverseAndCheckTypes_guarantees_iff (v : Value) :
    (traverseAndCheckTypes v = true → ∀ m ∈ v.scalarMembers true, WellTypedMember m) ↔
      (∃ m ∈ v.scalarMembers true, m.bare = true ∧ ¬ WellTypedMember m) ∨
        ∀ m ∈ v.scalarMembers true, m.bare = false → WellTypedMember m := by
  rw [traverseAndCheckTypes_eq_true_iff]
  constructor
  · intro h
    by_cases hb : ∀ m ∈ v.scalarMembers true, m.bare = true → WellTypedMember m
    · exact .inr fun m hm _ ↦ h hb m hm
    · left
      push Not at hb
      exact hb
  · intro h hb m hm
    cases hbare : m.bare with
    | true => exact hb m hm hbare
    | false =>
      rcases h with ⟨q, hq, hqb, hn⟩ | h
      · exact absurd (hb q hq hqb) hn
      · exact h m hm hbare

/-- A stack with a connection whose port is a text. -/
def stackWithTextPort : Value :=
  .object [("protocol_stack", .object [("transport_layer", .object [("connections", .array
    [.object [("ip_addr", .string "127.0.0.1"), ("port", .string "102")]])])])]

/-- The gate lets that stack through although its port should be a number. -/
theorem traverseAndCheckTypes_misses_port :
    traverseAndCheckTypes stackWithTextPort = true ∧
      ¬ ∀ m ∈ stackWithTextPort.scalarMembers true, WellTypedMember m := by
  constructor
  · rw [traverseAndCheckTypes, checkLoop_eq]
    decide
  · intro h
    have hname : cString "port" = "port" := by decide
    have hport := h ⟨false, "port", .string "102"⟩ (by
      simp [stackWithTextPort, Value.scalarMembers, Value.membersScalars, Value.elemsScalars,
        Value.isScalar, Value.isObject, Value.isArray, hname])
    have hnumber := hport .number (by decide)
    simp [HasType, Value.type, Value.isBool] at hnumber

end Tase2South.Config
