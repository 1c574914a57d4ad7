import ResourceQuery.Proofs.Breakdown
import ResourceQuery.Proofs.Comparison

/-!
Who answers for the name of an operator. A name is that of an operator on lengths, of a known
one, of one of the configuration, or unknown, and the table of comparisons agrees with the test
for a valid name on which. So an operator that is applied is at a loss for a name only where it has
no place or is unknown; what is left of failures at run time are patterns that no matcher can be
made for.
-/

namespace ResourceQuery

open Outcome QueryError

/-- The program is at a loss at run time: an operator is applied where it has no place, or no
matcher can be made for a pattern. -/
def QueryError.isRuntime : QueryError → Bool
  | .lengthOperator _ | .lookTooFar | .nestedTooDeep => true
  | _ => false

def QueryError.Ordinary : QueryError → Prop
  | .unsupportedOperator _ | .refused _ | .unknownLengthOperator _ => False
  | e => e.isRuntime = false

theorem QueryError.Ordinary.not_isRuntime {e : QueryError} (h : e.Ordinary) :
    ¬e.isRuntime = true := by
  cases e <;> simp_all [Ordinary]

theorem QueryError.ordinary_of_untyped [Platform] {e : QueryError} (h : Inference.Untyped e) :
    e.Ordinary := by
  cases h <;> rfl

namespace Pattern

variable [Platform]

def FailsOn (operand : Value) (e : QueryError) : Prop :=
  ∃ s, operand = .text s ∧ s.length ≤ Inference.maxLength ∧ isPortable s.toList = .error e

/-- The operand is a pattern for which a matcher would have to look back too far, or whose groups
are nested too deep to be read. -/
def IsOutOfReach (operand : Value) : Prop :=
  ∃ s, operand = .text s ∧ s.length ≤ Inference.maxLength ∧
    (read s.toList = .error .lookTooFar ∨ read s.toList = .error .nestedTooDeep)

theorem isOutOfReach_iff {operand : Value} :
    IsOutOfReach operand ↔ ∃ e, FailsOn operand e ∧ e.isRuntime = true := by
  constructor
  · rintro ⟨s, hs, short, h | h⟩
    · exact ⟨.lookTooFar, ⟨s, hs, short, by rw [isPortable, h]⟩, rfl⟩
    · exact ⟨.nestedTooDeep, ⟨s, hs, short, by rw [isPortable, h]⟩, rfl⟩
  · rintro ⟨e, ⟨s, hs, short, h⟩, he⟩
    refine ⟨s, hs, short, ?_⟩
    unfold isPortable at h
    split at h <;> cases h
    · cases he
    · cases he
    · cases he
    · cases he
    · rename_i tooFar
      exact .inl tooFar
    · rename_i tooDeep
      exact .inr tooDeep

theorem FailsOn.ne_name {operand : Value} {e : QueryError} (h : FailsOn operand e)
    (name : String) : e ≠ .lengthOperator name ∧ e ≠ .unsupportedOperator name := by
  obtain ⟨s, -, -, hs⟩ := h
  unfold isPortable at hs
  split at hs <;> cases hs <;> exact ⟨nofun, nofun⟩

end Pattern

namespace Operator

theorem failsBy_divisibleText (operand : Value) :
    FailsBy Ordinary (divisibleText operand) := by
  cases operand with
  | text s => exact failsBy_ok s
  | _ => exact failsBy_error rfl

theorem failsBy_patternText (operand : Value) :
    FailsBy Ordinary (patternText operand) := by
  have refused (length : Nat) (kind : String) :
      FailsBy Ordinary
        (if Inference.maxLength < length then .error (.valueTooLong length Inference.maxLength)
          else .error (.unhashable kind) : Except QueryError String) := by
    split <;> exact failsBy_error rfl
  cases operand with
  | text s => exact failsBy_ok s
  | list items => exact refused items.length _
  | map entries => exact refused entries.length _
  | _ => exact failsBy_error rfl

variable [Platform]

theorem failsBy_apply_known (op : Operator) (cap : Int) (field : String) (operand : Value) :
    FailsBy (fun e => e.Ordinary ∨ op = .regex ∧ Pattern.FailsOn operand e)
      (op.apply cap field operand) := by
  have ordinary {x : Except QueryError (Entries Value)} (h : FailsBy Ordinary x) :
      FailsBy (fun e => e.Ordinary ∨ op = .regex ∧ Pattern.FailsOn operand e) x :=
    h.mono fun _ => .inl
  have typed (v : Value) : FailsBy Ordinary (Inference.typed field v) :=
    (Inference.failsBy_typed field v).mono fun _ => ordinary_of_untyped
  have item (s : String) (t : List Char) (_ : IsPart s.toList t) :
      FailsBy Ordinary (Inference.typedText field (String.ofList t)) :=
    typed (.text (String.ofList t))
  have list (key : String) :
      FailsBy Ordinary (divisibleText operand >>= fun s =>
        itemList cap field s >>= fun v => pure [(key, v)]) :=
    (failsBy_divisibleText operand).bind fun s _ =>
      (failsBy_itemList (item s) fun _ => rfl).bind fun v _ => failsBy_ok [(key, v)]
  cases op with
  | gt | gte | lt | lte | ne => exact ordinary ((typed operand).map _)
  | isIn => exact ordinary (list "$in")
  | notIn => exact ordinary (list "$nin")
  | regex =>
    refine ((failsBy_patternText operand).mono fun _ => .inl).bind fun s hs => ?_
    rw [patternCondition]
    split
    · exact failsBy_error (.inl rfl)
    · rename_i short
      have portable : FailsBy (fun e => Pattern.isPortable s.toList = .error e)
          (Pattern.isPortable s.toList) := fun _ => id
      refine ((portable.map _).map _).mono fun e he => .inr ⟨rfl, s, ?_, Nat.not_lt.1 short, he⟩
      exact text_of_patternText hs
  | «exists» => exact failsBy_ok _
  | between =>
    exact ordinary ((failsBy_divisibleText operand).bind fun s _ =>
      failsBy_betweenCondition (item s) rfl)

theorem apply_regex_eq_error {operand : Value} {e : QueryError} (h : Pattern.FailsOn operand e)
    (cap : Int) (field : String) : Operator.regex.apply cap field operand = .error e := by
  obtain ⟨s, rfl, short, hs⟩ := h
  change patternCondition s = .error e
  rw [patternCondition, if_neg (Nat.not_lt.2 short), Pattern.portable, hs]
  rfl

end Operator

namespace Operators

variable {ops : Operators} {name field : String} {operand : Value} {e : QueryError}

/-- An operator of the configuration fails in its own code. -/
def FailsInside (ops : Operators) (name field : String) (operand : Value) (e : QueryError) : Prop :=
  Operator.ofName? name = none ∧
    ∃ f, Entries.get? ops.custom name = some f ∧ f ops.cap field operand = .error e

def KeepsLengths (ops : Operators) : Prop :=
  ∀ name ∈ Entries.keys ops.custom, LengthOperator.ofName? name = none

theorem keepsLengths_of_make {cap : Option Int} {custom : Entries CustomOperator}
    (made : make cap custom = .ok ops) : ops.KeepsLengths := by
  obtain ⟨-, custom_eq, free⟩ := make_eq_ok made
  rw [KeepsLengths, custom_eq]
  exact free

/-- The name is one that every configuration has. -/
def IsBuiltIn (name : String) : Prop :=
  (Operator.ofName? name).isSome = true ∨ (LengthOperator.ofName? name).isSome = true

variable [Platform]

def Fails (ops : Operators) (name field : String) (operand : Value) (e : QueryError) : Prop :=
  ops.apply name field operand = .error e ∧ ¬ops.FailsInside name field operand e

inductive Failing (ops : Operators) (name : String) (operand : Value) : QueryError → Prop
  | misplaced (length : (LengthOperator.ofName? name).isSome = true) :
    Failing ops name operand (.lengthOperator name)
  | ordinary {e : QueryError} (h : e.Ordinary) : Failing ops name operand e
  | pattern {e : QueryError} (regex : name = "regex") (h : Pattern.FailsOn operand e) :
    Failing ops name operand e
  | unknown (h : ops.knows name = false) : Failing ops name operand (.unsupportedOperator name)

theorem failing_of_fails (h : ops.Fails name field operand e) : ops.Failing name operand e := by
  obtain ⟨fails, outside⟩ := h
  rw [Operators.apply] at fails
  cases hl : LengthOperator.ofName? name with
  | some op =>
    rw [hl] at fails
    cases fails
    exact .misplaced (by rw [hl]; rfl)
  | none =>
    cases ho : Operator.ofName? name with
    | some op =>
      rw [hl, ho] at fails
      have applied := op.failsBy_apply_known ops.cap field operand
      rcases applied.map Value.map e fails with ordinary | ⟨rfl, pattern⟩
      · exact .ordinary ordinary
      · exact .pattern (Operator.name_of_ofName? ho).symm pattern
    | none =>
      cases hf : Entries.get? ops.custom name with
      | some f =>
        rw [hl, ho, hf] at fails
        exact absurd ⟨ho, f, hf, fails⟩ outside
      | none =>
        rw [hl, ho, hf] at fails
        cases fails
        exact .unknown (by rw [knows, Entries.has, hl, ho, hf]; rfl)

theorem fails_lengthOperator_iff (kept : ops.KeepsLengths) {n : String} :
    ops.Fails name field operand (.lengthOperator n) ↔
      n = name ∧ (LengthOperator.ofName? name).isSome = true := by
  constructor
  · intro fails
    cases failing_of_fails fails with
    | misplaced length => exact ⟨rfl, length⟩
    | ordinary h => cases h
    | pattern _ h => exact absurd rfl (h.ne_name n).1
  · rintro ⟨rfl, length⟩
    refine ⟨by rw [Operators.apply, if_pos length], ?_⟩
    rintro ⟨-, f, hf, -⟩
    have free := kept n (Entries.mem_keys_of_mem (Entries.mem_of_get? hf))
    rw [free] at length
    cases length

theorem fails_unsupportedOperator_iff {n : String} :
    ops.Fails name field operand (.unsupportedOperator n) ↔ n = name ∧ ops.knows name = false := by
  constructor
  · intro fails
    cases failing_of_fails fails with
    | ordinary h => cases h
    | pattern _ h => exact absurd rfl (h.ne_name n).2
    | unknown h => exact ⟨rfl, h⟩
  · rintro ⟨rfl, unknown⟩
    simp only [knows, Entries.has, Bool.or_eq_false_iff, Option.isSome_eq_false_iff,
      Option.isNone_iff_eq_none] at unknown
    obtain ⟨⟨known, configured⟩, length⟩ := unknown
    refine ⟨by rw [Operators.apply, length, known, configured]; rfl, ?_⟩
    rintro ⟨-, f, hf, -⟩
    cases configured.symm.trans hf

theorem fails_at_runtime_iff (kept : ops.KeepsLengths) :
    (∃ e, ops.Fails name field operand e ∧ e.isRuntime = true) ↔
      (LengthOperator.ofName? name).isSome = true ∨
        name = "regex" ∧ Pattern.IsOutOfReach operand := by
  rw [Pattern.isOutOfReach_iff]
  constructor
  · rintro ⟨e, h, he⟩
    cases failing_of_fails h with
    | misplaced length => exact .inl length
    | ordinary h => exact absurd he h.not_isRuntime
    | pattern regex h => exact .inr ⟨regex, e, h, he⟩
    | unknown h => cases he
  · rintro (length | ⟨rfl, e, pattern, he⟩)
    · exact ⟨_, (fails_lengthOperator_iff kept).2 ⟨rfl, length⟩, rfl⟩
    · have fails : ops.apply Operator.regex.name field operand = .error e := by
        rw [apply_name, Operator.apply_regex_eq_error pattern]
        rfl
      exact ⟨e, ⟨fails, nofun⟩, he⟩

theorem apply_congr {others : Operators} (h : others.cap = ops.cap) (built : IsBuiltIn name)
    (field : String) (operand : Value) :
    others.apply name field operand = ops.apply name field operand := by
  rcases built with known | length
  · obtain ⟨op, ho⟩ := Option.isSome_iff_exists.1 known
    obtain rfl := Operator.name_of_ofName? ho
    rw [apply_name, apply_name, h]
  · rw [Operators.apply, Operators.apply, if_pos length, if_pos length]

/-- The failure is one of code that is brought in: of the configuration, or of the matcher. -/
def Foreign (ops : Operators) (name field : String) (operand : Value) (e : QueryError) : Prop :=
  ops.FailsInside name field operand e ∨ name = "regex" ∧ Pattern.FailsOn operand e

theorem failsBy_apply (known : ops.knows name = true)
    (place : LengthOperator.ofName? name = none) :
    FailsBy (fun e => e.Ordinary ∨ ops.Foreign name field operand e)
      (ops.apply name field operand) := by
  intro e fails
  by_cases inside : ops.FailsInside name field operand e
  · exact .inr (.inl inside)
  cases failing_of_fails ⟨fails, inside⟩ with
  | misplaced length =>
    rw [place] at length
    cases length
  | ordinary h => exact .inl h
  | pattern regex h => exact .inr (.inr ⟨regex, h⟩)
  | unknown h =>
    rw [h] at known
    cases known

end Operators

end ResourceQuery
