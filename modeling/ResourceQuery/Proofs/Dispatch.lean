import Mathlib.Logic.Basic
import ResourceQuery.Platform.Standard
import ResourceQuery.Proofs.Asked
import ResourceQuery.Proofs.ReaderSteps
import ResourceQuery.Proofs.Registry

/-!
The two readers of operator keys. A key whose field is allowed and whose operator is known is
evaluated by just one of them, and the other one passes it over. Hence neither comes to a name that
it cannot look up: what the reading of filters meets for the name of an operator comes out of the
code of the configuration, and what it meets at run time out of that code or of a pattern.
-/

namespace ResourceQuery

open Outcome Logged QueryError

namespace LengthFilter

variable {allows : String → Bool} {key field op : String} {operand : Value}

theorem failsBy_condition_ordinary (known : (LengthOperator.ofName? op).isSome = true)
    (operand : Value) : FailsBy Ordinary (condition op operand) := by
  -- no other value is divided, and none of them writes a number
  have unread {v : Value} (divided : Operator.divisibleText v = .error (.indivisible v.kind))
      (number : Inference.numeral? v = .ok none) : FailsBy Ordinary (condition op v) := by
    rw [condition]
    split
    · rw [divided]
      exact failsBy_error rfl
    · rw [number]
      exact failsBy_error rfl
  cases operand with
  | text s =>
    refine failsBy_condition_of_parts known (fun t _ => ?_) fun _ => rfl
    refine (Number.failsBy_numeral? t).mono ?_
    rintro e ⟨l, -, -, -, rfl⟩
    rfl
  | _ => exact unread rfl rfl

theorem gives_ofQuery_ordinary (allows : String → Bool) (query : Entries Value) :
    Gives Ordinary (ofQuery allows query) ((query.filterMapM (asked allows)).map ofOperations) :=
  gives_ofQuery fun e _ _ _ _ known _ => failsBy_condition_ordinary known e.2

/-- The key is evaluated as one that filters by length. -/
def Evaluates (allows : String → Bool) (key field op : String) (operand : Value) : Prop :=
  operation? allows key operand =
    (Logged.lift (condition op operand) >>= fun c => pure (some (field, c)))

theorem evaluates_of_length (hk : FilterKey.operator? key = some (field, op))
    (allowed : allows field = true) (length : (LengthOperator.ofName? op).isSome = true)
    (operand : Value) : Evaluates allows key field op operand := by
  rw [Evaluates, operation?_of_key hk, ← Option.not_isSome, length, allowed]
  rfl

theorem operation?_of_other (hk : FilterKey.operator? key = some (field, op))
    (other : LengthOperator.ofName? op = none) (allows : String → Bool) (operand : Value) :
    operation? allows key operand = pure none := by
  rw [operation?_of_key hk, other]
  rfl

theorem Evaluates.not_pure (h : Evaluates allows key field op operand) :
    operation? allows key operand ≠ pure none := by
  intro passed
  have same := congrArg Logged.outcome (h.symm.trans passed)
  cases hc : condition op operand <;> rw [hc] at same <;> cases same

end LengthFilter

namespace FilterRules

variable {rules : FilterRules} {key field op : String} {operand : Value} {query : Entries Value}

def AtOperatorKey (rules : FilterRules) (query : Entries Value)
    (P : String → String → Value → Prop) : Prop :=
  ∃ entry ∈ query, ∃ field op, FilterKey.operator? entry.1 = some (field, op) ∧
    rules.allows field = true ∧ P op field entry.2

theorem AtOperatorKey.mono {P Q : String → String → Value → Prop}
    (h : rules.AtOperatorKey query P) (hpq : ∀ op field operand, P op field operand →
      Q op field operand) : rules.AtOperatorKey query Q := by
  obtain ⟨entry, hm, field, op, hk, allowed, hp⟩ := h
  exact ⟨entry, hm, field, op, hk, allowed, hpq _ _ _ hp⟩

variable [Platform]

def Expects (rules : FilterRules) (query : Entries Value) (e : QueryError) : Prop :=
  e.Ordinary ∨ rules.AtOperatorKey query fun op field operand =>
    rules.operators.Foreign op field operand e

theorem failsAt_expected {e : String × Value} (he : e ∈ query) :
    rules.FailsAt (rules.Expects query) e where
  measured _ _ _ known _ := (LengthFilter.failsBy_condition_ordinary known e.2).mono fun _ => .inl
  typed field _ _ := (Inference.failsBy_typed field e.2).mono fun _ untyped =>
    .inl (ordinary_of_untyped untyped)
  compared field op hk place allowed known := (Operators.failsBy_apply known place).mono fun _ =>
    Or.imp_right fun foreign => ⟨e, he, field, op, hk, allowed, foreign⟩

theorem gives_read_expected (rules : FilterRules) (query : Entries Value) :
    Gives (rules.Expects query) (rules.read query) (rules.reading query) := by
  have size : FailsBy (rules.Expects query) (rules.checkSize query) := by
    rw [checkSize]
    split
    · exact failsBy_error (.inl rfl)
    · exact failsBy_ok ()
  exact gives_read size fun _ => failsAt_expected

def Evaluates (rules : FilterRules) (key field op : String) (operand : Value) : Prop :=
  ∀ filters, rules.addOperator filters key operand =
    Logged.attempt filters (.operatorFilterFailed key)
      ((rules.operators.apply op field operand).map (Filter.merge filters field))

theorem evaluates_of_other (hk : FilterKey.operator? key = some (field, op))
    (allowed : rules.allows field = true) (known : rules.operators.knows op = true)
    (other : LengthOperator.ofName? op = none) (operand : Value) :
    rules.Evaluates key field op operand := by
  intro filters
  rw [rules.addOperator_of_key hk, other, allowed, known]
  rfl

theorem addOperator_of_length (hk : FilterKey.operator? key = some (field, op))
    (length : (LengthOperator.ofName? op).isSome = true) (filters : Entries Value)
    (operand : Value) : rules.addOperator filters key operand = pure filters := by
  rw [rules.addOperator_of_key hk, if_pos length]

theorem not_evaluates_of_length (hk : FilterKey.operator? key = some (field, op))
    (length : (LengthOperator.ofName? op).isSome = true) :
    ¬rules.Evaluates key field op operand := by
  intro evaluated
  have same := (addOperator_of_length hk length [] operand).symm.trans (evaluated [])
  rw [Operators.apply, if_pos length] at same
  cases congrArg Logged.outcome same

theorem meets_name {e : QueryError} {name : String}
    (about : e = .lengthOperator name ∨ e = .unsupportedOperator name)
    (met : (rules.read query).Meets e) : rules.AtOperatorKey query fun op field operand =>
      rules.operators.FailsInside op field operand e := by
  rcases (rules.gives_read_expected query).of_meets met with ordinary | foreign
  · rcases about with rfl | rfl <;> cases ordinary
  · refine foreign.mono fun op field operand failure => ?_
    rcases failure with inside | ⟨-, pattern⟩
    · exact inside
    · rcases about with rfl | rfl
      · exact absurd rfl (pattern.ne_name name).1
      · exact absurd rfl (pattern.ne_name name).2

theorem meets_at_runtime {e : QueryError} (he : e.isRuntime = true)
    (met : (rules.read query).Meets e) : rules.AtOperatorKey query fun op field operand =>
      rules.operators.FailsInside op field operand e ∨
        op = "regex" ∧ Pattern.IsOutOfReach operand := by
  rcases (rules.gives_read_expected query).of_meets met with ordinary | foreign
  · exact absurd he ordinary.not_isRuntime
  · refine foreign.mono fun op field operand failure => failure.imp_right ?_
    rintro ⟨regex, pattern⟩
    exact ⟨regex, Pattern.isOutOfReach_iff.2 ⟨e, pattern, he⟩⟩

theorem read_of_failing_operator {e : QueryError}
    (hk : FilterKey.operator? key = some (field, op)) (unbracketed : FilterKey.bracket? key = none)
    (unlisted : key ∉ rules.fields) (size : rules.checkSize [(key, operand)] = .ok ())
    (other : LengthOperator.ofName? op = none) (allowed : rules.allows field = true)
    (known : rules.operators.knows op = true)
    (fails : rules.operators.apply op field operand = .error e) (request : e.isKeyLevel = false) :
    (rules.read [(key, operand)]).outcome = .error e := by
  have operation : LengthFilter.asked rules.allows (key, operand) = .ok none := by
    simp only [LengthFilter.asked, hk, other, Option.isSome_none, Bool.false_and]
    rfl
  have bracket : rules.bracketCondition (key, operand) = .ok none := by
    rw [bracketCondition, unbracketed]
  have silent : ∀ f ∈ rules.fields, rules.directCondition [(key, operand)] [] f = .ok none := by
    intro f hf
    have missing : Entries.get? [(key, operand)] f = none := by
      rw [Entries.get?_cons, if_neg fun same : key = f => unlisted (same ▸ hf), Entries.get?_nil]
    rw [directCondition, missing]
  have directs : rules.fields.filterMapM (rules.directCondition [(key, operand)] []) = .ok [] := by
    rw [← filterMapM_filter fun f hf (_ : (fun _ => false) f = false) => silent f hf,
      List.filter_eq_nil_iff.2 (by simp)]
    rfl
  have condition : rules.operatorCondition (key, operand) = .error e := by
    simp only [operatorCondition, hk, other, allowed, known, fails, Filter.conditionOn]
    exact if_neg (Bool.eq_false_iff.1 request)
  rw [rules.outcome_read, reading, size, List.filterMapM_cons, operation]
  simp only [List.filterMapM_cons, List.filterMapM_nil, bracket, condition]
  change (rules.fields.filterMapM (rules.directCondition [(key, operand)] []) >>= _) = _
  rw [directs]
  rfl

/-- Just one of the two readers evaluates an operator key, and the other one passes it over. -/
theorem evaluated_once (hk : FilterKey.operator? key = some (field, op))
    (allowed : rules.allows field = true) (known : rules.operators.knows op = true)
    (operand : Value) :
    Xor (LengthFilter.Evaluates rules.allows key field op operand)
        (rules.Evaluates key field op operand) ∧
      (¬LengthFilter.Evaluates rules.allows key field op operand →
        LengthFilter.operation? rules.allows key operand = pure none) ∧
      (¬rules.Evaluates key field op operand →
        ∀ filters, rules.addOperator filters key operand = pure filters) := by
  cases length : LengthOperator.ofName? op with
  | some o =>
    have is_length : (LengthOperator.ofName? op).isSome = true := by rw [length]; rfl
    have evaluated := LengthFilter.evaluates_of_length hk allowed is_length operand
    exact ⟨.inl ⟨evaluated, not_evaluates_of_length hk is_length⟩,
      fun left => absurd evaluated left,
      fun _ filters => addOperator_of_length hk is_length filters operand⟩
  | none =>
    have passed := LengthFilter.operation?_of_other hk length rules.allows operand
    have evaluated := evaluates_of_other hk allowed known length operand
    exact ⟨.inr ⟨evaluated, fun both => both.not_pure passed⟩, fun _ => passed,
      fun left => absurd evaluated left⟩

/-- The tables of operators agree, whatever a configuration adds to them. Operators on lengths,
and patterns that are out of reach, are what fails at run time, and names that are not valid are
what is unsupported; what every configuration has is the same in all of them. So the reading of
filters meets these failures only where the code of the configuration or a pattern has them, length
filters look up no name in vain, and a valid key is evaluated just once. -/
theorem operators_agree {cap : Option Int} {custom : Entries CustomOperator} {ops : Operators}
    (accepted : Operators.make cap custom = .ok ops) :
    (∀ name field operand,
      ((∃ e, ops.Fails name field operand e ∧ e.isRuntime = true) ↔
        (LengthOperator.ofName? name).isSome = true ∨
          name = "regex" ∧ Pattern.IsOutOfReach operand) ∧
      (∀ n, ops.Fails name field operand (.lengthOperator n) ↔
        n = name ∧ (LengthOperator.ofName? name).isSome = true) ∧
      (∀ n, ops.Fails name field operand (.unsupportedOperator n) ↔
        n = name ∧ ops.knows name = false)) ∧
    (∀ others : Operators, others.cap = ops.cap → ∀ name field operand,
      Operators.IsBuiltIn name →
        others.apply name field operand = ops.apply name field operand) ∧
    ∀ rules : FilterRules, rules.operators = ops → ∀ query,
      (∀ e name, e = .lengthOperator name ∨ e = .unsupportedOperator name →
        (rules.read query).Meets e →
          rules.AtOperatorKey query fun op field operand => ops.FailsInside op field operand e) ∧
      (∀ e, e.isRuntime = true → (rules.read query).Meets e →
        rules.AtOperatorKey query fun op field operand => ops.FailsInside op field operand e ∨
          op = "regex" ∧ Pattern.IsOutOfReach operand) ∧
      (∀ allows name, (LengthFilter.ofQuery allows query).outcome ≠
        .error (.unknownLengthOperator name)) ∧
      ∀ key field op operand, FilterKey.operator? key = some (field, op) →
        rules.allows field = true → ops.knows op = true →
        Xor (LengthFilter.Evaluates rules.allows key field op operand)
            (rules.Evaluates key field op operand) ∧
          (¬LengthFilter.Evaluates rules.allows key field op operand →
            LengthFilter.operation? rules.allows key operand = pure none) ∧
          (¬rules.Evaluates key field op operand →
            ∀ filters, rules.addOperator filters key operand = pure filters) := by
  have kept := Operators.keepsLengths_of_make accepted
  refine ⟨fun name field operand => ⟨Operators.fails_at_runtime_iff kept,
    fun n => Operators.fails_lengthOperator_iff kept,
    fun n => Operators.fails_unsupportedOperator_iff⟩,
    fun others same name field operand built => Operators.apply_congr same built field operand, ?_⟩
  rintro rules rfl query
  refine ⟨fun e name about met => meets_name about met, fun e he met => meets_at_runtime he met,
    fun allows name lost => ?_,
    fun key field op operand hk allowed known => evaluated_once hk allowed known operand⟩
  have ordinary := (LengthFilter.gives_ofQuery_ordinary allows query).of_meets (.inl lost)
  cases ordinary

end FilterRules

theorem FilterRules.operators_agree_twice_named :
    let custom : Entries CustomOperator :=
      [("even", fun _ _ _ => .ok (.map [("$mod", .list [.int 2, .int 0])])),
        ("gt", fun _ _ _ => .error (.unsupportedOperator "gt"))]
    ∃ rules, make (some ["age", "tags"]) none custom none none = .ok rules ∧
      Operators.make none custom = .ok rules.operators ∧
      rules.operators.Fails "size_gt" "tags" (.text "2") (.lengthOperator "size_gt") ∧
      rules.operators.Fails "like" "age" (.text "1") (.unsupportedOperator "like") ∧
      rules.operators.apply "gt" "age" (.text "18") = .ok (.map [("$gt", .int 18)]) ∧
      (∀ query name, (rules.read query).Meets (.unsupportedOperator name) →
        rules.AtOperatorKey query fun op field operand =>
          rules.operators.FailsInside op field operand (.unsupportedOperator name)) ∧
      Xor (LengthFilter.Evaluates rules.allows "tags__size_gt" "tags" "size_gt" (.text "2"))
        (rules.Evaluates "tags__size_gt" "tags" "size_gt" (.text "2")) ∧
      Xor (LengthFilter.Evaluates rules.allows "age__even" "age" "even" (.text "1"))
        (rules.Evaluates "age__even" "age" "even" (.text "1")) := by
  intro custom
  have made : ∃ rules, make (some ["age", "tags"]) none custom none none = .ok rules ∧
      Operators.make none custom = .ok rules.operators ∧
      rules.allows "tags" = true ∧ rules.allows "age" = true ∧
      rules.operators.knows "size_gt" = true ∧ rules.operators.knows "even" = true ∧
      rules.operators.knows "like" = false ∧ rules.operators.cap = 1000 :=
    ⟨_, rfl, rfl, by decide, by decide, by decide, by decide, by decide, rfl⟩
  obtain ⟨rules, hr, accepted, tags, age, size_gt, even, like, cap⟩ := made
  obtain ⟨fails, same, readers⟩ := operators_agree accepted
  obtain ⟨-, -, -, evaluated⟩ := readers rules rfl []
  have plain : (⟨1000, []⟩ : Operators).apply "gt" "age" (.text "18") =
      .ok (.map [("$gt", .int 18)]) := rfl
  refine ⟨rules, hr, accepted, ((fails _ _ _).2.1 _).2 ⟨rfl, rfl⟩,
    ((fails _ _ _).2.2 _).2 ⟨rfl, like⟩,
    (same ⟨1000, []⟩ cap.symm "gt" "age" (.text "18") (.inl rfl)).symm.trans plain,
    fun query name => (readers rules rfl query).1 _ name (.inr rfl),
    (evaluated _ _ _ _ (by decide) tags size_gt).1, (evaluated _ _ _ _ (by decide) age even).1⟩

/-- Groups that are nested too deep fail at run time, though the operator is none on lengths; so
does the reading of a query with such a pattern. -/
theorem FilterRules.nesting_lost :
    let pattern := String.ofList (Pattern.nested 600)
    LengthOperator.ofName? "regex" = none ∧
      QueryError.isRuntime .nestedTooDeep = true ∧
      ∃ rules, make (some ["name"]) none [] none none = .ok rules ∧
        rules.operators.Fails "regex" "name" (.text pattern) .nestedTooDeep ∧
        (rules.read [("name__regex", .text pattern)]).Meets .nestedTooDeep := by
  intro pattern
  have chars : pattern.toList = Pattern.nested 600 := String.toList_ofList
  have short : pattern.length ≤ Inference.maxLength := by
    rw [← String.length_toList, chars, Pattern.length_nested]
    decide
  have lost : Pattern.FailsOn (.text pattern) .nestedTooDeep := by
    refine ⟨pattern, rfl, short, ?_⟩
    rw [Pattern.isPortable, chars, Pattern.read_nested (by decide)]
  have made : ∃ rules, make (some ["name"]) none [] none none = .ok rules ∧
      "name__regex" ∉ rules.fields ∧ rules.maxKeys = 100 ∧ rules.allows "name" = true ∧
      rules.operators.knows "regex" = true :=
    ⟨_, rfl, by decide, rfl, by decide, by decide⟩
  obtain ⟨rules, hr, unlisted, cap, allowed, known⟩ := made
  have size : rules.checkSize [("name__regex", .text pattern)] = .ok () := by
    rw [checkSize, cap]
    rfl
  have fails : rules.operators.apply "regex" "name" (.text pattern) = .error .nestedTooDeep := by
    change rules.operators.apply Operator.regex.name "name" (.text pattern) = _
    rw [Operators.apply_name, Operator.apply_regex_eq_error lost]
    rfl
  have outcome : (rules.read [("name__regex", .text pattern)]).outcome = .error .nestedTooDeep :=
    read_of_failing_operator (by decide) (by decide) unlisted size rfl allowed known fails rfl
  exact ⟨rfl, rfl, rules, hr, ⟨fails, fun inside => absurd inside.1 (by decide)⟩, .inl outcome⟩

end ResourceQuery
