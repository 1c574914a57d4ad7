import ResourceQuery.Platform.Standard
import ResourceQuery.Proofs.Asked

/-!
Keys without influence. A key is inert when it asks for nothing in any of its forms:
by itself it is no listed field that may be filtered, and what stands in its brackets
or before its operator is refused, or its operator is unknown or refuses the operand.
A reading is the same with and without any of its inert keys, whether it fails or not.
-/

namespace ResourceQuery

theorem Operators.ofName?_of_not_knows {ops : Operators} {name : String}
    (h : ops.knows name = false) : LengthOperator.ofName? name = none := by
  rw [Operators.knows, Bool.or_eq_false_iff] at h
  exact Option.isNone_iff_eq_none.1 (Option.isSome_eq_false_iff.1 h.2)

def Operators.Refuses [Platform] (ops : Operators) (name field : String) (operand : Value) : Prop :=
  ∃ e, ops.apply name field operand = .error e ∧ e.isKeyLevel = true

instance [Platform] (ops : Operators) (name field : String) (operand : Value) :
    Decidable (ops.Refuses name field operand) :=
  match h : ops.apply name field operand with
  | .ok v => .isFalse fun ⟨e, he, _⟩ => by cases h.symm.trans he
  | .error e => decidable_of_iff (e.isKeyLevel = true)
      ⟨fun hk => ⟨e, h, hk⟩, fun ⟨_, he, hk⟩ => Except.error.inj (h.symm.trans he) ▸ hk⟩

theorem Operators.ofName?_of_refuses [Platform] {ops : Operators} {name field : String}
    {operand : Value}
    (h : ops.Refuses name field operand) : LengthOperator.ofName? name = none := by
  obtain ⟨e, he, hk⟩ := h
  cases hl : LengthOperator.ofName? name with
  | none => rfl
  | some op =>
    rw [Operators.apply, hl] at he
    cases he
    cases hk

namespace FilterRules

variable [Platform]

/-- No form of a key reaches a field that may be filtered, operators that are unknown or that
refuse their operand aside. -/
structure Inert (rules : FilterRules) (e : String × Value) : Prop where
  unlisted : e.1 ∈ rules.fields → e.1 ≠ Filter.wildcard → rules.allows e.1 = false
  bracketed : ∀ field ∈ FilterKey.bracket? e.1, rules.allows field = false
  compared : ∀ k ∈ FilterKey.operator? e.1, rules.allows k.1 = false ∨
    rules.operators.knows k.2 = false ∨ rules.operators.Refuses k.2 k.1 e.2

instance (rules : FilterRules) (e : String × Value) : Decidable (rules.Inert e) :=
  decidable_of_iff
    ((e.1 ∈ rules.fields → e.1 ≠ Filter.wildcard → rules.allows e.1 = false) ∧
      (∀ field ∈ FilterKey.bracket? e.1, rules.allows field = false) ∧
      ∀ k ∈ FilterKey.operator? e.1, rules.allows k.1 = false ∨
        rules.operators.knows k.2 = false ∨ rules.operators.Refuses k.2 k.1 e.2)
    ⟨fun ⟨hu, hb, hc⟩ => ⟨hu, hb, hc⟩, fun h => ⟨h.unlisted, h.bracketed, h.compared⟩⟩

namespace Inert

variable {rules : FilterRules} {e : String × Value}

theorem asked (h : rules.Inert e) : LengthFilter.asked rules.allows e = .ok none := by
  unfold LengthFilter.asked
  cases hk : FilterKey.operator? e.1 with
  | none => rfl
  | some k =>
    obtain ⟨field, op⟩ := k
    have hn : ((LengthOperator.ofName? op).isSome && rules.allows field) = false := by
      rcases h.compared (field, op) hk with ha | hu | hr
      · rw [ha, Bool.and_false]
      · rw [Operators.ofName?_of_not_knows hu]
        rfl
      · rw [Operators.ofName?_of_refuses hr]
        rfl
    dsimp only
    rw [hn]
    rfl

theorem bracketCondition (h : rules.Inert e) : rules.bracketCondition e = .ok none := by
  unfold FilterRules.bracketCondition
  cases hk : FilterKey.bracket? e.1 with
  | none => rfl
  | some field =>
    dsimp only
    rw [h.bracketed field hk]
    rfl

theorem operatorCondition (h : rules.Inert e) : rules.operatorCondition e = .ok none := by
  unfold FilterRules.operatorCondition
  cases hk : FilterKey.operator? e.1 with
  | none => rfl
  | some k =>
    obtain ⟨field, op⟩ := k
    dsimp only
    rcases h.compared (field, op) hk with ha | hu | ⟨error, he, hkey⟩
    · rw [ha, Bool.and_false, Bool.false_and]
      rfl
    · rw [hu, Bool.and_false]
      rfl
    · have refused : Filter.conditionOn field (rules.operators.apply op field e.2) = .ok none := by
        rw [he]
        exact if_pos hkey
      rw [refused]
      exact ite_self _

end Inert

variable {rules : FilterRules} {query filters : Entries Value} {keep : String × Value → Bool}

theorem directCondition_filter (h : ∀ e ∈ query, keep e = false → rules.Inert e)
    {field : String} (hf : field ∈ rules.fields) :
    rules.directCondition (query.filter keep) filters field =
      rules.directCondition query filters field := by
  by_cases hd : field ≠ Filter.wildcard ∧ rules.allows field = true
  · have kept : ∀ e ∈ query, e.1 = field → keep e = true := by
      intro e he hfield
      subst hfield
      cases hk : keep e with
      | true => rfl
      | false =>
        have refused := (h e he hk).unlisted hf hd.1
        rw [hd.2] at refused
        cases refused
    rw [directCondition, directCondition, Entries.get?_filter kept]
  · -- such a field asks for nothing, whatever the query says of it
    have silent (q : Entries Value) : rules.directCondition q filters field = .ok none := by
      unfold directCondition
      cases Entries.get? q field with
      | none => rfl
      | some operand =>
        dsimp only
        split
        · rfl
        · rename_i hw
          have ha : ¬rules.allows field = true := fun ha => hd ⟨fun hf => hw (.inl hf), ha⟩
          exact if_neg ha
    rw [silent, silent]

omit [Platform] in
theorem checkSize_of_le (hs : (query.length : Int) ≤ rules.maxKeys) :
    rules.checkSize query = .ok () := if_neg (by omega)

theorem reading_filter (hs : (query.length : Int) ≤ rules.maxKeys)
    (h : ∀ e ∈ query, keep e = false → rules.Inert e) :
    rules.reading (query.filter keep) = rules.reading query := by
  have operations : (query.filter keep).filterMapM (LengthFilter.asked rules.allows) =
      query.filterMapM (LengthFilter.asked rules.allows) :=
    Outcome.filterMapM_filter fun e he hk => (h e he hk).asked
  have brackets : (query.filter keep).filterMapM rules.bracketCondition =
      query.filterMapM rules.bracketCondition :=
    Outcome.filterMapM_filter fun e he hk => (h e he hk).bracketCondition
  have operators : (query.filter keep).filterMapM rules.operatorCondition =
      query.filterMapM rules.operatorCondition :=
    Outcome.filterMapM_filter fun e he hk => (h e he hk).operatorCondition
  have directs (filters : Entries Value) :
      rules.fields.filterMapM (rules.directCondition (query.filter keep) filters) =
        rules.fields.filterMapM (rules.directCondition query filters) :=
    Outcome.filterMapM_congr fun field hf => directCondition_filter h hf
  have shorter : (query.filter keep).length ≤ query.length := List.length_filter_le keep query
  have small : rules.checkSize (query.filter keep) = .ok () := checkSize_of_le (by omega)
  have whole : rules.checkSize query = .ok () := checkSize_of_le hs
  simp only [reading, small, whole, operations, brackets, directs, operators]

theorem reading_nil (hs : 0 ≤ rules.maxKeys) : rules.reading [] = .ok ([], {}) := by
  have size : rules.checkSize [] = .ok () := checkSize_of_le (by simpa using hs)
  have directs (filters : Entries Value) :
      rules.fields.filterMapM (rules.directCondition [] filters) = .ok [] := by
    induction rules.fields with
    | nil => rfl
    | cons field fields ih =>
      rw [List.filterMapM_cons, ih]
      rfl
  simp only [reading, size, List.filterMapM_nil, directs, pure_bind]
  rfl

/-- Inert keys have no influence: a query of no more keys than are allowed has the outcome that
it has without them, its filters, its lengths or its failure. So a query of inert keys alone
is read, and filters nothing. -/
theorem read_without_inert (hs : (query.length : Int) ≤ rules.maxKeys)
    (h : ∀ e ∈ query, keep e = false → rules.Inert e) :
    (rules.read (query.filter keep)).outcome = (rules.read query).outcome ∧
      ((∀ e ∈ query, rules.Inert e) → (rules.read query).outcome = .ok ([], {})) := by
  have same {keep : String × Value → Bool} (h : ∀ e ∈ query, keep e = false → rules.Inert e) :
      (rules.read (query.filter keep)).outcome = (rules.read query).outcome := by
    rw [rules.outcome_read, rules.outcome_read, reading_filter hs h]
  refine ⟨same h, fun all => ?_⟩
  have empty : query.filter (fun _ => false) = [] := List.filter_eq_nil_iff.2 (by simp)
  have size : 0 ≤ rules.maxKeys := by omega
  have nothing : (rules.read []).outcome = (rules.read query).outcome := by
    rw [← empty]
    exact same fun e he _ => all e he
  rw [← nothing, rules.outcome_read, reading_nil size]

end FilterRules

theorem FilterRules.read_without_inert_role :
    let query : Entries Value :=
      [("secret__between", .text "1"), ("filters[$or]", .text "x"), ("role", .text "admin"),
        ("role__like", .text "jo"), ("role__strict", .text "x"), ("page", .text "2")]
    let keep : String × Value → Bool := fun e => e.1 = "role"
    ∃ rules, make (some ["role"]) none [("strict", fun _ _ _ => .error (.refused "Not today"))]
        none none = .ok rules ∧
      (query.length : Int) ≤ rules.maxKeys ∧ (∀ e ∈ query, keep e = false → rules.Inert e) ∧
      query.filter keep = [("role", .text "admin")] ∧
      (rules.read query).outcome = .ok ([("role", .text "admin")], {}) := by
  intro query keep
  have hr : ∃ rules, make (some ["role"]) none
        [("strict", fun _ _ _ => .error (.refused "Not today"))] none none = .ok rules ∧
      (query.length : Int) ≤ rules.maxKeys ∧ (∀ e ∈ query, keep e = false → rules.Inert e) ∧
      (rules.read (query.filter keep)).outcome = .ok ([("role", .text "admin")], {}) :=
    ⟨_, rfl, by decide, by decide, rfl⟩
  obtain ⟨rules, hm, hs, h, hk⟩ := hr
  exact ⟨rules, hm, hs, h, rfl, (read_without_inert hs h).1.symm.trans hk⟩

end ResourceQuery
