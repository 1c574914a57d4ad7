import ResourceQuery.Proofs.KeyForm
import ResourceQuery.Proofs.Merge
import ResourceQuery.Proofs.Operations
import ResourceQuery.Proofs.Outcome

/-!
What a query asks for. A key in brackets, a listed field and an operator key each
ask for at most one condition on one allowed field, and a length operator for at
most one operation. A query that is read gives these conditions merged in the order
brackets, listed fields, operators, and these operations put together.
-/

namespace ResourceQuery

namespace LengthFilter

open Logged Outcome

variable {P : QueryError → Prop} {allows : String → Bool}

def asked (allows : String → Bool) (e : String × Value) :
    Except QueryError (Option (String × Entries Value)) :=
  match FilterKey.operator? e.1 with
  | none => .ok none
  | some (field, op) =>
    if (LengthOperator.ofName? op).isSome && allows field then
      (condition op e.2).map fun c => some (field, c)
    else .ok none

theorem asked_eq_ok_some_iff {e : String × Value}
    {o : String × Entries Value} :
    asked allows e = .ok (some o) ↔ ∃ op, FilterKey.operator? e.1 = some (o.1, op) ∧
      (LengthOperator.ofName? op).isSome ∧ allows o.1 ∧ condition op e.2 = .ok o.2 := by
  unfold asked
  cases FilterKey.operator? e.1 with
  | none => simp
  | some k =>
    obtain ⟨field, op⟩ := k
    dsimp only
    rw [Outcome.guarded_eq_ok_some_iff, Bool.and_eq_true, Outcome.map_eq_ok_iff]
    constructor
    · rintro ⟨⟨hl, ha⟩, c, hc, ho⟩
      cases ho
      exact ⟨op, rfl, hl, ha, hc⟩
    · rintro ⟨_, hk, hl, ha, hc⟩
      cases hk
      exact ⟨⟨hl, ha⟩, o.2, hc, rfl⟩

theorem operation?_of_key {key field op : String}
    (hk : FilterKey.operator? key = some (field, op)) (allows : String → Bool)
    (operand : Value) : operation? allows key operand =
      if (LengthOperator.ofName? op).isNone then pure none
      else if !allows field then do
        Logged.warn (.lengthFilterNotAllowed key)
        pure none
      else do
        let c ← Logged.lift (condition op operand)
        return some (field, c) := by
  obtain ⟨k, cut, k_eq⟩ := Option.map_eq_some_iff.1 hk
  cases k_eq
  rw [operation?, cut]

theorem operation?_of_no_key {key : String} (hk : FilterKey.operator? key = none)
    (allows : String → Bool) (operand : Value) : operation? allows key operand = pure none := by
  rw [operation?, Option.map_eq_none_iff.1 hk]

def FailsAt (P : QueryError → Prop) (allows : String → Bool) (e : String × Value) : Prop :=
  ∀ field op, FilterKey.operator? e.1 = some (field, op) → (LengthOperator.ofName? op).isSome →
    allows field = true → FailsBy P (condition op e.2)

theorem gives_operation? {e : String × Value} (h : FailsAt P allows e) :
    Gives P (operation? allows e.1 e.2) (asked allows e) := by
  unfold asked
  cases hk : FilterKey.operator? e.1 with
  | none =>
    rw [operation?_of_no_key hk]
    exact gives_pure none
  | some k =>
    obtain ⟨field, op⟩ := k
    rw [operation?_of_key hk]
    dsimp only
    cases hl : (LengthOperator.ofName? op).isSome with
    | false =>
      rw [if_pos (Option.isSome_eq_false_iff.1 hl)]
      exact gives_pure none
    | true =>
      rw [if_neg (by simp [Option.isSome_iff_ne_none.1 hl]), Bool.true_and]
      cases ha : allows field with
      | false => exact gives_note rfl none
      | true => exact (gives_lift (h field op hk hl ha)).bind_ok fun c => gives_pure _

theorem gives_ofQuery {query : Entries Value} (h : ∀ e ∈ query, FailsAt P allows e) :
    Gives P (ofQuery allows query) ((query.filterMapM (asked allows)).map ofOperations) := by
  unfold ofQuery ofOperations addAll
  rw [← Outcome.foldlM_eq_map_filterMapM]
  refine Gives.foldlM (fun e he f => ?_) _
  refine (gives_operation? (h e he)).bind_ok fun o => ?_
  cases o <;> exact gives_pure _

theorem outcome_ofQuery (allows : String → Bool) (query : Entries Value) :
    (ofQuery allows query).outcome = (query.filterMapM (asked allows)).map ofOperations :=
  (gives_ofQuery fun _ _ _ _ _ _ _ => failsBy_any _).outcome_eq

end LengthFilter

namespace Filter

def mergeAsked (filters : Entries Value) (asked : Option (String × Value)) : Entries Value :=
  asked.elim filters fun c => merge filters c.1 c.2

def conditionOn (field : String) (value : Except QueryError Value) :
    Except QueryError (Option (String × Value)) :=
  Logged.tolerated (value.map (Prod.mk field))

theorem conditionOn_eq_ok_some_iff {field : String} {value : Except QueryError Value}
    {c : String × Value} :
    conditionOn field value = .ok (some c) ↔ c.1 = field ∧ value = .ok c.2 := by
  rw [conditionOn, Logged.tolerated_eq_ok_some_iff, Outcome.map_eq_ok_iff]
  constructor
  · rintro ⟨v, hv, rfl⟩
    exact ⟨rfl, hv⟩
  · rintro ⟨rfl, hv⟩
    exact ⟨c.2, hv, rfl⟩

theorem gives_conditionOn {P : QueryError → Prop} (filters : Entries Value)
    {warning : QueryError → Warning} (about : ∀ e, (warning e).error? = some e) (field : String)
    {value : Except QueryError Value} (h : Outcome.FailsBy P value) :
    Logged.Gives P (Logged.attempt filters warning (value.map (merge filters field)))
      ((conditionOn field value).map (mergeAsked filters)) := by
  have merged : value.map (merge filters field) =
      (value.map (Prod.mk field)).map fun c => merge filters c.1 c.2 := by
    rw [Outcome.map_map]
  refine (Logged.gives_attempt filters about (h.map _)).congr ?_
  rw [merged, conditionOn, Logged.tolerated_map, Outcome.map_map]
  congr 1
  funext c
  cases c <;> rfl

end Filter

namespace FilterRules

open Logged Outcome
open ResourceQuery.Filter

variable [Platform] (rules : FilterRules)

def bracketCondition (e : String × Value) : Except QueryError (Option (String × Value)) :=
  match FilterKey.bracket? e.1 with
  | none => .ok none
  | some field =>
    if rules.allows field then conditionOn field (Inference.typed field e.2) else .ok none

def directCondition (query filters : Entries Value) (field : String) :
    Except QueryError (Option (String × Value)) :=
  match Entries.get? query field with
  | none => .ok none
  | some operand =>
    if field = wildcard ∨ Entries.has filters field then .ok none
    else if rules.allows field then conditionOn field (Inference.typed field operand)
    else .ok none

def operatorCondition (e : String × Value) : Except QueryError (Option (String × Value)) :=
  match FilterKey.operator? e.1 with
  | none => .ok none
  | some (field, op) =>
    if (LengthOperator.ofName? op).isNone && rules.allows field && rules.operators.knows op then
      conditionOn field (rules.operators.apply op field e.2)
    else .ok none

theorem bracketCondition_eq_ok_some_iff {e c : String × Value} :
    rules.bracketCondition e = .ok (some c) ↔ FilterKey.bracket? e.1 = some c.1 ∧
      rules.allows c.1 ∧ Inference.typed c.1 e.2 = .ok c.2 := by
  unfold bracketCondition
  cases FilterKey.bracket? e.1 with
  | none => simp
  | some field =>
    dsimp only
    rw [Outcome.guarded_eq_ok_some_iff, conditionOn_eq_ok_some_iff]
    constructor
    · rintro ⟨ha, rfl, hv⟩
      exact ⟨rfl, ha, hv⟩
    · rintro ⟨hk, ha, hv⟩
      cases hk
      exact ⟨ha, rfl, hv⟩

theorem directCondition_eq_ok_some_iff {query filters : Entries Value} {field : String}
    {c : String × Value} :
    rules.directCondition query filters field = .ok (some c) ↔
      c.1 = field ∧ field ≠ wildcard ∧ Entries.has filters field = false ∧ rules.allows field ∧
        ∃ operand, Entries.get? query field = some operand ∧
          Inference.typed field operand = .ok c.2 := by
  unfold directCondition
  cases Entries.get? query field with
  | none => simp
  | some operand =>
    dsimp only
    rw [Outcome.unless_eq_ok_some_iff, Outcome.guarded_eq_ok_some_iff,
      conditionOn_eq_ok_some_iff, not_or, Bool.not_eq_true]
    constructor
    · rintro ⟨⟨hw, hh⟩, ha, hf, hv⟩
      exact ⟨hf, hw, hh, ha, operand, rfl, hv⟩
    · rintro ⟨hf, hw, hh, ha, _, ho, hv⟩
      cases ho
      exact ⟨⟨hw, hh⟩, ha, hf, hv⟩

theorem operatorCondition_eq_ok_some_iff {e c : String × Value} :
    rules.operatorCondition e = .ok (some c) ↔
      ∃ op, FilterKey.operator? e.1 = some (c.1, op) ∧ (LengthOperator.ofName? op).isNone ∧
        rules.allows c.1 ∧ rules.operators.knows op ∧
        rules.operators.apply op c.1 e.2 = .ok c.2 := by
  unfold operatorCondition
  cases FilterKey.operator? e.1 with
  | none => simp
  | some k =>
    obtain ⟨field, op⟩ := k
    dsimp only
    rw [Outcome.guarded_eq_ok_some_iff, conditionOn_eq_ok_some_iff, Bool.and_eq_true,
      Bool.and_eq_true]
    constructor
    · rintro ⟨⟨⟨hl, ha⟩, hn⟩, rfl, hv⟩
      exact ⟨op, rfl, hl, ha, hn, hv⟩
    · rintro ⟨_, hk, hl, ha, hn, hv⟩
      cases hk
      exact ⟨⟨⟨hl, ha⟩, hn⟩, rfl, hv⟩

structure FailsAt (P : QueryError → Prop) (e : String × Value) : Prop where
  measured : LengthFilter.FailsAt P rules.allows e
  typed : ∀ field, FilterKey.Names e.1 field → rules.allows field = true →
    FailsBy P (Inference.typed field e.2)
  compared : ∀ field op, FilterKey.operator? e.1 = some (field, op) →
    LengthOperator.ofName? op = none → rules.allows field = true →
      rules.operators.knows op = true → FailsBy P (rules.operators.apply op field e.2)

variable {rules} {P : QueryError → Prop} {e : String × Value}

theorem FailsAt.mono {Q : QueryError → Prop} (h : rules.FailsAt P e) (hpq : ∀ e, P e → Q e) :
    rules.FailsAt Q e where
  measured field op hk hl ha := (h.measured field op hk hl ha).mono hpq
  typed field hk ha := (h.typed field hk ha).mono hpq
  compared field op hk hl ha hn := (h.compared field op hk hl ha hn).mono hpq

theorem gives_addBracket (h : rules.FailsAt P e) (filters : Entries Value) :
    Gives P (rules.addBracket filters e.1 e.2)
      ((rules.bracketCondition e).map (mergeAsked filters)) := by
  unfold addBracket bracketCondition FilterKey.bracket?
  split
  · rename_i hk
    rw [hk]
    exact gives_pure filters
  · rename_i hk
    rw [hk, Option.map_some]
    exact gives_pure filters
  · rename_i field _ hk
    have bracket : FilterKey.bracket? e.1 = some (String.ofList field) := by
      rw [FilterKey.bracket?, hk, Option.map_some]
    simp only [hk, Option.map_some]
    cases ha : rules.allows (String.ofList field) with
    | false => exact gives_note rfl filters
    | true => exact gives_conditionOn filters (fun _ => rfl) _ (h.typed _ (.inl bracket) ha)

theorem gives_addDirect {query : Entries Value} (h : ∀ e ∈ query, rules.FailsAt P e)
    (filters : Entries Value) (field : String) :
    Gives P (rules.addDirect query filters field)
      ((rules.directCondition query filters field).map (mergeAsked filters)) := by
  unfold addDirect directCondition
  cases ho : Entries.get? query field with
  | none => exact gives_pure filters
  | some operand =>
    dsimp only
    split
    · exact gives_pure filters
    · cases ha : rules.allows field with
      | false => exact gives_note rfl filters
      | true =>
        have typed := (h _ (Entries.mem_of_get? ho)).typed field (.inr (.inl rfl)) ha
        exact gives_conditionOn filters (fun _ => rfl) field typed

variable (rules) in
theorem addOperator_of_key {key field op : String}
    (hk : FilterKey.operator? key = some (field, op)) (filters : Entries Value)
    (operand : Value) : rules.addOperator filters key operand =
      if (LengthOperator.ofName? op).isSome then pure filters
      else if !rules.allows field then do
        Logged.warn (.filterNotAllowed key)
        pure filters
      else if !rules.operators.knows op then do
        Logged.warn (.unknownOperator op key)
        pure filters
      else
        Logged.attempt filters (.operatorFilterFailed key)
          ((rules.operators.apply op field operand).map (Filter.merge filters field)) := by
  obtain ⟨k, cut, k_eq⟩ := Option.map_eq_some_iff.1 hk
  cases k_eq
  rw [addOperator, cut]

variable (rules) in
theorem addOperator_of_no_key {key : String} (hk : FilterKey.operator? key = none)
    (filters : Entries Value) (operand : Value) :
    rules.addOperator filters key operand = pure filters := by
  rw [addOperator, Option.map_eq_none_iff.1 hk]

theorem gives_addOperator (h : rules.FailsAt P e) (filters : Entries Value) :
    Gives P (rules.addOperator filters e.1 e.2)
      ((rules.operatorCondition e).map (mergeAsked filters)) := by
  unfold operatorCondition
  cases hk : FilterKey.operator? e.1 with
  | none =>
    rw [rules.addOperator_of_no_key hk]
    exact gives_pure filters
  | some k =>
    obtain ⟨field, op⟩ := k
    rw [rules.addOperator_of_key hk]
    dsimp only
    cases hl : LengthOperator.ofName? op with
    | some _ => exact gives_pure filters
    | none =>
      rw [Option.isSome_none, if_neg Bool.false_ne_true, Option.isNone_none, Bool.true_and]
      cases ha : rules.allows field with
      | false => exact gives_note rfl filters
      | true =>
        cases hn : rules.operators.knows op with
        | false => exact gives_note rfl filters
        | true =>
          have compared := h.compared field op hk hl ha hn
          exact gives_conditionOn filters (fun _ => rfl) field compared

variable (rules)

theorem directCondition_congr {query filters others : Entries Value} {field : String}
    (h : Entries.has filters field = Entries.has others field) :
    rules.directCondition query filters field = rules.directCondition query others field := by
  rw [directCondition, directCondition, h]

/-- A listed field is visited once, so what it asks for is settled before the first visit. -/
theorem foldlM_directCondition {fields : List String} (hn : fields.Nodup)
    {query filters others : Entries Value}
    (h : ∀ f ∈ fields, Entries.has filters f = Entries.has others f) :
    fields.foldlM (fun fs f => (rules.directCondition query fs f).map (mergeAsked fs)) filters =
      (fields.filterMapM (rules.directCondition query others)).map (mergeAll filters) := by
  induction fields generalizing filters with
  | nil => rfl
  | cons field fields ih =>
    rw [List.nodup_cons] at hn
    have rest : ∀ f ∈ fields, Entries.has filters f = Entries.has others f :=
      fun f hf => h f (List.mem_cons_of_mem _ hf)
    rw [List.foldlM_cons, List.filterMapM_cons,
      rules.directCondition_congr (h field List.mem_cons_self)]
    cases hd : rules.directCondition query others field with
    | error e => rfl
    | ok asked =>
      cases asked with
      | none => exact ih hn.2 rest
      | some c =>
        have hc : c.1 = field := ((rules.directCondition_eq_ok_some_iff).1 hd).1
        -- the fields that are still to come were not touched
        have kept : ∀ f ∈ fields,
            Entries.has (merge filters c.1 c.2) f = Entries.has others f := by
          intro f hf
          have hne : f ≠ c.1 := fun hfc => hn.1 (hc ▸ hfc ▸ hf)
          rw [Entries.has, get?_merge_of_ne filters c.2 hne]
          exact rest f hf
        refine (ih hn.2 kept).trans ?_
        cases fields.filterMapM (rules.directCondition query others) <;> rfl

def reading (query : Entries Value) : Except QueryError (Entries Value × LengthFilter) := do
  rules.checkSize query
  let operations ← query.filterMapM (LengthFilter.asked rules.allows)
  let brackets ← query.filterMapM rules.bracketCondition
  let directs ← rules.fields.filterMapM (rules.directCondition query (mergeAll [] brackets))
  let operators ← query.filterMapM rules.operatorCondition
  return (mergeAll [] (brackets ++ directs ++ operators), LengthFilter.ofOperations operations)

section

variable {rules} {query : Entries Value}

theorem gives_brackets (h : ∀ e ∈ query, rules.FailsAt P e) (filters : Entries Value) :
    Gives P (query.foldlM (fun fs (key, operand) => rules.addBracket fs key operand) filters)
      ((query.filterMapM rules.bracketCondition).map (mergeAll filters)) := by
  unfold mergeAll
  rw [← Outcome.foldlM_eq_map_filterMapM]
  exact Gives.foldlM (fun e he fs => gives_addBracket (h e he) fs) filters

theorem gives_directs (h : ∀ e ∈ query, rules.FailsAt P e) (filters : Entries Value) :
    Gives P (rules.fields.foldlM (fun fs field => rules.addDirect query fs field) filters)
      ((rules.fields.filterMapM (rules.directCondition query filters)).map
        (mergeAll filters)) := by
  rw [← rules.foldlM_directCondition rules.fields_nodup fun _ _ => rfl]
  exact Gives.foldlM (fun field _ fs => gives_addDirect h fs field) filters

theorem gives_operators (h : ∀ e ∈ query, rules.FailsAt P e) (filters : Entries Value) :
    Gives P (query.foldlM (fun fs (key, operand) => rules.addOperator fs key operand) filters)
      ((query.filterMapM rules.operatorCondition).map (mergeAll filters)) := by
  unfold mergeAll
  rw [← Outcome.foldlM_eq_map_filterMapM]
  exact Gives.foldlM (fun e he fs => gives_addOperator (h e he) fs) filters

theorem gives_read (size : FailsBy P (rules.checkSize query))
    (h : ∀ e ∈ query, rules.FailsAt P e) : Gives P (rules.read query) (rules.reading query) := by
  unfold read reading
  refine (gives_lift size).bind fun _ => ?_
  refine Gives.congr ((LengthFilter.gives_ofQuery fun e he => (h e he).measured).bind
    fun lengths => (gives_brackets h []).bind fun filters =>
    (gives_directs h filters).bind fun filters =>
    (gives_operators h filters).bind fun filters =>
    gives_pure (filters, lengths)) ?_
  simp only [Outcome.map_bind, mergeAll_append]
  rfl

end

theorem failsAt_any (e : String × Value) : rules.FailsAt (fun _ => True) e where
  measured _ _ _ _ _ := failsBy_any _
  typed _ _ _ := failsBy_any _
  compared _ _ _ _ _ _ := failsBy_any _

theorem outcome_read (query : Entries Value) :
    (rules.read query).outcome = rules.reading query :=
  (gives_read (failsBy_any _) fun e _ => rules.failsAt_any e).outcome_eq

end FilterRules

/-- All that a query asks for, in the order in which it is merged. -/
structure Asked [Platform] (rules : FilterRules) (query : Entries Value) where
  operations : List (String × Entries Value)
  brackets : List (String × Value)
  directs : List (String × Value)
  operators : List (String × Value)
  operations_eq : query.filterMapM (LengthFilter.asked rules.allows) = .ok operations
  brackets_eq : query.filterMapM rules.bracketCondition = .ok brackets
  directs_eq : rules.fields.filterMapM
    (rules.directCondition query (Filter.mergeAll [] brackets)) = .ok directs
  operators_eq : query.filterMapM rules.operatorCondition = .ok operators

namespace Asked

open Outcome
open ResourceQuery.Filter

variable [Platform] {rules : FilterRules} {query : Entries Value}

def conditions (asked : Asked rules query) : List (String × Value) :=
  asked.brackets ++ asked.directs ++ asked.operators

def filters (asked : Asked rules query) : Entries Value := mergeAll [] asked.conditions

def lengths (asked : Asked rules query) : LengthFilter :=
  LengthFilter.ofOperations asked.operations

theorem exists_of_reading {result : Entries Value × LengthFilter}
    (h : rules.reading query = .ok result) :
    ∃ asked : Asked rules query, result = (asked.filters, asked.lengths) := by
  rw [FilterRules.reading] at h
  obtain ⟨_, _, h⟩ := bind_eq_ok_iff.1 h
  obtain ⟨operations, ho, h⟩ := bind_eq_ok_iff.1 h
  obtain ⟨brackets, hb, h⟩ := bind_eq_ok_iff.1 h
  obtain ⟨directs, hd, h⟩ := bind_eq_ok_iff.1 h
  obtain ⟨operators, hp, h⟩ := bind_eq_ok_iff.1 h
  cases h
  exact ⟨⟨operations, brackets, directs, operators, ho, hb, hd, hp⟩, rfl⟩

theorem exists_of_read {result : Entries Value × LengthFilter}
    (h : (rules.read query).outcome = .ok result) :
    ∃ asked : Asked rules query, result = (asked.filters, asked.lengths) :=
  exists_of_reading (rules.outcome_read query ▸ h)

theorem mem_operations {asked : Asked rules query} {o : String × Entries Value} :
    o ∈ asked.operations ↔ ∃ e ∈ query, ∃ op, FilterKey.operator? e.1 = some (o.1, op) ∧
      (LengthOperator.ofName? op).isSome ∧ rules.allows o.1 ∧
      LengthFilter.condition op e.2 = .ok o.2 := by
  simp only [mem_filterMapM asked.operations_eq, LengthFilter.asked_eq_ok_some_iff]

theorem mem_brackets {asked : Asked rules query} {c : String × Value} :
    c ∈ asked.brackets ↔ ∃ e ∈ query, FilterKey.bracket? e.1 = some c.1 ∧ rules.allows c.1 ∧
      Inference.typed c.1 e.2 = .ok c.2 := by
  simp only [mem_filterMapM asked.brackets_eq, FilterRules.bracketCondition_eq_ok_some_iff]

theorem mem_directs {asked : Asked rules query} {c : String × Value} :
    c ∈ asked.directs ↔ c.1 ∈ rules.fields ∧ c.1 ≠ wildcard ∧
      Entries.has (mergeAll [] asked.brackets) c.1 = false ∧ rules.allows c.1 ∧
      ∃ operand, Entries.get? query c.1 = some operand ∧
        Inference.typed c.1 operand = .ok c.2 := by
  simp only [mem_filterMapM asked.directs_eq, FilterRules.directCondition_eq_ok_some_iff]
  constructor
  · rintro ⟨_, hf, rfl, h⟩
    exact ⟨hf, h⟩
  · rintro ⟨hf, h⟩
    exact ⟨c.1, hf, rfl, h⟩

theorem mem_operators {asked : Asked rules query} {c : String × Value} :
    c ∈ asked.operators ↔ ∃ e ∈ query, ∃ op, FilterKey.operator? e.1 = some (c.1, op) ∧
      (LengthOperator.ofName? op).isNone ∧ rules.allows c.1 ∧ rules.operators.knows op ∧
      rules.operators.apply op c.1 e.2 = .ok c.2 := by
  simp only [mem_filterMapM asked.operators_eq, FilterRules.operatorCondition_eq_ok_some_iff]

theorem mem_conditions {asked : Asked rules query} {c : String × Value} :
    c ∈ asked.conditions ↔
      c ∈ asked.brackets ∨ c ∈ asked.directs ∨ c ∈ asked.operators := by
  simp only [conditions, List.mem_append, or_assoc]

theorem allows_of_mem_conditions {asked : Asked rules query} {c : String × Value}
    (h : c ∈ asked.conditions) : rules.allows c.1 := by
  rcases mem_conditions.1 h with h | h | h
  · obtain ⟨_, _, _, ha, _⟩ := mem_brackets.1 h
    exact ha
  · exact (mem_directs.1 h).2.2.2.1
  · obtain ⟨_, _, _, _, _, ha, _⟩ := mem_operators.1 h
    exact ha

theorem allows_of_mem_operations {asked : Asked rules query} {o : String × Entries Value}
    (h : o ∈ asked.operations) : rules.allows o.1 := by
  obtain ⟨_, _, _, _, _, ha, _⟩ := mem_operations.1 h
  exact ha

theorem mem_keys_filters {asked : Asked rules query} {field : String} :
    field ∈ Entries.keys asked.filters ↔ ∃ c ∈ asked.conditions, c.1 = field := by
  rw [filters, mem_keys_mergeAll]
  simp [Entries.keys]

theorem nodup_keys_filters (asked : Asked rules query) :
    (Entries.keys asked.filters).Nodup :=
  nodup_keys_mergeAll (show (Entries.keys []).Nodup from .nil) _

theorem forall_filters (asked : Asked rules query) {P : Value → Prop}
    (keep : ∀ existing v, (∀ e ∈ existing, P e) → P v → P (join existing v))
    (h : ∀ c ∈ asked.conditions, P c.2) :
    ∀ e ∈ asked.filters, P e.2 := by
  intro e he
  have held := Entries.get?_of_mem asked.nodup_keys_filters he
  rw [filters, get?_mergeAll] at held
  refine forall_joinAll keep (fun v hv => h _ (mem_onField.1 hv)) (fun v hv => ?_) e.2 held
  cases hv

end Asked
end ResourceQuery
