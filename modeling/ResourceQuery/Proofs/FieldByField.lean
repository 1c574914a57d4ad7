import ResourceQuery.Platform.Standard
import ResourceQuery.Proofs.AllowList
import ResourceQuery.Proofs.Breakdown

/-!
Filters field by field. What a field is filtered by is the fold of what the query says of
that field: its equalities in brackets, or else the one of the field itself where it is
listed, and then the comparisons of its operators. Keys that are for other fields do not count.
-/

namespace ResourceQuery

namespace Outcome

variable {ε α β : Type}

theorem mapM_filter (p : α → Bool) (f : α → Except ε β) (l : List α) :
    (l.filter p).mapM f = l.filterMapM fun a => if p a then (f a).map some else .ok none := by
  induction l with
  | nil => rfl
  | cons a l ih =>
    rw [List.filterMapM_cons]
    cases hp : p a with
    | false =>
      rw [List.filter_cons_of_neg (by simp [hp]), ih]
      rfl
    | true =>
      rw [List.filter_cons_of_pos hp, List.mapM_cons, ih]
      cases f a <;> rfl

theorem filterMapM_only [DecidableEq α] {l : List α} (hn : l.Nodup) (x : α)
    (r : Except ε (Option β)) :
    l.filterMapM (fun a => if a = x then r else .ok none) =
      if x ∈ l then r.map Option.toList else .ok [] := by
  induction l with
  | nil => rfl
  | cons a l ih =>
    rw [List.nodup_cons] at hn
    rw [List.filterMapM_cons, ih hn.2]
    by_cases ha : a = x
    · have absent : x ∉ l := ha ▸ hn.1
      rw [if_pos ha, if_neg absent, if_pos (by simp [ha])]
      cases r with
      | error e => rfl
      | ok o => cases o <;> rfl
    · have same : x ∈ a :: l ↔ x ∈ l := by simp [Ne.symm ha]
      rw [if_neg ha]
      by_cases hx : x ∈ l
      · rw [if_pos hx, if_pos (same.2 hx)]
        rfl
      · rw [if_neg hx, if_neg fun h => hx (same.1 h)]
        rfl

end Outcome

namespace Inference

theorem tolerated_typed [Platform] (field : String) (v : Value) :
    Logged.tolerated (typed field v) = (typed field v).map some := by
  cases h : typed field v with
  | ok w => rfl
  | error e =>
    have blamed : e.isKeyLevel = false := by
      cases failsBy_typed field v e h <;> rfl
    simp [Logged.tolerated, blamed, Except.map]

end Inference

namespace Filter

def partOn (field : String) (c : Option (String × Value)) : Option Value :=
  c.bind fun c => if c.1 = field then some c.2 else none

theorem partOn_some_self (field : String) (v : Value) : partOn field (some (field, v)) = some v :=
  if_pos rfl

theorem partOn_of_ne {field : String} {c : Option (String × Value)} (h : ∀ d ∈ c, d.1 ≠ field) :
    partOn field c = none := by
  cases c with
  | none => rfl
  | some d => exact if_neg (h d rfl)

theorem filterMapM_partOn {α : Type} {ask : α → Except QueryError (Option (String × Value))}
    {askOn : α → Except QueryError (Option Value)} {field : String} {l : List α}
    {cs : List (String × Value)} (h : l.filterMapM ask = .ok cs)
    (hon : ∀ a ∈ l, ∀ c, ask a = .ok c → askOn a = .ok (partOn field c)) :
    l.filterMapM askOn = .ok (onField field cs) := by
  induction l generalizing cs with
  | nil =>
    cases h
    rfl
  | cons a l ih =>
    rw [List.forall_mem_cons] at hon
    obtain ⟨c, rest, hc, hrest, rfl⟩ := Outcome.filterMapM_cons_eq_ok h
    rw [List.filterMapM_cons, hon.1 c hc, ih hrest hon.2, onField_append]
    cases c with
    | none => rfl
    | some c =>
      rw [Option.toList_some, onField_cons, partOn, Option.bind_some]
      split <;> rfl

theorem partOn_conditionOn {field other : String} {value : Except QueryError Value}
    {c : Option (String × Value)} (h : conditionOn other value = .ok c) :
    (if other = field then Logged.tolerated value else .ok none) = .ok (partOn field c) := by
  rw [conditionOn, Logged.tolerated_map, Outcome.map_eq_ok_iff] at h
  obtain ⟨v, hv, rfl⟩ := h
  by_cases ho : other = field
  · rw [if_pos ho, hv, ho]
    cases v with
    | none => rfl
    | some v => rw [Option.map_some, partOn_some_self]
  · rw [if_neg ho, partOn_of_ne]
    intro d hd
    obtain ⟨_, _, rfl⟩ := Option.map_eq_some_iff.1 hd
    exact ho

end Filter

namespace FilterKey

instance (key field : String) : Decidable (Names key field) :=
  decidable_of_iff (bracket? key = some field ∨ key = field ∨
      (operator? key).map Prod.fst = some field) <| by
    unfold Names
    simp [Option.map_eq_some_iff]

end FilterKey

namespace FilterRules

open ResourceQuery.Filter

variable (rules : FilterRules) (query : Entries Value) (field : String)

def bracketsOn : Entries Value := query.filter fun e => FilterKey.bracket? e.1 = some field

variable {query field} in
theorem bracketsOn_filter {keep : String × Value → Bool}
    (h : ∀ e ∈ query, FilterKey.Names e.1 field → keep e = true) :
    bracketsOn (query.filter keep) field = bracketsOn query field := by
  rw [bracketsOn, bracketsOn, List.filter_filter]
  refine List.filter_congr fun e he => ?_
  by_cases hb : FilterKey.bracket? e.1 = some field
  · rw [h e he (.inl hb), Bool.and_true]
  · simp [hb]

variable [Platform]

/-- The equalities that a query states for a field: all those in brackets, or else the one of
the field itself, if it is listed. -/
def equalitiesOn : Except QueryError (List Value) :=
  match bracketsOn query field with
  | [] =>
    if field ∈ rules.fields ∧ field ≠ wildcard then
      (Entries.get? query field).toList.mapM (Inference.typed field)
    else .ok []
  | bracketed => bracketed.mapM fun e => Inference.typed field e.2

def comparisonOn (e : String × Value) : Except QueryError (Option Value) :=
  match FilterKey.operator? e.1 with
  | none => .ok none
  | some (f, op) =>
    if f = field ∧ (LengthOperator.ofName? op).isNone ∧ rules.operators.knows op then
      Logged.tolerated (rules.operators.apply op field e.2)
    else .ok none

def statedOn : Except QueryError (List Value) := do
  let equalities ← rules.equalitiesOn query field
  let comparisons ← query.filterMapM (rules.comparisonOn field)
  return equalities ++ comparisons

variable {rules query field}

theorem statedOn_filter {keep : String × Value → Bool}
    (h : ∀ e ∈ query, FilterKey.Names e.1 field → keep e = true) :
    rules.statedOn (query.filter keep) field = rules.statedOn query field := by
  have direct : Entries.get? (query.filter keep) field = Entries.get? query field :=
    Entries.get?_filter fun e he hk => h e he (.inr (.inl hk))
  have comparisons : (query.filter keep).filterMapM (rules.comparisonOn field) =
      query.filterMapM (rules.comparisonOn field) := by
    refine Outcome.filterMapM_filter fun e he hk => ?_
    unfold comparisonOn
    split
    · rfl
    · rename_i f op ho
      have other : f ≠ field := by
        rintro rfl
        rw [h e he (.inr (.inr ⟨op, ho⟩))] at hk
        cases hk
      rw [if_neg fun hf => other hf.1]
  rw [statedOn, statedOn, equalitiesOn, equalitiesOn, bracketsOn_filter h, direct, comparisons]

end FilterRules

namespace Asked

open ResourceQuery.Filter

variable [Platform] {rules : FilterRules} {query : Entries Value} {field : String}

theorem brackets_onField (asked : Asked rules query) (ha : rules.allows field = true) :
    (FilterRules.bracketsOn query field).mapM (fun e => Inference.typed field e.2) =
      .ok (onField field asked.brackets) := by
  rw [FilterRules.bracketsOn, Outcome.mapM_filter]
  refine filterMapM_partOn asked.brackets_eq fun e _ c hc => ?_
  rw [FilterRules.bracketCondition] at hc
  cases hk : FilterKey.bracket? e.1 with
  | none =>
    rw [hk] at hc
    cases hc
    simp [partOn]
  | some other =>
    simp only [hk] at hc
    by_cases ho : rules.allows other = true
    · rw [if_pos ho] at hc
      have part := @partOn_conditionOn field other _ c hc
      rw [Inference.tolerated_typed] at part
      rw [← part]
      by_cases hf : other = field
      · subst hf
        simp
      · simp [hf]
    · rw [if_neg ho] at hc
      cases hc
      have other_ne : other ≠ field := fun hf => ho (hf ▸ ha)
      simp [partOn, other_ne]

theorem operators_onField (asked : Asked rules query) (ha : rules.allows field = true) :
    query.filterMapM (rules.comparisonOn field) = .ok (onField field asked.operators) := by
  refine filterMapM_partOn asked.operators_eq fun e _ c hc => ?_
  rw [FilterRules.operatorCondition] at hc
  rw [FilterRules.comparisonOn]
  cases hk : FilterKey.operator? e.1 with
  | none =>
    rw [hk] at hc
    cases hc
    rfl
  | some k =>
    obtain ⟨other, op⟩ := k
    simp only [hk, Bool.and_eq_true] at hc ⊢
    split at hc
    · rename_i hg
      obtain ⟨⟨hl, _⟩, hn⟩ := hg
      have part := @partOn_conditionOn field other _ c hc
      rw [← part]
      by_cases hf : other = field
      · rw [if_pos ⟨hf, hl, hn⟩, if_pos hf, hf]
      · rw [if_neg fun h => hf h.1, if_neg hf]
    · rename_i hg
      cases hc
      rw [if_neg]
      · rfl
      · rintro ⟨rfl, hl, hn⟩
        exact hg ⟨⟨hl, ha⟩, hn⟩

theorem directs_onField_of_bracketed (asked : Asked rules query)
    (hb : onField field asked.brackets ≠ []) : onField field asked.directs = [] := by
  refine List.eq_nil_iff_forall_not_mem.2 fun v hv => ?_
  have free := (mem_directs.1 (mem_onField.1 hv)).2.2.1
  obtain ⟨w, hw⟩ := List.exists_mem_of_ne_nil _ hb
  have taken : Entries.has (mergeAll [] asked.brackets) field = true :=
    Entries.has_iff.2 (mem_keys_mergeAll.2 (.inr ⟨_, mem_onField.1 hw, rfl⟩))
  rw [taken] at free
  cases free

theorem directs_onField (asked : Asked rules query) (ha : rules.allows field = true)
    (hb : onField field asked.brackets = []) :
    (if field ∈ rules.fields ∧ field ≠ wildcard then
      (Entries.get? query field).toList.mapM (Inference.typed field)
    else .ok []) = .ok (onField field asked.directs) := by
  let before := mergeAll [] asked.brackets
  have free : Entries.has before field = false := by
    rw [← Bool.not_eq_true, Entries.has_iff, mem_keys_mergeAll]
    rintro (h | ⟨⟨f, v⟩, hm, rfl⟩)
    · cases h
    · have member := mem_onField.2 hm
      rw [hb] at member
      cases member
  have alone : rules.fields.filterMapM (fun f => if f = field then
        (rules.directCondition query before field).map (partOn field) else .ok none) =
      .ok (onField field asked.directs) := by
    refine filterMapM_partOn asked.directs_eq fun f _ c hc => ?_
    by_cases hf : f = field
    · subst hf
      rw [if_pos rfl, hc]
      rfl
    · rw [if_neg hf, partOn_of_ne]
      intro d hd
      rw [Option.mem_def.1 hd] at hc
      rw [(rules.directCondition_eq_ok_some_iff.1 hc).1]
      exact hf
  rw [Outcome.filterMapM_only rules.fields_nodup] at alone
  rw [← alone]
  by_cases hl : field ∈ rules.fields
  · rw [if_pos hl, FilterRules.directCondition]
    cases Entries.get? query field with
    | none => exact ite_self _
    | some v =>
      by_cases hw : field = wildcard
      · simp [hw, Except.map, partOn]
      · have unused : ¬(field = wildcard ∨ Entries.has before field = true) := by simp [hw, free]
        rw [if_pos ⟨hl, hw⟩]
        dsimp only
        rw [if_neg unused, if_pos ha, conditionOn, Logged.tolerated_map,
          Inference.tolerated_typed, Option.toList_some, List.mapM_cons]
        cases Inference.typed field v with
        | error e => rfl
        | ok w =>
          simp only [Except.map, Option.map_some, partOn_some_self]
          rfl
  · rw [if_neg fun h => hl h.1, if_neg hl]

theorem equalities_onField (asked : Asked rules query) (ha : rules.allows field = true) :
    rules.equalitiesOn query field = .ok (onField field (asked.brackets ++ asked.directs)) := by
  have bracketed := asked.brackets_onField ha
  rw [onField_append, FilterRules.equalitiesOn]
  cases hb : FilterRules.bracketsOn query field with
  | nil =>
    rw [hb] at bracketed
    have none : onField field asked.brackets = [] := (Except.ok.inj bracketed).symm
    rw [none]
    exact asked.directs_onField ha none
  | cons e es =>
    rw [hb] at bracketed
    have some : onField field asked.brackets ≠ [] := by
      intro hn
      rw [hn, List.mapM_cons] at bracketed
      obtain ⟨_, _, h⟩ := Outcome.bind_eq_ok_iff.1 bracketed
      obtain ⟨_, _, h⟩ := Outcome.bind_eq_ok_iff.1 h
      cases h
    rw [asked.directs_onField_of_bracketed some, List.append_nil]
    exact bracketed

theorem statedOn_eq (asked : Asked rules query) (ha : rules.allows field = true) :
    rules.statedOn query field = .ok (onField field asked.conditions) := by
  rw [FilterRules.statedOn, asked.equalities_onField ha, asked.operators_onField ha, conditions,
    onField_append field (asked.brackets ++ asked.directs)]
  rfl

end Asked

namespace FilterRules

open ResourceQuery.Filter

variable {rules : FilterRules} {query filters : Entries Value} {lengths : LengthFilter}
  {field : String}

/-- A field that may be filtered is filtered by the fold of all that the query states for it,
if it states anything. So the keys that name other fields only do not matter to it. -/
theorem filters_field_by_field [Platform] (h : (rules.read query).outcome = .ok (filters, lengths))
    (ha : rules.allows field = true) :
    ∃ stated, rules.statedOn query field = .ok stated ∧
      (field ∈ Entries.keys filters ↔ stated ≠ []) ∧
      Entries.get? filters field = joinAll none stated ∧
      ∀ other filters' lengths', (rules.read other).outcome = .ok (filters', lengths') →
        other.filter (fun e => FilterKey.Names e.1 field) =
          query.filter (fun e => FilterKey.Names e.1 field) →
        Entries.get? filters' field = Entries.get? filters field := by
  have folded {query filters : Entries Value} {lengths : LengthFilter}
      (h : (rules.read query).outcome = .ok (filters, lengths)) :
      ∃ stated, rules.statedOn query field = .ok stated ∧
        (field ∈ Entries.keys filters ↔ stated ≠ []) ∧
        Entries.get? filters field = joinAll none stated := by
    obtain ⟨asked, hasked⟩ := Asked.exists_of_read h
    cases hasked
    refine ⟨_, asked.statedOn_eq ha, ?_, get?_mergeAll [] asked.conditions field⟩
    rw [Asked.mem_keys_filters]
    constructor
    · rintro ⟨⟨f, v⟩, hc, rfl⟩
      exact List.ne_nil_of_mem (mem_onField.2 hc)
    · intro hn
      obtain ⟨v, hv⟩ := List.exists_mem_of_ne_nil _ hn
      exact ⟨_, mem_onField.1 hv, rfl⟩
  obtain ⟨stated, hs, hk, hg⟩ := folded h
  refine ⟨stated, hs, hk, hg, fun other filters' lengths' h' same => ?_⟩
  obtain ⟨stated', hs', _, hg'⟩ := folded h'
  have named (q : Entries Value) : rules.statedOn
      (q.filter fun e => FilterKey.Names e.1 field) field = rules.statedOn q field :=
    statedOn_filter fun e _ hn => decide_eq_true hn
  rw [← named other, same, named query, hs] at hs'
  rw [hg, hg', Except.ok.inj hs']

end FilterRules

theorem FilterRules.filters_field_by_field_age :
    let query : Entries Value :=
      [("age__gte", .text "18"), ("filters[age]", .text "20"), ("age", .text "30"),
        ("role", .text "admin"), ("filters[age]\n", .text "21"), ("age__strict", .text "x"),
        ("age__lt", .text "65")]
    ∃ rules, make (some ["age", "role"]) none
        [("strict", fun _ _ _ => .error (.refused "Not today"))] none none = .ok rules ∧
      rules.allows "age" = true ∧ ∃ filters, (rules.read query).outcome = .ok (filters, {}) ∧
      rules.statedOn query "age" = .ok [.int 20, .int 21, .entry "$gte" (.int 18),
        .entry "$lt" (.int 65)] ∧
      Entries.get? filters "age" =
        some (.map [("$eq", .int 20), ("$gte", .int 18), ("$lt", .int 65)]) := by
  intro query
  have hr : ∃ rules, make (some ["age", "role"]) none
        [("strict", fun _ _ _ => .error (.refused "Not today"))] none none = .ok rules ∧
      rules.allows "age" = true ∧ rules.statedOn query "age" = .ok [.int 20, .int 21,
        .entry "$gte" (.int 18), .entry "$lt" (.int 65)] ∧
      ∃ filters, (rules.read query).outcome = .ok (filters, {}) :=
    ⟨_, rfl, by decide, rfl, _, rfl⟩
  obtain ⟨rules, hm, ha, hs, filters, h⟩ := hr
  obtain ⟨stated, hstated, _, hg, _⟩ := filters_field_by_field h ha
  cases hs.symm.trans hstated
  exact ⟨rules, hm, ha, filters, h, hs, hg⟩

end ResourceQuery
