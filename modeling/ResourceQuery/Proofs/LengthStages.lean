import Mathlib.Data.Set.Function
import ResourceQuery.Pipeline
import ResourceQuery.Platform.Standard
import ResourceQuery.Proofs.Asked
import ResourceQuery.Proofs.Comparison

/-!
The two stages of length filters. Exactly the lists that a query filters by length are
counted, each into a field of its own, and each count is compared with numbers; the stage
that counts stands right before the one that compares, at the end of every selection.
-/

namespace ResourceQuery.LengthFilter

open Entries Outcome

structure IsNumeric (c : Entries Value) : Prop where
  ne_nil : c ≠ []
  numbers : ∀ e ∈ c, ∃ n, e.2 = Value.ofNumeral n

namespace IsNumeric

theorem bounds (low high : Number.Numeral) :
    IsNumeric [("$gte", .ofNumeral low), ("$lte", .ofNumeral high)] where
  ne_nil := List.cons_ne_nil _ _
  numbers := by
    simp only [List.forall_mem_cons]
    exact ⟨⟨low, rfl⟩, ⟨high, rfl⟩, nofun⟩

theorem comparison (op : LengthOperator) (n : Number.Numeral) :
    IsNumeric (LengthFilter.comparison op n) := by
  have single (key : String) : IsNumeric [(key, .ofNumeral n)] :=
    ⟨List.cons_ne_nil _ _, fun e he => ⟨n, by rw [List.mem_singleton.1 he]⟩⟩
  cases op with
  | between => exact bounds n n.addOne
  | gt => exact single "$gt"
  | gte => exact single "$gte"
  | lt => exact single "$lt"
  | lte => exact single "$lte"
  | eq => exact single "$eq"
  | ne => exact single "$ne"

theorem betweenCondition {s : List Char} {c : Entries Value}
    (h : LengthFilter.betweenCondition s = .ok c) : IsNumeric c := by
  unfold LengthFilter.betweenCondition at h
  extract_lets range at h
  have read (low high : List Char) (h : range low high = .ok c) : IsNumeric c := by
    obtain ⟨l, _, h⟩ := bind_eq_ok_iff.1 h
    split at h
    all_goals
      obtain ⟨n, _, h⟩ := bind_eq_ok_iff.1 h
      cases l <;> cases n <;> cases h
      exact bounds _ _
  split at h
  · exact read _ _ h
  · exact read _ _ h
  · cases h

theorem condition {name : String} {operand : Value} {c : Entries Value}
    (h : LengthFilter.condition name operand = .ok c) : IsNumeric c := by
  rw [LengthFilter.condition] at h
  split at h
  · obtain ⟨s, _, h⟩ := bind_eq_ok_iff.1 h
    exact betweenCondition h
  · obtain ⟨n, _, h⟩ := bind_eq_ok_iff.1 h
    cases n with
    | none => cases h
    | some n =>
      dsimp only at h
      split at h
      · cases h
        exact comparison _ n
      · cases h

theorem putAll {c d : Entries Value} (hc : ∀ e ∈ c, ∃ n, e.2 = Value.ofNumeral n)
    (hd : IsNumeric d) : IsNumeric (Entries.putAll c d) where
  ne_nil h := by
    obtain ⟨e, he⟩ := List.exists_mem_of_ne_nil _ hd.ne_nil
    have hk : e.1 ∈ keys (Entries.putAll c d) := mem_keys_putAll.2 (.inr (mem_keys_of_mem he))
    rw [h] at hk
    cases hk
  numbers e he := (mem_putAll he).elim (hd.numbers e) (hc e)

end IsNumeric

/-- The filter counts these lists, and no other: each length is computed into its field and
compared there with numbers. -/
structure Counts (f : LengthFilter) (lists : Set String) : Prop where
  keys_eq : keys f.conditions = keys f.lengths
  nodup : (keys f.lengths).Nodup
  mem_keys (key : String) : key ∈ keys f.lengths ↔ ∃ list ∈ lists, countField list = key
  computed : ∀ list ∈ lists, get? f.lengths (countField list) = some (lengthOf list)
  compared : ∀ list ∈ lists, ∃ c, get? f.conditions (countField list) = some (.map c) ∧
    IsNumeric c

namespace Counts

variable {f : LengthFilter} {lists : Set String}

theorem empty : Counts {} ∅ where
  keys_eq := rfl
  nodup := .nil
  mem_keys key := by simp [keys]
  computed := nofun
  compared := nofun

theorem numbers_comparedWith (h : Counts f lists) (list : String) :
    ∀ e ∈ f.comparedWith list, ∃ n, e.2 = Value.ofNumeral n := by
  intro e he
  rw [comparedWith] at he
  by_cases hl : list ∈ lists
  · obtain ⟨c, hc, hn⟩ := h.compared list hl
    rw [hc] at he
    exact hn.numbers e he
  · have absent : get? f.conditions (countField list) = none := by
      rw [get?_eq_none_iff, h.keys_eq, h.mem_keys]
      rintro ⟨other, ho, hk⟩
      exact hl (countField_inj.1 hk ▸ ho)
    rw [absent] at he
    cases he

theorem add (h : Counts f lists) (list : String) {c : Entries Value} (hc : IsNumeric c) :
    Counts (f.add list c) (insert list lists) where
  keys_eq := by simp only [LengthFilter.add, keys_put, h.keys_eq]
  nodup := nodup_keys_put h.nodup _ _
  mem_keys key := by
    rw [LengthFilter.add, mem_keys_put, h.mem_keys, Set.exists_mem_insert, or_comm, @eq_comm _ key]
  computed other ho := by
    rw [LengthFilter.add]
    by_cases hs : other = list
    · rw [hs, get?_put_self]
    · have before : other ∈ lists := ho.resolve_left hs
      rw [get?_put_of_ne _ _ fun hk => hs (countField_inj.1 hk), h.computed other before]
  compared other ho := by
    rw [get?_conditions_add]
    by_cases hs : other = list
    · rw [if_pos hs]
      exact ⟨_, rfl, .putAll (h.numbers_comparedWith list) hc⟩
    · rw [if_neg hs]
      exact h.compared other (ho.resolve_left hs)

theorem addAll (h : Counts f lists) {os : List (String × Entries Value)}
    (ho : ∀ o ∈ os, IsNumeric o.2) :
    Counts (LengthFilter.addAll f os) (lists ∪ {list | ∃ o ∈ os, o.1 = list}) := by
  induction os generalizing f lists with
  | nil => simpa [LengthFilter.addAll] using h
  | cons o os ih =>
    rw [List.forall_mem_cons] at ho
    have next := ih (h.add o.1 ho.1) ho.2
    rw [addAll_cons]
    have same : insert o.1 lists ∪ {list | ∃ p ∈ os, p.1 = list} =
        lists ∪ {list | ∃ p ∈ o :: os, p.1 = list} := by
      ext list
      simp only [Set.mem_union, Set.mem_insert_iff, Set.mem_ofPred_eq, List.mem_cons,
        exists_eq_or_imp]
      rw [@eq_comm _ list, or_comm (a := o.1 = list), or_assoc]
    rw [← same]
    exact next

theorem isNeeded_iff (h : Counts f lists) : f.isNeeded = true ↔ lists.Nonempty := by
  have needed : f.isNeeded = true ↔ keys f.lengths ≠ [] := by
    rw [← h.keys_eq]
    simp [isNeeded, keys]
  rw [needed]
  constructor
  · intro hk
    obtain ⟨key, hkey⟩ := List.exists_mem_of_ne_nil _ hk
    obtain ⟨list, hl, _⟩ := (h.mem_keys key).1 hkey
    exact ⟨list, hl⟩
  · rintro ⟨list, hl⟩
    exact List.ne_nil_of_mem ((h.mem_keys _).2 ⟨list, hl, rfl⟩)

theorem bijOn (h : Counts f lists) :
    Set.BijOn countField lists {key | key ∈ keys f.lengths} := by
  refine ⟨fun list hl => (h.mem_keys _).2 ⟨list, hl, rfl⟩, ?_, ?_⟩
  · intro list _ other _ hk
    exact countField_inj.1 hk
  · intro key hk
    obtain ⟨list, hl, rfl⟩ := (h.mem_keys key).1 hk
    exact ⟨list, hl, rfl⟩

end Counts

def listsOf (allows : String → Bool) (query : Entries Value) : Set String :=
  {list | allows list = true ∧
    ∃ e ∈ query, ∃ op, FilterKey.operator? e.1 = some (list, LengthOperator.name op)}

variable {allows : String → Bool} {query : Entries Value} {f : LengthFilter}

theorem asked_of_operator {e : String × Value} {list : String} {op : LengthOperator}
    (ha : allows list = true) (hk : FilterKey.operator? e.1 = some (list, op.name)) :
    asked allows e = (condition op.name e.2).map fun c => some (list, c) := by
  simp [asked, hk, ha]

theorem counts_of_ofQuery (h : (ofQuery allows query).outcome = .ok f) :
    f.Counts (listsOf allows query) := by
  rw [outcome_ofQuery, map_eq_ok_iff] at h
  obtain ⟨os, hos, rfl⟩ := h
  have asked (o : String × Entries Value) : o ∈ os ↔ ∃ e ∈ query, asked allows e = .ok (some o) :=
    mem_filterMapM hos
  have numeric : ∀ o ∈ os, IsNumeric o.2 := by
    intro o ho
    obtain ⟨e, _, he⟩ := (asked o).1 ho
    obtain ⟨_, _, _, _, hc⟩ := asked_eq_ok_some_iff.1 he
    exact .condition hc
  have lists : ∅ ∪ {list | ∃ o ∈ os, o.1 = list} = listsOf allows query := by
    ext list
    simp only [Set.empty_union, Set.mem_ofPred_eq, listsOf]
    constructor
    · rintro ⟨o, ho, rfl⟩
      obtain ⟨e, he, hask⟩ := (asked o).1 ho
      obtain ⟨name, hk, hl, ha, _⟩ := asked_eq_ok_some_iff.1 hask
      obtain ⟨op, hop⟩ := Option.isSome_iff_exists.1 hl
      exact ⟨ha, e, he, op, LengthOperator.name_of_ofName? hop ▸ hk⟩
    · rintro ⟨ha, e, he, op, hk⟩
      obtain ⟨o, ho⟩ := ok_of_filterMapM hos he
      have read := asked_of_operator ha hk
      rw [ho] at read
      obtain ⟨c, _, rfl⟩ := map_eq_ok_iff.1 read.symm
      exact ⟨(list, c), (asked _).2 ⟨e, he, ho⟩, rfl⟩
  exact lists ▸ Counts.empty.addAll numeric

section

variable [Platform]

theorem exists_selection_eq_append {p : Pipeline} {request : Request} {context : Value}
    {custom : Option (List Value)} {selection : List Value}
    (h : p.selection request context custom = .ok selection) :
    ∃ before, selection = before ++ request.lengths.stages := by
  obtain ⟨_, _, rfl⟩ := map_eq_ok_iff.1 h
  exact ⟨_, rfl⟩

/-- What a filter that needs stages is made of: one stage that counts each list into a field of
its own, and one that compares each of these fields with numbers. -/
structure TwoPhases (f : LengthFilter) (lists : Set String) : Prop where
  stages : f.stages =
    [.entry "$addFields" (.map f.lengths), .entry "$match" (.map f.conditions)]
  keys_eq : keys f.conditions = keys f.lengths
  nodup : (keys f.lengths).Nodup
  fields : Set.BijOn (fun list => list ++ "Count") lists {key | key ∈ keys f.lengths}
  computed : ∀ list ∈ lists, get? f.lengths (list ++ "Count") =
    some (.entry "$size" (.entry "$ifNull" (.list [.text ("$" ++ list), .list []])))
  compared : ∀ list ∈ lists, ∃ c, get? f.conditions (list ++ "Count") = some (.map c) ∧
    c ≠ [] ∧ ∀ e ∈ c, ∃ n, e.2 = Value.ofNumeral n
  last : ∀ (p : Pipeline) (request : Request) context custom selection, request.lengths = f →
    p.selection request context custom = .ok selection → ∃ before, selection = before ++
      [.entry "$addFields" (.map f.lengths), .entry "$match" (.map f.conditions)]

/-- Lengths are filtered in two stages just when the query filters some list by length, and
then the stages fit together: what is compared is what is computed, list by list. -/
theorem two_phases_of_ofQuery (h : (ofQuery allows query).outcome = .ok f) :
    (f.isNeeded = true ↔ (listsOf allows query).Nonempty) ∧
      (f.isNeeded = true ↔ f.stages ≠ []) ∧ (f.isNeeded = true ↔ f.conditions ≠ []) ∧
      (f.isNeeded = true → f.TwoPhases (listsOf allows query)) := by
  have counts := counts_of_ofQuery h
  have conditions : f.isNeeded = true ↔ f.conditions ≠ [] := by simp [isNeeded]
  have stages (hn : f.isNeeded = true) : f.stages =
      [.entry "$addFields" (.map f.lengths), .entry "$match" (.map f.conditions)] := if_pos hn
  refine ⟨counts.isNeeded_iff, ⟨fun hn => ?_, fun hs => ?_⟩, conditions, fun hn => ?_⟩
  · rw [stages hn]
    exact List.cons_ne_nil _ _
  · by_contra hn
    exact hs (if_neg hn)
  · refine ⟨stages hn, counts.keys_eq, counts.nodup, counts.bijOn, counts.computed, ?_, ?_⟩
    · intro list hl
      obtain ⟨c, hc, numeric⟩ := counts.compared list hl
      exact ⟨c, hc, numeric.ne_nil, numeric.numbers⟩
    · intro p request context custom selection hf hsel
      obtain ⟨before, hb⟩ := exists_selection_eq_append hsel
      rw [hf, stages hn] at hb
      exact ⟨before, hb⟩

end

theorem two_phases_of_ofQuery_tags :
    let allows : String → Bool := fun list => list = "tags" || list = "items"
    let query : Entries Value :=
      [("tags__size_gte", .text "2"), ("items__size_between", .text "1.5"),
        ("secrets__size_gt", .text "x"), ("tags__size_lte", .text "5")]
    ∃ f, (ofQuery allows query).outcome = .ok f ∧ f.isNeeded = true ∧
      f.TwoPhases (listsOf allows query) ∧ keys f.lengths = ["tagsCount", "itemsCount"] ∧
      get? f.conditions "tagsCount" = some (.map [("$gte", .int 2), ("$lte", .int 5)]) := by
  intro allows query
  have hf : ∃ f, (ofQuery allows query).outcome = .ok f ∧ f.isNeeded = true ∧
      keys f.lengths = ["tagsCount", "itemsCount"] ∧
      get? f.conditions "tagsCount" = some (.map [("$gte", .int 2), ("$lte", .int 5)]) :=
    ⟨_, rfl, rfl, rfl, rfl⟩
  obtain ⟨f, h, hn, hk, hc⟩ := hf
  exact ⟨f, h, hn, (two_phases_of_ofQuery h).2.2.2 hn, hk, hc⟩

end ResourceQuery.LengthFilter
