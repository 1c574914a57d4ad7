import Mathlib.Data.List.Nodup
import ResourceQuery.Platform.Standard
import ResourceQuery.Proofs.Alike
import ResourceQuery.Proofs.Reading

/-!
Queries in another order. The keys of a field are read in the order of the query, but what
they ask for commutes: one key holds the field in brackets, and its operators write keys of
their own, unless both bounds and a single one are asked for at once. So the requests of two
orders of a query are equal but for the order of the entries in their maps.
-/

namespace ResourceQuery

namespace Outcome

variable {ε α β : Type} {ask : α → Except ε (Option β)}

theorem filterMapM_cons_of_ok {a : α} {l : List α} {asked : Option β} {bs : List β}
    (ha : ask a = .ok asked) (hl : l.filterMapM ask = .ok bs) :
    (a :: l).filterMapM ask = .ok (asked.toList ++ bs) := by
  rw [List.filterMapM_cons, ha, hl]
  cases asked <;> rfl

theorem filterMapM_perm {l m : List α} (h : l.Perm m) {bs : List β}
    (hl : l.filterMapM ask = .ok bs) : ∃ cs, m.filterMapM ask = .ok cs ∧ bs.Perm cs := by
  induction h generalizing bs with
  | nil => exact ⟨bs, hl, .refl bs⟩
  | cons a _ ih =>
    obtain ⟨asked, rest, ha, hr, rfl⟩ := filterMapM_cons_eq_ok hl
    obtain ⟨cs, hcs, perm⟩ := ih hr
    exact ⟨_, filterMapM_cons_of_ok ha hcs, perm.append_left asked.toList⟩
  | swap a b l =>
    obtain ⟨first, rest, hb, hrest, rfl⟩ := filterMapM_cons_eq_ok hl
    obtain ⟨second, last, ha, hlast, rfl⟩ := filterMapM_cons_eq_ok hrest
    refine ⟨_, filterMapM_cons_of_ok ha (filterMapM_cons_of_ok hb hlast), ?_⟩
    rw [← List.append_assoc, ← List.append_assoc]
    exact List.perm_append_comm.append_right last
  | trans _ _ ih ih' =>
    obtain ⟨cs, hcs, perm⟩ := ih hl
    obtain ⟨ds, hds, perm'⟩ := ih' hcs
    exact ⟨ds, hds, perm.trans perm'⟩

end Outcome

namespace Entries

theorem pairwise_ne {es : Entries Value} (hn : (keys es).Nodup) :
    es.Pairwise fun e e' => (e ∈ es ∧ e' ∈ es) ∧ e.1 ≠ e'.1 :=
  (List.pairwise_map.1 hn).imp_of_mem fun he he' hne => ⟨⟨he, he'⟩, hne⟩

end Entries

namespace Operator

theorem between_of_writes {a b : Operator} {key : String} (ha : key ∈ a.writes)
    (hb : key ∈ b.writes) : a = b ∨ a = .between ∧ b ∈ [.gte, .lte] ∨
      b = .between ∧ a ∈ [.gte, .lte] := by
  have check : ∀ a ∈ all, ∀ b ∈ all, ∀ key ∈ a.writes, key ∈ b.writes →
      a = b ∨ a = .between ∧ b ∈ [.gte, .lte] ∨ b = .between ∧ a ∈ [.gte, .lte] := by
    decide +kernel
  exact check a a.mem_all b b.mem_all key ha hb

end Operator

namespace LengthOperator

theorem between_of_writes {a b : LengthOperator} {key : String} (ha : key ∈ a.writes)
    (hb : key ∈ b.writes) : a = b ∨ a = .between ∧ b ∈ [.gte, .lte] ∨
      b = .between ∧ a ∈ [.gte, .lte] := by
  have check : ∀ a ∈ all, ∀ b ∈ all, ∀ key ∈ a.writes, key ∈ b.writes →
      a = b ∨ a = .between ∧ b ∈ [.gte, .lte] ∨ b = .between ∧ a ∈ [.gte, .lte] := by
    decide +kernel
  exact check a a.mem_all b b.mem_all key ha hb

end LengthOperator

open FilterKey Outcome

/-- No field is given both bounds at once and one of them by itself. -/
def BoundsApart (query : Entries Value) : Prop :=
  ∀ e ∈ query, ∀ k ∈ operator? e.1,
    (k.2 = "between" →
      compound k.1 "gte" ∉ Entries.keys query ∧ compound k.1 "lte" ∉ Entries.keys query) ∧
    (k.2 = "size_between" →
      compound k.1 "size_gte" ∉ Entries.keys query ∧ compound k.1 "size_lte" ∉ Entries.keys query)

namespace ByOperator

variable {Op β : Type} {name : Op → String} {writes : Op → List String}
  {entries : β → Entries Value} {ask : String × Value → Except QueryError (Option (String × β))}
  {query : Entries Value} {read : List (String × β)}

theorem nodup_updates (h : ByOperator name writes entries ask query)
    (hread : query.filterMapM ask = .ok read) (hn : (Entries.keys query).Nodup)
    (hr : ∀ b ∈ read, b.1 ≠ "") {field : String} (apart : field ≠ "" →
      ∀ a b key, key ∈ writes a → key ∈ writes b →
        compound field (name a) ∈ Entries.keys query →
        compound field (name b) ∈ Entries.keys query → a = b) :
    (Entries.keys (updates entries field read).flatten).Nodup := by
  have written : Entries.keys (updates entries field read).flatten =
      ((updates entries field read).map Entries.keys).flatten := List.map_flatten
  rw [written, List.nodup_flatten]
  constructor
  · intro keys hk
    obtain ⟨c, hc, rfl⟩ := List.mem_map.1 hk
    obtain ⟨b, hb, rfl⟩ := mem_updates.1 hc
    obtain ⟨e, he, hask⟩ := (mem_filterMapM hread).1 hb
    obtain ⟨op, _, hw⟩ := h.named he hask
    rw [hw]
    exact h.nodup op
  · rw [List.pairwise_map, updates, List.pairwise_map, List.pairwise_filter]
    refine pairwise_filterMapM hread (Entries.pairwise_ne hn) ?_
    rintro e e' b b' ⟨⟨he, he'⟩, hne⟩ hask hask' hf hf' key hk hk'
    obtain ⟨op, ho, hw⟩ := h.named he hask
    obtain ⟨op', ho', hw'⟩ := h.named he' hask'
    have nonempty := hr b ((mem_filterMapM hread).2 ⟨e, he, hask⟩)
    rw [of_decide_eq_true hf] at ho nonempty
    rw [of_decide_eq_true hf'] at ho'
    have same : op = op' :=
      apart nonempty op op' key (hw ▸ hk) (hw' ▸ hk') (ho ▸ Entries.mem_keys_of_mem he)
        (ho' ▸ Entries.mem_keys_of_mem he')
    exact hne (by rw [ho, ho', same])

end ByOperator

namespace BoundsApart

instance (query : Entries Value) : Decidable (BoundsApart query) := by
  unfold BoundsApart
  infer_instance

variable {query : Entries Value} {field : String}

theorem perm {other : Entries Value} (hb : BoundsApart query) (h : query.Perm other) :
    BoundsApart other := by
  intro e he
  have keys (key : String) : key ∈ Entries.keys other ↔ key ∈ Entries.keys query :=
    (h.map Prod.fst).mem_iff.symm
  simp only [keys]
  exact hb e (h.mem_iff.2 he)

theorem eq_of_sharing {Op : Type} {name : Op → String} {between gte lte a b : Op}
    (shared : a = b ∨ a = between ∧ b ∈ [gte, lte] ∨ b = between ∧ a ∈ [gte, lte])
    (alone : compound field (name between) ∈ Entries.keys query →
      compound field (name gte) ∉ Entries.keys query ∧
        compound field (name lte) ∉ Entries.keys query)
    (ha : compound field (name a) ∈ Entries.keys query)
    (hb : compound field (name b) ∈ Entries.keys query) : a = b := by
  have single {bound : Op} (hbound : bound ∈ [gte, lte])
      (both : compound field (name between) ∈ Entries.keys query) :
      compound field (name bound) ∉ Entries.keys query := by
    simp only [List.mem_cons, List.not_mem_nil, or_false] at hbound
    rcases hbound with rfl | rfl
    · exact (alone both).1
    · exact (alone both).2
  rcases shared with same | ⟨rfl, bound⟩ | ⟨rfl, bound⟩
  · exact same
  · exact absurd hb (single bound ha)
  · exact absurd ha (single bound hb)

theorem operators (h : BoundsApart query) (hk : OneLine query) (hf : field ≠ "")
    (a b : Operator) (key : String) (ha : key ∈ a.writes) (hb : key ∈ b.writes)
    (hka : compound field a.name ∈ Entries.keys query)
    (hkb : compound field b.name ∈ Entries.keys query) : a = b := by
  refine eq_of_sharing (Operator.between_of_writes ha hb) (fun both => ?_) hka hkb
  obtain ⟨e, he, hkey⟩ := List.mem_map.1 both
  exact (h e he _ ((Operator.between.operator?_name (hk e he)).2 ⟨hf, hkey⟩)).1 rfl

theorem lengths (h : BoundsApart query) (hk : OneLine query) (hf : field ≠ "")
    (a b : LengthOperator) (key : String) (ha : key ∈ a.writes) (hb : key ∈ b.writes)
    (hka : compound field a.name ∈ Entries.keys query)
    (hkb : compound field b.name ∈ Entries.keys query) : a = b := by
  refine eq_of_sharing (LengthOperator.between_of_writes ha hb) (fun both => ?_) hka hkb
  obtain ⟨e, he, hkey⟩ := List.mem_map.1 both
  exact (h e he _ ((LengthOperator.between.operator?_name (hk e he)).2 ⟨hf, hkey⟩)).2 rfl

end BoundsApart

/-- A query whose order cannot matter: texts under keys of one line, each key once. -/
structure IsOrderless (query : Entries Value) : Prop where
  texts : ∀ e ∈ query, ∃ s, e.2 = .text s
  lines : OneLine query
  nodup : (Entries.keys query).Nodup
  apart : BoundsApart query

theorem IsOrderless.perm {query other : Entries Value} (hq : IsOrderless query)
    (h : query.Perm other) : IsOrderless other where
  texts e he := hq.texts e (h.mem_iff.2 he)
  lines e he := hq.lines e (h.mem_iff.2 he)
  nodup := Entries.nodup_keys_perm hq.nodup h
  apart := hq.apart.perm h

namespace Filter

open Entries

theorem onField_of_nodup {cs : List (String × Value)} (hn : (keys cs).Nodup) (field : String) :
    onField field cs = (get? cs field).toList := by
  induction cs with
  | nil => rfl
  | cons c cs ih =>
    rw [keys_cons, List.nodup_cons] at hn
    rw [onField_cons, get?_cons, ih hn.2]
    split
    · rename_i hc
      rw [get?_eq_none_iff.2 (hc ▸ hn.1)]
      rfl
    · rfl

end Filter

namespace Asked

open ResourceQuery.Filter

variable [Platform] {rules : FilterRules} {query other : Entries Value}

theorem exists_perm (asked : Asked rules query) (hn : (Entries.keys query).Nodup)
    (h : query.Perm other) : ∃ asked' : Asked rules other,
      asked.operations.Perm asked'.operations ∧ asked.brackets.Perm asked'.brackets ∧
      asked.directs = asked'.directs ∧ asked.operators.Perm asked'.operators := by
  obtain ⟨operations, ho, po⟩ := filterMapM_perm h asked.operations_eq
  obtain ⟨brackets, hb, pb⟩ := filterMapM_perm h asked.brackets_eq
  obtain ⟨operators, hp, pp⟩ := filterMapM_perm h asked.operators_eq
  have held (field : String) : Entries.has (mergeAll [] asked.brackets) field =
      Entries.has (mergeAll [] brackets) field := by
    rw [Bool.eq_iff_iff, Entries.has_iff, Entries.has_iff, mem_keys_mergeAll, mem_keys_mergeAll]
    simp only [pb.mem_iff]
  have direct (field : String) :
      rules.directCondition other (mergeAll [] brackets) field =
        rules.directCondition query (mergeAll [] asked.brackets) field := by
    rw [FilterRules.directCondition, FilterRules.directCondition, Entries.get?_perm hn h, held]
  have hd : rules.fields.filterMapM (rules.directCondition other (mergeAll [] brackets)) =
      .ok asked.directs := by
    rw [filterMapM_congr fun field _ => direct field]
    exact asked.directs_eq
  exact ⟨⟨operations, brackets, asked.directs, operators, ho, hb, hd, hp⟩, po, pb, rfl, pp⟩

theorem nodup_keys_brackets (asked : Asked rules query) (hk : OneLine query)
    (hn : (Entries.keys query).Nodup) : (Entries.keys asked.brackets).Nodup := by
  rw [Entries.keys, List.Nodup, List.pairwise_map]
  refine pairwise_filterMapM asked.brackets_eq (Entries.pairwise_ne hn) ?_
  rintro e e' b b' ⟨⟨he, he'⟩, hne⟩ hask hask' hfield
  have key := (bracket?_eq_some_iff (hk e he)).1
    (rules.bracketCondition_eq_ok_some_iff.1 hask).1
  have key' := (bracket?_eq_some_iff (hk e' he')).1
    (rules.bracketCondition_eq_ok_some_iff.1 hask').1
  exact hne (by rw [key, key', hfield])

theorem counts (asked : Asked rules query) :
    asked.lengths.Counts (LengthFilter.listsOf rules.allows query) := by
  refine LengthFilter.counts_of_ofQuery ?_
  rw [LengthFilter.outcome_ofQuery, asked.operations_eq]
  rfl

section Perm

variable {asked : Asked rules query} {asked' : Asked rules other}

theorem alike_filters (hc : rules.operators.custom = []) (hq : IsOrderless query)
    (pb : asked.brackets.Perm asked'.brackets) (hd : asked.directs = asked'.directs)
    (pp : asked.operators.Perm asked'.operators) :
    Entries.Alike Value.Alike asked.filters asked'.filters := by
  refine ⟨asked.nodup_keys_filters, asked'.nodup_keys_filters, fun field => ?_⟩
  have nodup := asked.nodup_keys_brackets hq.lines hq.nodup
  have equalities : onField field (asked.brackets ++ asked.directs) =
      onField field (asked'.brackets ++ asked'.directs) := by
    rw [onField_append, onField_append, onField_of_nodup nodup,
      onField_of_nodup (Entries.nodup_keys_perm nodup pb), Entries.get?_perm nodup pb, hd]
  have asks {v : Value} (hv : v ∈ onField field asked.conditions) : IsCondition v :=
    isCondition_of_mem_conditions hc hq.texts (mem_onField.1 hv)
  rw [filters, filters, get?_mergeAll, get?_mergeAll, conditions, conditions,
    onField_append field (asked.brackets ++ _), onField_append field (asked'.brackets ++ _),
    joinAll_append, joinAll_append, equalities]
  have comparisons : ∀ v ∈ onField field asked.operators,
      ∃ c, v = .map c ∧ (Entries.keys c).Nodup := by
    intro v hv
    obtain ⟨e, he, hask⟩ := (mem_filterMapM asked.operators_eq).1 (mem_onField.1 hv)
    obtain ⟨_, op, c, _, hd, rfl⟩ :=
      (FilterRules.operatorCondition_iff hc (hq.lines e he)).1 hask
    refine ⟨c, rfl, ?_⟩
    rw [Operator.keys_of_apply (Operators.apply_name_eq_ok_iff.1 hd)]
    exact op.nodup_writes
  have perm : (onField field asked.operators).Perm (onField field asked'.operators) :=
    (pp.filter _).map _
  refine alike_joinAll perm comparisons ?_ ?_
  · rw [map_onField]
    have named {c : String × Value} (hm : c ∈ asked.operators) : c.1 ≠ "" :=
      FilterRules.ne_empty_of_allows (allows_of_mem_conditions (mem_conditions.2 (.inr (.inr hm))))
    exact (FilterRules.operatorCondition_byOperator hc hq.lines).nodup_updates
      asked.operators_eq hq.nodup (fun _ => named) (hq.apart.operators hq.lines)
  · refine isCondition_joinAll (fun v hv => asks ?_) fun v hv => ?_
    · rw [conditions, onField_append field (asked.brackets ++ _), equalities]
      exact List.mem_append_left _ hv
    · cases hv

theorem counts_perm (asked' : Asked rules other) (h : query.Perm other) :
    asked'.lengths.Counts (LengthFilter.listsOf rules.allows query) := by
  have lists : LengthFilter.listsOf rules.allows query =
      LengthFilter.listsOf rules.allows other := by
    simp only [LengthFilter.listsOf, h.mem_iff]
  exact lists ▸ asked'.counts

theorem alike_lengths (hq : IsOrderless query) (h : query.Perm other)
    (po : asked.operations.Perm asked'.operations) : asked.lengths.Alike asked'.lengths := by
  refine asked.counts.alike (asked'.counts_perm h) fun list _ => ?_
  rw [lengths, lengths, LengthFilter.ofOperations, LengthFilter.ofOperations,
    LengthFilter.comparedWith_addAll, LengthFilter.comparedWith_addAll]
  have start : (Entries.keys (LengthFilter.comparedWith {} list)).Nodup := .nil
  refine Entries.alike_foldl_putAll start ((po.filter _).map _) ?_
  have named {o : String × Entries Value} (hm : o ∈ asked.operations) : o.1 ≠ "" :=
    FilterRules.ne_empty_of_allows (allows_of_mem_operations hm)
  exact (FilterRules.asked_byOperator hq.lines).nodup_updates asked.operations_eq hq.nodup
    (fun _ => named) (hq.apart.lengths hq.lines)

end Perm

theorem selfSame_lengths (asked : Asked rules query) :
    ∀ e ∈ asked.lengths.lengths, e.2.SelfSame := by
  intro e he
  rcases LengthFilter.mem_lengths_addAll he with h | ⟨o, _, rfl⟩
  · cases h
  · exact LengthFilter.selfSame_lengthOf o.1

theorem selfSame_conditions (asked : Asked rules query) :
    ∀ e ∈ asked.lengths.conditions, e.2.SelfSame := by
  intro e he
  have counts := asked.counts
  have held := Entries.get?_of_mem (counts.keys_eq ▸ counts.nodup) he
  obtain ⟨list, hl, hkey⟩ :=
    (counts.mem_keys e.1).1 (counts.keys_eq ▸ Entries.mem_keys_of_mem he)
  rw [← hkey, counts.get?_conditions hl, lengths, LengthFilter.ofOperations,
    LengthFilter.comparedWith_addAll, Entries.foldl_putAll] at held
  rw [← Option.some.inj held]
  have start : (Entries.keys (LengthFilter.comparedWith {} list)).Nodup := .nil
  refine (Value.selfSame_map_iff (Entries.nodup_keys_putAll start _)).2 fun x hx => ?_
  have written := (Entries.mem_putAll hx).resolve_right List.not_mem_nil
  obtain ⟨c, hc, hxc⟩ := List.mem_flatten.1 written
  obtain ⟨o, ho, rfl⟩ := ByOperator.mem_updates.1 hc
  obtain ⟨_, _, _, _, _, _, read⟩ := mem_operations.1 ho
  exact LengthFilter.selfSame_condition read x hxc

theorem reading_eq (asked : Asked rules query) (hs : rules.checkSize query = .ok ()) :
    rules.reading query = .ok (asked.filters, asked.lengths) := by
  rw [FilterRules.reading]
  refine bind_eq_ok_iff.2 ⟨_, hs, bind_eq_ok_iff.2 ⟨_, asked.operations_eq, ?_⟩⟩
  refine bind_eq_ok_iff.2 ⟨_, asked.brackets_eq, bind_eq_ok_iff.2 ⟨_, asked.directs_eq, ?_⟩⟩
  exact bind_eq_ok_iff.2 ⟨_, asked.operators_eq, rfl⟩

end Asked

namespace Resource

variable {r : Resource} {query other : Entries Value}

theorem sortRead_of_found (found : ∀ key, Entries.get? query key = Entries.get? other key) :
    r.sort.read other = r.sort.read query := by
  have value (key : String) : SortRules.valueOf other key = SortRules.valueOf query key := by
    rw [SortRules.valueOf, SortRules.valueOf, found]
  unfold SortRules.read
  rw [value, value, value]

theorem isOrder_of_ofSettings {s : Settings} (h : ofSettings s = .ok r) :
    SortOrder.IsOrder r.sort.default :=
  SortRules.isOrder_default (madeOf_of_ofSettings h).sort

variable [Platform]

theorem conditionsOf_perm (hc : r.filter.operators.custom = []) (hq : IsOrderless query)
    (h : query.Perm other) {filters : Entries Value} {lengths : LengthFilter}
    (hread : r.conditionsOf query = .ok (filters, lengths)) :
    ∃ filters' lengths', r.conditionsOf other = .ok (filters', lengths') ∧
      Entries.Alike Value.Alike filters filters' ∧ lengths.Alike lengths' ∧
      (Value.map filters).same (.map filters') = .ok true ∧
      lengths.same lengths' = .ok true := by
  rw [conditionsOf] at hread ⊢
  split
  · rename_i hskip
    rw [if_pos hskip] at hread
    cases hread
    have none {R : Value → Value → Prop} : Entries.Alike R [] [] := ⟨.nil, .nil, fun _ => .none⟩
    exact ⟨[], {}, rfl, none, ⟨none, none⟩, rfl, rfl⟩
  · rename_i hskip
    rw [if_neg hskip] at hread
    obtain ⟨asked, ha⟩ := Asked.exists_of_reading hread
    cases ha
    obtain ⟨asked', po, pb, hd, pp⟩ := asked.exists_perm hq.nodup h
    have size : r.filter.checkSize other = .ok () := by
      obtain ⟨_, hs, _⟩ := bind_eq_ok_iff.1 hread
      rwa [FilterRules.checkSize, ← h.length_eq]
    have filters := Asked.alike_filters hc hq pb hd pp
    have lengths := Asked.alike_lengths hq h po
    refine ⟨_, _, asked'.reading_eq size, filters, lengths, ?_, ?_⟩
    · exact Value.same_map_of_alike filters fun e he w hw =>
        hw.same_of_selfSame (asked.selfSame_filters hc hq.texts e he)
    · rw [LengthFilter.same, Comparison.all_eq_ok_true_iff]
      simp only [List.forall_mem_cons]
      refine ⟨Value.same_map_of_alike lengths.lengths fun e he w hw => ?_,
        Value.same_map_of_alike lengths.conditions fun e he w hw => ?_, List.forall_mem_nil _⟩
      · exact hw ▸ asked.selfSame_lengths e he
      · exact hw.same_of_selfSame (asked.selfSame_conditions e he)

theorem reading_of_found {request : Request} (hread : r.reading query = .ok request)
    (found : ∀ key, Entries.get? query key = Entries.get? other key)
    (hl : query.length = other.length) {filters : Entries Value} {lengths : LengthFilter}
    (hcond : r.conditionsOf other = .ok (filters, lengths)) :
    r.reading other = .ok { request with filters, lengths } := by
  obtain ⟨size, -, paging, term, format, sort, searchFields, included, excluded, lookups⟩ :=
    reading_eq_ok_iff.1 hread
  rw [FilterRules.checkSize, hl] at size
  rw [← sortRead_of_found found] at sort
  simp only [PagingRules.read, found] at paging
  simp only [readTerm, SearchRules.readTerm, found] at term
  simp only [exportOf, found] at format
  simp only [SearchRules.readFields, found] at searchFields
  simp only [ProjectionRules.readIncluded, ProjectionRules.named, found] at included
  simp only [ProjectionRules.readExcluded, ProjectionRules.named, found] at excluded
  simp only [ProjectionRules.readLookups, ProjectionRules.named, found] at lookups
  exact reading_eq_ok_iff.2 ⟨size, hcond, paging, term, format, sort, searchFields, included,
    excluded, lookups⟩

theorem isOrder_of_reading (ho : SortOrder.IsOrder r.sort.default) {request : Request}
    (h : r.reading query = .ok request) : SortOrder.IsOrder request.sort := by
  rw [(reading_eq_ok_iff.1 h).sort]
  split
  · exact ho
  · exact SortRules.isOrder_read ho query

theorem sameSearch_of_reading (texts : ∀ e ∈ query, ∃ s, e.2 = .text s) {request : Request}
    (h : r.reading query = .ok request) :
    Request.sameSearch request.search request.search = .ok true := by
  cases hs : request.search with
  | none => rfl
  | some v =>
    obtain ⟨s, rfl, -⟩ := ((reading_eq_ok_iff.1 h).isTerm hs).text texts
    simp [Request.sameSearch, Value.same]

theorem reading_perm (ho : SortOrder.IsOrder r.sort.default)
    (hc : r.filter.operators.custom = []) (hq : IsOrderless query) (h : query.Perm other)
    {request : Request} (hread : r.reading query = .ok request) :
    ∃ request', r.reading other = .ok request' ∧ request.Alike request' ∧
      request.same request' = .ok true := by
  obtain ⟨filters, lengths, hcond, alike, alikes, same, sames⟩ :=
    conditionsOf_perm hc hq h (reading_eq_ok_iff.1 hread).conditions
  have order := isOrder_of_reading ho hread
  have again := reading_of_found hread (Entries.get?_perm hq.nodup h) h.length_eq hcond
  refine ⟨_, again, ⟨rfl, alike, alikes⟩, ?_⟩
  have term := sameSearch_of_reading hq.texts hread
  rw [Request.same, Comparison.all_eq_ok_true_iff]
  simp only [List.forall_mem_cons]
  refine ⟨?_, order.sameInOrder, term, ?_, same, ?_, sames, List.forall_mem_nil _⟩ <;> simp

/-- The order of the keys of a query does not matter: it is read in every order or in none,
and always makes the same request. -/
theorem reads_in_any_order {s : Settings} (hs : ofSettings s = .ok r)
    (hc : r.filter.operators.custom = []) (ht : ∀ e ∈ query, ∃ t, e.2 = .text t)
    (hk : OneLine query) (hn : (Entries.keys query).Nodup) (hb : BoundsApart query)
    (h : query.Perm other) :
    ((∃ request, (r.read query).outcome = .ok request) ↔
        ∃ request, (r.read other).outcome = .ok request) ∧
      ∀ a b, (r.read query).outcome = .ok a → (r.read other).outcome = .ok b →
        a.Alike b ∧ a.same b = .ok true := by
  have order := isOrder_of_ofSettings hs
  have orderless : IsOrderless query := ⟨ht, hk, hn, hb⟩
  rw [r.outcome_read, r.outcome_read]
  refine ⟨⟨?_, ?_⟩, fun a b ha hb => ?_⟩
  · rintro ⟨a, ha⟩
    obtain ⟨b, hb, _⟩ := reading_perm order hc orderless h ha
    exact ⟨b, hb⟩
  · rintro ⟨b, hb⟩
    obtain ⟨a, ha, _⟩ := reading_perm order hc (orderless.perm h) h.symm hb
    exact ⟨a, ha⟩
  · obtain ⟨c, hread, alike, same⟩ := reading_perm order hc orderless h ha
    cases hb.symm.trans hread
    exact ⟨alike, same⟩

end Resource

theorem Resource.reads_in_any_order_age :
    let query : Entries Value :=
      [("filters[age]", .text "5"), ("age__ne", .text "6"), ("tags__size_gte", .text "2"),
        ("sort", .text "age:desc"), ("age__gt", .text "1"), ("tags__size_lte", .text "5")]
    ∃ r a b, ofSettings [("filter_fields", .data (.list [.text "age", .text "tags"]))] = .ok r ∧
      r.filter.operators.custom = [] ∧ (∀ e ∈ query, ∃ t, e.2 = .text t) ∧ OneLine query ∧
      (Entries.keys query).Nodup ∧ BoundsApart query ∧ query.Perm query.reverse ∧
      (r.read query).outcome = .ok a ∧ (r.read query.reverse).outcome = .ok b ∧
      a.filters = [("age", .map [("$eq", .int 5), ("$ne", .int 6), ("$gt", .int 1)])] ∧
      b.filters = [("age", .map [("$eq", .int 5), ("$gt", .int 1), ("$ne", .int 6)])] ∧
      a.Alike b ∧ a.same b = .ok true := by
  intro query
  have hr : ∃ r a b, ofSettings [("filter_fields", .data (.list [.text "age", .text "tags"]))] =
        .ok r ∧ r.filter.operators.custom = [] ∧ (r.read query).outcome = .ok a ∧
      (r.read query.reverse).outcome = .ok b ∧
      a.filters = [("age", .map [("$eq", .int 5), ("$ne", .int 6), ("$gt", .int 1)])] ∧
      b.filters = [("age", .map [("$eq", .int 5), ("$gt", .int 1), ("$ne", .int 6)])] := by
    rw [ofSettings_of_known (by decide)]
    exact ⟨_, _, _, rfl, rfl, rfl, rfl, rfl, rfl⟩
  obtain ⟨r, a, b, hs, hc, ha, hb, hfa, hfb⟩ := hr
  have ht : ∀ e ∈ query, ∃ t, e.2 = .text t := by simp [query]
  have hk : OneLine query := by
    unfold OneLine
    decide
  have hn : (Entries.keys query).Nodup := by decide
  have apart : BoundsApart query := by decide
  have perm : query.Perm query.reverse := (List.reverse_perm query).symm
  have equal := (reads_in_any_order hs hc ht hk hn apart perm).2 a b ha hb
  exact ⟨r, a, b, hs, hc, ht, hk, hn, apart, perm, ha, hb, hfa, hfb, equal⟩

end ResourceQuery
