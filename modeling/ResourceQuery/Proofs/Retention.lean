import ResourceQuery.Platform.Standard
import ResourceQuery.Proofs.AllowList
import ResourceQuery.Proofs.Comparison

/-!
What is kept of the conditions on a field. An equality is always kept, beside the
comparisons if there are any. An operand is kept just when no later comparison on its
field gives another operand for the same key, which takes a single bound after both
bounds or both bounds after a single one.
-/

namespace ResourceQuery

open FilterKey Outcome

/-- A reading of keys by the operators that they name: what it gives for a key is for the
field before the operator, and has the keys that the operator writes. -/
structure ByOperator {Op β : Type} (name : Op → String) (writes : Op → List String)
    (entries : β → Entries Value)
    (ask : String × Value → Except QueryError (Option (String × β)))
    (query : Entries Value) : Prop where
  named {e : String × Value} (he : e ∈ query) {b : String × β} (h : ask e = .ok (some b)) :
    ∃ op, e.1 = compound b.1 (name op) ∧ Entries.keys (entries b.2) = writes op
  nodup (op : Op) : (writes op).Nodup
  paired {a b c : Op} {key : String} (ha : key ∈ writes a) (hb : key ∈ writes b)
    (hc : key ∈ writes c) : a = b ∨ a = c ∨ b = c

namespace ByOperator

variable {Op β : Type} {name : Op → String} {writes : Op → List String}
  {entries : β → Entries Value} {ask : String × Value → Except QueryError (Option (String × β))}
  {after : Entries Value} {back : List (String × β)} {field : String}

def updates (entries : β → Entries Value) (field : String) (read : List (String × β)) :
    List (Entries Value) :=
  (read.filter fun b => b.1 = field).map fun b => entries b.2

theorem mem_updates {read : List (String × β)} {c : Entries Value} :
    c ∈ updates entries field read ↔ ∃ b, (field, b) ∈ read ∧ entries b = c := by
  rw [updates, List.mem_map]
  constructor
  · rintro ⟨⟨f, b⟩, hb, rfl⟩
    obtain ⟨hread, hf⟩ := List.mem_filter.1 hb
    obtain rfl : f = field := of_decide_eq_true hf
    exact ⟨b, hread, rfl⟩
  · rintro ⟨b, hb, rfl⟩
    exact ⟨(field, b), List.mem_filter.2 ⟨hb, decide_eq_true rfl⟩, rfl⟩

theorem pairwise_updates (h : ByOperator name writes entries ask after)
    (hback : after.filterMapM ask = .ok back) {op : Op} {key : String} (hk : key ∈ writes op)
    (hn : (compound field (name op) :: Entries.keys after).Nodup) :
    (updates entries field back).Pairwise fun c d =>
      key ∈ Entries.keys c → key ∉ Entries.keys d := by
  rw [List.nodup_cons, Entries.keys, List.Nodup, List.pairwise_map] at hn
  have apart : after.Pairwise fun e e' => (e ∈ after ∧ e' ∈ after) ∧ e.1 ≠ e'.1 :=
    hn.2.imp_of_mem fun he he' hne => ⟨⟨he, he'⟩, hne⟩
  have other {e : String × Value} (he : e ∈ after) : e.1 ≠ compound field (name op) :=
    fun hc => hn.1 (hc ▸ List.mem_map_of_mem he)
  rw [updates, List.pairwise_map, List.pairwise_filter]
  refine pairwise_filterMapM hback apart ?_
  rintro e e' b b' ⟨⟨he, he'⟩, hne⟩ hb hb' hf hf' hkb hkb'
  obtain ⟨o, ho, hw⟩ := h.named he hb
  obtain ⟨o', ho', hw'⟩ := h.named he' hb'
  rw [of_decide_eq_true hf] at ho
  rw [of_decide_eq_true hf'] at ho'
  -- two later operators with the key would make three of them
  rcases h.paired hk (hw ▸ hkb) (hw' ▸ hkb') with rfl | rfl | rfl
  · exact other he ho
  · exact other he' ho'
  · exact hne (ho.trans ho'.symm)

theorem kept_iff (h : ByOperator name writes entries ask after)
    (hback : after.filterMapM ask = .ok back) {op : Op} {key : String} (hk : key ∈ writes op)
    (hn : (compound field (name op) :: Entries.keys after).Nodup) {base : Entries Value}
    {x : Value} (hx : Entries.get? base key = some x) :
    Entries.get? ((updates entries field back).foldl Entries.putAll base) key = some x ↔
      ∀ o w, (compound field (name o), w) ∈ after → ∀ b,
        ask (compound field (name o), w) = .ok (some (field, b)) →
        ∀ y, (key, y) ∈ entries b → y = x := by
  have nodup : ∀ c ∈ updates entries field back, (Entries.keys c).Nodup := by
    intro c hc
    obtain ⟨b, hb, rfl⟩ := mem_updates.1 hc
    obtain ⟨e, he, hask⟩ := (mem_filterMapM hback).1 hb
    obtain ⟨o, _, hw⟩ := h.named he hask
    exact hw ▸ h.nodup o
  rw [Entries.get?_foldl_putAll_iff nodup (h.pairwise_updates hback hk hn) hx]
  constructor
  · intro hall o w hw b hb
    exact hall (entries b) (mem_updates.2 ⟨b, (mem_filterMapM hback).2 ⟨_, hw, hb⟩, rfl⟩)
  · intro hall c hc
    obtain ⟨b, hb, rfl⟩ := mem_updates.1 hc
    obtain ⟨⟨k, w⟩, he, hask⟩ := (mem_filterMapM hback).1 hb
    obtain ⟨o, ho, _⟩ := h.named he hask
    obtain rfl : k = compound field (name o) := ho
    exact hall o w he b hask

end ByOperator

/-- Every key is one line. -/
def OneLine (query : Entries Value) : Prop := ∀ e ∈ query, '\n' ∉ e.1.toList

theorem later_of_split {query before after : Entries Value} {key : String} {v : Value}
    (hk : OneLine query) (hn : (Entries.keys query).Nodup)
    (hq : query = before ++ (key, v) :: after) :
    '\n' ∉ key.toList ∧ OneLine after ∧ (key :: Entries.keys after).Nodup := by
  subst hq
  rw [Entries.keys_append, Entries.keys_cons] at hn
  refine ⟨hk (key, v) ?_, fun e he => hk e ?_, (List.nodup_append.1 hn).2.1⟩
  · exact List.mem_append_right _ List.mem_cons_self
  · exact List.mem_append_right _ (List.mem_cons_of_mem _ he)

namespace FilterRules

variable {rules : FilterRules} {query : Entries Value}

theorem ne_empty_of_allows {field : String} (h : rules.allows field = true) : field ≠ "" :=
  (allows_iff.1 h).1

theorem operatorCondition_iff [Platform] (hc : rules.operators.custom = []) {key : String}
    {v : Value} {c : String × Value} (hk : '\n' ∉ key.toList) :
    rules.operatorCondition (key, v) = .ok (some c) ↔
      rules.allows c.1 ∧ ∃ op d, key = compound c.1 (Operator.name op) ∧
        rules.operators.apply op.name c.1 v = .ok (.map d) ∧ c.2 = .map d := by
  rw [operatorCondition_eq_ok_some_iff]
  constructor
  · rintro ⟨_, ho, _, ha, _, hv⟩
    obtain ⟨op, d, rfl, hd, hcd⟩ := (Operators.apply_eq_ok_iff hc).1 hv
    exact ⟨ha, op, d, ((op.operator?_name hk).1 ho).2, hd, hcd⟩
  · rintro ⟨ha, op, d, ho, hd, hcd⟩
    refine ⟨op.name, (op.operator?_name hk).2 ⟨ne_empty_of_allows ha, ho⟩, ?_, ha, ?_,
      (Operators.apply_eq_ok_iff hc).2 ⟨op, d, rfl, hd, hcd⟩⟩
    · cases op <;> decide
    · rw [Operators.knows, Operator.ofName?_name]
      rfl

theorem asked_iff {key : String} {v : Value} {o : String × Entries Value}
    (hk : '\n' ∉ key.toList) :
    LengthFilter.asked rules.allows (key, v) = .ok (some o) ↔
      rules.allows o.1 ∧ ∃ op, key = compound o.1 (LengthOperator.name op) ∧
        LengthFilter.condition op.name v = .ok o.2 := by
  rw [LengthFilter.asked_eq_ok_some_iff]
  constructor
  · rintro ⟨_, ho, hl, ha, hv⟩
    obtain ⟨op, hop⟩ := Option.isSome_iff_exists.1 hl
    obtain rfl := LengthOperator.name_of_ofName? hop
    exact ⟨ha, op, ((op.operator?_name hk).1 ho).2, hv⟩
  · rintro ⟨ha, op, ho, hv⟩
    refine ⟨op.name, (op.operator?_name hk).2 ⟨ne_empty_of_allows ha, ho⟩, ?_, ha, hv⟩
    rw [LengthOperator.ofName?_name]
    rfl

theorem operatorCondition_byOperator [Platform] (hc : rules.operators.custom = [])
    (hk : OneLine query) :
    ByOperator Operator.name Operator.writes Filter.comparisonOf rules.operatorCondition
      query where
  named he b h := by
    obtain ⟨_, op, d, ho, hd, hb⟩ := (operatorCondition_iff hc (hk _ he)).1 h
    refine ⟨op, ho, ?_⟩
    rw [hb]
    exact Operator.keys_of_apply (Operators.apply_name_eq_ok_iff.1 hd)
  nodup := Operator.nodup_writes
  paired := Operator.eq_of_writes

theorem asked_byOperator (hk : OneLine query) :
    ByOperator LengthOperator.name LengthOperator.writes id
      (LengthFilter.asked rules.allows) query where
  named he b h := by
    obtain ⟨_, op, ho, hd⟩ := (asked_iff (hk _ he)).1 h
    exact ⟨op, ho, LengthFilter.keys_of_condition hd⟩
  nodup := LengthOperator.nodup_writes
  paired := LengthOperator.eq_of_writes

end FilterRules

namespace Filter

theorem exists_join_map (existing : Option Value) {c : Entries Value}
    (hn : (Entries.keys c).Nodup) :
    ∃ base, join existing (.map c) = .map base ∧ ∀ e ∈ c, Entries.get? base e.1 = some e.2 := by
  cases existing with
  | none => exact ⟨c, rfl, fun e he => Entries.get?_of_mem hn he⟩
  | some v =>
    refine ⟨_, rfl, fun e he => ?_⟩
    rw [Entries.get?_putAll hn, Entries.get?_of_mem hn he]
    rfl

theorem joinAll_maps {vs : List Value} (hv : ∀ v ∈ vs, ∃ c, v = .map c) (b : Entries Value) :
    joinAll (some (.map b)) vs =
      some (.map ((vs.map comparisonOf).foldl Entries.putAll b)) := by
  induction vs generalizing b with
  | nil => rfl
  | cons v vs ih =>
    rw [List.forall_mem_cons] at hv
    obtain ⟨c, rfl⟩ := hv.1
    exact ih hv.2 (Entries.putAll b c)

theorem map_onField (field : String) (cs : List (String × Value)) :
    (onField field cs).map comparisonOf = ByOperator.updates comparisonOf field cs := by
  rw [onField, ByOperator.updates, List.map_map]
  rfl

theorem join_keeps {x held v : Value} (hx : x.entries? = none)
    (h : held = x ∨ ∃ c, held = .map c ∧ Entries.get? c "$eq" = some x)
    (hv : ∀ c, v = .map c → "$eq" ∉ Entries.keys c) :
    join (some held) v = x ∨
      ∃ c, join (some held) v = .map c ∧ Entries.get? c "$eq" = some x := by
  cases v with
  | map c =>
    refine .inr ⟨_, rfl, ?_⟩
    rw [Entries.get?_putAll_of_not_mem (hv c rfl)]
    rcases h with rfl | ⟨d, rfl, hd⟩
    · cases held <;> first | rfl | cases hx
    · exact hd
  | _ => exact h

theorem joinAll_keeps {x : Value} (hx : x.entries? = none) {vs : List Value}
    (hv : ∀ v ∈ vs, ∀ c, v = .map c → "$eq" ∉ Entries.keys c) :
    ∃ held, joinAll (some x) vs = some held ∧
      (held = x ∨ ∃ c, held = .map c ∧ Entries.get? c "$eq" = some x) := by
  have keep (held : Value) (h : held = x ∨ ∃ c, held = .map c ∧ Entries.get? c "$eq" = some x) :
      ∃ last, joinAll (some held) vs = some last ∧
        (last = x ∨ ∃ c, last = .map c ∧ Entries.get? c "$eq" = some x) := by
    induction vs generalizing held with
    | nil => exact ⟨held, rfl, h⟩
    | cons v vs ih =>
      rw [List.forall_mem_cons] at hv
      exact ih hv.2 (join (some held) v) (join_keeps hx h hv.1)
  exact keep x (.inl rfl)

end Filter

def HoldsEquality (filters : Entries Value) (field : String) (x : Value) : Prop :=
  ∃ held, Entries.get? filters field = some held ∧
    (held = x ∨ ∃ c, held = .map c ∧ Entries.get? c "$eq" = some x)

namespace Asked

open ResourceQuery.Filter

variable [Platform] {rules : FilterRules} {query : Entries Value}

theorem exists_compared {before after : Entries Value} {e : String × Value}
    (asked : Asked rules (before ++ e :: after)) {field : String} {c : Entries Value}
    (he : rules.operatorCondition e = .ok (some (field, .map c)))
    (hn : (Entries.keys c).Nodup)
    (hmaps : ∀ e ∈ after, ∀ b, rules.operatorCondition e = .ok (some b) → ∃ d, b.2 = .map d) :
    ∃ back base, after.filterMapM rules.operatorCondition = .ok back ∧
      (∀ e ∈ c, Entries.get? base e.1 = some e.2) ∧
      Entries.get? asked.filters field =
        some (.map ((ByOperator.updates comparisonOf field back).foldl Entries.putAll base)) := by
  obtain ⟨front, back, hback, hops⟩ := filterMapM_split asked.operators_eq he
  obtain ⟨base, hbase, hx⟩ := exists_join_map
    (joinAll none (onField field (asked.brackets ++ asked.directs ++ front))) hn
  have hvs : ∀ w ∈ onField field back, ∃ d, w = .map d := by
    intro w hw
    obtain ⟨e, he, hew⟩ := (mem_filterMapM hback).1 (mem_onField.1 hw)
    exact hmaps e he _ hew
  refine ⟨back, base, hback, hx, ?_⟩
  rw [filters, get?_mergeAll, conditions, hops, ← List.append_assoc, onField_append,
    joinAll_append, onField_cons, if_pos rfl, ← map_onField, ← joinAll_maps hvs, ← hbase]
  rfl

theorem exists_counted {before after : Entries Value} {e : String × Value}
    (asked : Asked rules (before ++ e :: after)) {field : String} {c : Entries Value}
    (he : LengthFilter.asked rules.allows e = .ok (some (field, c)))
    (hn : (Entries.keys c).Nodup) :
    ∃ back base, after.filterMapM (LengthFilter.asked rules.allows) = .ok back ∧
      (∀ e ∈ c, Entries.get? base e.1 = some e.2) ∧
      Entries.get? asked.lengths.conditions (LengthFilter.countField field) =
        some (.map ((ByOperator.updates id field back).foldl Entries.putAll base)) := by
  obtain ⟨front, back, hback, hops⟩ := filterMapM_split asked.operations_eq he
  let f := LengthFilter.ofOperations front
  have hadd : Entries.get? (f.add field c).conditions (LengthFilter.countField field) =
      some (.map (Entries.putAll (f.comparedWith field) c)) := by
    rw [LengthFilter.get?_conditions_add, if_pos rfl]
  refine ⟨back, Entries.putAll (f.comparedWith field) c, hback, fun e he => ?_, ?_⟩
  · rw [Entries.get?_putAll hn, Entries.get?_of_mem hn he]
    rfl
  · have hl : asked.lengths = LengthFilter.addAll (f.add field c) back := by
      rw [lengths, hops, LengthFilter.ofOperations, LengthFilter.addAll, List.foldl_append]
      rfl
    rw [hl, LengthFilter.get?_conditions_addAll hadd]
    rfl

theorem kept_compared {before after : Entries Value} {field : String} {op : Operator}
    {v : Value} (asked : Asked rules (before ++ (compound field op.name, v) :: after))
    (hc : rules.operators.custom = []) (hline : '\n' ∉ (compound field op.name).toList)
    (hlines : OneLine after) (hn : (compound field op.name :: Entries.keys after).Nodup)
    (ha : rules.allows field) {c : Entries Value}
    (hv : rules.operators.apply op.name field v = .ok (.map c)) :
    ∃ held, Entries.get? asked.filters field = some (.map held) ∧
      ∀ key x, (key, x) ∈ c → (Entries.get? held key = some x ↔
        ∀ (other : Operator) w, (compound field other.name, w) ∈ after →
          ∀ d, rules.operators.apply other.name field w = .ok (.map d) →
            ∀ y, (key, y) ∈ d → y = x) := by
  have hkeys : Entries.keys c = op.writes :=
    Operator.keys_of_apply (Operators.apply_name_eq_ok_iff.1 hv)
  have hnodup : (Entries.keys c).Nodup := by
    rw [hkeys]
    exact op.nodup_writes
  have hask : rules.operatorCondition (compound field op.name, v) =
      .ok (some (field, .map c)) :=
    (FilterRules.operatorCondition_iff hc hline).2 ⟨ha, op, c, rfl, hv, rfl⟩
  obtain ⟨back, base, hback, hx, hheld⟩ :=
    asked.exists_compared hask hnodup fun e he b hb => by
      obtain ⟨_, _, d, _, _, hd⟩ := (FilterRules.operatorCondition_iff hc (hlines e he)).1 hb
      exact ⟨d, hd⟩
  refine ⟨_, hheld, fun key x hkx => ?_⟩
  have hw : key ∈ op.writes := hkeys ▸ Entries.mem_keys_of_mem hkx
  rw [(FilterRules.operatorCondition_byOperator hc hlines).kept_iff hback hw hn
    (hx (key, x) hkx)]
  constructor
  · intro h other w hother d hd y hy
    refine h other w hother (.map d) ?_ y hy
    exact (FilterRules.operatorCondition_iff hc (hlines _ hother)).2
      ⟨ha, other, d, rfl, hd, rfl⟩
  · intro h other w hother b hb y hy
    obtain ⟨_, same, d, hs, hd, rfl⟩ :=
      (FilterRules.operatorCondition_iff hc (hlines _ hother)).1 hb
    have hname : compound field other.name = compound field same.name := hs
    obtain rfl := Operator.name_inj (compound_inj.1 hname)
    exact h other w hother d hd y hy

theorem kept_counted {before after : Entries Value} {field : String} {op : LengthOperator}
    {v : Value} (asked : Asked rules (before ++ (compound field op.name, v) :: after))
    (hline : '\n' ∉ (compound field op.name).toList) (hlines : OneLine after)
    (hn : (compound field op.name :: Entries.keys after).Nodup) (ha : rules.allows field) :
    ∃ c held, LengthFilter.condition op.name v = .ok c ∧
      Entries.get? asked.lengths.conditions (LengthFilter.countField field) =
        some (.map held) ∧
      ∀ key x, (key, x) ∈ c → (Entries.get? held key = some x ↔
        ∀ (other : LengthOperator) w, (compound field other.name, w) ∈ after →
          ∀ d, LengthFilter.condition other.name w = .ok d → ∀ y, (key, y) ∈ d → y = x) := by
  obtain ⟨c, hv⟩ : ∃ c, LengthFilter.condition op.name v = .ok c := by
    obtain ⟨o, ho⟩ := ok_of_filterMapM asked.operations_eq
      (List.mem_append_right before List.mem_cons_self)
    rw [LengthFilter.asked,
      (op.operator?_name hline).2 ⟨FilterRules.ne_empty_of_allows ha, rfl⟩] at ho
    simp only [LengthOperator.ofName?_name, ha] at ho
    obtain ⟨c, hv, _⟩ := map_eq_ok_iff.1 ho
    exact ⟨c, hv⟩
  have hkeys : Entries.keys c = op.writes := LengthFilter.keys_of_condition hv
  have hnodup : (Entries.keys c).Nodup := by
    rw [hkeys]
    exact op.nodup_writes
  have hask : LengthFilter.asked rules.allows (compound field op.name, v) =
      .ok (some (field, c)) := (FilterRules.asked_iff hline).2 ⟨ha, op, rfl, hv⟩
  obtain ⟨back, base, hback, hx, hheld⟩ := asked.exists_counted hask hnodup
  refine ⟨c, _, hv, hheld, fun key x hkx => ?_⟩
  have hw : key ∈ op.writes := hkeys ▸ Entries.mem_keys_of_mem hkx
  rw [(FilterRules.asked_byOperator hlines).kept_iff hback hw hn (hx (key, x) hkx)]
  constructor
  · intro h other w hother d hd y hy
    exact h other w hother d ((FilterRules.asked_iff (hlines _ hother)).2
      ⟨ha, other, rfl, hd⟩) y hy
  · intro h other w hother b hb y hy
    obtain ⟨_, same, hs, hd⟩ := (FilterRules.asked_iff (hlines _ hother)).1 hb
    have hname : compound field other.name = compound field same.name := hs
    obtain rfl := LengthOperator.name_inj (compound_inj.1 hname)
    exact h other w hother b hd y hy

theorem kept_equality (asked : Asked rules query) (hc : rules.operators.custom = [])
    (hk : OneLine query) {field : String} {x : Value} (hx : x.isScalar)
    (hfirst : ∀ v ∈ onField field (asked.brackets ++ asked.directs), v = x)
    (hmem : (field, x) ∈ asked.brackets ++ asked.directs) :
    HoldsEquality asked.filters field x := by
  rw [HoldsEquality, filters, get?_mergeAll, conditions, onField_append]
  have hne := List.ne_nil_of_mem (mem_onField.2 hmem)
  obtain ⟨v, vs, hvs⟩ := List.exists_cons_of_ne_nil hne
  rw [hvs, List.forall_mem_cons] at hfirst
  obtain ⟨rfl, hrest⟩ := hfirst
  rw [hvs]
  have plain : v.entries? = none := by
    cases v <;> first | rfl | cases hx
  refine joinAll_keeps plain fun w hw c hwc => ?_
  -- the same equality once more is plain, and no operator writes an equality
  rcases List.mem_append.1 hw with hw | hw
  · rw [← hrest w hw, hwc] at hx
    cases hx
  · obtain ⟨e, he, hew⟩ := (mem_filterMapM asked.operators_eq).1 (mem_onField.1 hw)
    obtain ⟨_, op, d, _, hd, hcd⟩ := (FilterRules.operatorCondition_iff hc (hk e he)).1 hew
    obtain rfl : c = d := Value.map.inj (hwc.symm.trans hcd)
    rw [Operator.keys_of_apply (Operators.apply_name_eq_ok_iff.1 hd)]
    exact op.equality_not_written

theorem bracket_unique (asked : Asked rules query) (hk : OneLine query)
    (hn : (Entries.keys query).Nodup) {field : String} {v x : Value}
    (he : (bracketed field, v) ∈ query) (hv : Inference.typed field v = .ok x) :
    ∀ w, (field, w) ∈ asked.brackets → w = x := by
  intro w hw
  obtain ⟨⟨key, u⟩, hu, hkey, _, hwv⟩ := mem_brackets.1 hw
  obtain rfl : key = bracketed field := (bracket?_eq_some_iff (hk _ hu)).1 hkey
  have hvu : v = u := Option.some.inj
    ((Entries.get?_of_mem hn he).symm.trans (Entries.get?_of_mem hn hu))
  rw [← hvu, hv] at hwv
  exact (Except.ok.inj hwv).symm

theorem kept_bracketed (asked : Asked rules query) (hc : rules.operators.custom = [])
    (hk : OneLine query) (hn : (Entries.keys query).Nodup) {field : String} {v x : Value}
    (he : (bracketed field, v) ∈ query) (ha : rules.allows field)
    (hv : Inference.typed field v = .ok x) (hx : x.isScalar) :
    HoldsEquality asked.filters field x := by
  have hb : (field, x) ∈ asked.brackets :=
    mem_brackets.2 ⟨_, he, (bracket?_eq_some_iff (hk _ he)).2 rfl, ha, hv⟩
  refine asked.kept_equality hc hk hx (fun w hw => ?_) (List.mem_append_left _ hb)
  rcases List.mem_append.1 (mem_onField.1 hw) with hw | hw
  · exact asked.bracket_unique hk hn he hv w hw
  · have hh : Entries.has (mergeAll [] asked.brackets) field = true :=
      Entries.has_iff.2 (mem_keys_mergeAll.2 (.inr ⟨_, hb, rfl⟩))
    exact absurd ((mem_directs.1 hw).2.2.1.symm.trans hh) Bool.false_ne_true

theorem kept_direct (asked : Asked rules query) (hc : rules.operators.custom = [])
    (hk : OneLine query) (hn : (Entries.keys query).Nodup) {field : String} {v x : Value}
    (hl : field ∈ rules.fields) (hw : field ≠ wildcard)
    (hb : bracketed field ∉ Entries.keys query) (he : (field, v) ∈ query)
    (ha : rules.allows field) (hv : Inference.typed field v = .ok x) (hx : x.isScalar) :
    HoldsEquality asked.filters field x := by
  have hnone (w : Value) : (field, w) ∉ asked.brackets := by
    intro hm
    obtain ⟨e, he, hkey, _⟩ := mem_brackets.1 hm
    exact hb ((bracket?_eq_some_iff (hk e he)).1 hkey ▸ Entries.mem_keys_of_mem he)
  have hget : Entries.get? query field = some v := Entries.get?_of_mem hn he
  have hfree : Entries.has (mergeAll [] asked.brackets) field = false := by
    rw [← Bool.not_eq_true, Entries.has_iff, mem_keys_mergeAll]
    rintro (h | ⟨⟨f, w⟩, hm, rfl⟩)
    · cases h
    · exact hnone w hm
  have hd : (field, x) ∈ asked.directs := mem_directs.2 ⟨hl, hw, hfree, ha, v, hget, hv⟩
  refine asked.kept_equality hc hk hx (fun w hm => ?_) (List.mem_append_right _ hd)
  rcases List.mem_append.1 (mem_onField.1 hm) with hm | hm
  · exact absurd hm (hnone w)
  · obtain ⟨_, _, _, _, u, hu, hwv⟩ := mem_directs.1 hm
    obtain rfl : v = u := Option.some.inj (hget.symm.trans hu)
    exact (Except.ok.inj (hv.symm.trans hwv)).symm

end Asked

/-- What a query that was read keeps of what it asked for. A comparison and a count keep each
operand just when no later key of the same field gives another operand for the same key; an
equality is kept unconditionally. -/
structure Keeps [Platform] (rules : FilterRules) (query filters : Entries Value)
    (lengths : LengthFilter) : Prop where
  compared {before after : Entries Value} {field : String} {op : Operator} {v : Value}
    (hq : query = before ++ (compound field op.name, v) :: after) (ha : rules.allows field)
    {c : Entries Value} (hv : rules.operators.apply op.name field v = .ok (.map c)) :
    ∃ held, Entries.get? filters field = some (.map held) ∧
      ∀ key x, (key, x) ∈ c → (Entries.get? held key = some x ↔
        ∀ (other : Operator) w, (compound field other.name, w) ∈ after →
          ∀ d, rules.operators.apply other.name field w = .ok (.map d) →
            ∀ y, (key, y) ∈ d → y = x)
  counted {before after : Entries Value} {field : String} {op : LengthOperator} {v : Value}
    (hq : query = before ++ (compound field op.name, v) :: after) (ha : rules.allows field) :
    ∃ c held, LengthFilter.condition op.name v = .ok c ∧
      Entries.get? lengths.conditions (field ++ "Count") = some (.map held) ∧
      ∀ key x, (key, x) ∈ c → (Entries.get? held key = some x ↔
        ∀ (other : LengthOperator) w, (compound field other.name, w) ∈ after →
          ∀ d, LengthFilter.condition other.name w = .ok d → ∀ y, (key, y) ∈ d → y = x)
  bracketed {field : String} {v x : Value} (he : (bracketed field, v) ∈ query)
    (ha : rules.allows field) (hv : Inference.typed field v = .ok x) (hx : x.isScalar) :
    HoldsEquality filters field x
  direct {field : String} {v x : Value} (hl : field ∈ rules.fields) (hw : field ≠ "*")
    (hb : FilterKey.bracketed field ∉ Entries.keys query) (he : (field, v) ∈ query)
    (ha : rules.allows field) (hv : Inference.typed field v = .ok x) (hx : x.isScalar) :
    HoldsEquality filters field x

namespace FilterRules

variable {rules : FilterRules} {query filters : Entries Value} {lengths : LengthFilter}

/-- A condition is lost only to a later one on the same field that bounds the same side. -/
theorem keeps_of_read [Platform] (hc : rules.operators.custom = []) (hk : OneLine query)
    (hn : (Entries.keys query).Nodup)
    (h : (rules.read query).outcome = .ok (filters, lengths)) :
    Keeps rules query filters lengths := by
  obtain ⟨asked, ha⟩ := Asked.exists_of_read h
  cases ha
  constructor
  · intro before after field op v hq ha c hv
    obtain ⟨hline, hlines, hlater⟩ := later_of_split hk hn hq
    subst hq
    exact asked.kept_compared hc hline hlines hlater ha hv
  · intro before after field op v hq ha
    obtain ⟨hline, hlines, hlater⟩ := later_of_split hk hn hq
    subst hq
    exact asked.kept_counted hline hlines hlater ha
  · intro field v x he ha hv hx
    exact asked.kept_bracketed hc hk hn he ha hv hx
  · intro field v x hl hw hb he ha hv hx
    exact asked.kept_direct hc hk hn hl hw hb he ha hv hx

end FilterRules

theorem FilterRules.keeps_of_read_age :
    let query : Entries Value :=
      [("age__gte", .text "18"), ("filters[age]", .text "20"), ("age__lt", .text "65")]
    ∃ rules, make (some ["age"]) none [] none none = .ok rules ∧ ∃ filters,
      (rules.read query).outcome = .ok (filters, {}) ∧ Keeps rules query filters {} ∧
      HoldsEquality filters "age" (.int 20) := by
  intro query
  have hr : ∃ rules, make (some ["age"]) none [] none none = .ok rules ∧
      rules.operators.custom = [] ∧ rules.allows "age" = true ∧
      ∃ filters, (rules.read query).outcome = .ok (filters, {}) :=
    ⟨_, rfl, rfl, rfl, _, rfl⟩
  obtain ⟨rules, hmake, hc, ha, filters, h⟩ := hr
  have hk : OneLine query := by
    simp only [OneLine, query, List.forall_mem_cons]
    exact ⟨by decide, by decide, by decide, nofun⟩
  have keeps := keeps_of_read hc hk (by decide) h
  refine ⟨rules, hmake, filters, h, keeps, ?_⟩
  exact keeps.bracketed (List.mem_cons_of_mem _ List.mem_cons_self) ha rfl rfl

/-- Both bounds take the place of a lower bound that was there, although they are wider. -/
theorem FilterRules.lower_bound_lost :
    let query : Entries Value := [("age__gte", .text "18"), ("age__between", .text "1,65")]
    ∃ rules, make (some ["age"]) none [] none none = .ok rules ∧
      rules.operators.custom = [] ∧ OneLine query ∧ (Entries.keys query).Nodup ∧
      rules.allows "age" = true ∧
      rules.operators.apply "gte" "age" (.text "18") = .ok (.map [("$gte", .int 18)]) ∧
      ∃ held, (rules.read query).outcome = .ok ([("age", .map held)], {}) ∧
        Entries.get? held "$gte" = some (.int 1) ∧
        Entries.get? held "$gte" ≠ some (.int 18) := by
  intro query
  have hk : OneLine query := by
    simp only [OneLine, query, List.forall_mem_cons]
    exact ⟨by decide, by decide, nofun⟩
  exact ⟨_, rfl, rfl, hk, by decide, rfl, rfl, _, rfl, rfl, nofun⟩

end ResourceQuery
