import ResourceQuery.Platform.Standard
import ResourceQuery.Proofs.Asked
import ResourceQuery.Proofs.Comparison

/-!
The shape of conditions. A query of texts is read into filters whose keys below the
fields are known operators, each with an operand of its own kind; what a text says
becomes an operand and never a key.
-/

namespace ResourceQuery

def Value.isAtom : Value → Bool
  | .null | .list _ | .map _ => false
  | _ => true

theorem Value.isAtom_ofNumeral (n : Number.Numeral) : (ofNumeral n).isAtom = true := by
  cases n <;> rfl

/-- What a text is typed as: an atom, or the check that a field is there. -/
inductive IsOperand : Value → Prop
  | atom {v : Value} (h : v.isAtom) : IsOperand v
  | existence (b : Bool) : IsOperand (.entry "$exists" (.bool b))

inductive Takes : String → Value → Prop
  | existence (b : Bool) : Takes "$exists" (.bool b)
  | pattern (s : String) : Takes "$regex" (.text s)
  | options : Takes "$options" (.text "i")
  | members {key : String} (hk : key ∈ ["$in", "$nin"]) {items : List Value}
      (h : ∀ v ∈ items, IsOperand v) : Takes key (.list items)
  | equal {v : Value} (h : v.isAtom) : Takes "$eq" v
  | compared {key : String} (hk : key ∈ ["$gt", "$gte", "$lt", "$lte", "$ne"]) {v : Value}
      (h : IsOperand v) : Takes key v

/-- A comparison compares something, says each thing once, and a pattern always has its
options. -/
structure IsComparison (c : Entries Value) : Prop where
  ne_nil : c ≠ []
  nodup : (Entries.keys c).Nodup
  takes : ∀ e ∈ c, Takes e.1 e.2
  paired : "$regex" ∈ Entries.keys c ↔ "$options" ∈ Entries.keys c

inductive IsCondition : Value → Prop
  | plain {v : Value} (h : v.isAtom) : IsCondition v
  | comparison {c : Entries Value} (h : IsComparison c) : IsCondition (.map c)

namespace IsComparison

theorem single {key : String} {v : Value} (h : Takes key v) (hr : key ≠ "$regex")
    (ho : key ≠ "$options") : IsComparison [(key, v)] where
  ne_nil := List.cons_ne_nil _ _
  nodup := by simp [Entries.keys]
  takes e he := by
    rw [List.mem_singleton.1 he]
    exact h
  paired := by simp [Entries.keys, hr.symm, ho.symm]

theorem range {low high : Value} (hl : IsOperand low) (hh : IsOperand high) :
    IsComparison [("$gte", low), ("$lte", high)] where
  ne_nil := List.cons_ne_nil _ _
  nodup := by simp [Entries.keys]
  takes := by
    simp only [List.forall_mem_cons]
    exact ⟨.compared (by decide) hl, .compared (by decide) hh, by simp⟩
  paired := by simp [Entries.keys]

theorem pattern (s : String) : IsComparison [("$regex", .text s), ("$options", .text "i")] where
  ne_nil := List.cons_ne_nil _ _
  nodup := by simp [Entries.keys]
  takes := by
    simp only [List.forall_mem_cons]
    exact ⟨.pattern s, .options, by simp⟩
  paired := by simp [Entries.keys]

theorem putAll {c d : Entries Value} (hc : IsComparison c) (hd : IsComparison d) :
    IsComparison (Entries.putAll c d) where
  ne_nil h := by
    obtain ⟨e, he⟩ := List.exists_mem_of_ne_nil _ hc.ne_nil
    have hk : e.1 ∈ Entries.keys (Entries.putAll c d) :=
      Entries.mem_keys_putAll.2 (.inl (Entries.mem_keys_of_mem he))
    rw [h] at hk
    cases hk
  nodup := Entries.nodup_keys_putAll hc.nodup d
  takes e he := (Entries.mem_putAll he).elim (hd.takes e) (hc.takes e)
  paired := by
    rw [Entries.mem_keys_putAll, Entries.mem_keys_putAll, hc.paired, hd.paired]

end IsComparison

theorem IsOperand.isCondition {v : Value} (h : IsOperand v) : IsCondition v := by
  cases h with
  | atom h => exact .plain h
  | existence b => exact .comparison (.single (.existence b) (by decide) (by decide))

theorem IsCondition.comparisonOf {v : Value} (h : IsCondition v) :
    IsComparison (Filter.comparisonOf v) := by
  cases h with
  | plain h =>
    have hv : Filter.comparisonOf v = [("$eq", v)] := by
      cases v with
      | map c => cases h
      | _ => rfl
    rw [hv]
    exact .single (.equal h) (by decide) (by decide)
  | comparison h => exact h

namespace Inference

inductive TypedAs (s : String) : Value → Prop
  | existence (b : Bool) : TypedAs s (.entry "$exists" (.bool b))
  | moment (m : Date.Moment) : TypedAs s (.moment m)
  | objectId (digits : String) : TypedAs s (.objectId digits)
  | bool (b : Bool) : TypedAs s (.bool b)
  | number {n : Number.Numeral} (h : Number.numeral? s.toList = .ok (some n)) :
      TypedAs s (.ofNumeral n)
  | text : TypedAs s (.text s)

variable [Platform]

theorem typedAs_moment {s : String} {v : Value} (h : moment s = .ok v) : TypedAs s v := by
  unfold moment at h
  split at h
  · cases h
    exact .moment _
  · split at h
    · cases h
      exact .moment _
    · cases h
      exact .text
    · cases h

theorem typedAs_objectId (s : String) : TypedAs s (objectId s) := by
  unfold objectId
  split
  · exact .objectId _
  · exact .text

theorem typedAs_of_typedText {field s : String} {v : Value} (h : typedText field s = .ok v) :
    s.length ≤ maxLength ∧ TypedAs s v := by
  unfold typedText at h
  split at h
  · cases h
  rename_i short
  refine ⟨Nat.not_lt.1 short, ?_⟩
  split at h
  · cases h
    exact .existence _
  split at h
  · exact typedAs_moment h
  split at h
  · cases h
    exact typedAs_objectId s
  split at h
  · cases h
    exact .bool true
  split at h
  · cases h
    exact .bool false
  · obtain ⟨n, hn, rfl⟩ := Outcome.map_eq_ok_iff.1 h
    cases n with
    | none => exact .text
    | some n => exact .number hn

theorem isOperand_typedText {field s : String} {v : Value} (h : typedText field s = .ok v) :
    IsOperand v := by
  cases (typedAs_of_typedText h).2 with
  | existence b => exact .existence b
  | number => exact .atom (Value.isAtom_ofNumeral _)
  | _ => exact .atom rfl

end Inference

namespace Operator

variable [Platform]

theorem isOperand_of_typedItems {field : String} {items : List (List Char)} {vs : List Value}
    (h : typedItems field items = .ok vs) : ∀ v ∈ vs, IsOperand v := fun v hv =>
  let ⟨_, hs⟩ := exists_of_mem_typedItems h v hv
  Inference.isOperand_typedText hs

theorem isComparison_apply {cap : Int} {op : Operator} {field s : String} {c : Entries Value}
    (h : op.apply cap field (.text s) = .ok c) : IsComparison c := by
  cases makes_of_apply h with
  | @compared _ key hk v hv =>
    have hkey : key ∈ ["$gt", "$gte", "$lt", "$lte", "$ne"] :=
      List.mem_map_of_mem (f := Prod.snd) hk
    refine .single (.compared hkey (Inference.isOperand_typedText hv)) ?_ ?_ <;>
      (rintro rfl; revert hkey; decide)
  | @members _ key hk _ _ hv _ =>
    have hkey : key ∈ ["$in", "$nin"] := List.mem_map_of_mem (f := Prod.snd) hk
    refine .single (.members hkey (isOperand_of_typedItems hv)) ?_ ?_ <;>
      (rintro rfl; revert hkey; decide)
  | pattern hs hp => exact .pattern _
  | existence b => exact .single (.existence b) (by decide) (by decide)
  | bounds hl hh =>
    exact .range (Inference.isOperand_typedText hl) (Inference.isOperand_typedText hh)

end Operator

namespace Filter

theorem isCondition_join {existing : Option Value} (he : ∀ e ∈ existing, IsCondition e)
    {v : Value} (hv : IsCondition v) : IsCondition (join existing v) := by
  cases existing with
  | none => exact hv
  | some e =>
    have hc : IsCondition e := he e rfl
    cases hv with
    | plain h =>
      have hp : v.entries? = none := by
        cases v with
        | map c => cases h
        | _ => rfl
      rw [join_of_plain hp]
      exact hc
    | comparison h => exact .comparison (hc.comparisonOf.putAll h)

theorem isCondition_joinAll {vs : List Value} (hv : ∀ v ∈ vs, IsCondition v)
    {existing : Option Value} (he : ∀ e ∈ existing, IsCondition e) :
    ∀ v ∈ joinAll existing vs, IsCondition v :=
  forall_joinAll (fun _ _ he hv => isCondition_join he hv) hv he

end Filter

namespace Asked

variable [Platform] {rules : FilterRules} {query : Entries Value}

theorem forall_conditions_of_operands {P : Value → Prop}
    (typed : ∀ field s v, (∃ e ∈ query, e.2 = .text s) →
      Inference.typedText field s = .ok v → P v)
    (applied : ∀ (op : Operator) field s c, (∃ e ∈ query, e.2 = .text s) →
      op.apply rules.operators.cap field (.text s) = .ok c → P (.map c))
    (hc : rules.operators.custom = []) (ht : ∀ e ∈ query, ∃ s, e.2 = .text s)
    {asked : Asked rules query} : ∀ c ∈ asked.conditions, P c.2 := by
  intro c h
  rcases mem_conditions.1 h with h | h | h
  · obtain ⟨e, he, _, _, hv⟩ := mem_brackets.1 h
    obtain ⟨s, hs⟩ := ht e he
    rw [hs] at hv
    exact typed c.1 s c.2 ⟨e, he, hs⟩ hv
  · obtain ⟨_, _, _, _, operand, ho, hv⟩ := mem_directs.1 h
    have he := Entries.mem_of_get? ho
    obtain ⟨s, rfl⟩ := ht (c.1, operand) he
    exact typed c.1 s c.2 ⟨_, he, rfl⟩ hv
  · obtain ⟨e, he, _, _, _, _, _, hv⟩ := mem_operators.1 h
    obtain ⟨s, hs⟩ := ht e he
    rw [hs] at hv
    obtain ⟨op, d, _, hd, hcd⟩ := (Operators.apply_eq_ok_iff hc).1 hv
    rw [hcd]
    exact applied op c.1 s d ⟨e, he, hs⟩ (Operators.apply_name_eq_ok_iff.1 hd)

theorem forall_conditions_of_texts {P : Value → Prop}
    (typed : ∀ field s v, Inference.typedText field s = .ok v → P v)
    (applied : ∀ (op : Operator) field s c,
      op.apply rules.operators.cap field (.text s) = .ok c → P (.map c))
    (hc : rules.operators.custom = []) (ht : ∀ e ∈ query, ∃ s, e.2 = .text s)
    {asked : Asked rules query} : ∀ c ∈ asked.conditions, P c.2 :=
  forall_conditions_of_operands (fun field s v _ => typed field s v)
    (fun op field s c _ => applied op field s c) hc ht

theorem isCondition_of_mem_conditions (hc : rules.operators.custom = [])
    (ht : ∀ e ∈ query, ∃ s, e.2 = .text s) {asked : Asked rules query} {c : String × Value}
    (h : c ∈ asked.conditions) : IsCondition c.2 :=
  forall_conditions_of_texts
    (fun _ _ _ typed => (Inference.isOperand_typedText typed).isCondition)
    (fun _ _ _ _ applied => .comparison (Operator.isComparison_apply applied)) hc ht c h

end Asked

namespace FilterRules

variable {rules : FilterRules} {query filters : Entries Value} {lengths : LengthFilter}

/-- No text of a query becomes a key: whatever the texts are, filters are made of known
operators and of operands of their kinds. -/
theorem isCondition_of_read [Platform] (hc : rules.operators.custom = [])
    (ht : ∀ e ∈ query, ∃ s, e.2 = .text s)
    (h : (rules.read query).outcome = .ok (filters, lengths)) :
    ∀ e ∈ filters, IsCondition e.2 := by
  obtain ⟨asked, ha⟩ := Asked.exists_of_read h
  cases ha
  intro e he
  have hg := Entries.get?_of_mem asked.nodup_keys_filters he
  rw [Asked.filters, Filter.get?_mergeAll] at hg
  refine Filter.isCondition_joinAll (fun v hv => ?_) (fun v hv => ?_) e.2 hg
  · exact Asked.isCondition_of_mem_conditions hc ht (Filter.mem_onField.1 hv)
  · cases hv

theorem isCondition_of_read_age :
    let query : Entries Value :=
      [("age", .text "5"), ("age__ne", .text "$exist:true"), ("age__in", .text "x,$where")]
    let age : Value := .map [("$eq", .int 5), ("$ne", .entry "$exists" (.bool true)),
      ("$in", .list [.text "x", .text "$where"])]
    ∃ rules, make (some ["age"]) none [] none none = .ok rules ∧
      rules.operators.custom = [] ∧ (∀ e ∈ query, ∃ s, e.2 = .text s) ∧
      (rules.read query).outcome = .ok ([("age", age)], {}) ∧ IsCondition age := by
  intro query age
  have ht : ∀ e ∈ query, ∃ s, e.2 = .text s := by simp [query]
  have hr : ∃ rules, make (some ["age"]) none [] none none = .ok rules ∧
      rules.operators.custom = [] ∧
      (rules.read query).outcome = .ok ([("age", age)], {}) := ⟨_, rfl, rfl, rfl⟩
  obtain ⟨rules, hm, hc, hr⟩ := hr
  exact ⟨rules, hm, hc, ht, hr, isCondition_of_read hc ht hr ("age", age) List.mem_cons_self⟩

end FilterRules
end ResourceQuery
