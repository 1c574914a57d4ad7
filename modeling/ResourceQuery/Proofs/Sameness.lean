import ResourceQuery.Request
import ResourceQuery.Proofs.ConditionShape
import ResourceQuery.Proofs.RequestedOrder

/-!
Values that equal themselves. Only a double that stands for no number does not, and no text
writes one: all that is read of texts equals itself, and so does an order that is sorted by.
-/

namespace ResourceQuery

namespace Value

/-- Does the value equal itself? -/
def SelfSame (v : Value) : Prop := v.same v = .ok true

@[simp] theorem selfSame_text (s : String) : (text s).SelfSame := by simp [SelfSame, same]

@[simp] theorem selfSame_objectId (s : String) : (objectId s).SelfSame := by simp [SelfSame, same]

@[simp] theorem selfSame_bool (b : Bool) : (bool b).SelfSame := by cases b <;> rfl

@[simp] theorem selfSame_moment (m : Date.Moment) : (moment m).SelfSame := by
  simp [SelfSame, same, Date.Moment.same, Date.Moment.same?_self]

@[simp] theorem selfSame_int (n : Int) : (int n).SelfSame := by
  simp [SelfSame, same, numeral?, Number.Numeral.same]

theorem selfSame_float {x : Number.Binary64} (h : x.code ≤ Number.Binary64.infinityCode) :
    (float x).SelfSame := by
  simp [SelfSame, same, numeral?, Number.Numeral.same, Number.Binary64.sameValue_self h]

@[simp] theorem selfSame_ofNumeral {n : Number.Numeral} (h : n.IsFinite) :
    (ofNumeral n).SelfSame := by
  cases n with
  | int n => exact selfSame_int n
  | float x => exact selfSame_float (Nat.le_of_lt h)

theorem selfSame_ofNumeral_addOne {n : Number.Numeral} (h : n.IsFinite) :
    (ofNumeral n.addOne).SelfSame := by
  cases n with
  | int n => exact selfSame_int (n + 1)
  | float x => exact selfSame_float (Number.Binary64.code_addOne_le h)

theorem selfSame_list {vs : List Value} (h : ∀ v ∈ vs, v.SelfSame) : (list vs).SelfSame := by
  rw [SelfSame, same, if_pos rfl, Comparison.all_eq_ok_true_iff]
  induction vs with
  | nil => exact nofun
  | cons v vs ih =>
    rw [List.forall_mem_cons] at h
    rw [sameItems, List.forall_mem_cons]
    exact ⟨h.1, ih h.2⟩

theorem same_map_iff {es fs : Entries Value} : (map es).same (map fs) = .ok true ↔
    es.length = fs.length ∧
      ∀ e ∈ es, ∃ w, Entries.get? fs e.1 = some w ∧ e.2.same w = .ok true := by
  have found : (∀ c ∈ sameEntries es fs, c = .ok true) ↔
      ∀ e ∈ es, ∃ w, Entries.get? fs e.1 = some w ∧ e.2.same w = .ok true := by
    induction es with
    | nil => simp [sameEntries]
    | cons e es ih =>
      obtain ⟨key, v⟩ := e
      rw [sameEntries, List.forall_mem_cons, List.forall_mem_cons, ih]
      cases Entries.get? fs key <;> simp
  rw [same]
  by_cases hl : es.length = fs.length
  · rw [if_pos hl, Comparison.all_eq_ok_true_iff, found]
    exact (and_iff_right hl).symm
  · rw [if_neg hl]
    exact ⟨nofun, fun h => absurd h.1 hl⟩

theorem selfSame_map_iff {es : Entries Value} (hn : (Entries.keys es).Nodup) :
    (map es).SelfSame ↔ ∀ e ∈ es, e.2.SelfSame := by
  rw [SelfSame, same_map_iff, and_iff_right rfl]
  refine forall₂_congr fun e he => ?_
  rw [Entries.get?_of_mem hn he]
  exact ⟨fun ⟨w, hw, h⟩ => Option.some.inj hw ▸ h, fun h => ⟨e.2, rfl, h⟩⟩

theorem selfSame_entry {v : Value} (h : v.SelfSame) (key : String) : (entry key v).SelfSame :=
  (selfSame_map_iff (by simp [Entries.keys])).2 fun e he => by
    rw [List.mem_singleton.1 he]
    exact h

end Value

open Value

namespace Inference

theorem selfSame_typedText [Platform] {field s : String} {v : Value}
    (h : typedText field s = .ok v) :
    v.SelfSame := by
  cases (typedAs_of_typedText h).2 with
  | existence b => exact selfSame_entry (selfSame_bool b) "$exists"
  | moment m => exact selfSame_moment m
  | objectId digits => exact selfSame_objectId digits
  | bool b => exact selfSame_bool b
  | number hn => exact selfSame_ofNumeral (Number.Numeral.isFinite_of_numeral? hn)
  | text => exact selfSame_text s

end Inference

namespace Operator

theorem selfSame_of_typedItems [Platform] {field : String} {items : List (List Char)}
    {vs : List Value} (h : typedItems field items = .ok vs) : ∀ v ∈ vs, v.SelfSame := fun v hv =>
  let ⟨_, hs⟩ := exists_of_mem_typedItems h v hv
  Inference.selfSame_typedText hs

theorem selfSame_apply [Platform] {cap : Int} {op : Operator} {field s : String} {c : Entries Value}
    (h : op.apply cap field (.text s) = .ok c) : ∀ e ∈ c, e.2.SelfSame := by
  cases makes_of_apply h with
  | compared _ hv => simpa using Inference.selfSame_typedText hv
  | members _ hv _ => simpa using selfSame_list (selfSame_of_typedItems hv)
  | pattern _ _ => simp
  | existence b => simp
  | bounds hl hh =>
    simpa using ⟨Inference.selfSame_typedText hl, Inference.selfSame_typedText hh⟩

end Operator

namespace LengthFilter

open Outcome

theorem selfSame_lengthOf (field : String) : (lengthOf field).SelfSame := by
  refine selfSame_entry (selfSame_entry (selfSame_list ?_) "$ifNull") "$size"
  have none_missing : (Value.list []).SelfSame := selfSame_list nofun
  simpa using none_missing

theorem selfSame_betweenCondition {s : List Char} {c : Entries Value}
    (h : betweenCondition s = .ok c) : ∀ e ∈ c, e.2.SelfSame := by
  unfold betweenCondition at h
  extract_lets range at h
  have read (low high : List Char) (h : range low high = .ok c) : ∀ e ∈ c, e.2.SelfSame := by
    obtain ⟨l, hl, h⟩ := bind_eq_ok_iff.1 h
    split at h
    · obtain ⟨n, hn, h⟩ := bind_eq_ok_iff.1 h
      cases hn
      cases l with
      | none => cases h
      | some l =>
        cases h
        have finite := Number.Numeral.isFinite_of_numeral? hl
        simpa [finite] using selfSame_ofNumeral_addOne finite
    · obtain ⟨n, hn, h⟩ := bind_eq_ok_iff.1 h
      cases l <;> cases n <;> cases h
      simp [Number.Numeral.isFinite_of_numeral? hl, Number.Numeral.isFinite_of_numeral? hn]
  split at h
  · exact read _ _ h
  · exact read _ _ h
  · cases h

theorem selfSame_comparison (op : LengthOperator) {n : Number.Numeral} (h : n.IsFinite) :
    ∀ e ∈ comparison op n, e.2.SelfSame := by
  cases op with
  | between => simpa [comparison, h] using selfSame_ofNumeral_addOne h
  | _ => simp [comparison, h]

theorem selfSame_condition {name : String} {operand : Value} {c : Entries Value}
    (h : condition name operand = .ok c) : ∀ e ∈ c, e.2.SelfSame := by
  rw [condition] at h
  split at h
  · obtain ⟨s, _, h⟩ := bind_eq_ok_iff.1 h
    exact selfSame_betweenCondition h
  · obtain ⟨n, hn, h⟩ := bind_eq_ok_iff.1 h
    cases n with
    | none => cases h
    | some n =>
      dsimp only at h
      split at h
      · cases h
        cases operand with
        | text s => exact selfSame_comparison _ (Number.Numeral.isFinite_of_numeral? hn)
        | _ => cases hn
      · cases h

end LengthFilter

namespace Filter

open Entries

theorem selfSame_comparisonOf {v : Value} (hc : IsCondition v) (hv : v.SelfSame) :
    ∀ e ∈ comparisonOf v, e.2.SelfSame := by
  cases v with
  | map c => exact (selfSame_map_iff hc.comparisonOf.nodup).1 hv
  | _ => simp [comparisonOf, hv]

theorem selfSame_join {existing : Option Value}
    (he : ∀ e ∈ existing, IsCondition e ∧ e.SelfSame) {v : Value} (hc : IsCondition v)
    (hv : v.SelfSame) : (join existing v).SelfSame := by
  cases existing with
  | none => exact hv
  | some e =>
    obtain ⟨hce, hse⟩ := he e rfl
    cases v with
    | map c =>
      have nodup := nodup_keys_putAll hce.comparisonOf.nodup c
      refine (selfSame_map_iff nodup).2 fun x hx => ?_
      exact (mem_putAll hx).elim (selfSame_comparisonOf hc hv x) (selfSame_comparisonOf hce hse x)
    | _ => exact hse

end Filter

namespace Asked

open ResourceQuery.Filter

variable [Platform] {rules : FilterRules} {query : Entries Value}

theorem selfSame_of_mem_conditions (hc : rules.operators.custom = [])
    (ht : ∀ e ∈ query, ∃ s, e.2 = .text s) {asked : Asked rules query} :
    ∀ c ∈ asked.conditions, c.2.SelfSame := by
  refine forall_conditions_of_texts (fun _ _ _ => Inference.selfSame_typedText)
    (fun op field s c made => ?_) hc ht
  have nodup : (Entries.keys c).Nodup := by
    rw [Operator.keys_of_apply made]
    exact op.nodup_writes
  rw [selfSame_map_iff nodup]
  exact Operator.selfSame_apply made

theorem selfSame_filters (asked : Asked rules query) (hc : rules.operators.custom = [])
    (ht : ∀ e ∈ query, ∃ s, e.2 = .text s) : ∀ e ∈ asked.filters, e.2.SelfSame := by
  have both := asked.forall_filters (P := fun v => IsCondition v ∧ v.SelfSame)
    (fun _ _ he hv =>
      ⟨isCondition_join (fun e h => (he e h).1) hv.1, selfSame_join he hv.1 hv.2⟩)
    fun c h => ⟨isCondition_of_mem_conditions hc ht h, selfSame_of_mem_conditions hc ht c h⟩
  exact fun e he => (both e he).2

end Asked

namespace SortOrder

/-- An order says of each field once how it is sorted by, and equals itself. -/
structure IsOrder (order : Entries Value) : Prop where
  nodup : (Entries.keys order).Nodup
  selfSame : ∀ e ∈ order, e.2.SelfSame

namespace IsOrder

theorem selfSame_direction (s : List Char) : (direction s).SelfSame := by
  unfold direction
  split <;> rfl

theorem selfSame_of_isDirection {v : Value} (h : isDirection v = true) : v.SelfSame := by
  cases v with
  | bool b => exact selfSame_bool b
  | int n => exact selfSame_int n
  | float x =>
    simp only [isDirection, numeral?, Number.Numeral.same, Bool.or_eq_true,
      Number.Binary64.equalsInt, Bool.and_eq_true, Number.Binary64.isFinite,
      decide_eq_true_eq] at h
    exact selfSame_float (h.elim (fun h => h.1.le) fun h => h.1.le)
  | _ => cases h

theorem sameInOrder {order : Entries Value} (h : IsOrder order) :
    Entries.sameInOrder order order = .ok true := by
  have entries : (Value.map order).same (.map order) = .ok true :=
    (selfSame_map_iff h.nodup).2 h.selfSame
  rw [Entries.sameInOrder, Comparison.all_eq_ok_true_iff]
  simpa using entries

end IsOrder
end SortOrder

namespace SortRules

open SortOrder

theorem isOrder_default {fields : Option (List String)} {default : Option (Entries Value)}
    {rules : SortRules} (h : make fields default = .ok rules) : IsOrder rules.default := by
  obtain ⟨default_eq, directions, -⟩ := make_eq_ok h
  exact ⟨default_eq ▸ nodup_keys_configured default,
    fun e he => IsOrder.selfSame_of_isDirection (directions e he)⟩

variable {rules : SortRules}

theorem Reads.isOrder {order : Entries Value} (read : rules.Reads order)
    (h : IsOrder rules.default) : IsOrder order := by
  cases read with
  | default => exact h
  | asked _ _ =>
    refine ⟨Entries.nodup_keys_ofPairs _, fun e he => ?_⟩
    obtain ⟨-, text, -, -, -, direction_eq⟩ := mem_ofPairs_directed he
    exact direction_eq ▸ IsOrder.selfSame_direction text

theorem isOrder_read (h : IsOrder rules.default) (query : Entries Value) :
    IsOrder (rules.read query) :=
  (rules.reads_read query).isOrder h

end SortRules
end ResourceQuery
