import ResourceQuery.LengthFilter
import ResourceQuery.Proofs.Entries
import ResourceQuery.Proofs.Outcome

/-!
What operators make of an operand, and the keys that they write. The keys do not depend
on the operand, and the operators that share a key come in pairs: a bound is written by
the operator for it and by the one for both bounds.
-/

namespace ResourceQuery

namespace Operator

open Outcome

def writes : Operator → List String
  | .gt => ["$gt"]
  | .gte => ["$gte"]
  | .lt => ["$lt"]
  | .lte => ["$lte"]
  | .ne => ["$ne"]
  | .isIn => ["$in"]
  | .notIn => ["$nin"]
  | .regex => ["$regex", "$options"]
  | .exists => ["$exists"]
  | .between => ["$gte", "$lte"]

theorem nodup_writes (op : Operator) : op.writes.Nodup := by cases op <;> decide

theorem equality_not_written (op : Operator) : "$eq" ∉ op.writes := by cases op <;> decide

theorem mem_all (op : Operator) : op ∈ all := by cases op <;> decide

theorem name_of_ofName? {s : String} {op : Operator} (h : ofName? s = some op) :
    op.name = s := by
  simpa using List.find?_some h

theorem name_inj {a b : Operator} (h : a.name = b.name) : a = b := by
  simpa using congrArg ofName? h

theorem eq_of_writes {a b c : Operator} {key : String} (ha : key ∈ a.writes)
    (hb : key ∈ b.writes) (hc : key ∈ c.writes) : a = b ∨ a = c ∨ b = c := by
  have check : ∀ a ∈ all, ∀ b ∈ all, ∀ c ∈ all, ∀ key ∈ a.writes, key ∈ b.writes →
      key ∈ c.writes → a = b ∨ a = c ∨ b = c := by decide +kernel
  exact check a a.mem_all b b.mem_all c c.mem_all key ha hb hc

variable [Platform]

theorem exists_of_mem_typedItems {field : String} {items : List (List Char)} {vs : List Value}
    (h : typedItems field items = .ok vs) :
    ∀ v ∈ vs, ∃ s, Inference.typedText field s = .ok v := by
  induction items generalizing vs with
  | nil =>
    cases h
    exact nofun
  | cons item items ih =>
    rw [typedItems, List.mapM_cons] at h
    obtain ⟨w, hw, h⟩ := bind_eq_ok_iff.1 h
    obtain ⟨ws, hws, h⟩ := bind_eq_ok_iff.1 h
    cases h
    exact List.forall_mem_cons.2 ⟨⟨_, hw⟩, ih hws⟩

inductive Makes (cap : Int) (field : String) (operand : Value) : Operator → Entries Value → Prop
  | compared {op : Operator} {key : String}
      (hk : (op, key) ∈ [(gt, "$gt"), (gte, "$gte"), (lt, "$lt"), (lte, "$lte"), (ne, "$ne")])
      {v : Value} (hv : Inference.typed field operand = .ok v) :
      Makes cap field operand op [(key, v)]
  | members {op : Operator} {key : String} (hk : (op, key) ∈ [(isIn, "$in"), (notIn, "$nin")])
      {items : List (List Char)} {vs : List Value} (hv : typedItems field items = .ok vs)
      (hn : vs.length ≤ cap) : Makes cap field operand op [(key, .list vs)]
  | pattern {s : String} {p : List Char} (hs : s.length ≤ Inference.maxLength)
      (hp : Pattern.portable s.toList = .ok p) :
      Makes cap field operand regex [("$regex", .text (String.ofList p)), ("$options", .text "i")]
  | existence (b : Bool) : Makes cap field operand «exists» [("$exists", .bool b)]
  | bounds {l h : String} {low high : Value} (hl : Inference.typedText field l = .ok low)
      (hh : Inference.typedText field h = .ok high) :
      Makes cap field operand between [("$gte", low), ("$lte", high)]

theorem makes_of_apply {cap : Int} {op : Operator} {field : String} {operand : Value}
    {c : Entries Value} (h : op.apply cap field operand = .ok c) :
    Makes cap field operand op c := by
  have single {key : String}
      (hk : (op, key) ∈ [(gt, "$gt"), (gte, "$gte"), (lt, "$lt"), (lte, "$lte"), (ne, "$ne")])
      (h : (Inference.typed field operand).map (fun v => [(key, v)]) = .ok c) :
      Makes cap field operand op c := by
    obtain ⟨v, hv, rfl⟩ := map_eq_ok_iff.1 h
    exact .compared hk hv
  have members {key : String} (hk : (op, key) ∈ [(isIn, "$in"), (notIn, "$nin")])
      (h : (divisibleText operand >>= fun s => itemList cap field s >>= fun v =>
        pure [(key, v)]) = .ok c) : Makes cap field operand op c := by
    obtain ⟨s, _, h⟩ := bind_eq_ok_iff.1 h
    obtain ⟨v, hv, h⟩ := bind_eq_ok_iff.1 h
    obtain ⟨vs, hvs, hv⟩ := bind_eq_ok_iff.1 hv
    split at hv
    · cases hv
    · rename_i few
      cases hv
      cases h
      exact .members hk hvs (Int.not_lt.1 few)
  cases op with
  | gt => exact single (by decide) h
  | gte => exact single (by decide) h
  | lt => exact single (by decide) h
  | lte => exact single (by decide) h
  | ne => exact single (by decide) h
  | isIn => exact members (by decide) h
  | notIn => exact members (by decide) h
  | regex =>
    obtain ⟨s, _, h⟩ := bind_eq_ok_iff.1 h
    rw [patternCondition] at h
    split at h
    · cases h
    · rename_i short
      obtain ⟨p, hp, rfl⟩ := map_eq_ok_iff.1 h
      exact .pattern (Nat.not_lt.1 short) hp
  | «exists» =>
    cases h
    exact .existence _
  | between =>
    obtain ⟨s, _, h⟩ := bind_eq_ok_iff.1 h
    rw [betweenCondition] at h
    split at h
    · obtain ⟨low, hl, h⟩ := bind_eq_ok_iff.1 h
      obtain ⟨high, hh, h⟩ := bind_eq_ok_iff.1 h
      cases h
      exact .bounds hl hh
    · cases h

theorem keys_of_apply {cap : Int} {op : Operator} {field : String} {operand : Value}
    {c : Entries Value} (h : op.apply cap field operand = .ok c) :
    Entries.keys c = op.writes := by
  cases makes_of_apply h with
  | compared hk hv =>
    simp only [List.mem_cons, Prod.mk.injEq, List.not_mem_nil, or_false] at hk
    rcases hk with ⟨rfl, rfl⟩ | ⟨rfl, rfl⟩ | ⟨rfl, rfl⟩ | ⟨rfl, rfl⟩ | ⟨rfl, rfl⟩ <;> rfl
  | members hk hv hn =>
    simp only [List.mem_cons, Prod.mk.injEq, List.not_mem_nil, or_false] at hk
    rcases hk with ⟨rfl, rfl⟩ | ⟨rfl, rfl⟩ <;> rfl
  | pattern hs hp => rfl
  | existence b => rfl
  | bounds hl hh => rfl

end Operator

namespace LengthOperator

def writes : LengthOperator → List String
  | .gt => ["$gt"]
  | .gte => ["$gte"]
  | .lt => ["$lt"]
  | .lte => ["$lte"]
  | .eq => ["$eq"]
  | .ne => ["$ne"]
  | .between => ["$gte", "$lte"]

theorem nodup_writes (op : LengthOperator) : op.writes.Nodup := by cases op <;> decide

theorem mem_all (op : LengthOperator) : op ∈ all := by cases op <;> decide

theorem name_of_ofName? {s : String} {op : LengthOperator} (h : ofName? s = some op) :
    op.name = s := by
  simpa using List.find?_some h

theorem name_inj {a b : LengthOperator} (h : a.name = b.name) : a = b := by
  simpa using congrArg ofName? h

theorem eq_of_writes {a b c : LengthOperator} {key : String} (ha : key ∈ a.writes)
    (hb : key ∈ b.writes) (hc : key ∈ c.writes) : a = b ∨ a = c ∨ b = c := by
  have check : ∀ a ∈ all, ∀ b ∈ all, ∀ c ∈ all, ∀ key ∈ a.writes, key ∈ b.writes →
      key ∈ c.writes → a = b ∨ a = c ∨ b = c := by decide +kernel
  exact check a a.mem_all b b.mem_all c c.mem_all key ha hb hc

end LengthOperator

namespace Operators

variable {ops : Operators} {field : String} {operand : Value}

/-- A configuration that is accepted leaves the names of the operators on lengths alone. -/
theorem make_eq_ok {cap : Option Int} {custom : Entries CustomOperator}
    (made : make cap custom = .ok ops) :
    ops.cap = orDefault cap defaultCap ∧ ops.custom = custom ∧
      ∀ name ∈ Entries.keys custom, LengthOperator.ofName? name = none := by
  rw [make] at made
  split at made
  · cases made
  split at made
  · cases made
  · rename_i free
    cases made
    refine ⟨rfl, rfl, fun name hm => ?_⟩
    obtain ⟨c, hc, rfl⟩ := List.mem_map.1 hm
    exact Option.not_isSome_iff_eq_none.1 fun taken => free (List.any_eq_true.2 ⟨c, hc, taken⟩)

variable [Platform]

@[simp] theorem apply_name (ops : Operators) (op : Operator) (field : String) (operand : Value) :
    ops.apply op.name field operand = (op.apply ops.cap field operand).map .map := by
  have hl : LengthOperator.ofName? op.name = none := by cases op <;> decide
  rw [Operators.apply, hl, Operator.ofName?_name]
  rfl

theorem apply_name_eq_ok_iff {op : Operator} {c : Entries Value} :
    ops.apply op.name field operand = .ok (.map c) ↔
      op.apply ops.cap field operand = .ok c := by
  rw [apply_name, Outcome.map_eq_ok_iff]
  simp

theorem apply_eq_ok_iff (hc : ops.custom = []) {name : String} {v : Value} :
    ops.apply name field operand = .ok v ↔
      ∃ op c, name = Operator.name op ∧ ops.apply op.name field operand = .ok (.map c) ∧
        v = .map c := by
  constructor
  · intro h
    cases hop : Operator.ofName? name with
    | none =>
      rw [Operators.apply, hop, hc] at h
      split at h <;> cases h
    | some op =>
      obtain rfl := Operator.name_of_ofName? hop
      have hv := h
      rw [apply_name] at hv
      obtain ⟨c, _, rfl⟩ := Outcome.map_eq_ok_iff.1 hv
      exact ⟨op, c, rfl, h, rfl⟩
  · rintro ⟨op, c, rfl, hv, rfl⟩
    exact hv

end Operators

namespace LengthFilter

open Outcome

theorem keys_comparison (op : LengthOperator) (n : Number.Numeral) :
    Entries.keys (comparison op n) = op.writes := by
  cases op <;> rfl

theorem keys_betweenCondition {s : List Char} {c : Entries Value}
    (h : betweenCondition s = .ok c) :
    Entries.keys c = LengthOperator.between.writes := by
  unfold betweenCondition at h
  extract_lets range at h
  have written (low high : List Char) (h : range low high = .ok c) :
      Entries.keys c = LengthOperator.between.writes := by
    obtain ⟨l, _, h⟩ := bind_eq_ok_iff.1 h
    split at h
    all_goals
      obtain ⟨n, _, h⟩ := bind_eq_ok_iff.1 h
      cases l <;> cases n <;> cases h
      rfl
  split at h
  · exact written _ _ h
  · exact written _ _ h
  · cases h

theorem keys_of_condition {op : LengthOperator} {operand : Value} {c : Entries Value}
    (h : condition op.name operand = .ok c) : Entries.keys c = op.writes := by
  rw [condition] at h
  split at h
  · rename_i hb
    have hop : op = .between := LengthOperator.name_inj hb
    obtain ⟨s, _, h⟩ := bind_eq_ok_iff.1 h
    rw [hop]
    exact keys_betweenCondition h
  · obtain ⟨n, _, h⟩ := bind_eq_ok_iff.1 h
    cases n with
    | none => cases h
    | some n =>
      rw [LengthOperator.ofName?_name] at h
      cases h
      exact keys_comparison op n

end LengthFilter
end ResourceQuery
