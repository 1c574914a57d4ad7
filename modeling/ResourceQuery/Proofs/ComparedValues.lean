import ResourceQuery.Proofs.ConditionShape

/-!
What comparisons compare with. The text of an operand is typed part by part, and each part is
compared as an atom unless it asks for an existence check: such a check stays a map where a value
is expected.
-/

namespace ResourceQuery

namespace Inference

/-- Does a text ask whether a field is there? -/
def IsExistenceCheck (s : List Char) : Prop := existenceMark <+: s

instance (s : List Char) : Decidable (IsExistenceCheck s) :=
  inferInstanceAs (Decidable (existenceMark <+: s))

theorem behind?_existenceMark_eq_none_iff {s : List Char} :
    Text.behind? existenceMark s = none ↔ ¬IsExistenceCheck s := by
  rw [Text.behind?, IsExistenceCheck, ← List.isPrefixOf_iff_prefix]
  split <;> simp_all

variable [Platform]

theorem isAtom_moment {s : String} {v : Value} (h : moment s = .ok v) : v.isAtom := by
  unfold moment at h
  split at h
  · cases h
    rfl
  · split at h <;> cases h <;> rfl

theorem isAtom_objectId (s : String) : (objectId s).isAtom := by
  unfold objectId
  split <;> rfl

theorem isAtom_typedText_iff {field s : String} {v : Value} (h : typedText field s = .ok v) :
    v.isAtom ↔ ¬IsExistenceCheck s.toList := by
  rw [← behind?_existenceMark_eq_none_iff]
  unfold typedText at h
  split at h
  · cases h
  split at h
  · rename_i wanted marked
    cases h
    simp [marked, Value.entry, Value.isAtom]
  rename_i unmarked
  refine iff_of_true ?_ unmarked
  split at h
  · exact isAtom_moment h
  split at h
  · cases h
    exact isAtom_objectId s
  split at h
  · cases h
    rfl
  split at h
  · cases h
    rfl
  · obtain ⟨n, -, rfl⟩ := Outcome.map_eq_ok_iff.1 h
    cases n with
    | none => rfl
    | some n => exact Value.isAtom_ofNumeral n

end Inference

def Value.compared : Value → List Value
  | .list items => items
  | v => [v]

theorem IsOperand.compared {v : Value} (h : IsOperand v) : v.compared = [v] := by
  cases h with
  | atom h => cases v <;> first | rfl | cases h
  | existence b => rfl

def comparedValues (c : Entries Value) : List Value := c.flatMap fun e => e.2.compared

namespace Operator

def comparing : List Operator := [gt, gte, lt, lte, ne, isIn, notIn, between]

def parts (op : Operator) (s : String) : List String :=
  match op with
  | isIn | notIn => (Text.commaList s.toList).map String.ofList
  | between => (Text.trimmedPieces s.toList).map String.ofList
  | _ => [s]

variable [Platform] {cap : Int} {field s : String} {c : Entries Value}

theorem forall₂_single {key : String}
    (h : (Inference.typedText field s).map (fun v => [(key, v)]) = .ok c) :
    List.Forall₂ (fun part v => Inference.typedText field part = .ok v) [s]
      (comparedValues c) := by
  obtain ⟨v, hv, rfl⟩ := Outcome.map_eq_ok_iff.1 h
  have values : comparedValues [(key, v)] = [v] := by
    rw [comparedValues, List.flatMap_singleton, (Inference.isOperand_typedText hv).compared]
  rw [values]
  exact .cons hv .nil

theorem forall₂_items {key : String}
    (h : (itemList cap field s >>= fun v => pure [(key, v)]) = .ok c) :
    List.Forall₂ (fun part v => Inference.typedText field part = .ok v)
      ((Text.commaList s.toList).map String.ofList) (comparedValues c) := by
  obtain ⟨v, hv, h⟩ := Outcome.bind_eq_ok_iff.1 h
  obtain ⟨vs, hvs, hv⟩ := Outcome.bind_eq_ok_iff.1 hv
  split at hv
  · cases hv
  cases hv
  cases h
  have values : comparedValues [(key, .list vs)] = vs := List.flatMap_singleton _ _
  rw [values, List.forall₂_map_left_iff]
  exact Outcome.forall₂_of_mapM hvs

theorem forall₂_bounds (h : betweenCondition field s = .ok c) :
    List.Forall₂ (fun part v => Inference.typedText field part = .ok v)
      ((Text.trimmedPieces s.toList).map String.ofList) (comparedValues c) := by
  unfold betweenCondition at h
  split at h
  · rename_i low high two
    obtain ⟨l, hl, h⟩ := Outcome.bind_eq_ok_iff.1 h
    obtain ⟨r, hr, h⟩ := Outcome.bind_eq_ok_iff.1 h
    cases h
    have values : comparedValues [("$gte", l), ("$lte", r)] = [l, r] := by
      rw [comparedValues, List.flatMap_cons, List.flatMap_singleton,
        (Inference.isOperand_typedText hl).compared, (Inference.isOperand_typedText hr).compared]
      rfl
    rw [two, values]
    exact .cons hl (.cons hr .nil)
  · cases h

theorem forall₂_parts {op : Operator} (hop : op ∈ comparing)
    (h : op.apply cap field (.text s) = .ok c) :
    List.Forall₂ (fun part v => Inference.typedText field part = .ok v) (op.parts s)
      (comparedValues c) := by
  cases op with
  | gt | gte | lt | lte | ne => exact forall₂_single h
  | isIn | notIn => exact forall₂_items h
  | between => exact forall₂_bounds h
  | regex | «exists» => exact absurd hop (by decide)

end Operator

namespace Operators

open Operator

variable {ops : Operators} {field s : String} {c : Entries Value}

/-- A comparison compares with atoms alone exactly when no part of its operand asks for an
existence check. -/
theorem atoms_compared_iff [Platform] {op : Operator} (hop : op ∈ comparing)
    (h : ops.apply op.name field (.text s) = .ok (.map c)) :
    (∀ v ∈ comparedValues c, v.isAtom) ↔
      ∀ part ∈ op.parts s, ¬Inference.IsExistenceCheck part.toList := by
  have typed := forall₂_parts hop (apply_name_eq_ok_iff.1 h)
  generalize op.parts s = texts, comparedValues c = values at typed
  induction typed with
  | nil => exact iff_of_true nofun nofun
  | cons hv _ ih =>
    rw [List.forall_mem_cons, List.forall_mem_cons]
    exact and_congr (Inference.isAtom_typedText_iff hv) ih

theorem atoms_compared_iff_roles :
    ∃ ops, make (some 3) [] = .ok ops ∧ Operator.isIn ∈ comparing ∧
      ops.apply "in" "role" (.text " 7,$exists,, $exist") =
        .ok (.map [("$in", .list [.int 7, .text "$exists", .text "$exist"])]) ∧
      ∀ v ∈ comparedValues [("$in", .list [.int 7, .text "$exists", .text "$exist"])],
        v.isAtom := by
  have asked : ∀ part ∈ Operator.isIn.parts " 7,$exists,, $exist",
      ¬Inference.IsExistenceCheck part.toList := by decide +kernel
  have applied : apply ⟨3, []⟩ "in" "role" (.text " 7,$exists,, $exist") =
      .ok (.map [("$in", .list [.int 7, .text "$exists", .text "$exist"])]) := rfl
  exact ⟨⟨3, []⟩, rfl, by decide, applied, (atoms_compared_iff (by decide) applied).2 asked⟩

/-- An operand that asks for an existence check is compared as a map, in a list as well. -/
theorem map_compared :
    ∃ ops, make none [] = .ok ops ∧
      ops.apply "gt" "age" (.text "$exist:true") =
        .ok (.map [("$gt", .map [("$exists", .bool true)])]) ∧
      ops.apply "in" "role" (.text "a, $exist:no") =
        .ok (.map [("$in", .list [.text "a", .map [("$exists", .bool false)]])]) ∧
      ∀ b, (Value.map [("$exists", .bool b)]).isAtom = false :=
  ⟨⟨1000, []⟩, rfl, rfl, rfl, fun _ => rfl⟩

end Operators
end ResourceQuery
