import ResourceQuery.Filter
import ResourceQuery.Proofs.Entries

/-!
Conditions merged one after another. A merge only touches the field that it is for:
what a field holds in the end is the fold of the conditions on that field alone, and
the fields are those that had a condition before or are merged.
-/

namespace ResourceQuery.Filter

open Entries

/-- A condition as a comparison: a plain value asks for equality. -/
def comparisonOf : Value → Entries Value
  | .map comparison => comparison
  | plain => [("$eq", plain)]

def join (existing : Option Value) (value : Value) : Value :=
  match existing with
  | none => value
  | some e =>
    match value with
    | .map comparison => .map (putAll (comparisonOf e) comparison)
    | _ => e

theorem merge_eq (filters : Entries Value) (field : String) (value : Value) :
    merge filters field value =
      if (get? filters field).isSome ∧ value.entries? = none then filters
      else put filters field (join (get? filters field) value) := by
  unfold merge
  cases get? filters field with
  | none => rw [if_neg (by simp)]; rfl
  | some e =>
    cases value with
    | map comparison =>
      rw [if_neg (by simp [Value.entries?])]
      cases e <;> rfl
    | _ => rw [if_pos ⟨rfl, rfl⟩]

theorem join_of_plain {value : Value} (h : value.entries? = none) (e : Value) :
    join (some e) value = e := by
  cases value with
  | map comparison => cases h
  | _ => rfl

theorem get?_merge_self (filters : Entries Value) (field : String) (value : Value) :
    get? (merge filters field value) field = some (join (get? filters field) value) := by
  rw [merge_eq]
  split
  · rename_i h
    obtain ⟨e, he⟩ := Option.isSome_iff_exists.1 h.1
    rw [he, join_of_plain h.2]
  · exact get?_put_self ..

theorem get?_merge (filters : Entries Value) (field other : String) (value : Value) :
    get? (merge filters field value) other =
      if other = field then some (join (get? filters field) value) else get? filters other := by
  split
  · rename_i h
    rw [h, get?_merge_self]
  · rename_i h
    exact get?_merge_of_ne filters value h

theorem mem_keys_merge {filters : Entries Value} {field other : String} {value : Value} :
    other ∈ keys (merge filters field value) ↔ other ∈ keys filters ∨ other = field := by
  rw [← get?_isSome_iff, get?_merge, ← get?_isSome_iff]
  split
  · rename_i h
    simp [h]
  · rename_i h
    simp [h]

theorem nodup_keys_merge {filters : Entries Value} (h : (keys filters).Nodup) (field : String)
    (value : Value) : (keys (merge filters field value)).Nodup := by
  rw [merge_eq]
  split
  · exact h
  · exact nodup_keys_put h field _

def mergeAll (filters : Entries Value) (conditions : List (String × Value)) : Entries Value :=
  conditions.foldl (fun fs c => merge fs c.1 c.2) filters

@[simp] theorem mergeAll_cons (filters : Entries Value) (c : String × Value)
    (cs : List (String × Value)) :
    mergeAll filters (c :: cs) = mergeAll (merge filters c.1 c.2) cs := rfl

@[simp] theorem mergeAll_append (filters : Entries Value) (cs ds : List (String × Value)) :
    mergeAll filters (cs ++ ds) = mergeAll (mergeAll filters cs) ds := List.foldl_append

@[simp] theorem mem_keys_mergeAll {filters : Entries Value} {cs : List (String × Value)}
    {field : String} :
    field ∈ keys (mergeAll filters cs) ↔ field ∈ keys filters ∨ ∃ c ∈ cs, c.1 = field := by
  induction cs generalizing filters with
  | nil => simp [mergeAll]
  | cons c cs ih =>
    rw [mergeAll_cons, ih, mem_keys_merge, or_assoc, @eq_comm _ field c.1]
    simp only [List.mem_cons, exists_eq_or_imp]

theorem nodup_keys_mergeAll {filters : Entries Value} (h : (keys filters).Nodup)
    (cs : List (String × Value)) : (keys (mergeAll filters cs)).Nodup := by
  induction cs generalizing filters with
  | nil => exact h
  | cons c cs ih => exact ih (nodup_keys_merge h c.1 c.2)

def onField (field : String) (cs : List (String × Value)) : List Value :=
  (cs.filter fun c => c.1 = field).map (·.2)

theorem onField_cons (field : String) (c : String × Value) (cs : List (String × Value)) :
    onField field (c :: cs) =
      if c.1 = field then c.2 :: onField field cs else onField field cs := by
  rw [onField, onField, List.filter_cons]
  by_cases h : c.1 = field <;> simp [h]

@[simp] theorem onField_append (field : String) (cs ds : List (String × Value)) :
    onField field (cs ++ ds) = onField field cs ++ onField field ds := by
  simp [onField]

@[simp] theorem mem_onField {field : String} {cs : List (String × Value)} {v : Value} :
    v ∈ onField field cs ↔ (field, v) ∈ cs := by
  simp [onField]

def joinAll (existing : Option Value) (values : List Value) : Option Value :=
  values.foldl (fun e v => some (join e v)) existing

@[simp] theorem joinAll_append (existing : Option Value) (vs ws : List Value) :
    joinAll existing (vs ++ ws) = joinAll (joinAll existing vs) ws := List.foldl_append

theorem forall_joinAll {P : Value → Prop}
    (keep : ∀ existing v, (∀ e ∈ existing, P e) → P v → P (join existing v))
    {vs : List Value} (hv : ∀ v ∈ vs, P v) {existing : Option Value} (he : ∀ e ∈ existing, P e) :
    ∀ v ∈ joinAll existing vs, P v := by
  induction vs generalizing existing with
  | nil => exact he
  | cons v vs ih =>
    rw [List.forall_mem_cons] at hv
    refine ih hv.2 fun e h => ?_
    cases h
    exact keep existing v he hv.1

theorem get?_mergeAll (filters : Entries Value) (cs : List (String × Value)) (field : String) :
    get? (mergeAll filters cs) field = joinAll (get? filters field) (onField field cs) := by
  induction cs generalizing filters with
  | nil => rfl
  | cons c cs ih =>
    rw [mergeAll_cons, ih, get?_merge, onField_cons]
    by_cases h : c.1 = field
    · rw [if_pos h.symm, if_pos h, h]
      rfl
    · rw [if_neg (Ne.symm h), if_neg h]

end ResourceQuery.Filter
