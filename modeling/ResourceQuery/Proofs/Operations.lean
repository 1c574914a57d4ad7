import ResourceQuery.LengthFilter
import ResourceQuery.Proofs.Entries

/-!
Length operations put together. Every derived field counts the list that an operation
is for, and what is compared there is the update of the operations on that list alone:
different lists never share a derived field.
-/

namespace ResourceQuery.LengthFilter

open Entries

theorem countField_inj {field other : String} :
    countField field = countField other ↔ field = other := by
  constructor
  · intro h
    have hl := congrArg String.toList h
    simp only [countField, String.toList_append] at hl
    exact String.toList_injective (List.append_cancel_right hl)
  · intro h
    rw [h]

def addAll (f : LengthFilter) (operations : List (String × Entries Value)) : LengthFilter :=
  operations.foldl (fun f o => f.add o.1 o.2) f

def ofOperations (operations : List (String × Entries Value)) : LengthFilter :=
  addAll {} operations

@[simp] theorem addAll_cons (f : LengthFilter) (o : String × Entries Value)
    (os : List (String × Entries Value)) : addAll f (o :: os) = addAll (f.add o.1 o.2) os := rfl

theorem mem_lengths_addAll {f : LengthFilter} {os : List (String × Entries Value)}
    {e : String × Value} (h : e ∈ (addAll f os).lengths) :
    e ∈ f.lengths ∨ ∃ o ∈ os, e = (countField o.1, lengthOf o.1) := by
  induction os generalizing f with
  | nil => exact .inl h
  | cons o os ih =>
    rcases ih h with h | ⟨p, hp, h⟩
    · rcases mem_put h with h | h
      · exact .inr ⟨o, List.mem_cons_self, h⟩
      · exact .inl h
    · exact .inr ⟨p, List.mem_cons_of_mem _ hp, h⟩

theorem keys_conditions_addAll {f : LengthFilter} (h : keys f.conditions = keys f.lengths)
    (os : List (String × Entries Value)) :
    keys (addAll f os).conditions = keys (addAll f os).lengths := by
  induction os generalizing f with
  | nil => exact h
  | cons o os ih =>
    refine ih ?_
    simp only [add, keys_put, h]

def comparedWith (f : LengthFilter) (field : String) : Entries Value :=
  ((get? f.conditions (countField field)).bind Value.entries?).getD []

theorem get?_conditions_add (f : LengthFilter) (field other : String) (c : Entries Value) :
    get? (f.add field c).conditions (countField other) =
      if other = field then some (.map (putAll (f.comparedWith field) c))
      else get? f.conditions (countField other) := by
  split
  · rename_i h
    rw [h]
    exact get?_put_self ..
  · rename_i h
    exact get?_put_of_ne _ _ fun hc => h (countField_inj.1 hc)

theorem get?_conditions_addAll {f : LengthFilter} {field : String} {c : Entries Value}
    (h : get? f.conditions (countField field) = some (.map c))
    (os : List (String × Entries Value)) :
    get? (addAll f os).conditions (countField field) =
      some (.map (((os.filter fun o => o.1 = field).map (·.2)).foldl putAll c)) := by
  induction os generalizing f c with
  | nil => exact h
  | cons o os ih =>
    have hadd := get?_conditions_add f o.1 field o.2
    rw [addAll_cons, List.filter_cons]
    by_cases ho : o.1 = field
    · have hc : f.comparedWith o.1 = c := by
        rw [comparedWith, ho, h]
        rfl
      rw [if_pos ho.symm, hc] at hadd
      rw [ih hadd, if_pos (decide_eq_true ho)]
      rfl
    · rw [if_neg (Ne.symm ho)] at hadd
      rw [ih (hadd.trans h), if_neg (by simpa using ho)]

end ResourceQuery.LengthFilter
