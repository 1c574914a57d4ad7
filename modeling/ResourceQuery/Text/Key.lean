import ResourceQuery.Text.Blank

/-!
The two compound forms of a query key, `field__operator` and `filters[field]`.
A key may end in one line end, which is not part of it, and holds no other.
An operator key is cut at its last double underscore with text on both sides.
-/

namespace ResourceQuery.Text

def keyLine? (key : List Char) : Option (List Char) :=
  let line := if key.getLast? = some '\n' then key.dropLast else key
  if '\n' ∈ line then none else some line

/-- The longest field that a double underscore and an operator follow. -/
def cutOperator : List Char → Option (List Char × List Char)
  | [] => none
  | c :: cs =>
    match cutOperator cs with
    | some (field, op) => some (c :: field, op)
    | none =>
      match cs with
      | '_' :: '_' :: o :: op => some ([c], o :: op)
      | _ => none

theorem cutOperator_append {key field op : List Char} (h : cutOperator key = some (field, op)) :
    key = field ++ '_' :: '_' :: op ∧ field ≠ [] ∧ op ≠ [] := by
  induction key generalizing field with
  | nil => simp [cutOperator] at h
  | cons c cs ih =>
    unfold cutOperator at h
    split at h
    · rename_i f o hc
      obtain ⟨rfl, rfl⟩ : c :: f = field ∧ o = op := by simpa using h
      obtain ⟨hk, _, ho⟩ := ih hc
      exact ⟨by simp [hk], by simp, ho⟩
    · split at h
      · obtain ⟨rfl, rfl⟩ := by simpa using h
        simp
      · simp at h

def operatorKey? (key : List Char) : Option (List Char × List Char) :=
  (keyLine? key).bind cutOperator

def bracketKey? (key : List Char) : Option (List Char) :=
  (keyLine? key).bind fun line =>
    match line with
    | 'f' :: 'i' :: 'l' :: 't' :: 'e' :: 'r' :: 's' :: '[' :: rest =>
      if rest.getLast? = some ']' then some rest.dropLast else none
    | _ => none

end ResourceQuery.Text
