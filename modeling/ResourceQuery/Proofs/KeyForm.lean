import ResourceQuery.LengthFilter

/-!
The two forms of a filter key. A key of one line is the compound of its parts exactly
when it is read back into them; a name whose underscores come one at a time is never cut.
-/

namespace ResourceQuery

namespace Text

theorem keyLine?_eq_self {key : List Char} (h : '\n' ∉ key) : keyLine? key = some key := by
  have hl : key.getLast? ≠ some '\n' := fun hl => h (List.mem_of_getLast? hl)
  rw [keyLine?, if_neg hl, if_neg h]

theorem cutOperator_compound {field op : List Char} (hf : field ≠ []) (ho : op ≠ [])
    (hn : cutOperator ('_' :: '_' :: op) = none) :
    cutOperator (field ++ '_' :: '_' :: op) = some (field, op) := by
  induction field with
  | nil => exact absurd rfl hf
  | cons c field ih =>
    rw [List.cons_append]
    unfold cutOperator
    cases field with
    | nil =>
      obtain ⟨o, os, rfl⟩ := List.exists_cons_of_ne_nil ho
      rw [List.nil_append, hn]
      rfl
    | cons d field => rw [ih (List.cons_ne_nil d field)]

theorem bracketKey?_eq_some_iff {key field : List Char} (h : '\n' ∉ key) :
    bracketKey? key = some field ↔ key = "filters[".toList ++ field ++ [']'] := by
  rw [bracketKey?, keyLine?_eq_self h, Option.bind_some]
  constructor
  · intro hk
    split at hk
    · rename_i rest
      split at hk
      · rename_i hl
        cases hk
        obtain ⟨inner, rfl⟩ := List.getLast?_eq_some_iff.1 hl
        simp
      · cases hk
    · cases hk
  · rintro rfl
    simp

theorem getLast?_of_bracketKey? {key inner field op : List Char}
    (hb : bracketKey? key = some inner) (ho : operatorKey? key = some (field, op)) :
    op.getLast? = some ']' := by
  obtain ⟨line, hl, hb⟩ := Option.bind_eq_some_iff.1 hb
  obtain ⟨other, hl', ho⟩ := Option.bind_eq_some_iff.1 ho
  obtain rfl : line = other := Option.some.inj (hl.symm.trans hl')
  have closed : line.getLast? = some ']' := by
    split at hb
    · split at hb
      · rename_i hr
        obtain ⟨rest, rfl⟩ := List.getLast?_eq_some_iff.1 hr
        simp [List.getLast?_cons]
      · cases hb
    · cases hb
  obtain ⟨rfl, -, hop⟩ := cutOperator_append ho
  obtain ⟨o, os, rfl⟩ := List.exists_cons_of_ne_nil hop
  simpa [List.getLast?_append, List.getLast?_cons_cons] using closed

end Text

namespace FilterKey

def operator? (key : String) : Option (String × String) :=
  (Text.operatorKey? key.toList).map fun k => (String.ofList k.1, String.ofList k.2)

def bracket? (key : String) : Option String := (Text.bracketKey? key.toList).map String.ofList

def Names (key field : String) : Prop :=
  bracket? key = some field ∨ key = field ∨ ∃ op, operator? key = some (field, op)

def compound (field op : String) : String := field ++ "__" ++ op

def bracketed (field : String) : String := "filters[" ++ field ++ "]"

theorem compound_inj {field op other : String} :
    compound field op = compound field other ↔ op = other := by
  simp [compound]

theorem bracket?_eq_some_iff {key field : String} (h : '\n' ∉ key.toList) :
    bracket? key = some field ↔ key = bracketed field := by
  have hb : (bracketed field).toList = "filters[".toList ++ field.toList ++ [']'] := by
    simp [bracketed]
  rw [← String.toList_inj, hb, ← Text.bracketKey?_eq_some_iff h, bracket?,
    Option.map_eq_some_iff]
  constructor
  · rintro ⟨k, hk, rfl⟩
    rw [hk, String.toList_ofList]
  · intro hk
    exact ⟨field.toList, hk, String.ofList_toList⟩

theorem operator?_eq_some_iff {key field op : String} (h : '\n' ∉ key.toList) (ho : op ≠ "")
    (hn : Text.cutOperator ('_' :: '_' :: op.toList) = none) :
    operator? key = some (field, op) ↔ field ≠ "" ∧ key = compound field op := by
  have hc : (compound field op).toList = field.toList ++ '_' :: '_' :: op.toList := by
    simp [compound]
  rw [operator?, Text.operatorKey?, Text.keyLine?_eq_self h, Option.bind_some,
    Option.map_eq_some_iff, ← String.toList_inj, hc]
  constructor
  · rintro ⟨⟨f, o⟩, hk, he⟩
    obtain ⟨rfl, rfl⟩ := Prod.mk.inj he
    obtain ⟨hkey, hf, _⟩ := Text.cutOperator_append hk
    exact ⟨by simpa using hf, by simpa using hkey⟩
  · rintro ⟨hf, hk⟩
    refine ⟨(field.toList, op.toList), ?_, by simp⟩
    rw [hk]
    exact Text.cutOperator_compound (by simpa using hf) (by simpa using ho) hn

theorem getLast?_of_bracket? {key inner field op : String} (hb : bracket? key = some inner)
    (ho : operator? key = some (field, op)) : op.toList.getLast? = some ']' := by
  obtain ⟨_, hb, -⟩ := Option.map_eq_some_iff.1 hb
  obtain ⟨_, ho, parts⟩ := Option.map_eq_some_iff.1 ho
  rw [← (Prod.mk.inj parts).2, String.toList_ofList]
  exact Text.getLast?_of_bracketKey? hb ho

end FilterKey

namespace Operator

theorem operator?_ne_of_bracket? {key inner : String} (h : FilterKey.bracket? key = some inner)
    (field : String) (op : Operator) : FilterKey.operator? key ≠ some (field, op.name) := by
  intro ho
  have closed := FilterKey.getLast?_of_bracket? h ho
  revert closed
  cases op <;> decide

/-- The name of an operator is never cut. -/
theorem operator?_name {key field : String} (h : '\n' ∉ key.toList) (op : Operator) :
    FilterKey.operator? key = some (field, op.name) ↔
      field ≠ "" ∧ key = FilterKey.compound field op.name :=
  FilterKey.operator?_eq_some_iff h (by cases op <;> decide) (by cases op <;> decide)

end Operator

namespace LengthOperator

theorem operator?_ne_of_bracket? {key inner : String} (h : FilterKey.bracket? key = some inner)
    (field : String) (op : LengthOperator) :
    FilterKey.operator? key ≠ some (field, op.name) := by
  intro ho
  have closed := FilterKey.getLast?_of_bracket? h ho
  revert closed
  cases op <;> decide

theorem operator?_name {key field : String} (h : '\n' ∉ key.toList) (op : LengthOperator) :
    FilterKey.operator? key = some (field, op.name) ↔
      field ≠ "" ∧ key = FilterKey.compound field op.name :=
  FilterKey.operator?_eq_some_iff h (by cases op <;> decide) (by cases op <;> decide)

end LengthOperator
end ResourceQuery
