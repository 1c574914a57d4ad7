import Mathlib.Data.List.Infix
import ResourceQuery.Proofs.KeyForm

/-!
Keys are taken apart in one way only. A line is cut at the last double underscore that leaves
text on both sides, so a compound of any field with a proper operator name is read back as it
was put together; what is read as a field in brackets is never read as a known operator, too.
-/

namespace ResourceQuery

namespace Text

structure IsCut (line field op : List Char) : Prop where
  line_eq : line = field ++ '_' :: '_' :: op
  field_ne_nil : field ≠ []
  op_ne_nil : op ≠ []

structure IsLastCut (line field op : List Char) : Prop extends IsCut line field op where
  longest : ∀ f o, IsCut line f o → f.length ≤ field.length

theorem not_isCut_nil (field op : List Char) : ¬IsCut [] field op := by
  rintro ⟨line_eq, field_ne_nil, -⟩
  exact field_ne_nil (List.append_eq_nil_iff.1 line_eq.symm).1

theorem isCut_cons_iff {c : Char} {cs field op : List Char} :
    IsCut (c :: cs) field op ↔
      (field = [c] ∧ cs = '_' :: '_' :: op ∧ op ≠ []) ∨
        ∃ f, field = c :: f ∧ IsCut cs f op := by
  constructor
  · rintro ⟨line_eq, field_ne_nil, op_ne_nil⟩
    obtain ⟨d, f, rfl⟩ := List.exists_cons_of_ne_nil field_ne_nil
    obtain ⟨rfl, rest⟩ := List.cons.inj line_eq
    cases f with
    | nil => exact .inl ⟨rfl, rest, op_ne_nil⟩
    | cons e f => exact .inr ⟨e :: f, rfl, rest, List.cons_ne_nil e f, op_ne_nil⟩
  · rintro (⟨rfl, rfl, op_ne_nil⟩ | ⟨f, rfl, cut⟩)
    · exact ⟨rfl, List.cons_ne_nil c [], op_ne_nil⟩
    · exact ⟨by rw [cut.line_eq]; rfl, List.cons_ne_nil c f, cut.op_ne_nil⟩

theorem not_isCut_of_cutOperator {line : List Char} (h : cutOperator line = none)
    (field op : List Char) : ¬IsCut line field op := by
  induction line generalizing field with
  | nil => exact not_isCut_nil field op
  | cons c cs ih =>
    unfold cutOperator at h
    split at h
    · cases h
    · rename_i uncut
      split at h
      · cases h
      · rename_i other
        intro cut
        rcases isCut_cons_iff.1 cut with ⟨-, rfl, op_ne_nil⟩ | ⟨f, -, behind⟩
        · obtain ⟨o, os, rfl⟩ := List.exists_cons_of_ne_nil op_ne_nil
          exact other o os rfl
        · exact ih uncut f behind

theorem isLastCut_of_cutOperator {line field op : List Char}
    (h : cutOperator line = some (field, op)) : IsLastCut line field op := by
  induction line generalizing field with
  | nil => cases h
  | cons c cs ih =>
    unfold cutOperator at h
    split at h
    · rename_i behind
      cases h
      -- a cut further back has the longer field
      have last := ih behind
      refine ⟨isCut_cons_iff.2 (.inr ⟨_, rfl, last.toIsCut⟩), fun g p cut => ?_⟩
      rcases isCut_cons_iff.1 cut with ⟨rfl, -, -⟩ | ⟨g, rfl, later⟩
      · exact Nat.succ_le_succ (Nat.zero_le _)
      · exact Nat.succ_le_succ (last.longest g p later)
    · rename_i uncut
      split at h
      · cases h
        refine ⟨isCut_cons_iff.2 (.inl ⟨rfl, rfl, List.cons_ne_nil _ _⟩), fun g p cut => ?_⟩
        rcases isCut_cons_iff.1 cut with ⟨rfl, -, -⟩ | ⟨g, -, behind⟩
        · exact Nat.le_refl 1
        · exact absurd behind (not_isCut_of_cutOperator uncut g p)
      · cases h

theorem IsLastCut.unique {line field op f o : List Char} (h : IsLastCut line field op)
    (h' : IsLastCut line f o) : field = f ∧ op = o := by
  have length_eq : field.length = f.length :=
    Nat.le_antisymm (h'.longest field op h.toIsCut) (h.longest f o h'.toIsCut)
  have lines : field ++ '_' :: '_' :: op = f ++ '_' :: '_' :: o :=
    h.line_eq.symm.trans h'.line_eq
  obtain ⟨fields, rest⟩ := List.append_inj lines length_eq
  exact ⟨fields, (List.cons.inj (List.cons.inj rest).2).2⟩

theorem exists_cutOperator {line field op : List Char} (h : IsCut line field op) :
    ∃ cut, cutOperator line = some cut := by
  rw [← Option.isSome_iff_exists, Option.isSome_iff_ne_none]
  exact fun uncut => not_isCut_of_cutOperator uncut field op h

theorem cutOperator_eq_some_iff {line field op : List Char} :
    cutOperator line = some (field, op) ↔ IsLastCut line field op := by
  refine ⟨isLastCut_of_cutOperator, fun last => ?_⟩
  obtain ⟨⟨f, o⟩, cut⟩ := exists_cutOperator last.toIsCut
  obtain ⟨rfl, rfl⟩ := last.unique (isLastCut_of_cutOperator cut)
  exact cut

theorem keyLine?_eq_some_iff {key line : List Char} :
    keyLine? key = some line ↔ '\n' ∉ line ∧ (key = line ∨ key = line ++ ['\n']) := by
  constructor
  · intro h
    unfold keyLine? at h
    extract_lets whole at h
    split at h
    · cases h
    · rename_i one
      have line_eq : whole = line := Option.some.inj h
      rw [← line_eq]
      refine ⟨one, ?_⟩
      by_cases closed : key.getLast? = some '\n'
      · obtain ⟨front, rfl⟩ := List.getLast?_eq_some_iff.1 closed
        right
        simp [whole]
      · exact .inl (if_neg closed).symm
  · rintro ⟨one, rfl | rfl⟩
    · exact keyLine?_eq_self one
    · simp [keyLine?, one]

theorem bracketKey?_eq_some_iff_line {key field : List Char} :
    bracketKey? key = some field ↔
      keyLine? key = some ("filters[".toList ++ field ++ [']']) := by
  cases h : keyLine? key with
  | none => simp [bracketKey?, h]
  | some line =>
    have one : '\n' ∉ line := (keyLine?_eq_some_iff.1 h).1
    have same : bracketKey? key = bracketKey? line := by
      rw [bracketKey?, bracketKey?, h, keyLine?_eq_self one]
    rw [same, bracketKey?_eq_some_iff one, Option.some.injEq]

theorem cutOperator_of_name {op : List Char} (head : op.head? ≠ some '_')
    (apart : ¬['_', '_'] <:+: op) : cutOperator ('_' :: '_' :: op) = none := by
  rw [Option.eq_none_iff_forall_ne_some]
  rintro ⟨field, o⟩ cut
  obtain ⟨line_eq, field_ne_nil, -⟩ := cutOperator_append cut
  match field, field_ne_nil with
  | [c], _ =>
    obtain ⟨-, rest⟩ := List.cons.inj line_eq
    exact head (by rw [(List.cons.inj rest).2]; rfl)
  | [c, d], _ =>
    obtain ⟨-, rest⟩ := List.cons.inj line_eq
    exact head (by rw [(List.cons.inj rest).2]; rfl)
  | c :: d :: e :: f, _ =>
    -- so long a field ends in the name, with the double underscore behind it
    obtain ⟨-, rest⟩ := List.cons.inj line_eq
    refine apart ⟨e :: f, o, ?_⟩
    rw [(List.cons.inj rest).2]
    simp

end Text

namespace FilterKey

def IsLine (key line : String) : Prop :=
  '\n' ∉ line.toList ∧ (key = line ∨ key = line ++ "\n")

structure Splits (line field op : String) : Prop where
  line_eq : line = compound field op
  field_ne : field ≠ ""
  op_ne : op ≠ ""

/-- A text that may name an operator: one line that does not start with an underscore, and in
which no two of them stand together. -/
structure IsName (op : String) : Prop where
  named : op ≠ ""
  oneLine : '\n' ∉ op.toList
  head : op.toList.head? ≠ some '_'
  apart : ¬['_', '_'] <:+: op.toList

@[simp] theorem toList_compound (field op : String) :
    (compound field op).toList = field.toList ++ '_' :: '_' :: op.toList := by
  simp [compound]

theorem splits_iff {line field op : String} :
    Splits line field op ↔ Text.IsCut line.toList field.toList op.toList := by
  constructor
  · rintro ⟨rfl, field_ne, op_ne⟩
    exact ⟨toList_compound field op, by simpa using field_ne, by simpa using op_ne⟩
  · rintro ⟨line_eq, field_ne_nil, op_ne_nil⟩
    rw [← toList_compound, String.toList_inj] at line_eq
    exact ⟨line_eq, by simpa using field_ne_nil, by simpa using op_ne_nil⟩

theorem isLine_iff {key line : String} :
    IsLine key line ↔ Text.keyLine? key.toList = some line.toList := by
  rw [Text.keyLine?_eq_some_iff, IsLine, ← String.toList_inj, ← String.toList_inj]
  simp

theorem operator?_eq_some_iff_longest {key field op : String} :
    operator? key = some (field, op) ↔ ∃ line, IsLine key line ∧ Splits line field op ∧
      ∀ f o, Splits line f o → f.length ≤ field.length := by
  have read : operator? key = some (field, op) ↔
      Text.operatorKey? key.toList = some (field.toList, op.toList) := by
    rw [operator?, Option.map_eq_some_iff]
    constructor
    · rintro ⟨cut, h, parts⟩
      obtain ⟨rfl, rfl⟩ := Prod.mk.inj parts
      simpa using h
    · intro h
      exact ⟨_, h, by simp⟩
  rw [read, Text.operatorKey?, Option.bind_eq_some_iff]
  constructor
  · rintro ⟨line, hline, cut⟩
    have last := Text.cutOperator_eq_some_iff.1 cut
    refine ⟨String.ofList line, isLine_iff.2 (by simpa using hline),
      splits_iff.2 (by simpa using last.toIsCut), fun f o splits => ?_⟩
    have shorter := last.longest f.toList o.toList (by simpa using splits_iff.1 splits)
    rwa [String.length_toList, String.length_toList] at shorter
  · rintro ⟨line, hline, splits, longest⟩
    refine ⟨line.toList, isLine_iff.1 hline, Text.cutOperator_eq_some_iff.2
      ⟨splits_iff.1 splits, fun f o cut => ?_⟩⟩
    have shorter := longest (String.ofList f) (String.ofList o)
      (splits_iff.2 (by simpa using cut))
    rwa [String.length_ofList, ← String.length_toList] at shorter

theorem operator?_isSome_iff {key : String} :
    (operator? key).isSome ↔ ∃ line field op, IsLine key line ∧ Splits line field op := by
  constructor
  · intro h
    obtain ⟨⟨field, op⟩, read⟩ := Option.isSome_iff_exists.1 h
    obtain ⟨line, hline, splits, -⟩ := operator?_eq_some_iff_longest.1 read
    exact ⟨line, field, op, hline, splits⟩
  · rintro ⟨line, field, op, hline, splits⟩
    obtain ⟨cut, hcut⟩ := Text.exists_cutOperator (splits_iff.1 splits)
    rw [operator?, Text.operatorKey?, isLine_iff.1 hline, Option.bind_some, hcut]
    rfl

theorem bracket?_eq_some_iff_isLine {key field : String} :
    bracket? key = some field ↔ '\n' ∉ field.toList ∧ IsLine key (bracketed field) := by
  have text : (bracketed field).toList = "filters[".toList ++ field.toList ++ [']'] := by
    simp [bracketed]
  have one : IsLine key (bracketed field) → '\n' ∉ field.toList := fun h hf =>
    h.1 (by simp [text, hf])
  rw [and_iff_right_of_imp one, isLine_iff, text, ← Text.bracketKey?_eq_some_iff_line, bracket?,
    Option.map_eq_some_iff]
  constructor
  · rintro ⟨f, hf, rfl⟩
    rwa [String.toList_ofList]
  · exact fun h => ⟨field.toList, h, String.ofList_toList⟩

theorem operator?_compound {field op : String} (field_ne : field ≠ "")
    (one : '\n' ∉ field.toList) (name : IsName op) :
    operator? (compound field op) = some (field, op) := by
  have line : '\n' ∉ (compound field op).toList := by
    simp [one, name.oneLine]
  exact (operator?_eq_some_iff line name.named
    (Text.cutOperator_of_name name.head name.apart)).2 ⟨field_ne, rfl⟩

theorem isName_operator (op : Operator) : IsName op.name := by
  cases op <;> exact ⟨by decide, by decide, by decide, by decide⟩

theorem isName_lengthOperator (op : LengthOperator) : IsName op.name := by
  cases op <;> exact ⟨by decide, by decide, by decide, by decide⟩

/-- A key is cut where its field is longest, if it can be cut at all, and in brackets it is read
as what stands between the outer ones. Before a proper name any field is read as it stands, and
no key is read both as a field in brackets and as one with a known operator. -/
theorem keys_split_uniquely (key : String) :
    (∀ field op, operator? key = some (field, op) ↔ ∃ line, IsLine key line ∧
      Splits line field op ∧ ∀ f o, Splits line f o → f.length ≤ field.length) ∧
    ((operator? key).isSome ↔ ∃ line field op, IsLine key line ∧ Splits line field op) ∧
    (∀ field, bracket? key = some field ↔
      '\n' ∉ field.toList ∧ IsLine key (bracketed field)) ∧
    (∀ field op, field ≠ "" → '\n' ∉ field.toList → IsName op →
      operator? (compound field op) = some (field, op)) ∧
    (∀ op : Operator, IsName op.name) ∧ (∀ op : LengthOperator, IsName op.name) ∧
    ∀ inner, bracket? key = some inner → ∀ field,
      (∀ op : Operator, operator? key ≠ some (field, op.name)) ∧
        ∀ op : LengthOperator, operator? key ≠ some (field, op.name) :=
  ⟨fun _ _ => operator?_eq_some_iff_longest, operator?_isSome_iff,
    fun _ => bracket?_eq_some_iff_isLine, fun _ _ => operator?_compound, isName_operator,
    isName_lengthOperator, fun _ inner field =>
      ⟨Operator.operator?_ne_of_bracket? inner field,
        LengthOperator.operator?_ne_of_bracket? inner field⟩⟩

theorem keys_split_uniquely_underscores :
    operator? "size__of___gt" = some ("size__of_", "gt") ∧
      bracket? "filters[a][b]]\n" = some "a][b]" ∧
      ∀ op : Operator, operator? "filters[a][b]]\n" ≠ some ("a", op.name) := by
  obtain ⟨-, -, -, compounds, operators, -, -⟩ := keys_split_uniquely "size__of___gt"
  obtain ⟨-, -, brackets, -, -, -, apart⟩ := keys_split_uniquely "filters[a][b]]\n"
  have inner : bracket? "filters[a][b]]\n" = some "a][b]" :=
    (brackets "a][b]").2 ⟨by decide, by decide, .inr (by decide)⟩
  exact ⟨compounds "size__of_" "gt" (by decide) (by decide) (operators .gt), inner,
    (apart _ inner "a").1⟩

end FilterKey
end ResourceQuery
