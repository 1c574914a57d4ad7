import ResourceQuery.LengthFilter
import ResourceQuery.Proofs.Outcome

/-!
Conversions of texts that can break down. Three can: that to a whole number, that to a
moment, and that to a pattern. An operand that is otherwise wrong is refused as the fault
of the query, whichever operator it is for.
-/

namespace ResourceQuery

open Outcome QueryError

/-- The query is at fault, or else a conversion breaks down. -/
def QueryError.InvalidOr (breaks : QueryError → Prop) (e : QueryError) : Prop :=
  e.isInvalidQuery = true ∨ breaks e

theorem QueryError.InvalidOr.imp {p q : QueryError → Prop} (h : ∀ e, p e → q e) {e : QueryError} :
    InvalidOr p e → InvalidOr q e := Or.imp_right (h e)

def IsPart (s t : List Char) : Prop := t = s ∨ t ∈ Text.trimmedPieces s

namespace Number

def Overlong (s : List Char) (e : QueryError) : Prop :=
  ∃ l, literal? (Text.trim s) = some l ∧ l.whole = true ∧ maxDigits < l.digits.length ∧
    e = .numeralTooLong l.digits.length

theorem failsBy_numeral? (s : List Char) : FailsBy (Overlong s) (numeral? s) := by
  unfold numeral?
  cases hl : literal? (Text.trim s) with
  | none => exact failsBy_ok none
  | some l =>
    dsimp only
    split
    · rename_i hw
      split
      · rename_i hd
        exact failsBy_error ⟨l, hl, hw, hd, rfl⟩
      · split <;> exact failsBy_ok _
    · cases l.toBinary64? with
      | none => exact failsBy_ok none
      | some x =>
        dsimp only
        split <;> exact failsBy_ok _

theorem numeral?_eq_error_iff {s : List Char} {e : QueryError} :
    numeral? s = .error e ↔ Overlong s e := by
  constructor
  · exact failsBy_numeral? s e
  · rintro ⟨l, hl, hw, hd, rfl⟩
    simp [numeral?, hl, hw, hd]

theorem trim_ones (n : Nat) : Text.trim (List.replicate n '1') = List.replicate n '1' := by
  have ink : Text.isBlank '1' = false := by decide
  simp [Text.trim, Text.trimLeft, Text.trimRight, ink]

theorem literal?_ones (n : Nat) : literal? (List.replicate (n + 1) '1') =
    some ⟨false, List.replicate (n + 1) 1, 0, 0, true⟩ := by
  have digit : Char.isDigit '1' = true := by decide
  have sign : cutSign (List.replicate (n + 1) '1') = (false, List.replicate (n + 1) '1') := rfl
  have values : digitValues (List.replicate (n + 1) '1') = List.replicate (n + 1) 1 := by
    simp [digitValues]
  simp [literal?, sign, digit, exponent?, values]

theorem overlong_ones {n : Nat} (h : maxDigits ≤ n) :
    Overlong (List.replicate (n + 1) '1') (.numeralTooLong (n + 1)) := by
  have read := literal?_ones n
  rw [← trim_ones (n + 1)] at read
  have long : maxDigits < (List.replicate (n + 1) 1).length := by
    rw [List.length_replicate]
    omega
  exact ⟨_, read, rfl, long, by rw [List.length_replicate]⟩

end Number

namespace Inference

variable [Platform]

def Undivided (s : List Char) (e : QueryError) : Prop :=
  Platform.readDate s = .error .undivided ∧ e = .undividedPart

/-- The conversion to the type that a field asks for breaks down: to a moment, or to a number
where no identifier is asked for. -/
def Breaks (field s : String) (e : QueryError) : Prop :=
  isDateField field = true ∧ Undivided s.toList e ∨
    isDateField field = false ∧ isIdentifying field s = false ∧ Number.Overlong s.toList e

theorem failsBy_moment (s : String) : FailsBy (Undivided s.toList) (moment s) := by
  unfold moment
  split
  · exact failsBy_ok _
  · split
    · exact failsBy_ok _
    · exact failsBy_ok _
    · rename_i h
      exact failsBy_error ⟨h, rfl⟩

theorem failsBy_tooLong_or_breaks (field s : String) :
    FailsBy (fun e => e = .valueTooLong s.length maxLength ∨ Breaks field s e)
      (typedText field s) := by
  unfold typedText
  split
  · exact failsBy_error (.inl rfl)
  split
  · exact failsBy_ok _
  by_cases hd : isDateField field
  · rw [if_pos hd]
    exact (failsBy_moment s).mono fun e he => .inr (.inl ⟨hd, he⟩)
  rw [if_neg hd]
  by_cases hi : isIdentifying field s
  · rw [if_pos hi]
    exact failsBy_ok _
  rw [if_neg hi]
  split
  · exact failsBy_ok _
  split
  · exact failsBy_ok _
  · have number := (Number.failsBy_numeral? s.toList).map
      fun n => (n.map Value.ofNumeral).getD (.text s)
    exact number.mono fun e he => .inr (.inr ⟨by simpa using hd, by simpa using hi, he⟩)

theorem failsBy_typedText (field s : String) :
    FailsBy (InvalidOr (Breaks field s)) (typedText field s) := by
  refine (failsBy_tooLong_or_breaks field s).mono fun e => Or.imp_left ?_
  rintro rfl
  rfl

inductive Untyped : QueryError → Prop
  | tooLong (length : Nat) : Untyped (.valueTooLong length maxLength)
  | undivided : Untyped .undividedPart
  | overlong (digits : Nat) : Untyped (.numeralTooLong digits)

theorem failsBy_typed (field : String) (v : Value) : FailsBy Untyped (typed field v) := by
  cases v with
  | text s =>
    refine (failsBy_tooLong_or_breaks field s).mono ?_
    rintro e (rfl | ⟨-, -, rfl⟩ | ⟨-, -, l, -, -, -, rfl⟩)
    · exact .tooLong s.length
    · exact .undivided
    · exact .overlong l.digits.length
  | _ => exact failsBy_ok _

end Inference

namespace Operator

variable {field s : String}

theorem text_of_patternText {v : Value} (h : patternText v = .ok s) : v = .text s := by
  unfold patternText at h
  split at h
  · cases h
    rfl
  · split at h <;> cases h
  · cases h

variable [Platform]

def Breaks (op : Operator) (field s : String) (e : QueryError) : Prop :=
  (∃ t, IsPart s.toList t ∧ Inference.Breaks field (String.ofList t) e) ∨
    op = .regex ∧ Pattern.isPortable s.toList = .error e

theorem failsBy_patternCondition (s : String) :
    FailsBy (InvalidOr fun e => Pattern.isPortable s.toList = .error e) (patternCondition s) := by
  unfold patternCondition
  split
  · exact failsBy_error (.inl rfl)
  · have portable : FailsBy (fun e => Pattern.isPortable s.toList = .error e)
        (Pattern.isPortable s.toList) := fun e he => he
    exact ((portable.map _).map _).mono fun e he => .inr he

theorem failsBy_item (op : Operator) {t : List Char} (ht : IsPart s.toList t) :
    FailsBy (InvalidOr (op.Breaks field s)) (Inference.typedText field (String.ofList t)) := by
  have typed := Inference.failsBy_typedText field (String.ofList t)
  exact typed.mono fun _ => .imp fun _ hb => .inl ⟨t, ht, hb⟩

section Parts

variable {P : QueryError → Prop}

theorem failsBy_itemList
    (item : ∀ t, IsPart s.toList t → FailsBy P (Inference.typedText field (String.ofList t)))
    {cap : Int} (large : ∀ length, P (.listTooLong length cap)) :
    FailsBy P (itemList cap field s) := by
  have items : FailsBy P (typedItems field (Text.commaList s.toList)) :=
    failsBy_mapM fun t ht => item t (.inr (List.mem_filter.1 ht).1)
  refine items.bind fun values _ => ?_
  split
  · exact failsBy_error (large values.length)
  · exact failsBy_ok _

theorem failsBy_betweenCondition
    (item : ∀ t, IsPart s.toList t → FailsBy P (Inference.typedText field (String.ofList t)))
    (malformed : P (.malformedOperand .twoBounds)) : FailsBy P (betweenCondition field s) := by
  unfold betweenCondition
  split
  · rename_i low high h
    have hlow : IsPart s.toList low := .inr (by simp [h])
    have hhigh : IsPart s.toList high := .inr (by simp [h])
    exact (item low hlow).bind fun _ _ => (item high hhigh).bind fun _ _ => failsBy_ok _
  · exact failsBy_error malformed

end Parts

theorem failsBy_apply (op : Operator) (cap : Int) (field s : String) :
    FailsBy (InvalidOr (op.Breaks field s)) (op.apply cap field (.text s)) := by
  have single (key : String) : FailsBy (InvalidOr (op.Breaks field s))
      ((Inference.typedText field s).map fun v => [(key, v)]) := by
    have whole : IsPart s.toList s.toList := .inl rfl
    have typed : FailsBy (InvalidOr (op.Breaks field s)) _ := failsBy_item op whole
    rw [String.ofList_toList] at typed
    exact typed.map _
  cases op with
  | gt => exact single "$gt"
  | gte => exact single "$gte"
  | lt => exact single "$lt"
  | lte => exact single "$lte"
  | ne => exact single "$ne"
  | isIn =>
    exact (failsBy_itemList (fun _ => failsBy_item .isIn) fun _ => .inl rfl).bind
      fun _ _ => failsBy_ok _
  | notIn =>
    exact (failsBy_itemList (fun _ => failsBy_item .notIn) fun _ => .inl rfl).bind
      fun _ _ => failsBy_ok _
  | regex => exact (failsBy_patternCondition s).mono fun _ => .imp fun _ hp => .inr ⟨rfl, hp⟩
  | «exists» => exact failsBy_ok _
  | between => exact failsBy_betweenCondition (fun _ => failsBy_item .between) (.inl rfl)

end Operator

namespace LengthFilter

variable {s : String}

def Breaks (s : String) (e : QueryError) : Prop := ∃ t, IsPart s.toList t ∧ Number.Overlong t e

section Parts

variable {P : QueryError → Prop}

theorem failsBy_betweenCondition
    (item : ∀ t, IsPart s.toList t → FailsBy P (Number.numeral? t))
    (malformed : ∀ fault, P (.malformedOperand fault)) : FailsBy P (betweenCondition s.toList) := by
  unfold betweenCondition
  extract_lets range
  have bounded {low high : List Char} (hl : IsPart s.toList low)
      (hh : high = [] ∨ IsPart s.toList high) : FailsBy P (range low high) := by
    have lower : FailsBy P (Number.numeral? (if low = [] then ['0'] else low)) := by
      split
      · exact failsBy_ok (some (Number.Numeral.int 0))
      · exact item low hl
    refine lower.bind fun l _ => ?_
    dsimp only
    split
    · refine (failsBy_ok _).bind fun h _ => ?_
      split
      · exact failsBy_ok _
      · exact failsBy_error (malformed .numericBounds)
    · rename_i given
      refine (item high (hh.resolve_left given)).bind fun h _ => ?_
      split
      · exact failsBy_ok _
      · exact failsBy_error (malformed .numericBounds)
  split
  · rename_i low h
    exact bounded (.inr (by simp [h])) (.inl rfl)
  · rename_i low high h
    exact bounded (.inr (by simp [h])) (.inr (.inr (by simp [h])))
  · exact failsBy_error (malformed .lengthBounds)

theorem failsBy_condition_of_parts {name : String} (h : (LengthOperator.ofName? name).isSome)
    (item : ∀ t, IsPart s.toList t → FailsBy P (Number.numeral? t))
    (malformed : ∀ fault, P (.malformedOperand fault)) :
    FailsBy P (condition name (.text s)) := by
  unfold condition
  split
  · exact failsBy_betweenCondition item malformed
  · have whole : FailsBy P (Inference.numeral? (.text s)) := item s.toList (.inl rfl)
    refine whole.bind fun n _ => ?_
    cases n with
    | none => exact failsBy_error (malformed (.numeric name))
    | some n =>
      obtain ⟨op, hop⟩ := Option.isSome_iff_exists.1 h
      rw [hop]
      exact failsBy_ok _

end Parts

theorem failsBy_condition {name : String} (h : (LengthOperator.ofName? name).isSome) (s : String) :
    FailsBy (InvalidOr (Breaks s)) (condition name (.text s)) :=
  failsBy_condition_of_parts h
    (fun t ht => (Number.failsBy_numeral? t).mono fun _ he => .inr ⟨t, ht, he⟩) fun _ => .inl rfl

end LengthFilter
end ResourceQuery
