import ResourceQuery.Proofs.Breakdown
import ResourceQuery.Proofs.Comparison

/-!
Bounds of a length. A range is written with one bound or two, and each of them is blank or a
number: a blank lower bound is zero, a blank upper bound the number after the lower one. Two
numbers are compared with as by the operators for one bound each.
-/

namespace ResourceQuery.LengthFilter

open Number

@[simp] theorem numeral?_nil : numeral? [] = .ok none := rfl

def boundOr (blank : Option Numeral) (s : List Char) : Except QueryError (Option Numeral) :=
  if s = [] then .ok blank else numeral? s

theorem boundOr_of_numeral? {s : List Char} {n : Numeral} (h : numeral? s = .ok (some n))
    (blank : Option Numeral) : boundOr blank s = .ok (some n) := by
  have given : s ≠ [] := by
    rintro rfl
    cases numeral?_nil.symm.trans h
  rw [boundOr, if_neg given, h]

theorem boundOr_eq_none_iff {blank : Numeral} {s : List Char} :
    boundOr (some blank) s = .ok none ↔ s ≠ [] ∧ numeral? s = .ok none := by
  rw [boundOr]
  split
  · rename_i empty
    exact iff_of_false nofun fun h => h.1 empty
  · rename_i given
    exact (and_iff_right given).symm

theorem exists_of_boundOr_eq_error {blank : Option Numeral} {s : List Char} {e : QueryError}
    (h : boundOr blank s = .error e) : ∃ digits, e = .numeralTooLong digits := by
  rw [boundOr] at h
  split at h
  · cases h
  · obtain ⟨l, -, -, -, rfl⟩ := numeral?_eq_error_iff.1 h
    exact ⟨_, rfl⟩

def rangeOf (low high : List Char) : Except QueryError (Entries Value) := do
  let l ← boundOr (some (.int 0)) low
  let h ← boundOr (l.map (·.addOne)) high
  match l, h with
  | some l, some h => return [("$gte", .ofNumeral l), ("$lte", .ofNumeral h)]
  | _, _ => .error (.malformedOperand .numericBounds)

theorem numeral?_lower (low : List Char) :
    numeral? (if low = [] then ['0'] else low) = boundOr (some (.int 0)) low := by
  unfold boundOr
  split <;> rfl

/-- What comes of the pieces of a range. -/
inductive Reads (pieces : List (List Char)) : Except QueryError (Entries Value) → Prop
  | tooMany (h : 2 < pieces.length) : Reads pieces (.error (.malformedOperand .lengthBounds))
  | noNumber (h : ∃ p ∈ pieces, p ≠ [] ∧ numeral? p = .ok none) :
      Reads pieces (.error (.malformedOperand .numericBounds))
  | overlong (digits : Nat) : Reads pieces (.error (.numeralTooLong digits))
  | range {low high : Numeral} (few : pieces.length ≤ 2)
      (hl : boundOr (some (.int 0)) (pieces[0]?.getD []) = .ok (some low))
      (hh : boundOr (some low.addOne) (pieces[1]?.getD []) = .ok (some high)) :
      Reads pieces (.ok [("$gte", .ofNumeral low), ("$lte", .ofNumeral high)])

namespace Reads

variable {pieces : List (List Char)} {outcome : Except QueryError (Entries Value)}

theorem numbers_of_range {low high : Numeral} (few : pieces.length ≤ 2)
    (hl : boundOr (some (.int 0)) (pieces[0]?.getD []) = .ok (some low))
    (hh : boundOr (some low.addOne) (pieces[1]?.getD []) = .ok (some high)) :
    ∀ p ∈ pieces, p ≠ [] → numeral? p ≠ .ok none := by
  have read {blank n : Numeral} {p : List Char} (h : boundOr (some blank) p = .ok (some n)) :
      p ≠ [] → numeral? p ≠ .ok none := by
    intro given unread
    cases (boundOr_eq_none_iff.2 ⟨given, unread⟩).symm.trans h
  match pieces, few with
  | [], _ => exact nofun
  | [first], _ => exact List.forall_mem_cons.2 ⟨read hl, nofun⟩
  | [first, second], _ =>
    exact List.forall_mem_cons.2 ⟨read hl, List.forall_mem_cons.2 ⟨read hh, nofun⟩⟩

theorem refused_iff (h : Reads pieces outcome)
    (converted : ∀ digits, outcome ≠ .error (.numeralTooLong digits)) :
    (∃ fault, outcome = .error (.malformedOperand fault)) ↔
      2 < pieces.length ∨ ∃ p ∈ pieces, p ≠ [] ∧ numeral? p = .ok none := by
  cases h with
  | tooMany h => exact iff_of_true ⟨_, rfl⟩ (.inl h)
  | noNumber h => exact iff_of_true ⟨_, rfl⟩ (.inr h)
  | overlong digits => exact absurd rfl (converted digits)
  | range few hl hh =>
    refine iff_of_false nofun ?_
    rintro (many | ⟨p, hp, given, unread⟩)
    · omega
    · exact numbers_of_range few hl hh p hp given unread

theorem refused_or_range (h : Reads pieces outcome)
    (converted : ∀ digits, outcome ≠ .error (.numeralTooLong digits)) :
    (∃ fault, outcome = .error (.malformedOperand fault)) ∨
      ∃ low high, boundOr (some (.int 0)) (pieces[0]?.getD []) = .ok (some low) ∧
        boundOr (some low.addOne) (pieces[1]?.getD []) = .ok (some high) ∧
        outcome = .ok [("$gte", .ofNumeral low), ("$lte", .ofNumeral high)] := by
  cases h with
  | tooMany h => exact .inl ⟨_, rfl⟩
  | noNumber h => exact .inl ⟨_, rfl⟩
  | overlong digits => exact absurd rfl (converted digits)
  | range few hl hh => exact .inr ⟨_, _, hl, hh, rfl⟩

end Reads

theorem reads_rangeOf {pieces : List (List Char)} {low high : List Char} (few : pieces.length ≤ 2)
    (hlow : pieces[0]?.getD [] = low) (hhigh : pieces[1]?.getD [] = high)
    (hp : ∀ p ∈ [low, high], p ≠ [] → p ∈ pieces) : Reads pieces (rangeOf low high) := by
  unfold rangeOf
  cases hl : boundOr (some (.int 0)) low with
  | error e =>
    obtain ⟨digits, rfl⟩ := exists_of_boundOr_eq_error hl
    exact .overlong digits
  | ok l =>
    change Reads pieces (boundOr (l.map (·.addOne)) high >>= _)
    cases hh : boundOr (l.map (·.addOne)) high with
    | error e =>
      obtain ⟨digits, rfl⟩ := exists_of_boundOr_eq_error hh
      exact .overlong digits
    | ok h =>
      cases l with
      | none =>
        obtain ⟨given, unread⟩ := boundOr_eq_none_iff.1 hl
        exact .noNumber ⟨low, hp low (by simp) given, given, unread⟩
      | some l =>
        cases h with
        | none =>
          obtain ⟨given, unread⟩ := boundOr_eq_none_iff.1 hh
          exact .noNumber ⟨high, hp high (by simp) given, given, unread⟩
        | some h =>
          exact .range few (hlow ▸ hl) (hhigh ▸ hh)

theorem reads_betweenCondition (s : List Char) :
    Reads (Text.trimmedPieces s) (betweenCondition s) := by
  unfold betweenCondition
  extract_lets range
  have range_eq : range = rangeOf := by
    funext low high
    unfold range rangeOf
    rw [numeral?_lower]
    refine bind_congr fun l => ?_
    unfold boundOr
    split <;> rfl
  rw [range_eq]
  split
  · rename_i low h
    rw [h]
    exact reads_rangeOf (by simp) rfl rfl (by simp)
  · rename_i low high h
    rw [h]
    exact reads_rangeOf (by simp) rfl rfl (by simp)
  · rename_i one two
    have pieces_ne : Text.trimmedPieces s ≠ [] := fun h =>
      Text.pieces_ne_nil ',' s (List.map_eq_nil_iff.1 h)
    rcases hp : Text.trimmedPieces s with _ | ⟨low, _ | ⟨high, _ | ⟨next, rest⟩⟩⟩
    · exact absurd hp pieces_ne
    · exact (one low hp).elim
    · exact (two low high hp).elim
    · exact .tooMany (by simp)

theorem condition_of_numeral (op : LengthOperator) (hop : op ≠ .between) {p : List Char}
    {n : Numeral} (h : numeral? p = .ok (some n)) :
    condition op.name (.text (String.ofList p)) = .ok (comparison op n) := by
  have other : op.name ≠ LengthOperator.between.name := fun he => hop (LengthOperator.name_inj he)
  have read : Inference.numeral? (.text (String.ofList p)) = .ok (some n) := by
    rw [Inference.numeral?, String.toList_ofList, h]
  rw [condition, if_neg other, read, LengthOperator.ofName?_name]
  rfl

/-- A range is refused exactly when it has more than two pieces, or one that is neither blank nor a
number; otherwise it is the range between its bounds, the upper one being the number after the
lower one unless it is given. Two numbers make what the operators for one bound make of them. -/
theorem range_of_bounds {s : String}
    (converted : ∀ digits, condition "size_between" (.text s) ≠ .error (.numeralTooLong digits)) :
    let pieces := Text.trimmedPieces s.toList
    let outcome := condition "size_between" (.text s)
    ((∃ fault, outcome = .error (.malformedOperand fault)) ↔
      2 < pieces.length ∨ ∃ p ∈ pieces, p ≠ [] ∧ numeral? p = .ok none) ∧
    ((∃ fault, outcome = .error (.malformedOperand fault)) ∨
      ∃ low high, boundOr (some (.int 0)) (pieces[0]?.getD []) = .ok (some low) ∧
        boundOr (some low.addOne) (pieces[1]?.getD []) = .ok (some high) ∧
        outcome = .ok [("$gte", .ofNumeral low), ("$lte", .ofNumeral high)]) ∧
    ∀ p q low high, pieces = [p, q] → numeral? p = .ok (some low) →
      numeral? q = .ok (some high) →
      ∃ c d, condition "size_gte" (.text (String.ofList p)) = .ok c ∧
        condition "size_lte" (.text (String.ofList q)) = .ok d ∧
        outcome = .ok (Entries.putAll c d) := by
  intro pieces outcome
  have reads : Reads pieces outcome := reads_betweenCondition s.toList
  refine ⟨reads.refused_iff converted, reads.refused_or_range converted, ?_⟩
  intro p q low high two hp hq
  have lower := condition_of_numeral .gte nofun hp
  have upper := condition_of_numeral .lte nofun hq
  refine ⟨_, _, lower, upper, ?_⟩
  rcases reads.refused_or_range converted with refused | ⟨l, h, hl, hh, range⟩
  · have read : ∀ r ∈ pieces, numeral? r ≠ .ok none := by
      rw [two, List.forall_mem_cons, List.forall_mem_singleton, hp, hq]
      exact ⟨nofun, nofun⟩
    rcases (reads.refused_iff converted).1 refused with many | ⟨r, hr, -, unread⟩
    · exact absurd many (by simp [two])
    · exact absurd unread (read r hr)
  · rw [two] at hl hh
    cases (boundOr_of_numeral? hp _).symm.trans hl
    cases (boundOr_of_numeral? hq _).symm.trans hh
    exact range

theorem range_of_bounds_mixed :
    let s := " 1.5 , 7"
    let range : Entries Value :=
      [("$gte", .float (Binary64.ofBits 0x3FF8000000000000)), ("$lte", .int 7)]
    condition "size_between" (.text s) = .ok range ∧
      (∀ digits, condition "size_between" (.text s) ≠ .error (.numeralTooLong digits)) ∧
      Text.trimmedPieces s.toList = ["1.5".toList, "7".toList] ∧
      ∃ c d, condition "size_gte" (.text "1.5") = .ok c ∧
        condition "size_lte" (.text "7") = .ok d ∧ range = Entries.putAll c d := by
  intro s range
  have outcome : condition "size_between" (.text " 1.5 , 7") =
      .ok [("$gte", .float (Binary64.ofBits 0x3FF8000000000000)), ("$lte", .int 7)] := rfl
  have converted : ∀ digits, condition "size_between" (.text s) ≠
      .error (.numeralTooLong digits) := by
    intro digits overlong
    cases outcome.symm.trans overlong
  have pieces : Text.trimmedPieces s.toList = ["1.5".toList, "7".toList] := by decide
  have low : numeral? "1.5".toList = .ok (some (.float (Binary64.ofBits 0x3FF8000000000000))) := rfl
  have high : numeral? "7".toList = .ok (some (.int 7)) := rfl
  obtain ⟨c, d, hc, hd, both⟩ := (range_of_bounds converted).2.2 _ _ _ _ pieces low high
  exact ⟨outcome, converted, pieces, c, d, hc, hd, Except.ok.inj (outcome.symm.trans both)⟩

end ResourceQuery.LengthFilter
