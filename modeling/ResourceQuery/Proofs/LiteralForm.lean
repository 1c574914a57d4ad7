import Mathlib.Algebra.Group.Int.Defs
import Mathlib.Data.List.Basic
import ResourceQuery.Inference
import ResourceQuery.Proofs.Numerals

/-!
The form of number literals. A literal is an optional sign, digits with an optional point, and an
optional exponent; no other text writes a number. Digits behind a sign write the whole number
that they are the decimal of, however many zeros stand in front and whatever blanks around.
-/

namespace ResourceQuery.Number

open Text

inductive IsSign : List Char → Prop
  | none : IsSign []
  | plus : IsSign ['+']
  | minus : IsSign ['-']

inductive IsMantissa : List Char → Prop
  | whole {ds : List Char} (hd : IsDigits ds) (hne : ds ≠ []) : IsMantissa ds
  | pointed {ds fs : List Char} (hd : IsDigits ds) (hf : IsDigits fs) (hne : ds ≠ [] ∨ fs ≠ []) :
      IsMantissa (ds ++ '.' :: fs)

inductive IsExponent : List Char → Prop
  | none : IsExponent []
  | marked {mark : Char} {sign ds : List Char} (hm : mark = 'e' ∨ mark = 'E') (hs : IsSign sign)
      (hd : IsDigits ds) (hne : ds ≠ []) : IsExponent (mark :: (sign ++ ds))

inductive IsLiteral : List Char → Prop
  | of {sign mantissa exponent : List Char} (hs : IsSign sign) (hm : IsMantissa mantissa)
      (he : IsExponent exponent) : IsLiteral (sign ++ mantissa ++ exponent)

theorem exists_sign (s : List Char) : ∃ sign, IsSign sign ∧ s = sign ++ (cutSign s).2 := by
  unfold cutSign
  split
  · exact ⟨['-'], .minus, rfl⟩
  · exact ⟨['+'], .plus, rfl⟩
  · exact ⟨[], .none, rfl⟩

theorem cutSign_append {sign body : List Char} (hs : IsSign sign)
    (hb : ∀ c ∈ body.head?, c ≠ '-' ∧ c ≠ '+') :
    cutSign (sign ++ body) = (decide (sign = ['-']), body) := by
  cases hs with
  | plus => rfl
  | minus => rfl
  | none =>
    rw [List.nil_append, cutSign.eq_3]
    · rfl
    · rintro s rfl
      exact (hb '-' rfl).1 rfl
    · rintro s rfl
      exact (hb '+' rfl).2 rfl

theorem isDigits_takeWhile (s : List Char) : IsDigits (s.takeWhile Char.isDigit) :=
  fun _ hc => List.all_eq_true.1 List.all_takeWhile _ hc

theorem isExponent_of_exponent? {s : List Char} {e : Option Int} (h : exponent? s = some e) :
    IsExponent s := by
  unfold exponent? at h
  split at h
  · exact .none
  · rename_i mark rest
    split at h
    · rename_i marked
      obtain ⟨sign, hs, hrest⟩ := exists_sign rest
      dsimp only at h
      split at h
      · rename_i digits
        rw [hrest]
        exact .marked marked hs (List.all_eq_true.1 digits.2) digits.1
      · cases h
    · cases h

section Reading

variable {s body fraction : List Char} {negative : Bool}

theorem literal?_of_point (signed : cutSign s = (negative, body))
    (point : body.dropWhile Char.isDigit = '.' :: fraction) :
    literal? s =
      if body.takeWhile Char.isDigit = [] ∧ fraction.takeWhile Char.isDigit = [] then none
      else (exponent? (fraction.dropWhile Char.isDigit)).map fun e =>
        { negative
          digits := digitValues (body.takeWhile Char.isDigit ++ fraction.takeWhile Char.isDigit)
          fraction := (fraction.takeWhile Char.isDigit).length
          exponent := e.getD 0
          whole := false } := by
  rw [literal?, signed]
  simp only [point, if_true, Bool.not_true, Bool.false_and]

theorem literal?_of_no_point (signed : cutSign s = (negative, body))
    (unpointed : (body.dropWhile Char.isDigit).head? ≠ some '.') :
    literal? s =
      if body.takeWhile Char.isDigit = [] then none
      else (exponent? (body.dropWhile Char.isDigit)).map fun e =>
        { negative
          digits := digitValues (body.takeWhile Char.isDigit)
          fraction := 0
          exponent := e.getD 0
          whole := e.isNone } := by
  have unmatched : ∀ r, body.dropWhile Char.isDigit ≠ '.' :: r := fun r hr => by
    rw [hr] at unpointed
    exact unpointed rfl
  rw [literal?, signed]
  dsimp only
  split
  · rename_i r point
    exact absurd point (unmatched r)
  · simp

end Reading

theorem isLiteral_of_literal? {s : List Char} {l : Literal} (h : literal? s = some l) :
    IsLiteral s := by
  obtain ⟨sign, hs, parts⟩ := exists_sign s
  rcases signed : cutSign s with ⟨negative, body⟩
  rw [signed] at parts
  have digits := isDigits_takeWhile body
  have cut : body.takeWhile Char.isDigit ++ body.dropWhile Char.isDigit = body :=
    List.takeWhile_append_dropWhile
  rw [parts]
  by_cases pointed : (body.dropWhile Char.isDigit).head? = some '.'
  · obtain ⟨fraction, point⟩ := List.head?_eq_some_iff.1 pointed
    rw [literal?_of_point signed point] at h
    split at h
    · cases h
    · rename_i given
      obtain ⟨e, he, -⟩ := Option.map_eq_some_iff.1 h
      have whole : body = body.takeWhile Char.isDigit ++ '.' :: fraction.takeWhile Char.isDigit ++
          fraction.dropWhile Char.isDigit := by
        rw [List.append_assoc, List.cons_append, List.takeWhile_append_dropWhile, ← point, cut]
      rw [whole, ← List.append_assoc]
      exact .of hs (.pointed digits (isDigits_takeWhile fraction) (not_and_or.1 given))
        (isExponent_of_exponent? he)
  · rw [literal?_of_no_point signed pointed] at h
    split at h
    · cases h
    · rename_i given
      obtain ⟨e, he, -⟩ := Option.map_eq_some_iff.1 h
      rw [← cut, ← List.append_assoc]
      exact .of hs (.whole digits given) (isExponent_of_exponent? he)

section Completeness

variable {ds rest : List Char}

theorem takeWhile_isDigit (hd : IsDigits ds) (hr : ∀ c ∈ rest.head?, c.isDigit = false) :
    (ds ++ rest).takeWhile Char.isDigit = ds := by
  rw [List.takeWhile_append_of_pos hd]
  cases rest with
  | nil => exact List.append_nil ds
  | cons c rest => rw [List.takeWhile_cons_of_neg (by simp [hr c rfl]), List.append_nil]

theorem dropWhile_isDigit (hd : IsDigits ds) (hr : ∀ c ∈ rest.head?, c.isDigit = false) :
    (ds ++ rest).dropWhile Char.isDigit = rest := by
  rw [List.dropWhile_append_of_pos hd]
  cases rest with
  | nil => rfl
  | cons c rest => exact List.dropWhile_cons_of_neg (by simp [hr c rfl])

theorem unsigned_of_isDigit {c : Char} (h : c.isDigit = true) : c ≠ '-' ∧ c ≠ '+' := by
  constructor <;> (rintro rfl; cases h)

theorem exists_exponent? {s : List Char} (h : IsExponent s) : ∃ e, exponent? s = some e := by
  cases h with
  | none => exact ⟨_, rfl⟩
  | @marked mark sign ds hm hs hd hne =>
    have cut : cutSign (sign ++ ds) = (decide (sign = ['-']), ds) :=
      cutSign_append hs fun c hc => unsigned_of_isDigit (hd c (List.mem_of_head? hc))
    rw [exponent?, if_pos hm, cut]
    dsimp only
    rw [if_pos ⟨hne, List.all_eq_true.2 hd⟩]
    exact ⟨_, rfl⟩

theorem isDigit_head?_exponent {s : List Char} (h : IsExponent s) :
    ∀ c ∈ s.head?, c.isDigit = false ∧ c ≠ '.' := by
  cases h with
  | none => exact nofun
  | marked hm => rcases hm with rfl | rfl <;> (rintro c ⟨⟩; decide)

theorem unsigned_head?_mantissa {mantissa : List Char} (h : IsMantissa mantissa)
    (rest : List Char) : ∀ c ∈ (mantissa ++ rest).head?, c ≠ '-' ∧ c ≠ '+' := by
  have first {ds : List Char} (hd : IsDigits ds) (hne : ds ≠ []) (rest : List Char) :
      ∀ c ∈ (ds ++ rest).head?, c ≠ '-' ∧ c ≠ '+' := by
    rw [List.head?_append_of_ne_nil _ hne]
    exact fun c hc => unsigned_of_isDigit (hd c (List.mem_of_head? hc))
  cases h with
  | whole hd hne => exact first hd hne rest
  | @pointed ds fs hd hf _ =>
    rw [List.append_assoc]
    rcases ds.eq_nil_or_concat with rfl | ⟨_, _, rfl⟩
    · rintro c ⟨⟩
      decide
    · exact first hd (by simp) _

theorem isLiteral_iff {s : List Char} : IsLiteral s ↔ ∃ l, literal? s = some l := by
  refine ⟨?_, fun ⟨l, h⟩ => isLiteral_of_literal? h⟩
  rintro @⟨sign, mantissa, exponent, hs, hm, he⟩
  obtain ⟨e, read⟩ := exists_exponent? he
  have stop := isDigit_head?_exponent he
  have unmarked : ∀ c ∈ exponent.head?, c.isDigit = false := fun c hc => (stop c hc).1
  have signed := cutSign_append hs (unsigned_head?_mantissa hm exponent)
  rw [← List.append_assoc] at signed
  cases hm with
  | whole hd hne =>
    have end_of_digits := dropWhile_isDigit hd unmarked
    rw [literal?_of_no_point signed (by rw [end_of_digits]; exact fun h => (stop _ h).2 rfl),
      takeWhile_isDigit hd unmarked, end_of_digits, if_neg hne, read]
    exact ⟨_, rfl⟩
  | @pointed ds fs hd hf hne =>
    rw [List.append_assoc ds, List.cons_append] at signed
    have at_point : ∀ c ∈ ('.' :: (fs ++ exponent)).head?, c.isDigit = false := by
      rintro c ⟨⟩
      decide
    rw [literal?_of_point signed (dropWhile_isDigit hd at_point), takeWhile_isDigit hd at_point,
      takeWhile_isDigit hf unmarked, dropWhile_isDigit hf unmarked, if_neg (not_and_or.2 hne), read]
    exact ⟨_, rfl⟩

end Completeness

def IsLiteralChar (c : Char) : Prop := c.isDigit = true ∨ c ∈ ['+', '-', '.', 'e', 'E']

instance (c : Char) : Decidable (IsLiteralChar c) := inferInstanceAs (Decidable (_ ∨ _))

theorem chars_of_isSign {sign : List Char} (h : IsSign sign) : ∀ c ∈ sign, IsLiteralChar c := by
  cases h with
  | none => exact nofun
  | plus => exact List.forall_mem_singleton.2 (.inr (by simp))
  | minus => exact List.forall_mem_singleton.2 (.inr (by simp))

theorem chars_of_isMantissa {mantissa : List Char} (h : IsMantissa mantissa) :
    (∀ c ∈ mantissa, IsLiteralChar c) ∧ ∃ c ∈ mantissa, c.isDigit = true := by
  cases h with
  | whole hd hne =>
    obtain ⟨c, hc⟩ := List.exists_mem_of_ne_nil _ hne
    exact ⟨fun c hc => .inl (hd c hc), c, hc, hd c hc⟩
  | @pointed ds fs hd hf hne =>
    refine ⟨List.forall_mem_append.2 ⟨fun c hc => .inl (hd c hc), ?_⟩, ?_⟩
    · exact List.forall_mem_cons.2 ⟨.inr (by simp), fun c hc => .inl (hf c hc)⟩
    · rcases hne with whole | fraction
      · obtain ⟨c, hc⟩ := List.exists_mem_of_ne_nil _ whole
        exact ⟨c, List.mem_append_left _ hc, hd c hc⟩
      · obtain ⟨c, hc⟩ := List.exists_mem_of_ne_nil _ fraction
        exact ⟨c, List.mem_append_right _ (List.mem_cons_of_mem _ hc), hf c hc⟩

theorem chars_of_isExponent {s : List Char} (h : IsExponent s) : ∀ c ∈ s, IsLiteralChar c := by
  cases h with
  | none => exact nofun
  | marked hm hs hd _ =>
    refine List.forall_mem_cons.2 ⟨?_, List.forall_mem_append.2 ⟨chars_of_isSign hs, ?_⟩⟩
    · rcases hm with rfl | rfl <;> exact .inr (by simp)
    · exact fun c hc => .inl (hd c hc)

theorem chars_of_isLiteral {s : List Char} (h : IsLiteral s) :
    (∀ c ∈ s, IsLiteralChar c) ∧ ∃ c ∈ s, c.isDigit = true := by
  obtain ⟨hs, hm, he⟩ := h
  obtain ⟨chars, c, hc, digit⟩ := chars_of_isMantissa hm
  have front := List.forall_mem_append.2 ⟨chars_of_isSign hs, chars⟩
  exact ⟨List.forall_mem_append.2 ⟨front, chars_of_isExponent he⟩, c,
    List.mem_append_left _ (List.mem_append_right _ hc), digit⟩

/-- The signs that a number may be written with: a minus unless it is positive, any other unless
it is negative. -/
inductive SignOf (n : Int) : List Char → Prop
  | none (hn : 0 ≤ n) : SignOf n []
  | plus (hn : 0 ≤ n) : SignOf n ['+']
  | minus (hn : n ≤ 0) : SignOf n ['-']

def digitsOf (n : Int) (zeros : Nat) : List Char :=
  List.replicate zeros '0' ++ Nat.toDigits 10 n.natAbs

/-- The text writes a whole number in so many digits, with blanks around it. -/
inductive Writes (n : Int) : Nat → List Char → Prop
  | of {before sign after : List Char} (zeros : Nat) (hb : ∀ c ∈ before, isBlank c = true)
      (hs : SignOf n sign) (ha : ∀ c ∈ after, isBlank c = true) :
      Writes n (digitsOf n zeros).length (before ++ (sign ++ digitsOf n zeros) ++ after)

theorem digitsOf_eq (n : Int) (zeros : Nat) :
    digitsOf n zeros =
      padded (zeros + (Nat.toDigits 10 n.natAbs).length) (Nat.toDigits 10 n.natAbs) := by
  rw [digitsOf, padded, Nat.add_sub_cancel]

theorem isDigits_digitsOf (n : Int) (zeros : Nat) : IsDigits (digitsOf n zeros) :=
  digitsOf_eq n zeros ▸ isDigits_padded _ _

theorem digitsOf_ne_nil (n : Int) (zeros : Nat) : digitsOf n zeros ≠ [] :=
  digitsOf_eq n zeros ▸ padded_ne_nil _ _

theorem isSign_of_signOf {n : Int} {sign : List Char} (h : SignOf n sign) : IsSign sign := by
  cases h <;> constructor

theorem isBlank_of_mem_sign {sign : List Char} (h : IsSign sign) :
    ∀ c ∈ sign, isBlank c = false := by
  cases h with
  | none => exact nofun
  | plus => exact List.forall_mem_singleton.2 rfl
  | minus => exact List.forall_mem_singleton.2 rfl

theorem literal?_of_isDigits {sign ds : List Char} (hs : IsSign sign) (hd : IsDigits ds)
    (hne : ds ≠ []) :
    literal? (sign ++ ds) = some
      { negative := decide (sign = ['-']), digits := digitValues ds, fraction := 0, exponent := 0,
        whole := true } := by
  have unmarked : ∀ c ∈ ([] : List Char).head?, c.isDigit = false := nofun
  have all := takeWhile_isDigit hd unmarked
  have nothing := dropWhile_isDigit hd unmarked
  rw [List.append_nil] at all nothing
  have signed : cutSign (sign ++ ds) = (decide (sign = ['-']), ds) :=
    cutSign_append hs fun c hc => unsigned_of_isDigit (hd c (List.mem_of_head? hc))
  rw [literal?_of_no_point signed (by rw [nothing]; exact nofun), all, nothing, if_neg hne]
  rfl

theorem toInt_digitsOf {n : Int} {sign : List Char} (h : SignOf n sign) (zeros fraction : Nat)
    (exponent : Int) (whole : Bool) :
    Literal.toInt ⟨decide (sign = ['-']), digitValues (digitsOf n zeros), fraction, exponent,
      whole⟩ = n := by
  rw [Literal.toInt, digitsOf_eq, ofDigits_padded]
  cases h with
  | none hn => exact Int.natAbs_of_nonneg hn
  | plus hn => exact Int.natAbs_of_nonneg hn
  | minus hn => exact (congrArg Neg.neg (Int.ofNat_natAbs_of_nonpos hn)).trans (Int.neg_neg n)

theorem numeral?_of_writes {n : Int} {digits : Nat} {s : List Char} (h : Writes n digits s) :
    numeral? s =
      if maxDigits < digits then .error (.numeralTooLong digits)
      else if maxExact < n then .ok none
      else .ok (some (.int n)) := by
  obtain @⟨before, sign, after, zeros, hb, hs, ha⟩ := h
  have sign' := isSign_of_signOf hs
  have digits := isDigits_digitsOf n zeros
  have unblank : ∀ c ∈ sign ++ digitsOf n zeros, isBlank c = false :=
    List.forall_mem_append.2
      ⟨isBlank_of_mem_sign sign', fun c hc => isBlank_of_isDigit (digits c hc)⟩
  have given := digitsOf_ne_nil n zeros
  rw [numeral?, trim_append hb unblank (List.append_ne_nil_of_right_ne_nil _ given) ha,
    literal?_of_isDigits sign' digits given]
  have value := toInt_digitsOf hs zeros 0 0 true
  have length : (digitValues (digitsOf n zeros)).length = (digitsOf n zeros).length :=
    List.length_map _
  simp only [if_true, value, length, gt_iff_lt]

theorem numeral?_of_not_literal {s : List Char} (h : ¬IsLiteral (trim s)) :
    numeral? s = .ok none := by
  rw [numeral?]
  cases read : literal? (trim s) with
  | none => rfl
  | some l => exact absurd (isLiteral_of_literal? read) h

end ResourceQuery.Number

namespace ResourceQuery.Inference

open Number

/-- A whole number is read back from every text that writes it in at most 4300 digits, unless it is
above the last exact one; and what is no literal, blanks around it aside, is no number. -/
theorem numeral_of_digits (s : String) :
    (∀ n digits, Writes n digits s.toList → digits ≤ 4300 →
      (n.natAbs ≤ 2 ^ 53 - 1 → numeral? (.text s) = .ok (some (.int n))) ∧
      (2 ^ 53 - 1 < n → numeral? (.text s) = .ok none)) ∧
    (¬IsLiteral (Text.trim s.toList) → numeral? (.text s) = .ok none) := by
  refine ⟨fun n digits written few => ?_, numeral?_of_not_literal⟩
  have read := numeral?_of_writes written
  have converted : ¬maxDigits < digits := Nat.not_lt.2 few
  rw [if_neg converted] at read
  have exact_eq : (maxExact : Int) = 2 ^ 53 - 1 := by decide
  constructor
  · intro bounded
    rw [numeral?, read, if_neg (by omega)]
  · intro above
    rw [numeral?, read, if_pos (by omega)]

theorem numeral_of_digits_edges :
    numeral? (.text " +007 ") = .ok (some (.int 7)) ∧
      numeral? (.text "-0") = .ok (some (.int 0)) ∧
      numeral? (.text "\t-9007199254740991") = .ok (some (.int (-9007199254740991))) ∧
      numeral? (.text "9007199254740992") = .ok none ∧
      numeral? (.text "0x1F") = .ok none := by
  have read (s : String) := (numeral_of_digits s).1
  have space : ∀ c ∈ [' '], Text.isBlank c = true := List.forall_mem_singleton.2 rfl
  have tab : ∀ c ∈ ['\t'], Text.isBlank c = true := List.forall_mem_singleton.2 rfl
  have seven : Writes 7 3 " +007 ".toList :=
    @Writes.of 7 [' '] ['+'] [' '] 2 space (.plus (by decide)) space
  have zero : Writes 0 1 "-0".toList := @Writes.of 0 [] ['-'] [] 0 nofun (.minus (by decide)) nofun
  have least : Writes (-9007199254740991) 16 "\t-9007199254740991".toList :=
    @Writes.of _ ['\t'] ['-'] [] 0 tab (.minus (by decide)) nofun
  have above : Writes 9007199254740992 16 "9007199254740992".toList :=
    @Writes.of _ [] [] [] 0 nofun (.none (by decide)) nofun
  have unread : ¬IsLiteral (Text.trim "0x1F".toList) := by
    rw [isLiteral_iff]
    exact fun ⟨l, h⟩ => by cases h
  exact ⟨(read _ _ _ seven (by decide)).1 (by decide), (read _ _ _ zero (by decide)).1 (by decide),
    (read _ _ _ least (by decide)).1 (by decide), (read _ _ _ above (by decide)).2 (by decide),
    (numeral_of_digits _).2 unread⟩

end ResourceQuery.Inference
