import Mathlib.Algebra.Group.Nat.Defs
import Mathlib.Data.List.DropRight
import Mathlib.Data.List.TakeWhile
import ResourceQuery.Number.Literal

/-!
Whole numbers as numerals. The digits of a number, filled up with zeros, are digits in ASCII and
are read as the number again; blanks around a text with none at its ends are trimmed away.
-/

namespace ResourceQuery

namespace Text

def IsDigits (s : List Char) : Prop := ∀ c ∈ s, c.isDigit = true

theorem isDigits_padded (width n : Nat) : IsDigits (padded width (Nat.toDigits 10 n)) := by
  intro c hc
  rcases List.mem_append.1 hc with zero | digit
  · rw [List.eq_of_mem_replicate zero]
    decide
  · exact Nat.isDigit_of_mem_toDigits (by decide) (by decide) digit

theorem length_padded_toDigits {width n : Nat} (hw : 0 < width) (h : n < 10 ^ width) :
    (padded width (Nat.toDigits 10 n)).length = width := by
  rw [length_padded]
  exact Nat.max_eq_left ((Nat.length_toDigits_le_iff (by decide) hw).2 h)

theorem padded_ne_nil (width n : Nat) : padded width (Nat.toDigits 10 n) ≠ [] :=
  List.append_ne_nil_of_right_ne_nil _ Nat.toDigits_ne_nil

theorem ofDigits_digitValues (s : List Char) :
    ofDigits (Number.digitValues s) = Nat.ofDigitChars 10 s 0 := by
  rw [ofDigits, Number.digitValues, List.foldl_map, Nat.ofDigitChars]
  simp only [Nat.mul_comm 10]
  rfl

theorem ofDigits_padded (width n : Nat) :
    ofDigits (Number.digitValues (padded width (Nat.toDigits 10 n))) = n := by
  rw [ofDigits_digitValues, padded, Nat.ofDigitChars_append, Nat.ofDigitChars_replicate_zero]
  simp

theorem mapM_asciiDigitValue? {s : List Char} (h : IsDigits s) :
    s.mapM asciiDigitValue? = some (Number.digitValues s) := by
  induction s with
  | nil => rfl
  | cons c s ih =>
    obtain ⟨hc, hs⟩ := List.forall_mem_cons.1 h
    rw [List.mapM_cons, ih hs, asciiDigitValue?, if_pos hc]
    rfl

theorem asciiNumeral?_padded (width n : Nat) :
    asciiNumeral? (padded width (Nat.toDigits 10 n)) = some n := by
  rw [asciiNumeral?, if_neg (padded_ne_nil width n),
    mapM_asciiDigitValue? (isDigits_padded width n)]
  exact congrArg some (ofDigits_padded width n)

theorem isBlank_of_visible {c : Char} (low : 0x20 < c.toNat) (high : c.toNat < 0x7F) :
    isBlank c = false := by
  simp only [isBlank, Bool.or_eq_false_iff, Bool.and_eq_false_iff, decide_eq_false_iff_not,
    beq_eq_false_iff_ne]
  omega

theorem isBlank_of_isDigit {c : Char} (h : c.isDigit = true) : isBlank c = false := by
  obtain ⟨low, high⟩ := Bool.and_eq_true_iff.1 h
  have first : 48 ≤ c.toNat := of_decide_eq_true low
  have last : c.toNat ≤ 57 := of_decide_eq_true high
  exact isBlank_of_visible (by omega) (by omega)

theorem exists_dropEnds (p : Char → Bool) (s : List Char) :
    ∃ a b : List Char, s = a ++ ((s.dropWhile p).reverse.dropWhile p).reverse ++ b ∧
      (∀ c ∈ a, p c = true) ∧ ∀ c ∈ b, p c = true := by
  refine ⟨s.takeWhile p, ((s.dropWhile p).reverse.takeWhile p).reverse, ?_, fun c hc => ?_,
    fun c hc => ?_⟩
  · rw [List.append_assoc, ← List.reverse_append, List.takeWhile_append_dropWhile,
      List.reverse_reverse, List.takeWhile_append_dropWhile]
  · exact List.mem_takeWhile_imp hc
  · exact List.mem_takeWhile_imp (List.mem_reverse.1 hc)

theorem exists_trim (s : List Char) : ∃ a b : List Char, s = a ++ trim s ++ b ∧
    (∀ c ∈ a, isBlank c = true) ∧ ∀ c ∈ b, isBlank c = true := exists_dropEnds isBlank s

structure IsTrimmed (s : List Char) : Prop where
  head : ∀ c ∈ s.head?, isBlank c = false
  last : ∀ c ∈ s.getLast?, isBlank c = false

theorem isTrimmed_of_forall {s : List Char} (h : ∀ c ∈ s, isBlank c = false) : IsTrimmed s :=
  ⟨fun c hc => h c (List.mem_of_head? hc), fun c hc => h c (List.mem_of_getLast? hc)⟩

theorem isBlank_of_head?_dropWhile {s : List Char} {c : Char}
    (h : c ∈ (s.dropWhile isBlank).head?) : isBlank c = false := by
  have first := List.head?_dropWhile_not isBlank s
  rwa [h] at first

theorem isTrimmed_trim (s : List Char) : IsTrimmed (trim s) := by
  constructor
  · intro c hc
    -- what is left on the right is a beginning of what is left on the left
    obtain ⟨rest, whole⟩ := List.rdropWhile_prefix isBlank (trimLeft s)
    have first : c ∈ (trimLeft s).head? := by
      rw [← whole, List.head?_append, Option.mem_def, Option.or_eq_some_iff]
      exact .inl hc
    exact isBlank_of_head?_dropWhile first
  · intro c hc
    rw [trim, trimRight, List.getLast?_reverse] at hc
    exact isBlank_of_head?_dropWhile hc

theorem dropWhile_isBlank {s : List Char} (h : ∀ c ∈ s.head?, isBlank c = false) :
    s.dropWhile isBlank = s := by
  cases s with
  | nil => rfl
  | cons c s => exact List.dropWhile_cons_of_neg (by simp [h c rfl])

theorem trim_around {before s after : List Char} (hb : ∀ c ∈ before, isBlank c = true)
    (hs : IsTrimmed s) (hne : s ≠ []) (ha : ∀ c ∈ after, isBlank c = true) :
    trim (before ++ s ++ after) = s := by
  have left : trimLeft (before ++ s ++ after) = s ++ after := by
    rw [trimLeft, List.append_assoc, List.dropWhile_append_of_pos hb]
    refine dropWhile_isBlank fun c hc => hs.head c ?_
    rwa [List.head?_append_of_ne_nil s hne] at hc
  have right : s.reverse.dropWhile isBlank = s.reverse := by
    refine dropWhile_isBlank fun c hc => hs.last c ?_
    rwa [List.head?_reverse] at hc
  rw [trim, left, trimRight, List.reverse_append,
    List.dropWhile_append_of_pos fun c hc => ha c (List.mem_reverse.1 hc), right,
    List.reverse_reverse]

theorem trim_append {before s after : List Char} (hb : ∀ c ∈ before, isBlank c = true)
    (hs : ∀ c ∈ s, isBlank c = false) (hne : s ≠ []) (ha : ∀ c ∈ after, isBlank c = true) :
    trim (before ++ s ++ after) = s :=
  trim_around hb (isTrimmed_of_forall hs) hne ha

theorem trim_of_blank {s : List Char} (h : ∀ c ∈ s, isBlank c = true) : trim s = [] := by
  have left : trimLeft s = [] := List.dropWhile_eq_nil_iff.2 h
  rw [trim, left]
  rfl

end Text
end ResourceQuery
