import Mathlib.Algebra.Order.Field.Basic
import Mathlib.Data.Nat.Digits.Defs
import Mathlib.Tactic.Linarith
import ResourceQuery.Proofs.LiteralForm
import ResourceQuery.Proofs.Quotients

/-!
The numbers that literals write. A literal that is no whole number is rounded to a double before
it is compared with the last exact number, so it counts as exact up to half of one above: the
double that is nearest to a tie is the even one, which is no longer exact.
-/

namespace ResourceQuery.Number

open Text

theorem roundHalfEven_le_iff {n d m : Nat} (hd : 0 < d) (odd : m % 2 = 1) :
    roundHalfEven n d ≤ m ↔ 2 * n < (2 * m + 1) * d := by
  have parts := Nat.div_add_mod n d
  have twice : (2 * m + 1) * d = 2 * (m * d) + d := by rw [Nat.succ_mul, Nat.mul_assoc]
  constructor
  · intro rounded
    by_contra! reached
    rcases reached.lt_or_eq with above | tie
    · exact absurd (lt_roundHalfEven hd above) (Nat.not_lt.2 rounded)
    · -- the quotient is half of one above an odd number, and goes to the even one
      have whole : n / d = m := by
        rw [Nat.div_eq_iff hd]
        omega
      rw [whole, Nat.mul_comm d m] at parts
      rw [roundHalfEven, whole, if_neg (by omega)] at rounded
      omega
  · intro below
    have whole : n / d < m + 1 := by
      rw [Nat.div_lt_iff_lt_mul hd, Nat.succ_mul]
      omega
    rcases Nat.lt_or_eq_of_le (Nat.lt_succ_iff.1 whole) with less | same
    · exact (roundHalfEven_le_div_add_one n d).trans less
    · rw [same, Nat.mul_comm d m] at parts
      rw [roundHalfEven, if_pos (.inl (by omega)), same]

namespace Binary64

variable {n d : Nat}

theorem value_nonneg (c : Nat) : 0 ≤ value ⟨false, c⟩ := by
  rw [value_of_nonneg rfl]
  positivity

theorem value_negative (c : Nat) : value ⟨true, c⟩ = -value ⟨false, c⟩ := by
  have numerators : numerator ⟨true, c⟩ = -numerator ⟨false, c⟩ := by
    rw [numerator, numerator, if_pos rfl, if_neg Bool.false_ne_true, Int.neg_one_mul, Int.one_mul]
    rfl
  rw [value, value, numerators, Int.cast_neg, neg_div]
  rfl

theorem abs_value (x : Binary64) : |x.value| = value ⟨false, x.code⟩ := by
  obtain ⟨negative, c⟩ := x
  cases negative with
  | false => exact abs_of_nonneg (value_nonneg c)
  | true => rw [value_negative, abs_neg, abs_of_nonneg (value_nonneg c)]

theorem value_of_negative {x : Binary64} (h : x.negative = true) : x.value = -|x.value| := by
  obtain ⟨negative, c⟩ := x
  cases h
  rw [abs_value, value_negative]

theorem value_of_not_negative {x : Binary64} (h : x.negative = false) : x.value = |x.value| := by
  obtain ⟨negative, c⟩ := x
  cases h
  rw [abs_value]

theorem lt_of_fine (hd : 0 < d) (fine : stepExponent n d < 0) : n < binade * d := by
  have scaled := scaled_lt n hd
  rw [scale_of_nonpos fine.le, Nat.mul_one, Nat.mul_assoc] at scaled
  have halves : Nat.pow 2 1 ≤ Nat.pow 2 (-stepExponent n d).toNat :=
    Nat.pow_le_pow_right Nat.two_pos (by omega)
  have doubled : n * 2 ≤ n * Nat.pow 2 (-stepExponent n d).toNat := Nat.mul_le_mul_left n halves
  omega

theorem le_of_coarse (hn : 0 < n) (coarse : 0 < stepExponent n d) :
    binade * (d * Nat.pow 2 (stepExponent n d).toNat) ≤ n ∧
      2 ≤ Nat.pow 2 (stepExponent n d).toNat := by
  have reached := le_scaled hn d (by omega)
  rw [scale_of_nonpos (by omega : -stepExponent n d ≤ 0), Nat.mul_one] at reached
  exact ⟨reached, Nat.pow_le_pow_right Nat.two_pos (by omega : 1 ≤ (stepExponent n d).toNat)⟩

/-- A quotient is rounded to an exact number, or to a fraction below the last one, when it is less
than half of one above that. -/
theorem value_nearestCode_le_iff (hd : 0 < d) :
    value ⟨false, nearestCode n d⟩ ≤ maxExact ↔ 2 * n < (2 * maxExact + 1) * d := by
  -- the last exact number is below two to the power of 53 by one
  have exact_part : maxExact * d + d = 2 * (binade * d) := by
    rw [← Nat.succ_mul, ← Nat.mul_assoc]
    rfl
  have bound : (2 * maxExact + 1) * d + d = 4 * (binade * d) := by
    rw [← Nat.succ_mul, ← Nat.mul_assoc]
    rfl
  have positive : d ≤ binade * d := Nat.le_mul_of_pos_left d (by decide)
  rcases Nat.eq_zero_or_pos n with rfl | hn
  · refine iff_of_true ?_ (Nat.mul_pos (by decide) hd)
    rw [nearestCode_zero, value_zero]
    exact Nat.cast_nonneg _
  rcases lt_trichotomy (stepExponent n d) 0 with fine | one | coarse
  · have small := lt_of_fine hd fine
    refine iff_of_true ?_ (by omega)
    have rounded : roundHalfEven (n * Nat.pow 2 (-stepExponent n d).toNat) d ≤
        maxExact * Nat.pow 2 (-stepExponent n d).toNat := by
      refine roundHalfEven_le hd ?_
      rw [Nat.mul_right_comm]
      exact Nat.mul_le_mul_right _ (by omega)
    have steps_pos : (0 : ℚ) < Nat.pow 2 (-stepExponent n d).toNat :=
      Nat.cast_pos.2 (Nat.two_pow_pos _)
    rw [value_of_fine hn hd fine.le, div_le_iff₀ steps_pos]
    exact_mod_cast rounded
  · have odd := roundHalfEven_le_iff (n := n) (m := maxExact) hd (by decide)
    rw [value_of_fine hn hd one.le, one]
    simpa using odd
  · obtain ⟨reached, two⟩ := le_of_coarse hn coarse
    set scale := Nat.pow 2 (stepExponent n d).toNat
    have large : 2 * (binade * d) ≤ n := by
      refine le_trans ?_ reached
      calc 2 * (binade * d) = binade * (d * 2) := by ring
        _ ≤ binade * (d * scale) := Nat.mul_le_mul_left _ (Nat.mul_le_mul_left d two)
    have full : binade ≤ roundHalfEven n (d * scale) := by
      refine le_trans ?_ (div_le_roundHalfEven _ _)
      exact (Nat.le_div_iff_mul_le (Nat.mul_pos hd (by omega))).2 reached
    have above : maxExact < roundHalfEven n (d * scale) * scale :=
      lt_of_lt_of_le (by decide) (Nat.mul_le_mul full two)
    refine iff_of_false ?_ (by omega)
    rw [value_of_coarse hn hd coarse.le, not_le]
    exact_mod_cast above

theorem value_nearestCode_le (hd : 0 < d) (h : n ≤ 2 * binade * d) :
    value ⟨false, nearestCode n d⟩ ≤ 2 * binade := by
  rcases Nat.eq_zero_or_pos n with rfl | hn
  · rw [nearestCode_zero, value_zero]
    positivity
  rcases lt_or_ge 0 (stepExponent n d) with coarse | fine
  · obtain ⟨reached, two⟩ := le_of_coarse hn coarse
    rw [value_of_coarse hn hd coarse.le]
    set scale := Nat.pow 2 (stepExponent n d).toNat
    have few : scale = 2 := by
      have positive : 0 < binade * d := Nat.mul_pos (by decide) hd
      refine le_antisymm (Nat.le_of_mul_le_mul_left ?_ positive) two
      calc binade * d * scale = binade * (d * scale) := Nat.mul_assoc _ _ _
        _ ≤ 2 * binade * d := reached.trans h
        _ = binade * d * 2 := by ring
    have rounded : roundHalfEven n (d * scale) ≤ binade := by
      refine roundHalfEven_le (Nat.mul_pos hd (by omega)) (h.trans_eq ?_)
      rw [few]
      ring
    have both := Nat.mul_le_mul rounded few.le
    rw [Nat.mul_comm binade] at both
    exact_mod_cast both
  · have steps_pos : (0 : ℚ) < Nat.pow 2 (-stepExponent n d).toNat :=
      Nat.cast_pos.2 (Nat.two_pow_pos _)
    rw [value_of_fine hn hd fine, div_le_iff₀ steps_pos]
    have rounded : roundHalfEven (n * Nat.pow 2 (-stepExponent n d).toNat) d ≤
        2 * binade * Nat.pow 2 (-stepExponent n d).toNat := by
      refine roundHalfEven_le hd ?_
      rw [Nat.mul_right_comm]
      exact Nat.mul_le_mul_right _ h
    exact_mod_cast rounded

theorem value_nearestCode_one (hn : n ≤ 2 ^ 53) : value ⟨false, nearestCode n 1⟩ = n := by
  rcases Nat.eq_zero_or_pos n with rfl | positive
  · rw [nearestCode_zero, value_zero, Nat.cast_zero]
  rcases lt_or_ge 0 (stepExponent n 1) with coarse | fine
  · obtain ⟨rfl, -⟩ := eq_of_coarse positive one_pos hn coarse
    have step : stepExponent (2 ^ 53) 1 = 1 := by decide
    rw [value_of_coarse positive one_pos coarse.le, step]
    exact_mod_cast (by decide : roundHalfEven (2 ^ 53) (1 * Nat.pow 2 1) * Nat.pow 2 1 = 2 ^ 53)
  · have steps_pos : (0 : ℚ) < Nat.pow 2 (-stepExponent n 1).toNat :=
      Nat.cast_pos.2 (Nat.two_pow_pos _)
    rw [value_of_fine positive one_pos fine, roundHalfEven_one, Nat.cast_mul,
      mul_div_cancel_right₀ _ steps_pos.ne']

theorem abs_value_ne_of_odd {m : Nat} (odd : m % 2 = 1) (large : Nat.pow 2 53 < m) (x : Binary64) :
    |x.value| ≠ m := by
  intro same
  have positive : (0 : ℚ) < x.denominator := by exact_mod_cast x.denominator_pos
  have scaled : x.significand * Nat.pow 2 x.exponent.toNat = m * Nat.pow 2 (-x.exponent).toNat := by
    rw [value, abs_div, Nat.abs_cast, div_eq_iff positive.ne', ← Int.cast_abs, ← Nat.cast_natAbs,
      natAbs_numerator] at same
    exact_mod_cast same
  rcases le_or_gt x.exponent 0 with whole | even
  · rw [scale_of_nonpos whole, Nat.mul_one] at scaled
    have reached : m ≤ x.significand :=
      scaled ▸ Nat.le_mul_of_pos_right m (Nat.two_pow_pos (-x.exponent).toNat)
    exact absurd (reached.trans_lt x.significand_lt) (by omega)
  · obtain ⟨k, power⟩ : ∃ k, x.exponent.toNat = k + 1 := ⟨x.exponent.toNat - 1, by omega⟩
    have twice : Nat.pow 2 (k + 1) = 2 * Nat.pow 2 k := Nat.pow_succ'
    rw [scale_of_nonpos (by omega : -x.exponent ≤ 0), Nat.mul_one, power, twice,
      Nat.mul_left_comm] at scaled
    omega

theorem natAbs_addOne_le {x : Binary64} (h : |x.value| ≤ maxExact) :
    (x.numerator + x.denominator).natAbs ≤ 2 * binade * x.denominator := by
  have positive : (0 : ℚ) < x.denominator := by exact_mod_cast x.denominator_pos
  have small : x.numerator.natAbs ≤ maxExact * x.denominator := by
    rw [value, abs_div, Nat.abs_cast, div_le_iff₀ positive, ← Int.cast_abs] at h
    rw [← Int.ofNat_le, Int.natCast_natAbs]
    exact_mod_cast h
  calc (x.numerator + x.denominator).natAbs ≤ x.numerator.natAbs + x.denominator :=
        Int.natAbs_add_le _ _
    _ ≤ maxExact * x.denominator + x.denominator := Nat.add_le_add_right small _
    _ = 2 * binade * x.denominator := (Nat.succ_mul maxExact _).symm

theorem abs_value_addOne_le {x : Binary64} (h : |x.value| ≤ maxExact) :
    |x.addOne.value| ≤ 2 * binade := by
  rw [abs_value]
  exact value_nearestCode_le x.denominator_pos (natAbs_addOne_le h)

theorem nearestCode_lt (hd : 0 < d) (h : n ≤ 2 * binade * d) : nearestCode n d < infinityCode := by
  refine (nearestCode_le hd (k := 54) ?_).trans_lt (by decide)
  calc n ≤ d * (2 * binade) := h.trans_eq (Nat.mul_comm _ _)
    _ < d * Nat.pow 2 54 := Nat.mul_lt_mul_of_pos_left (by decide) hd

end Binary64

section Digits

variable {ds : List Nat}

theorem ofDigits_eq (ds : List Nat) : ofDigits ds = Nat.ofDigits 10 ds.reverse := by
  rw [Nat.ofDigits_eq_foldr, List.foldr_reverse, ofDigits]
  simp only [Nat.cast_id, Nat.add_comm, Nat.mul_comm]

theorem ofDigits_dropWhile_zero (ds : List Nat) :
    ofDigits (ds.dropWhile (· = 0)) = ofDigits ds := by
  induction ds with
  | nil => rfl
  | cons d ds ih =>
    by_cases zero : d = 0
    · rw [List.dropWhile_cons_of_pos (by simpa using zero), ih, zero]
      rfl
    · rw [List.dropWhile_cons_of_neg (by simpa using zero)]

theorem ofDigits_lt (h : ∀ d ∈ ds, d < 10) : ofDigits ds < 10 ^ ds.length := by
  rw [ofDigits_eq, ← List.length_reverse]
  exact Nat.ofDigits_lt_base_pow_length (by decide) fun d hd => h d (List.mem_reverse.1 hd)

theorem le_ofDigits {d : Nat} (hd : d ≠ 0) : 10 ^ ds.length ≤ ofDigits (d :: ds) := by
  rw [ofDigits_eq, Nat.ofDigits_reverse_cons]
  exact (Nat.le_mul_of_pos_right _ (Nat.pos_of_ne_zero hd)).trans (Nat.le_add_left _ _)

end Digits

def exactTie : ℚ := maxExact + 1 / 2

theorem one_lt_exactTie : 1 < exactTie := by norm_num [exactTie, maxExact]

theorem exactTie_pos : 0 < exactTie := one_pos.trans one_lt_exactTie

theorem intCast_lt_exactTie {m : Int} : (m : ℚ) < exactTie ↔ m ≤ maxExact := by
  rw [exactTie, ← Int.lt_add_one_iff]
  constructor
  · intro below
    have next : (m : ℚ) < (maxExact + 1 : Int) := by
      push_cast
      linarith
    exact_mod_cast next
  · intro next
    have reached : (m : ℚ) ≤ maxExact := by exact_mod_cast Int.lt_add_one_iff.1 next
    linarith

theorem neg_exactTie_lt_intCast {m : Int} : -exactTie < m ↔ -(maxExact : Int) ≤ m := by
  rw [neg_lt, ← Int.cast_neg, intCast_lt_exactTie, neg_le]

namespace Literal

def value (l : Literal) : ℚ :=
  (if l.negative then -1 else 1) * (ofDigits l.digits * 10 ^ (l.exponent - l.fraction))

def significant (l : Literal) : List Nat := l.digits.dropWhile (· = 0)

def reach (l : Literal) : Int := l.exponent - l.fraction + l.significant.length

structure WellFormed (l : Literal) : Prop where
  digits : ∀ d ∈ l.digits, d < 10
  whole : l.whole = true → l.fraction = 0 ∧ l.exponent = 0

theorem abs_value (l : Literal) :
    |l.value| = ofDigits l.digits * 10 ^ (l.exponent - l.fraction) := by
  have magnitude : (0 : ℚ) ≤ ofDigits l.digits * 10 ^ (l.exponent - l.fraction) := by positivity
  rw [value]
  split
  · rw [neg_one_mul, abs_neg, abs_of_nonneg magnitude]
  · rw [one_mul, abs_of_nonneg magnitude]

theorem value_of_negative {l : Literal} (h : l.negative = true) : l.value = -|l.value| := by
  rw [abs_value, value, if_pos h, neg_one_mul]

theorem value_of_not_negative {l : Literal} (h : l.negative = false) : l.value = |l.value| := by
  rw [abs_value, value, if_neg (by simp [h]), one_mul]

namespace WellFormed

variable {l : Literal}

theorem value_eq_toInt (h : l.WellFormed) (whole : l.whole = true) : l.value = l.toInt := by
  obtain ⟨places, power⟩ := h.whole whole
  rw [value, places, power, toInt]
  split <;> simp

theorem abs_value_lt (h : l.WellFormed) : |l.value| < 10 ^ l.reach := by
  have digits : ofDigits l.digits < 10 ^ l.significant.length := by
    rw [← ofDigits_dropWhile_zero]
    exact ofDigits_lt fun d hd => h.digits d ((List.dropWhile_sublist _).mem hd)
  have scale : (0 : ℚ) < 10 ^ (l.exponent - l.fraction) := by positivity
  rw [abs_value, reach, add_comm, zpow_add₀ (by norm_num), zpow_natCast]
  exact mul_lt_mul_of_pos_right (by exact_mod_cast digits) scale

theorem le_abs_value (h : l.significant ≠ []) : 10 ^ (l.reach - 1) ≤ |l.value| := by
  obtain ⟨d, ds, first⟩ := List.exists_cons_of_ne_nil h
  have nonzero : d ≠ 0 := by
    have head := List.head?_dropWhile_not (· = 0) l.digits
    rw [← significant, first] at head
    exact of_decide_eq_false head
  have digits : 10 ^ ds.length ≤ ofDigits (d :: ds) := le_ofDigits nonzero
  rw [← first, significant, ofDigits_dropWhile_zero] at digits
  have scale : (0 : ℚ) < 10 ^ (l.exponent - l.fraction) := by positivity
  have place : l.reach - 1 = ds.length + (l.exponent - l.fraction) := by
    rw [reach, first, List.length_cons]
    push_cast
    ring
  rw [abs_value, place, zpow_add₀ (by norm_num), zpow_natCast]
  exact mul_le_mul_of_nonneg_right (by exact_mod_cast digits) scale.le

end WellFormed

theorem toBinary64?_eq (l : Literal) :
    l.toBinary64? =
      if (l.significant.length : Int) = 0 ∨ l.reach < -330 then some ⟨l.negative, 0⟩
      else if l.reach > 310 then none
      else Binary64.nearest? l.negative
        (ofDigits l.digits * Nat.pow 10 (l.exponent - l.fraction).toNat)
        (Nat.pow 10 (-(l.exponent - l.fraction)).toNat) := rfl

theorem div_eq_abs_value (l : Literal) :
    ((ofDigits l.digits * Nat.pow 10 (l.exponent - l.fraction).toNat : Nat) : ℚ) /
      Nat.pow 10 (-(l.exponent - l.fraction)).toNat = |l.value| := by
  rw [abs_value, ← decimal_scale, Nat.cast_mul, mul_div_assoc]

end Literal

namespace Binary64

variable {n d : Nat}

theorem value_nearestCode_le_iff_lt_tie (hd : 0 < d) :
    value ⟨false, nearestCode n d⟩ ≤ maxExact ↔ (n : ℚ) / d < exactTie := by
  have positive : (0 : ℚ) < d := by exact_mod_cast hd
  rw [value_nearestCode_le_iff hd, div_lt_iff₀ positive, exactTie, ← Nat.cast_lt (α := ℚ)]
  push_cast
  constructor <;> intro h <;> linarith

theorem exactTie_le_of_infinite (hd : 0 < d) (h : infinityCode ≤ nearestCode n d) :
    exactTie ≤ (n : ℚ) / d := by
  have positive : (0 : ℚ) < d := by exact_mod_cast hd
  have large : d * Nat.pow 2 54 ≤ n := by
    by_contra! small
    exact absurd (h.trans (nearestCode_le hd small)) (by decide)
  have beyond : (maxExact + 1 / 2 : ℚ) ≤ Nat.pow 2 54 := by norm_num [maxExact]
  rw [exactTie, le_div_iff₀ positive]
  calc (maxExact + 1 / 2 : ℚ) * d ≤ Nat.pow 2 54 * d :=
        mul_le_mul_of_nonneg_right beyond positive.le
    _ = (d * Nat.pow 2 54 : Nat) := by push_cast; ring
    _ ≤ n := by exact_mod_cast large

end Binary64

namespace Literal

inductive Reads (l : Literal) : Option Binary64 → Prop
  | double {x : Binary64} (sign : x.negative = l.negative)
      (exact_iff : |x.value| ≤ maxExact ↔ |l.value| < exactTie) : Reads l (some x)
  | infinite (high : exactTie ≤ |l.value|) : Reads l none

theorem WellFormed.reads {l : Literal} (h : l.WellFormed) : l.Reads l.toBinary64? := by
  rw [toBinary64?_eq]
  split
  · rename_i tiny
    have small : |l.value| < exactTie := by
      rcases tiny with nothing | low
      · have digits : ofDigits l.digits = 0 := by
          rw [← ofDigits_dropWhile_zero, ← significant,
            List.eq_nil_of_length_eq_zero (Int.natCast_eq_zero.1 nothing), ofDigits_nil]
        rw [abs_value, digits, Nat.cast_zero, zero_mul]
        exact exactTie_pos
      · have below : (10 : ℚ) ^ l.reach ≤ 1 := zpow_le_one_of_nonpos₀ (by norm_num) (by omega)
        exact (h.abs_value_lt.trans_le below).trans one_lt_exactTie
    refine .double rfl (iff_of_true ?_ small)
    rw [Binary64.abs_value, Binary64.value_zero]
    exact Nat.cast_nonneg _
  rename_i counted
  rw [not_or] at counted
  split
  · rename_i large
    have digits : l.significant ≠ [] := fun none => counted.1 (by rw [none]; rfl)
    have beyond : exactTie ≤ 10 ^ (16 : Int) := by norm_num [exactTie, maxExact]
    have power : (10 : ℚ) ^ (16 : Int) ≤ 10 ^ (l.reach - 1) :=
      zpow_le_zpow_right₀ (by norm_num) (by omega)
    exact .infinite (beyond.trans (power.trans (le_abs_value digits)))
  · have divisor : 0 < Nat.pow 10 (-(l.exponent - l.fraction)).toNat :=
      Nat.pow_pos (by decide)
    rw [Binary64.nearest?]
    split
    · refine .double rfl ?_
      rw [Binary64.abs_value, Binary64.value_nearestCode_le_iff_lt_tie divisor, div_eq_abs_value]
    · rename_i infinite
      refine .infinite (l.div_eq_abs_value ▸ ?_)
      exact Binary64.exactTie_le_of_infinite divisor (Nat.not_lt.1 infinite)

end Literal

theorem digitValues_lt {ds : List Char} (h : IsDigits ds) : ∀ d ∈ digitValues ds, d < 10 := by
  intro d hd
  obtain ⟨c, hc, rfl⟩ := List.mem_map.1 hd
  have last : c.toNat ≤ 57 := of_decide_eq_true (Bool.and_eq_true_iff.1 (h c hc)).2
  omega

theorem wellFormed_of_literal? {s : List Char} {l : Literal} (h : literal? s = some l) :
    l.WellFormed := by
  rcases signed : cutSign s with ⟨negative, body⟩
  have digits := isDigits_takeWhile body
  by_cases pointed : (body.dropWhile Char.isDigit).head? = some '.'
  · obtain ⟨fraction, point⟩ := List.head?_eq_some_iff.1 pointed
    rw [literal?_of_point signed point] at h
    split at h
    · cases h
    · obtain ⟨e, -, rfl⟩ := Option.map_eq_some_iff.1 h
      exact ⟨digitValues_lt (List.forall_mem_append.2 ⟨digits, isDigits_takeWhile fraction⟩), nofun⟩
  · rw [literal?_of_no_point signed pointed] at h
    split at h
    · cases h
    · obtain ⟨e, -, rfl⟩ := Option.map_eq_some_iff.1 h
      refine ⟨digitValues_lt digits, fun whole => ⟨rfl, ?_⟩⟩
      rw [Option.isNone_iff_eq_none.1 whole]
      rfl

section Numerals

variable {s : List Char} {l : Literal}

theorem exists_literal_of_numeral? {n : Numeral} (h : numeral? s = .ok (some n)) :
    ∃ l, literal? (trim s) = some l := by
  rw [numeral?] at h
  split at h
  · cases h
  · exact ⟨_, ‹_›⟩

theorem value_of_numeral? {n : Numeral} (hl : literal? (trim s) = some l)
    (h : numeral? s = .ok (some n)) :
    l.value < exactTie ∧ (-maxExact ≤ n.value ↔ -exactTie < l.value) := by
  have wf := wellFormed_of_literal? hl
  rw [numeral?, hl] at h
  dsimp only at h
  split at h
  · rename_i whole
    split at h
    · cases h
    split at h <;> cases h
    rename_i bounded
    rw [wf.value_eq_toInt whole]
    refine ⟨intCast_lt_exactTie.2 (Int.not_lt.1 bounded), ?_⟩
    rw [neg_exactTie_lt_intCast, Numeral.value]
    exact_mod_cast Iff.rfl
  · have reads := wf.reads
    split at h
    · cases h
    rename_i x found
    rw [found] at reads
    split at h <;> cases h
    rename_i bounded
    cases reads with
    | double sign exact_iff =>
    have below : x.value ≤ maxExact :=
      Binary64.exceeds_eq_false_iff.1 (Bool.not_eq_true _ ▸ bounded)
    rw [Numeral.value]
    cases negative : l.negative with
    | true =>
      rw [l.value_of_negative negative, x.value_of_negative (sign.trans negative), neg_le_neg_iff,
        neg_lt_neg_iff]
      exact ⟨(neg_nonpos.2 (abs_nonneg _)).trans_lt exactTie_pos, exact_iff⟩
    | false =>
      rw [x.value_of_not_negative (sign.trans negative)] at below ⊢
      rw [l.value_of_not_negative negative]
      refine ⟨exact_iff.1 below, iff_of_true ?_ ?_⟩
      · exact (neg_nonpos.2 (Nat.cast_nonneg _)).trans (abs_nonneg _)
      · exact (neg_neg_of_pos exactTie_pos).trans_le (abs_nonneg _)

theorem numeral?_eq_none (hl : literal? (trim s) = some l)
    (few : l.whole = true → l.digits.length ≤ maxDigits) (high : exactTie ≤ l.value) :
    numeral? s = .ok none := by
  have wf := wellFormed_of_literal? hl
  rw [numeral?, hl]
  dsimp only
  split
  · rename_i whole
    rw [wf.value_eq_toInt whole, ← not_lt, intCast_lt_exactTie, not_le] at high
    rw [if_neg (Nat.not_lt.2 (few whole)), if_pos high]
  · have reads := wf.reads
    have positive : l.negative = false := by
      by_contra negative
      rw [l.value_of_negative (Bool.not_eq_false _ ▸ negative)] at high
      exact (high.trans (neg_nonpos.2 (abs_nonneg _))).not_gt exactTie_pos
    cases found : l.toBinary64? with
    | none => rfl
    | some x =>
      rw [found] at reads
      cases reads with
      | double sign exact_iff =>
      rw [l.value_of_not_negative positive, ← not_lt, ← exact_iff,
        ← x.value_of_not_negative (sign.trans positive)] at high
      have above : x.exceeds maxExact = true := by
        by_contra within
        exact high (Binary64.exceeds_eq_false_iff.1 (Bool.not_eq_true _ ▸ within))
      dsimp only
      rw [if_pos above]

/-- A literal between the two ties is read, whichever way it is written. -/
theorem exists_numeral? (hl : literal? (trim s) = some l)
    (few : l.whole = true → l.digits.length ≤ maxDigits) (within : |l.value| < exactTie) :
    ∃ n, numeral? s = .ok (some n) := by
  have wf := wellFormed_of_literal? hl
  rw [numeral?, hl]
  dsimp only
  split
  · rename_i whole
    have bounded : l.toInt ≤ maxExact := by
      rw [← intCast_lt_exactTie, ← wf.value_eq_toInt whole]
      exact (le_abs_self _).trans_lt within
    rw [if_neg (Nat.not_lt.2 (few whole)), if_neg (Int.not_lt.2 bounded)]
    exact ⟨_, rfl⟩
  · have reads := wf.reads
    cases found : l.toBinary64? with
    | none =>
      rw [found] at reads
      cases reads with
      | infinite high => exact absurd within (not_lt.2 high)
    | some x =>
      rw [found] at reads
      cases reads with
      | double sign exact_iff =>
      have bounded : x.exceeds maxExact = false :=
        Binary64.exceeds_eq_false_iff.2 ((le_abs_self _).trans (exact_iff.2 within))
      dsimp only
      rw [bounded]
      exact ⟨_, rfl⟩

end Numerals

end ResourceQuery.Number
