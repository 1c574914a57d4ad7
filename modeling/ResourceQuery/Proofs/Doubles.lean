import Mathlib.Algebra.Order.Field.Power
import Mathlib.Data.Rat.Floor
import Mathlib.Tactic.NormNum
import Mathlib.Tactic.Ring
import ResourceQuery.Number.Literal
import ResourceQuery.Proofs.Outcome

/-!
Doubles that come of literals. A literal is a finite double, and one more than a finite
double is rounded to a double again, infinite at most: none of them is without a value. The
numbers of literals are read as rationals, and none of them is above the last exact one.
-/

namespace ResourceQuery.Number

theorem scale_div_scale {b : Nat} (hb : b ≠ 0) (e : Int) :
    (Nat.pow b e.toNat : ℚ) / Nat.pow b (-e).toNat = (b : ℚ) ^ e := by
  have base : (b : ℚ) ≠ 0 := Nat.cast_ne_zero.2 hb
  rw [Nat.pow_eq, Nat.pow_eq, Nat.cast_pow, Nat.cast_pow, ← zpow_natCast, ← zpow_natCast,
    ← zpow_sub₀ base]
  congr 1
  omega

theorem binary_scale (e : Int) : (Nat.pow 2 e.toNat : ℚ) / Nat.pow 2 (-e).toNat = 2 ^ e :=
  scale_div_scale two_ne_zero e

theorem decimal_scale (e : Int) : (Nat.pow 10 e.toNat : ℚ) / Nat.pow 10 (-e).toNat = 10 ^ e :=
  scale_div_scale (by decide : (10 : Nat) ≠ 0) e

theorem scale_of_nonpos {e : Int} (h : e ≤ 0) (b : Nat) : Nat.pow b e.toNat = 1 := by
  rw [Int.toNat_of_nonpos h]
  rfl

theorem scaled_le_iff (e : Int) {m n : Nat} :
    m * Nat.pow 2 e.toNat ≤ n * Nat.pow 2 (-e).toNat ↔ (m : ℚ) * 2 ^ e ≤ n := by
  have pos : (0 : ℚ) < Nat.pow 2 (-e).toNat := Nat.cast_pos.2 (Nat.two_pow_pos _)
  rw [← binary_scale, mul_div_assoc', div_le_iff₀ pos]
  norm_cast

theorem roundHalfEven_le {n d m : Nat} (hd : 0 < d) (h : n ≤ m * d) : roundHalfEven n d ≤ m := by
  have whole : n / d ≤ m := Nat.div_le_of_le_mul (Nat.mul_comm m d ▸ h)
  have parts := Nat.div_add_mod n d
  unfold roundHalfEven
  split
  · exact whole
  · rename_i up
    refine Nat.lt_of_le_of_ne whole fun reached => up ?_
    rw [reached, Nat.mul_comm d m] at parts
    omega

namespace Binary64

variable {n d : Nat}

theorem binaryExponent_le (hn : 0 < n) : (d : ℚ) * 2 ^ binaryExponent n d ≤ n := by
  unfold binaryExponent
  extract_lets e
  split
  · rename_i h
    exact (scaled_le_iff e).1 h
  · have below : (d : ℚ) ≤ 2 ^ ((d.log2 : Int) + 1) := by
      exact_mod_cast (Nat.lt_log2_self (n := d)).le
    have above : (2 : ℚ) ^ (n.log2 : Int) ≤ n := by
      exact_mod_cast Nat.log2_self_le hn.ne'
    calc (d : ℚ) * 2 ^ (e - 1) ≤ 2 ^ ((d.log2 : Int) + 1) * 2 ^ (e - 1) := by gcongr
      _ = 2 ^ (n.log2 : Int) := by
        rw [← zpow_add₀ two_ne_zero]
        congr 1
        omega
      _ ≤ n := above

theorem lt_binaryExponent (hd : 0 < d) :
    (n : ℚ) < d * 2 ^ (binaryExponent n d + 1) := by
  unfold binaryExponent
  extract_lets e
  split
  · have below : (2 : ℚ) ^ (d.log2 : Int) ≤ d := by
      exact_mod_cast Nat.log2_self_le hd.ne'
    have above : (n : ℚ) < 2 ^ ((n.log2 : Int) + 1) := by
      exact_mod_cast Nat.lt_log2_self (n := n)
    calc (n : ℚ) < 2 ^ ((n.log2 : Int) + 1) := above
      _ = 2 ^ (d.log2 : Int) * 2 ^ (e + 1) := by
        rw [← zpow_add₀ two_ne_zero]
        congr 1
        omega
      _ ≤ d * 2 ^ (e + 1) := by gcongr
  · rename_i h
    rw [scaled_le_iff, not_le] at h
    rwa [Int.sub_add_cancel]

theorem scaled_lt (n : Nat) (hd : 0 < d) :
    n * Nat.pow 2 (-stepExponent n d).toNat <
      2 * binade * (d * Nat.pow 2 (stepExponent n d).toNat) := by
  have binade_eq : binade = 2 ^ 52 := rfl
  have room : binaryExponent n d + 1 ≤ 53 + stepExponent n d := by
    simp only [stepExponent]
    omega
  rw [← Nat.mul_assoc, ← not_le, scaled_le_iff, not_le]
  calc (n : ℚ) < d * 2 ^ (binaryExponent n d + 1) := lt_binaryExponent hd
    _ ≤ d * 2 ^ (53 + stepExponent n d) := by
      gcongr
      exact one_le_two
    _ = (2 * binade * d : Nat) * 2 ^ stepExponent n d := by
      rw [zpow_add₀ two_ne_zero, binade_eq]
      push_cast
      ring

theorem rounded_le (n : Nat) (hd : 0 < d) :
    roundHalfEven (n * Nat.pow 2 (-stepExponent n d).toNat)
      (d * Nat.pow 2 (stepExponent n d).toNat) ≤ 2 * binade :=
  roundHalfEven_le (Nat.mul_pos hd (Nat.two_pow_pos _)) (scaled_lt n hd).le

/-- A quotient below a power of two gets no code above that of the power. -/
theorem nearestCode_le (hd : 0 < d) {k : Nat} (h : n < d * Nat.pow 2 k) :
    nearestCode n d ≤ (k + 1023) * binade := by
  unfold nearestCode
  split
  · exact Nat.zero_le _
  rename_i hn
  extract_lets s
  have small : binaryExponent n d < k := by
    have positive : (0 : ℚ) < d := by exact_mod_cast hd
    have bound : (n : ℚ) < d * 2 ^ (k : Int) := by
      rw [← not_le, ← scaled_le_iff]
      simpa using h
    have reached := (binaryExponent_le (d := d) (Nat.pos_of_ne_zero hn)).trans_lt bound
    exact (zpow_lt_zpow_iff_right₀ one_lt_two).1 (lt_of_mul_lt_mul_left reached positive.le)
  have step : (s + 1074).toNat ≤ k + 1021 := by
    simp only [s, stepExponent]
    omega
  calc (s + 1074).toNat * binade + roundHalfEven (n * Nat.pow 2 (-s).toNat) (d * Nat.pow 2 s.toNat)
      ≤ (k + 1021) * binade + 2 * binade :=
        Nat.add_le_add (Nat.mul_le_mul_right binade step) (rounded_le n hd)
    _ = (k + 1023) * binade := (Nat.add_mul (k + 1021) 2 binade).symm

theorem ofQuotient?_ne_none {n d : Int} (hn : n.natAbs < 2 ^ 63) (hd : d ≠ 0) :
    ofQuotient? n d ≠ none := by
  have divisible : 0 < d.natAbs := Int.natAbs_pos.2 hd
  have small : n.natAbs < d.natAbs * Nat.pow 2 63 :=
    hn.trans_le (Nat.le_mul_of_pos_left (Nat.pow 2 63) divisible)
  have code_lt : nearestCode n.natAbs d.natAbs < infinityCode :=
    (nearestCode_le divisible small).trans_lt (by decide)
  rw [ofQuotient?, nearest?, if_pos code_lt]
  exact Option.some_ne_none _

theorem significand_lt (x : Binary64) : x.significand < Nat.pow 2 53 := by
  have inside : x.code % binade < binade := Nat.mod_lt x.code (by decide)
  unfold significand
  split
  · rename_i below
    exact below.trans (by decide)
  · exact Nat.add_lt_add_left inside binade

theorem exponent_le {x : Binary64} (h : x.code < infinityCode) : x.exponent.toNat ≤ 971 := by
  have coded : x.code / binade ≤ 2046 := by
    rw [← Nat.lt_succ_iff, Nat.div_lt_iff_lt_mul (by decide)]
    exact h
  unfold exponent
  split <;> omega

theorem natAbs_numerator (x : Binary64) :
    x.numerator.natAbs = x.significand * Nat.pow 2 x.exponent.toNat := by
  rw [numerator, Int.natAbs_mul, Int.natAbs_natCast]
  split <;> simp

theorem numerator_add_one_lt (x : Binary64) {k : Nat} (hk : 0 < k) (scale : x.exponent.toNat ≤ k) :
    x.numerator.natAbs + 1 < Nat.pow 2 (53 + k) := by
  have large : 1 < Nat.pow 2 k := Nat.one_lt_two_pow hk.ne'
  calc x.numerator.natAbs + 1
      = x.significand * Nat.pow 2 x.exponent.toNat + 1 := by rw [natAbs_numerator]
    _ ≤ x.significand * Nat.pow 2 k + 1 :=
      Nat.add_le_add_right (Nat.mul_le_mul_left _ (Nat.pow_le_pow_right Nat.two_pos scale)) 1
    _ < x.significand * Nat.pow 2 k + Nat.pow 2 k := Nat.add_lt_add_left large _
    _ = (x.significand + 1) * Nat.pow 2 k := (Nat.succ_mul _ _).symm
    _ ≤ Nat.pow 2 53 * Nat.pow 2 k := Nat.mul_le_mul_right _ x.significand_lt
    _ = Nat.pow 2 (53 + k) := (Nat.pow_add 2 53 k).symm

theorem code_addOne_le {x : Binary64} (h : x.code < infinityCode) :
    x.addOne.code ≤ infinityCode := by
  have positive := x.denominator_pos
  have room := x.numerator_add_one_lt (by decide) (exponent_le h)
  have last_code : (53 + 971 + 1023) * binade = infinityCode := by decide
  refine last_code ▸ nearestCode_le positive ?_
  calc (x.numerator + x.denominator).natAbs
      ≤ x.numerator.natAbs + x.denominator := Int.natAbs_add_le _ _
    _ ≤ x.denominator * x.numerator.natAbs + x.denominator :=
      Nat.add_le_add_right (Nat.le_mul_of_pos_left _ positive) _
    _ = x.denominator * (x.numerator.natAbs + 1) := (Nat.mul_succ _ _).symm
    _ < x.denominator * Nat.pow 2 (53 + 971) := Nat.mul_lt_mul_of_pos_left room positive

def value (x : Binary64) : ℚ := x.numerator / x.denominator

theorem floor_eq (x : Binary64) : x.floor = ⌊x.value⌋ :=
  (Rat.floor_intCast_div_natCast x.numerator x.denominator).symm

theorem exceeds_eq_false_iff {x : Binary64} {n : Int} : x.exceeds n = false ↔ x.value ≤ n := by
  have positive : (0 : ℚ) < x.denominator := by exact_mod_cast x.denominator_pos
  rw [value, div_le_iff₀ positive, exceeds, decide_eq_false_iff_not, not_lt]
  exact_mod_cast Iff.rfl

theorem sameValue_self {x : Binary64} (h : x.code ≤ infinityCode) : x.sameValue x = true := by
  simp [sameValue, h]

theorem code_lt_of_nearest? {negative : Bool} {x : Binary64} (h : nearest? negative n d = some x) :
    x.code < infinityCode := by
  rw [nearest?] at h
  split at h
  · rename_i hc
    cases h
    exact hc
  · cases h

end Binary64

theorem code_lt_of_toBinary64? {l : Literal} {x : Binary64} (h : l.toBinary64? = some x) :
    x.code < Binary64.infinityCode := by
  unfold Literal.toBinary64? at h
  extract_lets scale size at h
  split at h
  · cases h
    exact show 0 < Binary64.infinityCode by decide
  · split at h
    · cases h
    · exact Binary64.code_lt_of_nearest? h

namespace Numeral

def IsFinite : Numeral → Prop
  | .int _ => True
  | .float x => x.code < Binary64.infinityCode

theorem isFinite_of_numeral? {s : List Char} {n : Numeral} (h : numeral? s = .ok (some n)) :
    n.IsFinite := by
  unfold numeral? at h
  split at h
  · cases h
  split at h
  · split at h
    · cases h
    · split at h <;> cases h
      trivial
  · split at h
    · cases h
    · rename_i hx
      split at h <;> cases h
      exact code_lt_of_toBinary64? hx

def value : Numeral → ℚ
  | .int n => n
  | .float x => x.value

theorem floor_eq (n : Numeral) : n.floor = ⌊n.value⌋ := by
  cases n with
  | int n => exact (Int.floor_intCast n).symm
  | float x => exact x.floor_eq

theorem value_le_of_numeral? {s : List Char} {n : Numeral} (h : numeral? s = .ok (some n)) :
    n.value ≤ maxExact := by
  unfold numeral? at h
  split at h
  · cases h
  split at h
  · split at h
    · cases h
    · split at h <;> cases h
      rename_i hle
      rw [value]
      exact_mod_cast not_lt.1 hle
  · split at h
    · cases h
    · split at h <;> cases h
      rename_i hle
      exact_mod_cast Binary64.exceeds_eq_false_iff.1 (Bool.not_eq_true _ ▸ hle)

end Numeral
end ResourceQuery.Number
