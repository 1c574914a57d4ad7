import ResourceQuery.Proofs.Doubles

/-!
Quotients of whole numbers as doubles. A quotient is rounded to a whole number of steps of the
spacing around it. Up to two to the power of 53 the steps are so fine that no quotient is rounded
to the whole number below it, so the ceiling of the double is that of the quotient.
-/

namespace ResourceQuery.Number

theorem lt_roundHalfEven {n d m : Nat} (hd : 0 < d) (h : (2 * m + 1) * d < 2 * n) :
    m < roundHalfEven n d := by
  rw [Nat.succ_mul, Nat.mul_assoc] at h
  have reached : m ≤ n / d := by
    rw [Nat.le_div_iff_mul_le hd]
    omega
  rcases Nat.lt_or_eq_of_le reached with above | exact_part
  · exact above.trans_le (div_le_roundHalfEven n d)
  · have parts := Nat.div_add_mod n d
    rw [← exact_part, Nat.mul_comm d m] at parts
    rw [roundHalfEven, if_neg (by omega), ← exact_part]
    exact Nat.lt_succ_self m

namespace Binary64

variable {n d : Nat}

theorem ceil_eq (x : Binary64) : x.ceil = ⌈x.value⌉ :=
  (Rat.ceil_intCast_div_natCast x.numerator x.denominator).symm

theorem value_of_nonneg {x : Binary64} (h : x.negative = false) :
    x.value = x.significand * 2 ^ x.exponent := by
  rw [value, numerator, denominator, h, ← binary_scale]
  simp [mul_div_assoc]

@[simp] theorem value_zero : value ⟨false, 0⟩ = 0 := by
  have nothing : significand ⟨false, 0⟩ = 0 := rfl
  rw [value_of_nonneg rfl, nothing, Nat.cast_zero, zero_mul]

theorem value_code {k r : Nat} (carried : r ≤ 2 * binade) (normal : k = 0 ∨ binade ≤ r) :
    value ⟨false, k * binade + r⟩ = r * 2 ^ ((k : Int) - 1074) := by
  have positive : 0 < binade := by decide
  rw [value_of_nonneg rfl, significand, exponent]
  rcases Nat.lt_or_ge r binade with small | full
  · obtain rfl : k = 0 := normal.resolve_right (Nat.not_le.2 small)
    rw [Nat.zero_mul, Nat.zero_add, if_pos small, if_pos small]
    rfl
  rw [if_neg (Nat.not_lt.2 (full.trans (Nat.le_add_left r _))),
    if_neg (Nat.not_lt.2 (full.trans (Nat.le_add_left r _))), Nat.mul_add_mod_self_right,
    Nat.add_comm (k * binade), Nat.add_mul_div_right r k positive]
  rcases Nat.lt_or_eq_of_le carried with below | rfl
  · have first : r / binade = 1 := by
      rw [Nat.div_eq_iff positive]
      omega
    have rest : r % binade = r - binade := by
      rw [Nat.mod_eq_sub_div_mul, first, Nat.one_mul]
    rw [first, rest, Nat.add_sub_cancel' full]
    congr 2
    push_cast
    ring
  · rw [Nat.mul_div_cancel _ positive, Nat.mul_mod_left, Nat.add_zero]
    have step : ((2 + k : Nat) : Int) - 1075 = ((k : Int) - 1074) + 1 := by
      push_cast
      ring
    rw [step, zpow_add_one₀ two_ne_zero]
    push_cast
    ring

theorem least_le_stepExponent (n d : Nat) : -1074 ≤ stepExponent n d := le_max_right _ _

theorem le_scaled (hn : 0 < n) (d : Nat) (normal : -1074 < stepExponent n d) :
    binade * (d * Nat.pow 2 (stepExponent n d).toNat) ≤
      n * Nat.pow 2 (-stepExponent n d).toNat := by
  have binade_eq : binade = 2 ^ 52 := rfl
  have exact_step : 52 + stepExponent n d = binaryExponent n d := by
    simp only [stepExponent] at normal ⊢
    omega
  rw [← Nat.mul_assoc, scaled_le_iff]
  calc ((binade * d : Nat) : ℚ) * 2 ^ stepExponent n d =
        d * 2 ^ (52 + stepExponent n d) := by
        rw [zpow_add₀ two_ne_zero, binade_eq]
        push_cast
        ring
    _ = d * 2 ^ binaryExponent n d := by rw [exact_step]
    _ ≤ n := binaryExponent_le hn

theorem value_nearestCode (hn : 0 < n) (hd : 0 < d) :
    value ⟨false, nearestCode n d⟩ =
      roundHalfEven (n * Nat.pow 2 (-stepExponent n d).toNat)
        (d * Nat.pow 2 (stepExponent n d).toNat) * 2 ^ stepExponent n d := by
  have divisor_pos : 0 < d * Nat.pow 2 (stepExponent n d).toNat :=
    Nat.mul_pos hd (Nat.two_pow_pos _)
  have least := least_le_stepExponent n d
  rw [nearestCode, if_neg hn.ne']
  dsimp only
  rw [value_code (rounded_le n hd), Int.toNat_of_nonneg (by omega), Int.add_sub_cancel]
  by_cases normal : -1074 < stepExponent n d
  · have full := (Nat.le_div_iff_mul_le divisor_pos).2 (le_scaled hn d normal)
    exact .inr (full.trans (div_le_roundHalfEven _ _))
  · refine .inl ?_
    omega

theorem value_of_fine (hn : 0 < n) (hd : 0 < d) (fine : stepExponent n d ≤ 0) :
    value ⟨false, nearestCode n d⟩ =
      roundHalfEven (n * Nat.pow 2 (-stepExponent n d).toNat) d /
        Nat.pow 2 (-stepExponent n d).toNat := by
  rw [value_nearestCode hn hd, ← binary_scale, scale_of_nonpos fine, Nat.mul_one,
    Nat.cast_one, mul_one_div]

theorem value_of_coarse (hn : 0 < n) (hd : 0 < d) (coarse : 0 ≤ stepExponent n d) :
    value ⟨false, nearestCode n d⟩ =
      roundHalfEven n (d * Nat.pow 2 (stepExponent n d).toNat) *
        Nat.pow 2 (stepExponent n d).toNat := by
  rw [value_nearestCode hn hd, ← binary_scale,
    scale_of_nonpos (by omega : -stepExponent n d ≤ 0), Nat.mul_one, Nat.cast_one, div_one]

theorem eq_of_coarse (hn0 : 0 < n) (hd : 0 < d) (hn : n ≤ 2 ^ 53) (coarse : 0 < stepExponent n d) :
    n = 2 ^ 53 ∧ d = 1 := by
  have reached := le_scaled hn0 d (by omega)
  rw [scale_of_nonpos (by omega : -stepExponent n d ≤ 0), Nat.mul_one] at reached
  have doubled : Nat.pow 2 1 ≤ Nat.pow 2 (stepExponent n d).toNat :=
    Nat.pow_le_pow_right Nat.two_pos (by omega)
  have largest : binade * (d * Nat.pow 2 1) ≤ n :=
    (Nat.mul_le_mul_left _ (Nat.mul_le_mul_left d doubled)).trans reached
  have halves : d * Nat.pow 2 1 ≤ 1 * Nat.pow 2 1 :=
    Nat.le_of_mul_le_mul_left (largest.trans hn : _ ≤ binade * Nat.pow 2 1) (by decide)
  obtain rfl : d = 1 := le_antisymm (Nat.le_of_mul_le_mul_right halves (Nat.two_pow_pos 1)) hd
  exact ⟨le_antisymm hn largest, rfl⟩

/-- The steps of the spacing are finer than the distance of a quotient to the whole number below
it, however small that is. -/
theorem lt_two_mul_steps {m rest : Nat} (hd : 0 < d) (hd' : d ≤ 2 ^ 53) (hn : n ≤ 2 ^ 53)
    (parts : n = m * d + rest) (hrest : 0 < rest) (fine : stepExponent n d ≤ 0) :
    d < 2 * (Nat.pow 2 (-stepExponent n d).toNat * rest) := by
  have full := le_scaled (n := n) (by omega) d
  set steps := Nat.pow 2 (-stepExponent n d).toNat with steps_eq
  have steps_pos : 0 < steps := Nat.two_pow_pos _
  have at_least : steps ≤ steps * rest := Nat.le_mul_of_pos_right steps hrest
  rcases (least_le_stepExponent n d).lt_or_eq with normal | least
  · rw [scale_of_nonpos fine, Nat.mul_one] at full
    have coarse : d ≤ 2 * steps := by
      refine Nat.le_of_mul_le_mul_left ?_ (by decide : 0 < binade)
      calc binade * d ≤ n * steps := full normal
        _ ≤ 2 ^ 53 * steps := Nat.mul_le_mul_right steps hn
        _ = binade * (2 * steps) := Nat.mul_assoc binade 2 steps
    by_contra! coarser
    -- the divisor is then even and the distance one, so the dividend is odd, yet the largest
    have even : d = 2 * steps := by omega
    have one : rest = 1 := Nat.eq_of_mul_eq_mul_left steps_pos (by omega)
    have largest : 2 ^ 53 ≤ n := by
      refine Nat.le_of_mul_le_mul_right ?_ steps_pos
      calc 2 ^ 53 * steps = binade * d := by rw [even]; exact Nat.mul_assoc binade 2 steps
        _ ≤ n * steps := full normal
    rw [even, one, Nat.mul_left_comm] at parts
    omega
  · have fine_enough : 2 ^ 53 ≤ steps := by
      rw [steps_eq]
      exact Nat.pow_le_pow_right Nat.two_pos (by omega)
    omega

theorem ceil_nearestCode {m : Nat} (hd : 0 < d) (hd' : d ≤ 2 ^ 53) (hn : n ≤ 2 ^ 53)
    (above : m * d < n) (below : n ≤ (m + 1) * d) :
    ceil ⟨false, nearestCode n d⟩ = m + 1 := by
  have hn0 : 0 < n := Nat.zero_lt_of_lt above
  rcases lt_or_ge 0 (stepExponent n d) with coarse | fine
  · obtain ⟨rfl, rfl⟩ := eq_of_coarse hn0 hd hn coarse
    obtain rfl : m = 2 ^ 53 - 1 := by omega
    decide
  obtain ⟨rest, parts⟩ := Nat.exists_eq_add_of_le above.le
  have finer := lt_two_mul_steps hd hd' hn parts (by omega) fine
  rw [ceil_eq, value_of_fine hn0 hd fine]
  set steps := Nat.pow 2 (-stepExponent n d).toNat
  have steps_pos : (0 : ℚ) < steps := Nat.cast_pos.2 (Nat.two_pow_pos _)
  have low : m * steps < roundHalfEven (n * steps) d := by
    refine lt_roundHalfEven hd ?_
    calc (2 * (m * steps) + 1) * d = 2 * (m * d * steps) + d := by ring
      _ < 2 * (m * d * steps) + 2 * (steps * rest) := Nat.add_lt_add_left finer _
      _ = 2 * (n * steps) := by rw [parts]; ring
  have high : roundHalfEven (n * steps) d ≤ (m + 1) * steps := by
    refine roundHalfEven_le hd ?_
    calc n * steps ≤ (m + 1) * d * steps := Nat.mul_le_mul_right steps below
      _ = (m + 1) * steps * d := Nat.mul_right_comm _ _ _
  rw [Int.ceil_eq_iff, div_le_iff₀ steps_pos, lt_div_iff₀ steps_pos]
  push_cast
  rw [add_sub_cancel_right]
  exact ⟨by exact_mod_cast low, by exact_mod_cast high⟩

/-- The ceiling of the rounded quotient is the least number of divisors that reach the dividend. -/
theorem isLeast_ceil_nearestCode (hd : 0 < d) (hd' : d ≤ 2 ^ 53) (hn : n ≤ 2 ^ 53) :
    IsLeast {p : Int | n ≤ p * d} (ceil ⟨false, nearestCode n d⟩) := by
  rcases Nat.eq_zero_or_pos n with rfl | dividend_pos
  · rw [nearestCode_zero, ceil_eq, value_zero, Int.ceil_zero]
    exact ⟨(Int.zero_mul d).ge, fun p hp => nonneg_of_mul_nonneg_left hp (by exact_mod_cast hd)⟩
  obtain ⟨m, above, below⟩ : ∃ m, m * d < n ∧ n ≤ (m + 1) * d := by
    refine ⟨(n - 1) / d, ?_, ?_⟩
    · have whole := Nat.div_mul_le_self (n - 1) d
      omega
    · have rest := Nat.lt_div_mul_add (a := n - 1) hd
      rw [Nat.succ_mul]
      omega
  rw [ceil_nearestCode hd hd' hn above below]
  refine ⟨?_, fun p hp => ?_⟩
  · show (n : Int) ≤ (m + 1) * d
    exact_mod_cast below
  · have more : (m : Int) * d < p * d := lt_of_lt_of_le (by exact_mod_cast above) hp
    exact lt_of_mul_lt_mul_right more (Int.natCast_nonneg d)

theorem ofQuotient?_natCast (hn : n < 2 ^ 63) (hd : 0 < d) :
    ofQuotient? n d = some ⟨false, nearestCode n d⟩ := by
  have finite := ofQuotient?_ne_none (n := n) (d := d) (by omega) (by omega)
  have positive : (decide ((n : Int) < 0) != decide ((d : Int) < 0)) = false := by
    rw [decide_eq_false (by omega), decide_eq_false (by omega)]
    rfl
  rw [ofQuotient?, nearest?, positive] at finite ⊢
  exact if_pos (ite_ne_right_iff.1 finite).1

end Binary64
end ResourceQuery.Number
