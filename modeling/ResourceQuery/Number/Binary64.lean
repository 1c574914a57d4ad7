/-!
Doubles as exact numbers. A double is a sign and a magnitude code, the lower 63
bits of its encoding; codes are ordered as the magnitudes they stand for, and
the code after the largest finite one is infinity. `nearest?` rounds a quotient
of whole numbers to the nearest double, a tie to the even code.
-/

namespace ResourceQuery.Number

def roundHalfEven (n d : Nat) : Nat :=
  if 2 * (n % d) < d ∨ (2 * (n % d) = d ∧ n / d % 2 = 0) then n / d else n / d + 1

@[simp] theorem roundHalfEven_one (n : Nat) : roundHalfEven n 1 = n := by
  simp [roundHalfEven, Nat.mod_one]

theorem div_le_roundHalfEven (n d : Nat) : n / d ≤ roundHalfEven n d := by
  unfold roundHalfEven; split <;> omega

theorem roundHalfEven_le_div_add_one (n d : Nat) : roundHalfEven n d ≤ n / d + 1 := by
  unfold roundHalfEven; split <;> omega

structure Binary64 where
  negative : Bool
  code : Nat
  deriving DecidableEq, Repr, Inhabited

namespace Binary64

def infinityCode : Nat := 0x7FF0000000000000

def signBit : Nat := 0x8000000000000000

/-- The codes of one power of two, and the bit that a significand has in front of its code. -/
def binade : Nat := 0x10000000000000

def isFinite (x : Binary64) : Bool := x.code < infinityCode

def isInfinite (x : Binary64) : Bool := x.code = infinityCode

def ofBits (n : Nat) : Binary64 := ⟨decide (n / signBit % 2 = 1), n % signBit⟩

def isZero (x : Binary64) : Bool := x.code = 0

/-- Below the first power of two the codes count steps of the least double. -/
def significand (x : Binary64) : Nat :=
  if x.code < binade then x.code else binade + x.code % binade

def exponent (x : Binary64) : Int :=
  if x.code < binade then -1074 else (x.code / binade : Nat) - 1075

def numerator (x : Binary64) : Int :=
  (if x.negative then -1 else 1) * (x.significand * Nat.pow 2 x.exponent.toNat : Nat)

def denominator (x : Binary64) : Nat := Nat.pow 2 (-x.exponent).toNat

theorem denominator_pos (x : Binary64) : 0 < x.denominator := Nat.two_pow_pos _

def floor (x : Binary64) : Int := x.numerator / x.denominator

def ceil (x : Binary64) : Int := -(-x.numerator / x.denominator)

def exceeds (x : Binary64) (n : Int) : Bool := n * x.denominator < x.numerator

def equalsInt (x : Binary64) (n : Int) : Bool := x.isFinite && n * x.denominator = x.numerator

/-- Equality of values: the zeros are equal, and a double that stands for no number
equals none, itself included. -/
def sameValue (x y : Binary64) : Bool :=
  if x.isZero && y.isZero then true
  else x.code ≤ infinityCode && x.code = y.code && x.negative = y.negative

def binaryExponent (n d : Nat) : Int :=
  let e : Int := n.log2 - d.log2
  if d * Nat.pow 2 e.toNat ≤ n * Nat.pow 2 (-e).toNat then e else e - 1

def stepExponent (n d : Nat) : Int := max (binaryExponent n d - 52) (-1074)

/-- A significand that rounds up to the next power of two carries into the exponent,
so one sum gives the code of every magnitude. -/
def nearestCode (n d : Nat) : Nat :=
  if n = 0 then 0
  else
    let e := stepExponent n d
    (e + 1074).toNat * binade + roundHalfEven (n * Nat.pow 2 (-e).toNat) (d * Nat.pow 2 e.toNat)

def nearest? (negative : Bool) (n d : Nat) : Option Binary64 :=
  let code := nearestCode n d
  if code < infinityCode then some ⟨negative, code⟩ else none

/-- The sum with one, rounded once. A sum that is zero is the positive zero. -/
def addOne (x : Binary64) : Binary64 :=
  let n := x.numerator + x.denominator
  ⟨decide (n < 0), nearestCode n.natAbs x.denominator⟩

def ofQuotient? (n d : Int) : Option Binary64 :=
  nearest? (decide (n < 0) != decide (d < 0)) n.natAbs d.natAbs

def divide (x y : Binary64) : Binary64 :=
  let n := x.numerator * y.denominator
  let d := y.numerator * x.denominator
  ⟨x.negative != y.negative, min (nearestCode n.natAbs d.natAbs) infinityCode⟩

@[simp] theorem nearestCode_zero (d : Nat) : nearestCode 0 d = 0 := rfl

end Binary64
end ResourceQuery.Number
