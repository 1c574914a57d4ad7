import ResourceQuery.Number.Binary64
import ResourceQuery.Text.Digit

/-!
Decimal numerals with a point, exact up to the point where they are divided: a
remainder and a product are rounded to 28 significant digits.
-/

namespace ResourceQuery.Number

structure Decimal where
  coefficient : Nat
  places : Nat
  deriving DecidableEq, Repr

namespace Decimal

def ofText? (s : List Char) : Option Decimal :=
  let whole := s.takeWhile (· ≠ '.')
  match s.dropWhile (· ≠ '.') with
  | [] => (Text.decimalNumeral? whole).map fun n => ⟨n, 0⟩
  | _ :: fraction =>
    if fraction = [] then none
    else do
      let w ← Text.decimalNumeral? whole
      let f ← Text.decimalNumeral? fraction
      return ⟨w * Nat.pow 10 fraction.length + f, fraction.length⟩

def unit (x : Decimal) : Nat := Nat.pow 10 x.places

def whole (x : Decimal) : Nat := x.coefficient / x.unit

def atLeast (x : Decimal) (n : Nat) : Bool := n * x.unit ≤ x.coefficient

def atMost (x : Decimal) (n : Nat) : Bool := x.coefficient ≤ n * x.unit

def below (x : Decimal) (n : Nat) : Bool := x.coefficient < n * x.unit

def precision : Nat := 28

def roundSignificant (n : Nat) : Nat :=
  let drop := (Nat.toDigits 10 n).length - precision
  roundHalfEven n (Nat.pow 10 drop) * Nat.pow 10 drop

def isDivisible (x : Decimal) : Bool := x.below (Nat.pow 10 precision)

/-- Sixtieths of the fraction, cut off to a whole number; none without a fraction. -/
def sixtieths? (x : Decimal) : Option Nat :=
  let remainder := roundSignificant (x.coefficient % x.unit)
  if remainder = 0 then none else some (roundSignificant (60 * remainder) / x.unit)

end Decimal
end ResourceQuery.Number
