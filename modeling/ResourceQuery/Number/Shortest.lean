import ResourceQuery.Number.Binary64
import ResourceQuery.Text.Digit

/-!
The shortest decimal of a double: of all decimals that round to the double, one
with the fewest digits, and among these the nearest. The text of a double is written
from it, with a power of ten only for large and small magnitudes.
-/

namespace ResourceQuery.Number

structure Scaled where
  digits : Nat
  exponent : Int
  deriving DecidableEq, Repr

namespace Scaled

def code (s : Scaled) : Nat :=
  Binary64.nearestCode (s.digits * Nat.pow 10 s.exponent.toNat) (Nat.pow 10 (-s.exponent).toNat)

def digitTexts (s : Scaled) : List Char := Nat.toDigits 10 s.digits

def significantTexts (s : Scaled) : List Char :=
  (s.digitTexts.reverse.dropWhile (· = '0')).reverse

def magnitude (s : Scaled) : Int := s.exponent + s.digitTexts.length - 1

end Scaled

def decimalExponent (n d : Nat) : Int :=
  let e : Int := (Nat.toDigits 10 n).length - (Nat.toDigits 10 d).length
  if d * Nat.pow 10 e.toNat ≤ n * Nat.pow 10 (-e).toNat then e else e - 1

namespace Binary64

/-- The nearer of the two numbers of `places` digits around the double that rounds to it. A tie
goes to the even one. -/
def shortestAt? (x : Binary64) (places : Nat) : Option Scaled :=
  let n := x.numerator.natAbs
  let d := x.denominator
  let e := decimalExponent n d - places + 1
  let n := n * Nat.pow 10 (-e).toNat
  let d := d * Nat.pow 10 e.toNat
  let near := roundHalfEven n d
  let other := if near = n / d then near + 1 else n / d
  [⟨near, e⟩, ⟨other, e⟩].find? fun s : Scaled => s.code = x.code

def shortest (x : Binary64) : Scaled :=
  ((List.range 17).findSome? fun places => x.shortestAt? (places + 1)).getD ⟨0, 0⟩

end Binary64

namespace Scaled

def positional (ds : List Char) (whole : Int) : List Char :=
  let leading := List.replicate (1 - whole).toNat '0'
  let ds := leading ++ ds ++ List.replicate (whole - ds.length).toNat '0'
  let before := ds.take (max whole 1).toNat
  let after := ds.drop (max whole 1).toNat
  before ++ '.' :: if after = [] then ['0'] else after

def exponentText (e : Int) : List Char :=
  (if e < 0 then '-' else '+') :: Text.padded 2 (Nat.toDigits 10 e.natAbs)

/-- From ten to the power of 16 on, and below ten to the power of -4, the number is written
with a power of ten. -/
def chars (s : Scaled) : List Char :=
  let ds := s.significantTexts
  if -4 ≤ s.magnitude ∧ s.magnitude < 16 then positional ds (s.magnitude + 1)
  else
    ds.take 1 ++ (if ds.length ≤ 1 then [] else '.' :: ds.drop 1) ++
      'e' :: exponentText s.magnitude

end Scaled

def Binary64.text (x : Binary64) : String :=
  let sign := if x.negative then "-" else ""
  if x.isInfinite then sign ++ "inf"
  else if !x.isFinite then "nan"
  else if x.isZero then sign ++ "0.0"
  else sign ++ String.ofList x.shortest.chars

end ResourceQuery.Number
