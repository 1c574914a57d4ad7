import ResourceQuery.Number.Binary64
import ResourceQuery.QueryError
import ResourceQuery.Text.Blank
import ResourceQuery.Text.Digit

/-!
Number literals: an optional sign, digits with an optional point, an optional
exponent, all in ASCII. A literal of digits alone is a whole number; any other
is the double nearest to it. Literals that are infinite as doubles or above the
last whole number that doubles keep apart are no numbers.
-/

namespace ResourceQuery.Number

inductive Numeral
  | int (n : Int)
  | float (x : Binary64)
  deriving DecidableEq, Repr

/-- A literal: its significant digits, how many of them follow the point, and the exponent. -/
structure Literal where
  negative : Bool
  digits : List Nat
  fraction : Nat
  exponent : Int
  whole : Bool
  deriving DecidableEq, Repr

def maxExact : Nat := 9007199254740991

def maxDigits : Nat := 4300

def cutSign : List Char → Bool × List Char
  | '-' :: s => (true, s)
  | '+' :: s => (false, s)
  | s => (false, s)

def digitValues (s : List Char) : List Nat := s.map fun c => c.toNat - 0x30

def exponent? (s : List Char) : Option (Option Int) :=
  match s with
  | [] => some none
  | c :: rest =>
    if c = 'e' ∨ c = 'E' then
      let (negative, ds) := cutSign rest
      if ds ≠ [] ∧ ds.all Char.isDigit then
        let n : Int := Text.ofDigits (digitValues ds)
        some (some (if negative then -n else n))
      else none
    else none

def literal? (s : List Char) : Option Literal :=
  let (negative, body) := cutSign s
  let whole := body.takeWhile Char.isDigit
  let (point, afterWhole) :=
    match body.dropWhile Char.isDigit with
    | '.' :: r => (true, r)
    | r => (false, r)
  let fraction := if point then afterWhole.takeWhile Char.isDigit else []
  let rest := if point then afterWhole.dropWhile Char.isDigit else afterWhole
  if whole = [] ∧ fraction = [] then none
  else (exponent? rest).map fun e =>
    { negative
      digits := digitValues (whole ++ fraction)
      fraction := fraction.length
      exponent := e.getD 0
      whole := !point && e.isNone }

/-- The literal as a double, none when that is infinite. The two bounds on the decimal
exponent only keep powers of ten small: beyond them the result is infinite or zero. -/
def Literal.toBinary64? (l : Literal) : Option Binary64 :=
  let scale := l.exponent - l.fraction
  let size : Int := (l.digits.dropWhile (· = 0)).length
  if size = 0 ∨ scale + size < -330 then some ⟨l.negative, 0⟩
  else if scale + size > 310 then none
  else
    Binary64.nearest? l.negative (Text.ofDigits l.digits * Nat.pow 10 scale.toNat)
      (Nat.pow 10 (-scale).toNat)

def Literal.toInt (l : Literal) : Int :=
  if l.negative then -(Text.ofDigits l.digits : Int) else Text.ofDigits l.digits

def numeral? (s : List Char) : Except QueryError (Option Numeral) :=
  match literal? (Text.trim s) with
  | none => .ok none
  | some l =>
    if l.whole then
      if l.digits.length > maxDigits then .error (.numeralTooLong l.digits.length)
      else if l.toInt > maxExact then .ok none
      else .ok (some (.int l.toInt))
    else
      match l.toBinary64? with
      | none => .ok none
      | some x => if x.exceeds maxExact then .ok none else .ok (some (.float x))

def Numeral.addOne : Numeral → Numeral
  | .int n => .int (n + 1)
  | .float x => .float x.addOne

def Numeral.floor : Numeral → Int
  | .int n => n
  | .float x => x.floor

end ResourceQuery.Number
