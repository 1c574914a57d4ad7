import ResourceQuery.Date.Calendar
import ResourceQuery.Date.Token
import ResourceQuery.Number.Decimal

/-!
Year, month and day of a date text: the numbers found so far, in the order of
the text, with those among them that are known to be the year or the month.
`resolve?` decides which of the others is which.
-/

namespace ResourceQuery.Date

/-- Why a date text cannot be read. A whole part of more than 28 digits cannot be divided. -/
inductive DateFault
  | unreadable
  | undivided
  deriving DecidableEq, Repr

inductive PartLabel
  | year
  | month
  deriving DecidableEq, Repr

structure Parts where
  values : List Nat
  yearAt : Option Nat
  monthAt : Option Nat
  fullYear : Bool
  deriving DecidableEq, Repr

def maxNumeralDigits : Nat := 4300

def natural (w : Word) : Except DateFault Nat :=
  if w.length ≤ maxNumeralDigits then
    match Text.decimalNumeral? w with
    | some n => .ok n
    | none => .error .unreadable
  else .error .unreadable

namespace Parts

def empty : Parts := ⟨[], none, none, false⟩

def add (p : Parts) (value : Nat) : Option PartLabel → Except DateFault Parts
  | none => .ok { p with values := p.values ++ [value] }
  | some .year =>
    if p.yearAt.isSome then .error .unreadable
    else .ok { p with values := p.values ++ [value], yearAt := some p.values.length }
  | some .month =>
    if p.monthAt.isSome then .error .unreadable
    else .ok { p with values := p.values ++ [value], monthAt := some p.values.length }

def addText (p : Parts) (w : Word) (label : Option PartLabel) : Except DateFault Parts :=
  if w.all Text.isDigit ∧ 2 < w.length then
    if label = some .month then .error .unreadable
    else (natural w).bind fun n => { p with fullYear := true }.add n (some .year)
  else (natural w).bind fun n => p.add n label

def addDecimal (p : Parts) (x : Number.Decimal) : Except DateFault Parts :=
  if x.atMost 100 then p.add x.whole none
  else { p with fullYear := true }.add x.whole (some .year)

/-- Can the number be the day, as far as year and month are known? A month without a
year is taken from a leap year. -/
def couldBeDay (p : Parts) (x : Number.Decimal) : Bool :=
  let last :=
    match p.monthAt.bind (p.values[·]?) with
    | none => 31
    | some month =>
      match p.yearAt.bind (p.values[·]?) with
      | none => monthLength 2000 month
      | some year => monthLength year month
  x.atLeast 1 && x.atMost last

end Parts

structure YearMonthDay where
  year : Option Nat := none
  month : Option Nat := none
  day : Option Nat := none
  deriving DecidableEq, Repr

/-- Three numbers none of which is known to be the month: a number above 31, or a known
year, in front is the year; a number above 12 in front is the day. -/
def orderNumbers (yearFirst : Bool) (a b c : Nat) : YearMonthDay :=
  if 31 < a ∨ yearFirst then ⟨some a, some b, some c⟩
  else if 12 < a then ⟨some c, some b, some a⟩
  else ⟨some c, some a, some b⟩

def orderAroundMonth : Nat → Nat → Nat → Nat → YearMonthDay
  | 0, a, b, c => if 31 < b then ⟨some b, some a, some c⟩ else ⟨some c, some a, some b⟩
  | 1, a, b, c => if 31 < a then ⟨some a, some b, some c⟩ else ⟨some c, some b, some a⟩
  | _, a, b, c => if 31 < b then ⟨some b, some c, some a⟩ else ⟨some a, some c, some b⟩

def orderKnown (year month : Nat) (values : List Nat) : YearMonthDay :=
  ⟨values[year]?, values[month]?, values[3 - year - month]?⟩

def yearOrDay (month : Option Nat) (n : Nat) : YearMonthDay :=
  if 31 < n then { year := some n, month } else { month, day := some n }

def Parts.resolve? (p : Parts) : Option YearMonthDay :=
  match p.values, p.yearAt, p.monthAt with
  | [], _, _ => some {}
  | [a], none, none => some (yearOrDay none a)
  | [a], some _, none => some { year := some a }
  | [a], _, some _ => some { month := some a }
  | [a, b], some y, some _ =>
    some (if y = 0 then { year := some a, month := some b }
      else { year := some b, month := some a })
  | [a, b], none, some m =>
    some (if m = 0 then yearOrDay (some a) b else yearOrDay (some b) a)
  | [a, b], _, none =>
    some (if 31 < a then { year := some a, month := some b }
      else if 31 < b then { year := some b, month := some a }
      else { month := some a, day := some b })
  | [a, b, c], some y, some m => some (orderKnown y m [a, b, c])
  | [a, b, c], none, some m => some (orderAroundMonth m a b c)
  | [a, b, c], y, none => some (orderNumbers (y = some 0) a b c)
  | _, _, _ => none

end ResourceQuery.Date
