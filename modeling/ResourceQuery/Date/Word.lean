import ResourceQuery.Date.Token

/-!
The vocabulary of date texts, words in any case: weekdays, months, units of time,
halves of the day, words that carry no meaning, and names of universal time.
-/

namespace ResourceQuery.Date

def folded (w : Word) : String := String.ofList (Text.lower w)

def weekdayOf? (w : Word) : Option Nat :=
  match folded w with
  | "mon" | "monday" => some 0
  | "tue" | "tuesday" => some 1
  | "wed" | "wednesday" => some 2
  | "thu" | "thursday" => some 3
  | "fri" | "friday" => some 4
  | "sat" | "saturday" => some 5
  | "sun" | "sunday" => some 6
  | _ => none

def monthOf? (w : Word) : Option Nat :=
  match folded w with
  | "jan" | "january" => some 1
  | "feb" | "february" => some 2
  | "mar" | "march" => some 3
  | "apr" | "april" => some 4
  | "may" => some 5
  | "jun" | "june" => some 6
  | "jul" | "july" => some 7
  | "aug" | "august" => some 8
  | "sep" | "sept" | "september" => some 9
  | "oct" | "october" => some 10
  | "nov" | "november" => some 11
  | "dec" | "december" => some 12
  | _ => none

inductive TimeUnit
  | hour
  | minute
  | second
  deriving DecidableEq, Repr

def TimeUnit.next? : TimeUnit → Option TimeUnit
  | .hour => some .minute
  | .minute => some .second
  | .second => none

def unitOf? (w : Word) : Option TimeUnit :=
  match folded w with
  | "h" | "hour" | "hours" => some .hour
  | "m" | "minute" | "minutes" => some .minute
  | "s" | "second" | "seconds" => some .second
  | _ => none

inductive HalfDay
  | am
  | pm
  deriving DecidableEq, Repr

def halfDayOf? (w : Word) : Option HalfDay :=
  match folded w with
  | "am" | "a" => some .am
  | "pm" | "p" => some .pm
  | _ => none

/-- The hour of the day for an hour of the half day; twelve is the first hour. -/
def HalfDay.hour : HalfDay → Nat → Nat
  | .am, h => if h = 12 then 0 else h
  | .pm, h => if h < 12 then h + 12 else h

def isFiller (w : Word) : Bool :=
  match folded w with
  | " " | "." | "," | ";" | "-" | "/" | "'" | "at" | "on" | "and" | "ad" | "m" | "t" | "of"
  | "st" | "nd" | "rd" | "th" => true
  | _ => false

def isNonFinite (w : Word) : Bool :=
  match folded w with
  | "nan" | "inf" | "infinity" => true
  | _ => false

def isUniversal (w : Word) : Bool :=
  match folded w with
  | "utc" | "gmt" | "z" => true
  | _ => false

def isZoneName (w : Word) : Bool :=
  w.length ≤ 5 && (w.all Char.isUpper || w == ['z'])

end ResourceQuery.Date
