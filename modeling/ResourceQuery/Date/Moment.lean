import ResourceQuery.Date.Calendar
import ResourceQuery.Text.Digit

/-!
Moments: a local date and time, in a zone where one is known. Moments of two
zones are compared as instants, those of one zone by their clocks; one with a zone
never equals one without. A zone a day or more away from universal time can be
written, but places no moment in time.
-/

namespace ResourceQuery.Date

/-- A zone: its distance from universal time, and a name if it was written with one. -/
structure Zone where
  offset : Int
  name : Option String := none
  deriving DecidableEq, Repr

namespace Zone

def universal : Zone := { offset := 0 }

def isExpressible (z : Zone) : Bool := (z.offset / 86400).natAbs ≤ 999999999

def isNear (z : Zone) : Bool := z.offset.natAbs < 86400

end Zone

structure Moment where
  year : Nat
  month : Nat
  day : Nat
  hour : Nat
  minute : Nat
  second : Nat
  microsecond : Nat
  zone : Option Zone
  deriving DecidableEq, Repr

namespace Moment

def offset (m : Moment) : Option Int := m.zone.map (·.offset)

def isValid (m : Moment) : Bool :=
  1 ≤ m.year && m.year ≤ 9999 && 1 ≤ m.month && m.month ≤ 12 &&
    1 ≤ m.day && m.day ≤ monthLength m.year m.month &&
    m.hour < 24 && m.minute < 60 && m.second < 60 && m.microsecond < 1000000

def localTicks (m : Moment) : Nat :=
  (((dayNumber m.year m.month m.day * 24 + m.hour) * 60 + m.minute) * 60 + m.second) * 1000000 +
    m.microsecond

def ticks (m : Moment) (zone : Zone) : Int := m.localTicks - zone.offset * 1000000

def isPlaced (m : Moment) : Bool := m.zone.all Zone.isNear

/-- Are the moments the same? No answer for two zones one of which is too far away. -/
def same? (a b : Moment) : Option Bool :=
  if a.zone = b.zone then some (a.localTicks = b.localTicks)
  else if a.isPlaced && b.isPlaced then
    match a.zone, b.zone with
    | some x, some y => some (a.ticks x = b.ticks y)
    | _, _ => some false
  else none

theorem same?_self (m : Moment) : m.same? m = some true := by simp [same?]

def ofMilliseconds (n : Nat) : Moment :=
  let (year, month, day) := addDays 1970 (n / 86400000)
  let t := n % 86400000
  { year, month, day
    hour := t / 3600000
    minute := t / 60000 % 60
    second := t / 1000 % 60
    microsecond := t % 1000 * 1000
    zone := some .universal }

def padded (width n : Nat) : String := String.ofList (Text.padded width (Nat.toDigits 10 n))

def dateText (m : Moment) : String :=
  padded 4 m.year ++ "-" ++ padded 2 m.month ++ "-" ++ padded 2 m.day

def clockText (m : Moment) : String :=
  padded 2 m.hour ++ ":" ++ padded 2 m.minute ++ ":" ++ padded 2 m.second ++
    (if m.microsecond = 0 then "" else "." ++ padded 6 m.microsecond)

end Moment
end ResourceQuery.Date
