/-!
The calendar: lengths of years and months, the number of a day counted from the
first day of year 1 (a Monday), and the way back from a number of days.
-/

namespace ResourceQuery.Date

def isLeap (year : Nat) : Bool := year % 4 = 0 && (year % 100 ≠ 0 || year % 400 = 0)

theorem isLeap_iff (year : Nat) :
    isLeap year = true ↔ year % 4 = 0 ∧ (year % 100 ≠ 0 ∨ year % 400 = 0) := by
  simp [isLeap]

def yearLength (year : Nat) : Nat := if isLeap year then 366 else 365

theorem yearLength_pos (year : Nat) : 0 < yearLength year := by
  unfold yearLength; split <;> omega

def monthLength (year : Nat) : Nat → Nat
  | 2 => if isLeap year then 29 else 28
  | 4 | 6 | 9 | 11 => 30
  | 1 | 3 | 5 | 7 | 8 | 10 | 12 => 31
  | _ => 0

def daysBeforeYear (year : Nat) : Nat :=
  let y := year - 1
  365 * y + y / 4 - y / 100 + y / 400

def daysBeforeMonth (year : Nat) : Nat → Nat
  | 0 => 0
  | month + 1 => daysBeforeMonth year month + monthLength year month

/-- The first day of year 1 has number one. -/
def dayNumber (year month day : Nat) : Nat :=
  daysBeforeYear year + daysBeforeMonth year month + day

def weekday (dayNumber : Nat) : Nat := (dayNumber + 6) % 7

/-- The year that lies `days` days after the start of `year`, and the day's place in it. -/
def splitYears (year days : Nat) : Nat × Nat :=
  if days < yearLength year then (year, days)
  else splitYears (year + 1) (days - yearLength year)
termination_by days
decreasing_by have := yearLength_pos year; omega

def splitMonths (year month days : Nat) : Nat × Nat :=
  if days < monthLength year month then (month, days)
  else if month < 12 then splitMonths year (month + 1) (days - monthLength year month)
  else (month, days)
termination_by 12 - month

def addDays (year days : Nat) : Nat × Nat × Nat :=
  let (y, d) := splitYears year days
  let (m, d) := splitMonths y 1 d
  (y, m, d + 1)

end ResourceQuery.Date
