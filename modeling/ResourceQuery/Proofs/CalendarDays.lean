import Mathlib.Data.Nat.ModEq
import ResourceQuery.Date.Moment

/-!
Days counted forward and back. The day that lies some days after the start of a year has a place
in its month, and its number in the calendar is that many more than that of the start: a number
of days is lost in no leap year and at no end of a month.
-/

namespace ResourceQuery.Date

theorem succ_div_eq (a b : Nat) : (a + 1) / b = a / b + if (a + 1) % b = 0 then 1 else 0 := by
  simp only [Nat.succ_div, Nat.dvd_iff_mod_eq_zero]

theorem daysBeforeYear_succ {year : Nat} (h : 1 ≤ year) :
    daysBeforeYear (year + 1) = daysBeforeYear year + yearLength year := by
  obtain ⟨y, rfl⟩ := Nat.exists_eq_add_of_le' h
  have centuries : y / 100 ≤ y / 4 := Nat.div_le_div_left (by decide) (by decide)
  have fourth : (y + 1) % 100 = 0 → (y + 1) % 4 = 0 := by omega
  have hundredth : (y + 1) % 400 = 0 → (y + 1) % 100 = 0 := by omega
  simp only [daysBeforeYear, yearLength, isLeap_iff, Nat.add_sub_cancel, succ_div_eq]
  generalize y / 4 = fours, y / 100 = hundreds, y / 400 = cycles at *
  split_ifs <;> grind

theorem daysBeforeMonth_thirteen (year : Nat) : daysBeforeMonth year 13 = yearLength year := by
  simp only [daysBeforeMonth, monthLength, yearLength]
  split <;> rfl

theorem splitYears_spec {year days : Nat} (h : 1 ≤ year) :
    year ≤ (splitYears year days).1 ∧
      (splitYears year days).2 < yearLength (splitYears year days).1 ∧
      daysBeforeYear (splitYears year days).1 + (splitYears year days).2 =
        daysBeforeYear year + days := by
  fun_induction splitYears year days with
  | case1 year days inside => exact ⟨Nat.le_refl year, inside, rfl⟩
  | case2 year days beyond ih =>
    obtain ⟨later, inside, total⟩ := ih (Nat.le_succ_of_le h)
    have next := daysBeforeYear_succ h
    exact ⟨Nat.le_of_succ_le later, inside, by omega⟩

theorem splitMonths_spec {year month days : Nat} (hm : month ≤ 12)
    (hd : daysBeforeMonth year month + days < yearLength year) :
    month ≤ (splitMonths year month days).1 ∧ (splitMonths year month days).1 ≤ 12 ∧
      (splitMonths year month days).2 < monthLength year (splitMonths year month days).1 ∧
      daysBeforeMonth year (splitMonths year month days).1 + (splitMonths year month days).2 =
        daysBeforeMonth year month + days := by
  fun_induction splitMonths year month days with
  | case1 month days inside => exact ⟨Nat.le_refl month, hm, inside, rfl⟩
  | case2 month days beyond early ih =>
    have next : daysBeforeMonth year (month + 1) =
        daysBeforeMonth year month + monthLength year month := rfl
    obtain ⟨later, last, inside, total⟩ := ih early (by omega)
    exact ⟨Nat.le_of_succ_le later, last, inside, by omega⟩
  | case3 month days beyond late =>
    obtain rfl : month = 12 := by omega
    have rest : daysBeforeMonth year 12 + monthLength year 12 = yearLength year :=
      daysBeforeMonth_thirteen year
    omega

/-- A day of the calendar: a place in one of the months of a year. -/
structure IsDay (year month day : Nat) : Prop where
  year_pos : 1 ≤ year
  month_pos : 1 ≤ month
  month_le : month ≤ 12
  day_pos : 1 ≤ day
  day_le : day ≤ monthLength year month

variable {year days : Nat}

theorem isDay_addDays (h : 1 ≤ year) :
    IsDay (addDays year days).1 (addDays year days).2.1 (addDays year days).2.2 := by
  obtain ⟨later, inside, -⟩ := @splitYears_spec year days h
  obtain ⟨first, last, place, -⟩ := @splitMonths_spec _ 1 _ (by decide)
    (Nat.lt_of_le_of_lt (Nat.zero_add _).le inside)
  exact ⟨h.trans later, first, last, Nat.le_add_left 1 _, place⟩

theorem dayNumber_addDays (h : 1 ≤ year) :
    dayNumber (addDays year days).1 (addDays year days).2.1 (addDays year days).2.2 =
      dayNumber year 1 1 + days := by
  obtain ⟨-, inside, years⟩ := @splitYears_spec year days h
  obtain ⟨-, -, -, months⟩ := @splitMonths_spec _ 1 _ (by decide)
    (Nat.lt_of_le_of_lt (Nat.zero_add _).le inside)
  have january (y : Nat) : daysBeforeMonth y 1 = 0 := rfl
  rw [january, Nat.zero_add] at months
  simp only [dayNumber, addDays, january]
  omega

end ResourceQuery.Date
