import Mathlib.Tactic.SplitIfs
import Mathlib.Tactic.Basic

/-!
# Days and dates

The Gregorian calendar without beginning or end.  Days are counted from the
first day of year 1; months are counted from 0 and the days of a month from 1.
A month behind the last one belongs to a later year, and a day behind the end of
its month to a later month, so that every date is a day.
-/

namespace RealmServer.Calendar

/-! ## Years -/

def IsLeap (year : Int) : Prop := year % 4 = 0 ∧ (year % 100 ≠ 0 ∨ year % 400 = 0)

instance (year : Int) : Decidable (IsLeap year) := inferInstanceAs (Decidable (_ ∧ _))

def leapDay (year : Int) : Int := if IsLeap year then 1 else 0

def daysBeforeYear (year : Int) : Int :=
  365 * (year - 1) + (year - 1) / 4 - (year - 1) / 100 + (year - 1) / 400

theorem leapDay_eq (year : Int) :
    leapDay year = if year % 4 = 0 ∧ (year % 100 ≠ 0 ∨ year % 400 = 0) then 1 else 0 := rfl

theorem leapDay_bounds (year : Int) : 0 ≤ leapDay year ∧ leapDay year ≤ 1 := by
  rw [leapDay]
  split_ifs <;> omega

theorem daysBeforeYear_succ (year : Int) :
    daysBeforeYear (year + 1) = daysBeforeYear year + 365 + leapDay year := by
  have fourth : (year + 1 - 1) / 4 = (year - 1) / 4 + if year % 4 = 0 then 1 else 0 := by
    split_ifs <;> omega
  have hundredth : (year + 1 - 1) / 100 =
      (year - 1) / 100 + if year % 100 = 0 then 1 else 0 := by
    split_ifs <;> omega
  have last : (year + 1 - 1) / 400 = (year - 1) / 400 + if year % 400 = 0 then 1 else 0 := by
    split_ifs <;> omega
  rw [daysBeforeYear, daysBeforeYear, leapDay_eq, fourth, hundredth, last]
  split_ifs <;> omega

/-- The average year has 146097 / 400 days. -/
def guessedYear (day : Int) : Int := 400 * day / 146097 + 1

/-- The guess is wrong by a year at most. -/
def yearOf (day : Int) : Int :=
  if day < daysBeforeYear (guessedYear day) then guessedYear day - 1
  else if daysBeforeYear (guessedYear day + 1) ≤ day then guessedYear day + 1
  else guessedYear day

theorem guessedYear_near (day : Int) :
    daysBeforeYear (guessedYear day - 1) ≤ day ∧ day < daysBeforeYear (guessedYear day + 2) := by
  have below : 146097 * (guessedYear day - 1) ≤ 400 * day := by
    rw [guessedYear]
    omega
  have above : 400 * day < 146097 * guessedYear day := by
    rw [guessedYear]
    omega
  rw [daysBeforeYear, daysBeforeYear]
  constructor <;> omega

theorem yearOf_spec (day : Int) :
    daysBeforeYear (yearOf day) ≤ day ∧ day < daysBeforeYear (yearOf day + 1) := by
  obtain ⟨below, above⟩ := guessedYear_near day
  rw [yearOf]
  split_ifs with early late
  · rw [Int.sub_add_cancel]
    exact ⟨below, early⟩
  · rw [Int.add_assoc]
    exact ⟨late, above⟩
  · exact ⟨Int.not_lt.1 early, Int.not_le.1 late⟩

/-! ## Months -/

def monthLength (year : Int) (month : Nat) : Int :=
  if month = 1 then 28 + leapDay year
  else if month = 3 ∨ month = 5 ∨ month = 8 ∨ month = 10 then 30
  else 31

theorem monthLength_le (year : Int) (month : Nat) : monthLength year month ≤ 31 := by
  have leap := leapDay_bounds year
  rw [monthLength]
  split_ifs <;> omega

/-- The days of the year before a month. -/
def daysBeforeMonth (year : Int) : Nat → Int
  | 0 => 0
  | month + 1 => daysBeforeMonth year month + monthLength year month

theorem daysBeforeMonth_twelve (year : Int) : daysBeforeMonth year 12 = 365 + leapDay year := by
  simp only [daysBeforeMonth, monthLength]
  simp
  omega

/-- The last of the months up to one which has begun on a day of the year. -/
def lastBegun (year dayOfYear : Int) : Nat → Nat
  | 0 => 0
  | month + 1 =>
      if daysBeforeMonth year (month + 1) ≤ dayOfYear then month + 1
      else lastBegun year dayOfYear month

theorem lastBegun_le (year dayOfYear : Int) (month : Nat) :
    lastBegun year dayOfYear month ≤ month := by
  induction month with
  | zero => exact Nat.le_refl 0
  | succ month induction =>
      rw [lastBegun]
      split_ifs
      · exact Nat.le_refl _
      · exact Nat.le_succ_of_le induction

theorem lastBegun_spec {year dayOfYear : Int} (positive : 0 ≤ dayOfYear) {month : Nat}
    (inside : dayOfYear < daysBeforeMonth year (month + 1)) :
    daysBeforeMonth year (lastBegun year dayOfYear month) ≤ dayOfYear ∧
      dayOfYear < daysBeforeMonth year (lastBegun year dayOfYear month + 1) := by
  induction month with
  | zero => exact ⟨positive, inside⟩
  | succ month induction =>
      rw [lastBegun]
      split_ifs with begun
      · exact ⟨begun, inside⟩
      · exact induction (Int.not_le.1 begun)

/-! ## Dates -/

structure Date where
  year : Int
  month : Int
  dayOfMonth : Int
deriving DecidableEq, Repr

def dayOfYear (day : Int) : Int := day - daysBeforeYear (yearOf day)

def monthOf (day : Int) : Nat := lastBegun (yearOf day) (dayOfYear day) 11

def dateOf (day : Int) : Date where
  year := yearOf day
  month := monthOf day
  dayOfMonth := dayOfYear day - daysBeforeMonth (yearOf day) (monthOf day) + 1

/-- The day of a date, whose month and day may be beyond the end of the year or the month. -/
def dayOf (date : Date) : Int :=
  daysBeforeYear (date.year + date.month / 12) +
    daysBeforeMonth (date.year + date.month / 12) (date.month % 12).toNat + (date.dayOfMonth - 1)

/-- Sunday is 0. -/
def weekdayOf (day : Int) : Int := (day + 1) % 7

theorem monthOf_spec (day : Int) :
    daysBeforeMonth (yearOf day) (monthOf day) ≤ dayOfYear day ∧
      dayOfYear day < daysBeforeMonth (yearOf day) (monthOf day + 1) := by
  obtain ⟨below, above⟩ := yearOf_spec day
  rw [daysBeforeYear_succ] at above
  apply lastBegun_spec
  · rw [dayOfYear]
    omega
  · rw [daysBeforeMonth_twelve, dayOfYear]
    omega

@[simp]
theorem dateOf_year (day : Int) : (dateOf day).year = yearOf day := rfl

@[simp]
theorem dateOf_month (day : Int) : (dateOf day).month = monthOf day := rfl

@[simp]
theorem dateOf_dayOfMonth (day : Int) : (dateOf day).dayOfMonth =
    dayOfYear day - daysBeforeMonth (yearOf day) (monthOf day) + 1 := rfl

theorem monthOf_lt (day : Int) : monthOf day < 12 := Nat.lt_succ_of_le (lastBegun_le _ _ 11)

theorem dayOfMonth_bounds (day : Int) :
    1 ≤ (dateOf day).dayOfMonth ∧ (dateOf day).dayOfMonth ≤ 31 := by
  obtain ⟨below, above⟩ := monthOf_spec day
  have short := monthLength_le (yearOf day) (monthOf day)
  rw [daysBeforeMonth] at above
  rw [dateOf_dayOfMonth]
  constructor <;> omega

theorem dayOf_dateOf (day : Int) : dayOf (dateOf day) = day := by
  have small := monthOf_lt day
  have sameYear : (dateOf day).month / 12 = 0 := by
    rw [dateOf_month]
    omega
  have sameMonth : ((dateOf day).month % 12).toNat = monthOf day := by
    rw [dateOf_month]
    omega
  rw [dayOf, sameYear, sameMonth, dateOf_year, dateOf_dayOfMonth, dayOfYear, Int.add_zero]
  omega

end RealmServer.Calendar
