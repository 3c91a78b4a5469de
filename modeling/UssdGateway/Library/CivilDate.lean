import Mathlib.Tactic.Basic

/-!
The Gregorian calendar, proleptic, over day numbers. Day 0 is 1 March of the year 0, a Wednesday:
with years that start in March the leap day comes last.
-/

structure CivilDate where
  year : Int
  month : Int
  day : Int
deriving DecidableEq

namespace CivilDate

/-- The days of a March year before a month of it, March being 0. -/
def daysBefore (month : Int) : Int := (153 * month + 2) / 5

def daysBeforeYear (year : Int) : Int := 365 * year + year / 4 - year / 100

def century (number : Int) : Int := min 3 (number % 146097 / 36524)

def ofCentury (number : Int) : Int := number % 146097 - century number * 36524

def yearOfCycle (number : Int) : Int := min 3 (ofCentury number % 1461 / 365)

def ofYear (number : Int) : Int := ofCentury number % 1461 - yearOfCycle number * 365

def marchMonth (number : Int) : Int := (5 * ofYear number + 2) / 153

def marchYear (number : Int) : Int :=
  number / 146097 * 400 + century number * 100 + ofCentury number / 1461 * 4 + yearOfCycle number

def ofDay (number : Int) : CivilDate where
  year := if marchMonth number < 10 then marchYear number else marchYear number + 1
  month := if marchMonth number < 10 then marchMonth number + 3 else marchMonth number - 9
  day := ofYear number - daysBefore (marchMonth number) + 1

def toDay (date : CivilDate) : Int :=
  let year := if date.month ≤ 2 then date.year - 1 else date.year
  year / 400 * 146097 + daysBeforeYear (year % 400) + daysBefore ((date.month + 9) % 12) +
    (date.day - 1)

variable (number : Int)

theorem century_bounds : 0 ≤ century number ∧ century number ≤ 3 := by
  simp only [century]
  omega

theorem ofCentury_bounds : 0 ≤ ofCentury number ∧ ofCentury number ≤ 36524 := by
  simp only [ofCentury, century]
  omega

theorem yearOfCycle_bounds : 0 ≤ yearOfCycle number ∧ yearOfCycle number ≤ 3 := by
  simp only [yearOfCycle]
  omega

theorem ofYear_bounds : 0 ≤ ofYear number ∧ ofYear number ≤ 365 := by
  simp only [ofYear, yearOfCycle]
  omega

theorem marchMonth_bounds : 0 ≤ marchMonth number ∧ marchMonth number ≤ 11 := by
  have bounds := ofYear_bounds number
  simp only [marchMonth]
  omega

theorem day_bounds : 1 ≤ (ofDay number).day ∧ (ofDay number).day ≤ 31 := by
  have bounds := ofYear_bounds number
  simp only [ofDay, marchMonth, daysBefore]
  omega

theorem month_bounds : 1 ≤ (ofDay number).month ∧ (ofDay number).month ≤ 12 := by
  have bounds := marchMonth_bounds number
  simp only [ofDay]
  omega

theorem daysBeforeYear_marchYear :
    daysBeforeYear (marchYear number % 400) = number % 146097 - ofYear number := by
  have centuries := century_bounds number
  have days := ofCentury_bounds number
  have years := yearOfCycle_bounds number
  have inside : marchYear number % 400 =
      century number * 100 + ofCentury number / 1461 * 4 + yearOfCycle number := by
    simp only [marchYear]
    omega
  have split : number % 146097 = century number * 36524 + ofCentury number := by
    simp only [ofCentury]
    omega
  rw [inside, split]
  simp only [daysBeforeYear, ofYear]
  omega

theorem toDay_ofDay : (ofDay number).toDay = number := by
  have months := marchMonth_bounds number
  have year : (if (ofDay number).month ≤ 2 then (ofDay number).year - 1 else (ofDay number).year) =
      marchYear number := by
    simp only [ofDay]
    omega
  have month : ((ofDay number).month + 9) % 12 = marchMonth number := by
    simp only [ofDay]
    omega
  have era : marchYear number / 400 = number / 146097 := by
    have centuries := century_bounds number
    have days := ofCentury_bounds number
    have years := yearOfCycle_bounds number
    simp only [marchYear]
    omega
  simp only [toDay, year, month, era, daysBeforeYear_marchYear]
  simp only [ofDay]
  omega

theorem daysBefore_year_le {first second : Int} (ordered : first ≤ second) :
    first / 400 * 146097 + daysBeforeYear (first % 400) + 365 * (second - first) ≤
      second / 400 * 146097 + daysBeforeYear (second % 400) := by
  have leap : ∀ year : Int, year / 400 * 146097 + daysBeforeYear (year % 400) =
      365 * year + year / 4 - year / 4 / 25 + year / 400 := by
    intro year
    simp only [daysBeforeYear]
    omega
  rw [leap first, leap second]
  omega

theorem year_le_iff {number year : Int} :
    year ≤ (ofDay number).year ↔ toDay ⟨year, 1, 1⟩ ≤ number := by
  have months := month_bounds number
  have days := day_bounds number
  have whole := toDay_ofDay number
  simp only [toDay, daysBefore] at whole ⊢
  rw [if_pos (by decide)]
  split at whole
  next first =>
    by_cases reached : year ≤ (ofDay number).year
    · have starts := @daysBefore_year_le (year - 1) ((ofDay number).year - 1) (by omega)
      omega
    · have starts := @daysBefore_year_le ((ofDay number).year - 1) (year - 1) (by omega)
      omega
  next later =>
    by_cases reached : year ≤ (ofDay number).year
    · have starts := @daysBefore_year_le (year - 1) (ofDay number).year (by omega)
      omega
    · have starts := @daysBefore_year_le (ofDay number).year (year - 1) (by omega)
      omega

theorem year_bounds {number : Int} (from' : 306 ≤ number) (until' : number < 3652365) :
    1 ≤ (ofDay number).year ∧ (ofDay number).year ≤ 9999 := by
  have first : 1 ≤ (ofDay number).year := year_le_iff.2 from'
  have later : ¬ 10000 ≤ (ofDay number).year := fun reached =>
    Int.not_le.2 until' (year_le_iff.1 reached)
  omega

end CivilDate
