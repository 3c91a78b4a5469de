import Mathlib.Order.Bounds.Basic
import UssdGateway.Library.SqlText
import UssdGateway.Reports.SessionCounts

/-!
Dates as text: the day that the portal rounds an instant up to, and what the database reads of it.
-/

namespace UssdGateway

namespace LocalDates

/-- A date as `YYYY-MM-DD`, the year with as many digits as it has. -/
def dateText (year : List Char) (date : CivilDate) : List Char :=
  year ++ '-' :: (twoDecimals date.month.toNat ++ '-' :: twoDecimals date.day.toNat)

def readDate (yearDigits : Nat → Bool) (text : List Char) : Option Int :=
  let year := text.takeWhile Char.isDigit
  match text.drop year.length with
  | ['-', monthTens, monthUnits, '-', dayTens, dayUnits] =>
      let date : CivilDate :=
        ⟨Nat.ofDigitChars 10 year 0, Nat.ofDigitChars 10 [monthTens, monthUnits] 0,
          Nat.ofDigitChars 10 [dayTens, dayUnits] 0⟩
      if yearDigits year.length = true ∧ [monthTens, monthUnits, dayTens, dayUnits].all Char.isDigit
          ∧ CivilDate.ofDay date.toDay = date then
        some (date.toDay - unixEpochDay)
      else none
  | _ => none

/-- `text::date`, up to the last day that the type holds. -/
def castDate (text : List Char) : Option Int :=
  (readDate (fun digits => decide (3 ≤ digits)) text).filter fun day => decide (day ≤ 2145042905)

/-- `new Date(text + "T00:00:00Z")`, `none` where it is invalid. -/
def parseIsoDay (text : List Char) : Option Int := readDate (fun digits => decide (digits = 4)) text

/-- The first ten characters of `toISOString()` on midnight of a day. -/
def isoDay (day : Int) : List Char :=
  let date := CivilDate.ofDay (unixEpochDay + day)
  (dateText (isoYear date.year) date ++ "T00:00:00.000Z".toList).take 10

/-- The first whole day at or after an instant after 1970. `none` where it throws. -/
def ceilToLocalDate (epochSeconds : Int) : Option (List Char) :=
  if 8640000000000 < epochSeconds then none
  else
    let wall := epochSeconds + tanzaniaOffsetSecs
    let hour := wall % 86400 / 3600
    let minute := wall % 3600 / 60
    let second := wall % 60
    let date := CivilDate.ofDay (unixEpochDay + wall / 86400)
    let day := dateText (Nat.toDigits 10 date.year.toNat) date
    if hour = 0 ∧ minute = 0 ∧ second = 0 then some day
    else (parseIsoDay day).map fun number => isoDay (number + 1)

example : ceilToLocalDate 1700000000 = some "2023-11-16".toList := by decide +kernel

def lastFourDigitMidnight : Int := 253402203600

/-- Until the end of the year 9999, or a midnight that JavaScript's `Date` still holds. -/
def DateFits (epochSeconds : Int) : Prop :=
  epochSeconds ≤ lastFourDigitMidnight ∨
    (epochSeconds + tanzaniaOffsetSecs) % 86400 = 0 ∧ epochSeconds ≤ 8640000000000

instance (epochSeconds : Int) : Decidable (DateFits epochSeconds) :=
  inferInstanceAs (Decidable (_ ∨ _ ∧ _))

theorem decimalDigit_eq (value : Nat) : decimalDigit value = Nat.digitChar (value % 10) := by
  have small : ∀ digit < 10, Char.ofNat (48 + digit) = Nat.digitChar digit := by decide
  exact small (value % 10) (Nat.mod_lt value (by decide))

theorem isDigit_decimalDigit (value : Nat) : (decimalDigit value).isDigit = true := by
  rw [decimalDigit_eq, Nat.isDigit_digitChar, decide_eq_true_eq]
  exact Nat.mod_lt value (by decide)

theorem ofDigitChars_decimalDigit (value sofar : Nat) (rest : List Char) :
    Nat.ofDigitChars 10 (decimalDigit value :: rest) sofar =
      Nat.ofDigitChars 10 rest (10 * sofar + value % 10) := by
  rw [decimalDigit_eq]
  exact Nat.ofDigitChars_cons_digitChar_of_lt_ten (Nat.mod_lt value (by decide))

theorem ofDigitChars_twoDecimals {value : Nat} (small : value < 100) :
    Nat.ofDigitChars 10 (twoDecimals value) 0 = value := by
  rw [twoDecimals, ofDigitChars_decimalDigit, ofDigitChars_decimalDigit, Nat.ofDigitChars_nil]
  omega

theorem ofDigitChars_fourDecimals {value : Nat} (small : value < 10000) :
    Nat.ofDigitChars 10 (fourDecimals value) 0 = value := by
  simp only [fourDecimals, twoDecimals, List.cons_append, List.nil_append,
    ofDigitChars_decimalDigit, Nat.ofDigitChars_nil]
  omega

theorem isDigit_fourDecimals (value : Nat) :
    ∀ char ∈ fourDecimals value, char.isDigit = true := by
  simp only [fourDecimals, twoDecimals, List.cons_append, List.nil_append, List.forall_mem_cons,
    isDigit_decimalDigit, List.not_mem_nil, false_imp_iff, implies_true, and_self]

theorem readDate_dateText {yearDigits : Nat → Bool} {year : List Char} {number : Int}
    (digits : ∀ char ∈ year, char.isDigit = true)
    (named : (Nat.ofDigitChars 10 year 0 : Int) = (CivilDate.ofDay number).year) :
    readDate yearDigits (dateText year (CivilDate.ofDay number)) =
      if yearDigits year.length = true then some (number - unixEpochDay) else none := by
  have months := CivilDate.month_bounds number
  have days := CivilDate.day_bounds number
  have month : ((Nat.ofDigitChars 10 (twoDecimals (CivilDate.ofDay number).month.toNat) 0 : Nat)
      : Int) = (CivilDate.ofDay number).month := by
    rw [ofDigitChars_twoDecimals (by omega)]
    omega
  have day : ((Nat.ofDigitChars 10 (twoDecimals (CivilDate.ofDay number).day.toNat) 0 : Nat)
      : Int) = (CivilDate.ofDay number).day := by
    rw [ofDigitChars_twoDecimals (by omega)]
    omega
  have leading : (dateText year (CivilDate.ofDay number)).takeWhile Char.isDigit = year :=
    SqlText.takeWhile_until digits fun char head => by
      obtain rfl := Option.some.inj head
      decide
  have whole : CivilDate.mk (CivilDate.ofDay number).year (CivilDate.ofDay number).month
      (CivilDate.ofDay number).day = CivilDate.ofDay number := rfl
  simp only [twoDecimals] at month day
  simp only [readDate, leading]
  simp only [dateText, twoDecimals, List.drop_left, List.cons_append, List.nil_append, named, month,
    day, List.all_cons, List.all_nil, isDigit_decimalDigit, Bool.and_true, whole,
    CivilDate.toDay_ofDay, and_true]

theorem readDate_longYear {yearDigits : Nat → Bool} {number : Int} (epoch : unixEpochDay ≤ number) :
    readDate yearDigits (dateText (Nat.toDigits 10 (CivilDate.ofDay number).year.toNat)
      (CivilDate.ofDay number)) =
      if yearDigits (Nat.toDigits 10 (CivilDate.ofDay number).year.toNat).length = true then
        some (number - unixEpochDay)
      else none := by
  have year : 1970 ≤ (CivilDate.ofDay number).year := CivilDate.year_le_iff.2 epoch
  refine readDate_dateText (fun char member =>
    Nat.isDigit_of_mem_toDigits (by decide) (by decide) member) ?_
  rw [Nat.ofDigitChars_ten_toDigits]
  omega

theorem castDate_longYear {day : Int} (epoch : 0 ≤ day) (held : day ≤ 2145042905) :
    castDate (dateText (Nat.toDigits 10 (CivilDate.ofDay (unixEpochDay + day)).year.toNat)
      (CivilDate.ofDay (unixEpochDay + day))) = some day := by
  have year : 1970 ≤ (CivilDate.ofDay (unixEpochDay + day)).year :=
    CivilDate.year_le_iff.2 (Int.le_add_of_nonneg_right epoch)
  have digits : 3 ≤ (Nat.toDigits 10 (CivilDate.ofDay (unixEpochDay + day)).year.toNat).length := by
    rw [← Nat.not_lt, Nat.lt_succ_iff, Nat.length_toDigits_le_iff (by decide) (by decide)]
    omega
  rw [castDate, readDate_longYear (Int.le_add_of_nonneg_right epoch),
    if_pos (decide_eq_true digits), add_sub_cancel_left]
  exact if_pos (decide_eq_true held)

theorem parseIsoDay_longYear {day : Int} (epoch : 0 ≤ day) :
    parseIsoDay (dateText (Nat.toDigits 10 (CivilDate.ofDay (unixEpochDay + day)).year.toNat)
      (CivilDate.ofDay (unixEpochDay + day))) = if day ≤ 2932896 then some day else none := by
  have year : 1970 ≤ (CivilDate.ofDay (unixEpochDay + day)).year :=
    CivilDate.year_le_iff.2 (Int.le_add_of_nonneg_right epoch)
  have long : 10000 ≤ (CivilDate.ofDay (unixEpochDay + day)).year ↔
      3652365 ≤ unixEpochDay + day := CivilDate.year_le_iff
  have three := @Nat.length_toDigits_le_iff 10 (CivilDate.ofDay (unixEpochDay + day)).year.toNat 3
    (by decide) (by decide)
  have four := @Nat.length_toDigits_le_iff 10 (CivilDate.ofDay (unixEpochDay + day)).year.toNat 4
    (by decide) (by decide)
  rw [parseIsoDay, readDate_longYear (Int.le_add_of_nonneg_right epoch), add_sub_cancel_left]
  refine if_congr ?_ rfl rfl
  rw [decide_eq_true_eq]
  simp only [unixEpochDay] at long three four year ⊢
  omega

theorem castDate_isoDay {day : Int} (epoch : 0 ≤ day) (before : day ≤ 2932896) :
    castDate (isoDay day) = some day := by
  obtain ⟨first, last⟩ := @CivilDate.year_bounds (unixEpochDay + day)
    (by simp only [unixEpochDay]; omega) (by simp only [unixEpochDay]; omega)
  have short : isoDay day =
      dateText (fourDecimals (CivilDate.ofDay (unixEpochDay + day)).year.toNat)
        (CivilDate.ofDay (unixEpochDay + day)) := by
    rw [isoDay, isoYear, if_pos ⟨by omega, last⟩]
    rfl
  rw [short, castDate, readDate_dateText (isDigit_fourDecimals _), if_pos (decide_eq_true ?_),
    add_sub_cancel_left]
  · exact if_pos (decide_eq_true (by omega))
  · exact Nat.le_succ 3
  · rw [ofDigitChars_fourDecimals (by omega)]
    omega

theorem castDate_isoDay_sixDigits : castDate (isoDay (2932896 + 1)) = none := by decide +kernel

def dayStart (day : Int) : Int := day * 86400 - tanzaniaOffsetSecs

theorem isLeast_ceilToLocalDate (epochSeconds : Int) :
    IsLeast {day | epochSeconds ≤ dayStart day} (UssdGateway.ceilToLocalDate epochSeconds) := by
  constructor
  · simp only [Set.mem_ofPred_eq, dayStart, UssdGateway.ceilToLocalDate]
    split <;> omega
  · intro day starts
    simp only [Set.mem_ofPred_eq, dayStart] at starts
    simp only [UssdGateway.ceilToLocalDate]
    split <;> omega

theorem castDate_ceilToLocalDate {epochSeconds : Int} (later : 0 < epochSeconds) :
    (ceilToLocalDate epochSeconds).bind castDate =
      if DateFits epochSeconds then some (UssdGateway.ceilToLocalDate epochSeconds) else none := by
  rw [ceilToLocalDate]
  split
  next held =>
    rw [if_neg]
    · rfl
    · simp only [DateFits, lastFourDigitMidnight]
      omega
  next held =>
    have epoch : 0 ≤ (epochSeconds + tanzaniaOffsetSecs) / 86400 := by
      simp only [tanzaniaOffsetSecs]
      omega
    simp only [UssdGateway.ceilToLocalDate]
    split
    next midnight =>
      have fits : DateFits epochSeconds := Or.inr ⟨by omega, by omega⟩
      rw [if_pos fits, Option.bind_some, castDate_longYear epoch]
      simp only [tanzaniaOffsetSecs]
      omega
    next afternoon =>
      rw [parseIsoDay_longYear epoch]
      by_cases before : (epochSeconds + tanzaniaOffsetSecs) / 86400 ≤ 2932896
      · rw [if_pos before, Option.map_some, Option.bind_some]
        by_cases last : (epochSeconds + tanzaniaOffsetSecs) / 86400 = 2932896
        · rw [last, castDate_isoDay_sixDigits, if_neg]
          simp only [DateFits, lastFourDigitMidnight, tanzaniaOffsetSecs] at *
          omega
        · rw [castDate_isoDay (by omega) (by omega), if_pos]
          simp only [DateFits, lastFourDigitMidnight, tanzaniaOffsetSecs] at *
          omega
      · rw [if_neg before, Option.map_none, Option.bind_none, if_neg]
        simp only [DateFits, lastFourDigitMidnight, tanzaniaOffsetSecs] at *
        omega

end LocalDates

end UssdGateway
