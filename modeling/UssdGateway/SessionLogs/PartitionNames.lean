import UssdGateway.Gateway.Text
import UssdGateway.Library.CivilDate

/-!
The names of the partitions of `ussd_session_logs`, and the end dates that are read off them.
-/

namespace UssdGateway

def underscore : CodePoint := CodePoint.ofChar '_'

def digit (value : Nat) : CodePoint := ⟨48 + value % 10, by omega⟩

def twoDigits (value : Nat) : Str := [digit (value / 10), digit value]

def fourDigits (value : Nat) : Str :=
  [digit (value / 1000), digit (value / 100), digit (value / 10), digit value]

def dateText (day : Int) : Str :=
  fourDigits (CivilDate.ofDay day).year.toNat ++ underscore ::
    (twoDigits (CivilDate.ofDay day).month.toNat ++ underscore ::
      twoDigits (CivilDate.ofDay day).day.toNat)

def firstNamedDay : Int := 306

def namedDaysEnd : Int := 3652365

def digitValue (point : CodePoint) : Option Nat :=
  if 48 ≤ point.val ∧ point.val ≤ 57 then some (point.val - 48) else none

def readTwo (tens ones : CodePoint) : Option Nat := do
  let tens ← digitValue tens
  let ones ← digitValue ones
  pure (tens * 10 + ones)

def readFour (first second third fourth : CodePoint) : Option Nat := do
  let century ← readTwo first second
  let year ← readTwo third fourth
  pure (century * 100 + year)

/-- The day of a text like `YYYY_MM_DD`. Digits that are no date, on which `to_date` raises, read as
nothing: no partition has such a name. -/
def readDate : Str → Option Int
  | [y₁, y₂, y₃, y₄, first, m₁, m₂, second, d₁, d₂] => do
      let year ← readFour y₁ y₂ y₃ y₄
      let month ← readTwo m₁ m₂
      let day ← readTwo d₁ d₂
      let date : CivilDate := ⟨year, month, day⟩
      if first = underscore ∧ second = underscore ∧ CivilDate.ofDay date.toDay = date then
        some date.toDay
      else none
  | _ => none

def readMonthEnd : Str → Option Int
  | [y₁, y₂, y₃, y₄, first, m₁, m₂] => do
      let year ← readFour y₁ y₂ y₃ y₄
      let month ← readTwo m₁ m₂
      if first = underscore ∧ 1 ≤ month ∧ month ≤ 12 then
        some (if month = 12 then CivilDate.toDay ⟨year + 1, 1, 1⟩
          else CivilDate.toDay ⟨year, month + 1, 1⟩)
      else none
  | _ => none

def afterPrefix (start text : Str) : Option Str :=
  if start.isPrefixOf text then some (text.drop start.length) else none

inductive Generation where
  | weekly
  | daily
deriving DecidableEq

namespace Generation

def days : Generation → Int
  | weekly => 7
  | daily => 1

def start : Generation → Str
  | weekly => lit "ussd_session_logs_w_"
  | daily => lit "ussd_session_logs_d_"

def partitionName (generation : Generation) (day : Int) : Str := generation.start ++ dateText day

def readEnd (generation : Generation) (name : Str) : Option Int :=
  ((afterPrefix generation.start name).bind readDate).map (· + generation.days)

theorem days_pos (generation : Generation) : 0 < generation.days := by cases generation <;> decide

end Generation

/-- The end date that `_ussd_logs_latest_partition_end` and `drop_old_session_log_partitions` read
off a name. -/
def partitionEnd (name : Str) : Option Int :=
  ((afterPrefix (lit "ussd_session_logs_") name).bind readMonthEnd).orElse fun _ =>
    (Generation.weekly.readEnd name).orElse fun _ => Generation.daily.readEnd name

/-! What is written is read back. -/

@[simp] theorem digitValue_digit (value : Nat) : digitValue (digit value) = some (value % 10) := by
  have bound : 48 + value % 10 ≤ 57 := by omega
  simp [digitValue, digit, bound]

theorem readTwo_digits {value : Nat} (short : value < 100) :
    readTwo (digit (value / 10)) (digit value) = some value := by
  simp only [readTwo, digitValue_digit, Option.bind_eq_bind, Option.bind_some, Option.pure_def,
    Option.some.injEq]
  omega

theorem readFour_digits {value : Nat} (short : value < 10000) :
    readFour (digit (value / 1000)) (digit (value / 100)) (digit (value / 10)) (digit value) =
      some value := by
  simp only [readFour, readTwo, digitValue_digit, Option.bind_eq_bind, Option.bind_some,
    Option.pure_def, Option.some.injEq]
  omega

theorem readDate_dateText {day : Int} (named : firstNamedDay ≤ day) (inside : day < namedDaysEnd) :
    readDate (dateText day) = some day := by
  obtain ⟨firstYear, lastYear⟩ := CivilDate.year_bounds named inside
  obtain ⟨firstMonth, lastMonth⟩ := CivilDate.month_bounds day
  obtain ⟨firstDay, lastDay⟩ := CivilDate.day_bounds day
  have date : (⟨((CivilDate.ofDay day).year.toNat : Int), ((CivilDate.ofDay day).month.toNat : Int),
      ((CivilDate.ofDay day).day.toNat : Int)⟩ : CivilDate) = CivilDate.ofDay day := by
    rw [Int.toNat_of_nonneg (by omega), Int.toNat_of_nonneg (by omega),
      Int.toNat_of_nonneg (by omega)]
  simp only [dateText, fourDigits, twoDigits, List.cons_append, List.nil_append, readDate]
  rw [readFour_digits (by omega), readTwo_digits (by omega), readTwo_digits (by omega)]
  simp only [Option.bind_eq_bind, Option.bind_some, date, CivilDate.toDay_ofDay, and_self, if_true]

theorem afterPrefix_append (start text : Str) : afterPrefix start (start ++ text) = some text := by
  simp [afterPrefix]

theorem partitionEnd_partitionName (generation : Generation) {day : Int}
    (named : firstNamedDay ≤ day) (inside : day < namedDaysEnd) :
    partitionEnd (generation.partitionName day) = some (day + generation.days) := by
  have read := readDate_dateText named inside
  have own : generation.readEnd (generation.partitionName day) = some (day + generation.days) := by
    rw [Generation.readEnd, Generation.partitionName, afterPrefix_append, Option.bind_some, read,
      Option.map_some]
  have noMonth : (afterPrefix (lit "ussd_session_logs_") (generation.partitionName day)).bind
      readMonthEnd = none := by
    cases generation with
    | weekly => rfl
    | daily => rfl
  rw [partitionEnd, noMonth, Option.orElse_none]
  cases generation with
  | weekly => rw [own, Option.orElse_some]
  | daily =>
      have noWeek : Generation.weekly.readEnd (Generation.daily.partitionName day) = none := rfl
      rw [noWeek, Option.orElse_none, own]

theorem afterPrefix_eq_some {start text rest : Str} (found : afterPrefix start text = some rest) :
    text = start ++ rest := by
  rw [afterPrefix] at found
  split at found
  next isPrefix =>
    obtain ⟨tail, rfl⟩ := List.isPrefixOf_iff_prefix.1 isPrefix
    rw [List.drop_left, Option.some.injEq] at found
    rw [found]
  · cases found

theorem readDate_length {text : Str} {day : Int} (read : readDate text = some day) :
    text.length = 10 := by
  rw [readDate.eq_def] at read
  split at read
  · rfl
  · cases read

theorem readMonthEnd_length {text : Str} {day : Int} (read : readMonthEnd text = some day) :
    text.length = 7 := by
  rw [readMonthEnd.eq_def] at read
  split at read
  · rfl
  · cases read

theorem readEnd_eq_some {generation : Generation} {name : Str} {day : Int}
    (read : generation.readEnd name = some day) :
    ∃ rest, name = generation.start ++ rest ∧ rest.length = 10 := by
  obtain ⟨date, read, _⟩ := Option.map_eq_some_iff.1 read
  obtain ⟨rest, found, read⟩ := Option.bind_eq_some_iff.1 read
  exact ⟨rest, afterPrefix_eq_some found, readDate_length read⟩

theorem eq_some_of_orElse {first second : Option Int} {day : Int}
    (found : (first.orElse fun _ => second) = some day) : first = some day ∨ second = some day := by
  cases first with
  | some value => exact .inl found
  | none => exact .inr found

theorem partitionEnd_eq_some {name : Str} {day : Int} (read : partitionEnd name = some day) :
    ∃ rest, name = lit "ussd_session_logs_" ++ rest ∧ rest.length ≤ 12 := by
  rcases eq_some_of_orElse read with monthly | later
  · obtain ⟨rest, found, read⟩ := Option.bind_eq_some_iff.1 monthly
    exact ⟨rest, afterPrefix_eq_some found, by rw [readMonthEnd_length read]; omega⟩
  · rcases eq_some_of_orElse later with weekly | daily
    · obtain ⟨rest, rfl, length⟩ := readEnd_eq_some weekly
      exact ⟨lit "w_" ++ rest, rfl, by rw [List.length_append, length]; decide⟩
    · obtain ⟨rest, rfl, length⟩ := readEnd_eq_some daily
      exact ⟨lit "d_" ++ rest, rfl, by rw [List.length_append, length]; decide⟩

end UssdGateway
