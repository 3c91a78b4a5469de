import UssdGateway.Reports.Overview
import UssdGateway.Reports.SummaryRefresh

/-!
The view of today beside the rollup of the same day. The view asks for Nairobi's day, the rollup
for the day of the database session that runs it.
-/

namespace UssdGateway

open Grouping

/-- A `TimeZone` setting. Its clocks may change between any two days. -/
structure SessionZone where
  dateOf : Int → Int
  midnight : Int → Int

def SessionZone.fixed (zone : Int) : SessionZone where
  dateOf := localDate zone
  midnight := UssdGateway.midnight zone

inductive RollupError where
  | invalidWindow (startDate endDate : Option Int)
  | uniqueViolation
deriving DecidableEq

def RefreshError.inRollup : RefreshError → RollupError
  | .invalidWindow startDate endDate => .invalidWindow startDate endDate

namespace SessionZone

def groupKey (zone : SessionZone) (leg : LegRecord) : GroupKey where
  date := zone.dateOf leg.ts
  operatorId := leg.operatorId
  shortcodeId := leg.shortcodeId.getD 0
  sessionId := leg.sessionId

def inWindow (zone : SessionZone) (startDate endDate : Int) (leg : LegRecord) : Bool :=
  decide (zone.midnight startDate ≤ leg.ts) && decide (leg.ts < zone.midnight (endDate + 1))

def perGroup (zone : SessionZone) (legs : List LegRecord) (startDate endDate : Int) :
    List SessionGroup :=
  (groupBy zone.groupKey (legs.filter (zone.inWindow startDate endDate))).map fun group =>
    { key := group.1
      firstTs := firstTs group.2
      lastTs := lastTs group.2
      legsInSession := group.2.length
      hadError := group.2.any fun leg => leg.errorClass.isSome }

def insertedRows (zone : SessionZone) (tables : LegTables) (startDate endDate : Int) :
    List SummaryRow :=
  (groupBy bucket (joinOperators tables.operators
    (keptGroups (zone.perGroup tables.legs startDate endDate)))).map summaryRow

def refreshDailySessionSummary (zone : SessionZone) (tables : LegTables)
    (summary : List SummaryRow) (startDate endDate : Option Int) :
    Except RollupError (Nat × List SummaryRow) :=
  match startDate, endDate with
  | some first, some last =>
      if last < first then .error (.invalidWindow startDate endDate)
      else
        let kept := summary.filter fun row =>
          !(decide (first ≤ row.date) && decide (row.date ≤ last))
        let inserted := zone.insertedRows tables first last
        if inserted.any fun row => kept.any fun other =>
            decide (other.key = row.key) then .error .uniqueViolation
        else .ok (inserted.length, kept ++ inserted)
  | _, _ => .error (.invalidWindow startDate endDate)

/-- The day starts and ends when Nairobi's does, and has no instant of another date. -/
structure AgreesOn (zone : SessionZone) (day : Int) : Prop where
  starts : zone.midnight day = UssdGateway.midnight tanzaniaZone day
  ends : zone.midnight (day + 1) = UssdGateway.midnight tanzaniaZone (day + 1)
  dated : ∀ ts, localDate tanzaniaZone ts = day → zone.dateOf ts = day

end SessionZone

/-- For every leg table, read by a refresh of the view on the day and by its rollup: the rollup
writes the rows of the view. -/
def RollupAsToday (zone : SessionZone) (day : Int) : Prop :=
  ∀ database : DatabaseAt, localDate tanzaniaZone database.now = day → ∀ summary,
    zone.refreshDailySessionSummary database.tables summary (some day) (some day) =
      .ok ((todaySessionSummary database).length,
        rowsOfOtherDays day day summary ++ todaySessionSummary database)

theorem insertedRows_fixed (zone : Int) (tables : LegTables) (startDate endDate : Int) :
    (SessionZone.fixed zone).insertedRows tables startDate endDate =
      insertedRows zone tables startDate endDate := rfl

theorem no_key_taken {first last : Int} {inserted : List SummaryRow}
    (dated : ∀ row ∈ inserted, first ≤ row.date ∧ row.date ≤ last) (summary : List SummaryRow) :
    (inserted.any fun row => (summary.filter fun row =>
      !(decide (first ≤ row.date) && decide (row.date ≤ last))).any fun other =>
        decide (other.key = row.key)) = false := by
  rw [List.any_eq_false]
  intro row member taken
  obtain ⟨other, kept, same⟩ := List.any_eq_true.1 taken
  have sameDate : other.date = row.date := congrArg Prod.fst (of_decide_eq_true same)
  have outside := (List.mem_filter.1 kept).2
  have inside := dated row member
  simp [sameDate, inside.1, inside.2] at outside

theorem refreshDailySessionSummary_fixed (zone : Int) (tables : LegTables)
    (summary : List SummaryRow) (startDate endDate : Option Int) :
    (SessionZone.fixed zone).refreshDailySessionSummary tables summary startDate endDate =
      (refreshDailySessionSummary zone tables summary startDate endDate).mapError
        RefreshError.inRollup := by
  rcases startDate with _ | first
  · rfl
  rcases endDate with _ | last
  · rfl
  have free := no_key_taken (fun row member =>
    @insertedRows_date zone first last tables row member) summary
  simp only [SessionZone.refreshDailySessionSummary, refreshDailySessionSummary,
    insertedRows_fixed, free]
  split
  · rfl
  · rfl

/-! The view is the rollup of Nairobi's zone. -/

section

variable {zone : SessionZone} {day : Int}

theorem todaySessionSummary_fixed {database : DatabaseAt}
    (onDay : localDate tanzaniaZone database.now = day) :
    todaySessionSummary database =
      (SessionZone.fixed tanzaniaZone).insertedRows database.tables day day := by
  rw [todaySessionSummary_eq, onDay, insertedRows_fixed]

theorem SessionZone.AgreesOn.insertedRows (agrees : zone.AgreesOn day) (tables : LegTables) :
    zone.insertedRows tables day day =
      (SessionZone.fixed tanzaniaZone).insertedRows tables day day := by
  have window : tables.legs.filter (zone.inWindow day day) =
      tables.legs.filter ((SessionZone.fixed tanzaniaZone).inWindow day day) := by
    refine List.filter_congr fun leg _ => ?_
    rw [SessionZone.inWindow, SessionZone.inWindow, agrees.starts, agrees.ends]
    rfl
  have keys : ∀ leg ∈ tables.legs.filter ((SessionZone.fixed tanzaniaZone).inWindow day day),
      zone.groupKey leg = (SessionZone.fixed tanzaniaZone).groupKey leg := by
    intro leg member
    have inside := (List.mem_filter.1 member).2
    have date : localDate tanzaniaZone leg.ts = day := by
      simp only [SessionZone.inWindow, SessionZone.fixed, Bool.and_eq_true, decide_eq_true_eq,
        midnight_le_iff, lt_midnight_iff] at inside
      omega
    simp only [SessionZone.groupKey, SessionZone.fixed, date, agrees.dated leg.ts date]
  simp only [SessionZone.insertedRows, SessionZone.perGroup, window, groupBy_congr keys]

theorem rollupAsToday_of_agreesOn (agrees : zone.AgreesOn day) : RollupAsToday zone day := by
  intro database onDay summary
  have rows : zone.insertedRows database.tables day day = todaySessionSummary database := by
    rw [agrees.insertedRows, todaySessionSummary_fixed onDay]
  have dated : ∀ row ∈ todaySessionSummary database, day ≤ row.date ∧ row.date ≤ day := by
    intro row member
    rw [todaySessionSummary_eq, onDay] at member
    exact insertedRows_date member
  simp only [SessionZone.refreshDailySessionSummary, rows, Int.lt_irrefl, if_false,
    no_key_taken dated summary]
  rfl

end

def oneLegTables (ts : Int) : LegTables where
  operators := rollupOperators
  legs := [rollupLeg 1 ts (some 10)]
  operatorKnown := by
    intro leg member
    rw [List.mem_singleton.1 member]
    rfl

theorem insertedRows_oneLeg (zone : SessionZone) (ts first last : Int) :
    zone.insertedRows (oneLegTables ts) first last =
      if zone.midnight first ≤ ts ∧ ts < zone.midnight (last + 1) then
        [⟨zone.dateOf ts, 3, 10, 1, 1, 0, 1⟩]
      else [] := by
  have read : zone.perGroup (oneLegTables ts).legs first last =
      if zone.midnight first ≤ ts ∧ ts < zone.midnight (last + 1) then
        [⟨⟨zone.dateOf ts, 3, 10, "T1"⟩, ts, ts, 1, false⟩]
      else [] := by
    simp only [SessionZone.perGroup, oneLegTables, List.filter_cons, List.filter_nil,
      SessionZone.inWindow, rollupLeg, Bool.and_eq_true, decide_eq_true_eq]
    split
    · rw [groupBy_singleton]
      rfl
    · rfl
  have units : windowUnits 20 0 = 1 := rfl
  rw [SessionZone.insertedRows, read]
  split
  · have kept : keptGroups [⟨⟨zone.dateOf ts, 3, 10, "T1"⟩, ts, ts, 1, false⟩] =
        [⟨⟨zone.dateOf ts, 3, 10, "T1"⟩, ts, ts, 1, false⟩] := rfl
    have joined : joinOperators (oneLegTables ts).operators
        [⟨⟨zone.dateOf ts, 3, 10, "T1"⟩, ts, ts, 1, false⟩] =
          [(⟨⟨zone.dateOf ts, 3, 10, "T1"⟩, ts, ts, 1, false⟩, ⟨3, "tigo", some 20⟩)] := rfl
    rw [kept, joined, groupBy_singleton]
    simp [summaryRow, bucket, groupUnits, units]
  · rfl

theorem ends_of_span {start stop start' stop' : Int} (nonempty : start < stop)
    (same : ∀ ts, start' ≤ ts ∧ ts < stop' ↔ start ≤ ts ∧ ts < stop) :
    start' = start ∧ stop' = stop := by
  have first := (same start).2 ⟨Int.le_refl _, nonempty⟩
  have last := (same (stop - 1)).2 (by omega)
  have before := same start'
  have after := same stop
  omega

theorem localDate_iff (zone day ts : Int) :
    localDate zone ts = day ↔ midnight zone day ≤ ts ∧ ts < midnight zone (day + 1) := by
  rw [midnight_le_iff, lt_midnight_iff]
  omega

theorem midnight_lt (zone day : Int) : midnight zone day < midnight zone (day + 1) := by
  simp only [midnight, dayMicros]
  omega

theorem RollupAsToday.oneLeg {zone : SessionZone} {day : Int} (same : RollupAsToday zone day)
    (ts : Int) : zone.insertedRows (oneLegTables ts) day day =
      (SessionZone.fixed tanzaniaZone).insertedRows (oneLegTables ts) day day := by
  have onDay : localDate tanzaniaZone (midnight tanzaniaZone day) = day :=
    (localDate_iff _ _ _).2 ⟨Int.le_refl _, midnight_lt _ _⟩
  have wrote := same ⟨midnight tanzaniaZone day, oneLegTables ts⟩ onDay []
  simp only [SessionZone.refreshDailySessionSummary, Int.lt_irrefl, if_false, List.filter_nil,
    List.any_nil, List.any_eq_true, Bool.false_eq_true, and_false, exists_false,
    rowsOfOtherDays, List.nil_append, Except.ok.injEq, Prod.mk.injEq] at wrote
  rw [wrote.2, todaySessionSummary_fixed onDay]

theorem agreesOn_of_rollupAsToday {zone : SessionZone} {day : Int}
    (same : RollupAsToday zone day) : zone.AgreesOn day := by
  have each : ∀ ts, (zone.midnight day ≤ ts ∧ ts < zone.midnight (day + 1) ↔
      midnight tanzaniaZone day ≤ ts ∧ ts < midnight tanzaniaZone (day + 1)) ∧
        (localDate tanzaniaZone ts = day → zone.dateOf ts = day) := by
    intro ts
    have rows := same.oneLeg ts
    rw [insertedRows_oneLeg, insertedRows_oneLeg] at rows
    rw [localDate_iff]
    by_cases inside : zone.midnight day ≤ ts ∧ ts < zone.midnight (day + 1) <;>
      by_cases nairobi : (SessionZone.fixed tanzaniaZone).midnight day ≤ ts ∧
        ts < (SessionZone.fixed tanzaniaZone).midnight (day + 1)
    · rw [if_pos inside, if_pos nairobi] at rows
      have date : zone.dateOf ts = localDate tanzaniaZone ts := by
        injection rows with row
        injection row
      exact ⟨iff_of_true inside nairobi, fun _ => date.trans ((localDate_iff _ _ _).2 nairobi)⟩
    · rw [if_pos inside, if_neg nairobi] at rows
      cases rows
    · rw [if_neg inside, if_pos nairobi] at rows
      cases rows
    · exact ⟨iff_of_false inside nairobi, fun here => absurd here nairobi⟩
  obtain ⟨starts, ends⟩ := ends_of_span (midnight_lt tanzaniaZone day) fun ts => (each ts).1
  exact ⟨starts, ends, fun ts => (each ts).2⟩

/-- For every `TimeZone` setting and day: the rollup of the day writes the rows of the view,
whatever the legs, if and only if the day of that zone is Nairobi's. -/
theorem rollup_as_today_iff (zone : SessionZone) (day : Int) :
    RollupAsToday zone day ↔ zone.AgreesOn day :=
  ⟨agreesOn_of_rollupAsToday, rollupAsToday_of_agreesOn⟩

theorem agreesOn_fixed_iff (zone day : Int) :
    (SessionZone.fixed zone).AgreesOn day ↔ zone = tanzaniaZone := by
  constructor
  · intro agrees
    have starts := agrees.starts
    simp only [SessionZone.fixed, midnight] at starts
    omega
  · rintro rfl
    exact ⟨rfl, rfl, fun _ onDay => onDay⟩

def afterMidnight : DatabaseAt := ⟨100 * dayMicros + 8 * hourMicros,
  oneLegTables (100 * dayMicros - 5 * (hourMicros / 2))⟩

theorem night_leg_left_out :
    localDate tanzaniaZone afterMidnight.now = 100 ∧
      todaySessionSummary afterMidnight = [⟨100, 3, 10, 1, 1, 0, 1⟩] ∧
      (SessionZone.fixed 0).refreshDailySessionSummary afterMidnight.tables [] (some 100)
        (some 100) = .ok (0, []) := by
  decide

end UssdGateway
