import UssdGateway.Library.KeyedTable
import UssdGateway.Reports.SessionsBilledOnce
import Mathlib.Algebra.Order.BigOperators.Group.List
import Mathlib.Algebra.Order.Group.Int
import Mathlib.Data.List.Sort

/-!
The Overview chart: past days from the nightly rollup, today from the materialised view, and the
refreshes that fill the two. A day is counted once exactly when it is in one of them.
-/

namespace UssdGateway

open Grouping SqlClause

structure DatabaseAt where
  now : Int
  tables : LegTables

def todayPerGroup (now : Int) (legs : List LegRecord) : List SessionGroup :=
  (groupBy (LegRecord.groupKey tanzaniaZone)
    (legs.filter fun leg =>
      decide (localDate tanzaniaZone leg.ts = localDate tanzaniaZone now))).map fun group =>
      { key := group.1
        firstTs := firstTs group.2
        lastTs := lastTs group.2
        legsInSession := group.2.length
        hadError := group.2.any fun leg => leg.errorClass.isSome }

def todaySessionSummary (database : DatabaseAt) : List SummaryRow :=
  (groupBy bucket (joinOperators database.tables.operators
    (keptGroups (todayPerGroup database.now database.tables.legs)))).map summaryRow

structure OverviewSources where
  dailySessionSummary : List SummaryRow
  todayMv : List SummaryRow

/-- A tick of a scheduler. A failed one is logged and changes nothing. -/
inductive SchedulerTick where
  | daily (database : DatabaseAt)
  | intraday (database : DatabaseAt)
  | failed

def yesterday (zone : Int) (database : DatabaseAt) : Int := localDate zone database.now - 1

def OverviewSources.tick (zone : Int) (sources : OverviewSources) :
    SchedulerTick → OverviewSources
  | .daily database =>
      match refreshDailySessionSummary zone database.tables sources.dailySessionSummary
          (some (yesterday zone database)) (some (yesterday zone database)) with
      | .ok (_, summary) => { sources with dailySessionSummary := summary }
      | .error _ => sources
  | .intraday database => { sources with todayMv := todaySessionSummary database }
  | .failed => sources

def sourcesAfter (zone : Int) (ticks : List SchedulerTick) : OverviewSources :=
  ticks.foldl (OverviewSources.tick zone) ⟨[], []⟩

structure DailyTrafficRow where
  day : Int
  operatorName : String
  billableUnits : Int
deriving DecidableEq

def DailyTrafficRow.group (row : DailyTrafficRow) : Int × String := (row.day, row.operatorName)

structure OverviewLoad where
  now : Int
  operators : OperatorTable
  acl : ShortcodeAcl
  monthStart : Int

/-- `SUM(billable_units) … GROUP BY day, operator_name`. -/
def sumByDay (rows : List DailyTrafficRow) : List DailyTrafficRow :=
  (groupBy DailyTrafficRow.group rows).map fun group =>
    ⟨group.1.1, group.1.2, (group.2.map DailyTrafficRow.billableUnits).sum⟩

def trafficOf (operators : OperatorTable) (rows : List SummaryRow) : List DailyTrafficRow :=
  rows.filterMap fun row =>
    (operators.byId row.operatorId).map fun operator =>
      ⟨row.date, operator.name, row.billableUnits⟩

section

-- `nextMonth` adds a month to a date, `collate` orders operator names
variable (nextMonth : Int → Int) (collate : String → String → Bool)

def inMonth (monthStart : Int) : Builder SqlValue SummaryRow :=
  withValue (.day monthStart) fun value row =>
    match value with
    | some (.day start) => decide (start ≤ row.date) && decide (row.date < nextMonth start)
    | _ => false

def overviewWhere (load : OverviewLoad) : Builder SqlValue SummaryRow :=
  joined (fun allowed inside => inside && allowed)
    (aclClause summaryColumns .date load.acl) (inMonth nextMonth load.monthStart)

def pastDays (sources : OverviewSources) (load : OverviewLoad) : List DailyTrafficRow :=
  sumByDay (trafficOf load.operators
    ((select (overviewWhere nextMonth load) sources.dailySessionSummary).filter
      fun row => decide (row.date < localDate tanzaniaZone load.now)))

def today (sources : OverviewSources) (load : OverviewLoad) : List DailyTrafficRow :=
  sumByDay (trafficOf load.operators (select (overviewWhere nextMonth load) sources.todayMv))

def byDayThenOperator (first second : DailyTrafficRow) : Prop :=
  first.day < second.day ∨
    (first.day = second.day ∧ collate first.operatorName second.operatorName = true)

instance : DecidableRel (byDayThenOperator collate) := fun _ _ =>
  inferInstanceAs (Decidable (_ ∨ _))

def loadDailyTraffic (sources : OverviewSources) (load : OverviewLoad) : List DailyTrafficRow :=
  if load.acl = some [] then []
  else (sumByDay (pastDays nextMonth sources load ++ today nextMonth sources load)).insertionSort
    (byDayThenOperator collate)

end

/-! A summary row as the page sees it, and what the refreshes have included of a day. -/

def OverviewLoad.shows (nextMonth : Int → Int) (load : OverviewLoad) (day : Int)
    (operatorName : String) (row : SummaryRow) : Prop :=
  row.date = day ∧ aclAdmits summaryColumns .date load.acl row = true ∧
    load.monthStart ≤ day ∧ day < nextMonth load.monthStart ∧
    (load.operators.byId row.operatorId).map OperatorRecord.name = some operatorName

/-- A refresh of either source that included the day. -/
def SchedulerTick.includes (zone : Int) (counts : SummaryRow → Prop) : SchedulerTick → Prop
  | .daily database => ∃ row ∈ insertedRows zone database.tables (yesterday zone database)
      (yesterday zone database), counts row
  | .intraday database => ∃ row ∈ todaySessionSummary database, counts row
  | .failed => False

def SchedulerTick.dailyOf (zone day : Int) : SchedulerTick → Option DatabaseAt
  | .daily database => if yesterday zone database = day then some database else none
  | _ => none

def SchedulerTick.intradayOf : SchedulerTick → Option DatabaseAt
  | .intraday database => some database
  | _ => none

def lastDaily (zone day : Int) (ticks : List SchedulerTick) : Option DatabaseAt :=
  (ticks.filterMap (SchedulerTick.dailyOf zone day)).getLast?

def lastIntraday (ticks : List SchedulerTick) : Option DatabaseAt :=
  (ticks.filterMap SchedulerTick.intradayOf).getLast?

def RolledUp (zone : Int) (ticks : List SchedulerTick) (now day : Int)
    (counts : SummaryRow → Prop) : Prop :=
  day < localDate tanzaniaZone now ∧ ∃ database, lastDaily zone day ticks = some database ∧
    ∃ row ∈ insertedRows zone database.tables day day, counts row

def Viewed (ticks : List SchedulerTick) (counts : SummaryRow → Prop) : Prop :=
  ∃ database, lastIntraday ticks = some database ∧
    ∃ row ∈ todaySessionSummary database, counts row

/-- The figure of a day and operator is a figure of one source alone, and there is one as soon as
a refresh has included the day. -/
structure CountedOnce (nextMonth : Int → Int) (collate : String → String → Bool) (zone : Int)
    (ticks : List SchedulerTick) (load : OverviewLoad) (day : Int) (operatorName : String) :
    Prop where
  oneSource : ∀ row ∈ loadDailyTraffic nextMonth collate (sourcesAfter zone ticks) load,
    row.group = (day, operatorName) →
    (row ∈ pastDays nextMonth (sourcesAfter zone ticks) load ∧
      ∀ other ∈ today nextMonth (sourcesAfter zone ticks) load,
        other.group ≠ (day, operatorName)) ∨
    (row ∈ today nextMonth (sourcesAfter zone ticks) load ∧
      ∀ other ∈ pastDays nextMonth (sourcesAfter zone ticks) load,
        other.group ≠ (day, operatorName))
  notLost : (∃ tick ∈ ticks, tick.includes zone (load.shows nextMonth day operatorName)) →
    ∃ row ∈ loadDailyTraffic nextMonth collate (sourcesAfter zone ticks) load,
      row.group = (day, operatorName) ∧ row.billableUnits ≠ 0

theorem todaySessionSummary_eq (database : DatabaseAt) :
    todaySessionSummary database = insertedRows tanzaniaZone database.tables
      (localDate tanzaniaZone database.now) (localDate tanzaniaZone database.now) := by
  have sameLegs : todayPerGroup database.now database.tables.legs =
      perGroup tanzaniaZone database.tables.legs (localDate tanzaniaZone database.now)
        (localDate tanzaniaZone database.now) := by
    have sameDay : ∀ leg ∈ database.tables.legs,
        decide (localDate tanzaniaZone leg.ts = localDate tanzaniaZone database.now) =
          inWindow tanzaniaZone (localDate tanzaniaZone database.now)
            (localDate tanzaniaZone database.now) leg := by
      intro leg _
      rw [Bool.eq_iff_iff]
      simp only [inWindow, Bool.and_eq_true, decide_eq_true_eq, midnight_le_iff, lt_midnight_iff]
      omega
    rw [todayPerGroup, perGroup, List.filter_congr sameDay]
  rw [todaySessionSummary, sameLegs, insertedRows]

theorem windowUnits_positive (windowSecs : Nat) (span : Int) : 1 ≤ windowUnits windowSecs span :=
  Int.le_max_left _ _

theorem groupUnits_positive (operator : OperatorRecord) (group : SessionGroup) :
    1 ≤ groupUnits operator group := by
  rw [groupUnits]
  split
  · exact windowUnits_positive _ _
  · exact Int.le_refl 1

theorem sum_positive {amounts : List Int} (positive : ∀ amount ∈ amounts, 1 ≤ amount)
    (nonempty : amounts ≠ []) : 1 ≤ amounts.sum := by
  obtain ⟨amount, member⟩ := List.exists_mem_of_ne_nil amounts nonempty
  have bound : amount ≤ amounts.sum :=
    List.single_le_sum (fun other inside => by have := positive other inside; omega) amount member
  have least := positive amount member
  omega

section

variable {zone startDate endDate : Int} {tables : LegTables} {row : SummaryRow}

theorem insertedRows_date (inserted : row ∈ insertedRows zone tables startDate endDate) :
    startDate ≤ row.date ∧ row.date ≤ endDate :=
  summaryOf_date (keptGroups_sublist _) inserted

theorem insertedRows_units (inserted : row ∈ insertedRows zone tables startDate endDate) :
    1 ≤ row.billableUnits := by
  obtain ⟨group, grouped, rfl⟩ := List.mem_map.1 inserted
  obtain ⟨⟨pair, found, keyed⟩, whole⟩ := mem_groupBy.1 grouped
  apply sum_positive
  · intro amount member
    obtain ⟨joined, _, rfl⟩ := List.mem_map.1 member
    exact groupUnits_positive _ _
  · have inside : pair ∈ group.2 := by
      rw [whole, List.mem_filter]
      exact ⟨found, decide_eq_true keyed⟩
    exact fun empty => List.ne_nil_of_mem inside (List.map_eq_nil_iff.1 empty)

end

section

variable {zone : Int} {ticks : List SchedulerTick} {row : SummaryRow} {day : Int}

theorem sourcesAfter_concat (tick : SchedulerTick) :
    sourcesAfter zone (ticks ++ [tick]) = (sourcesAfter zone ticks).tick zone tick := by
  rw [sourcesAfter, List.foldl_append]
  rfl

theorem daily_dailySessionSummary (sources : OverviewSources) (database : DatabaseAt) :
    (sources.tick zone (.daily database)).dailySessionSummary =
      (sources.dailySessionSummary.filter fun row =>
        !(decide (yesterday zone database ≤ row.date) &&
          decide (row.date ≤ yesterday zone database))) ++
        insertedRows zone database.tables (yesterday zone database)
          (yesterday zone database) := by
  simp only [OverviewSources.tick, refreshDailySessionSummary, Int.lt_irrefl, if_false]

theorem lastDaily_concat (tick : SchedulerTick) :
    lastDaily zone day (ticks ++ [tick]) =
      (tick.dailyOf zone day).or (lastDaily zone day ticks) := by
  rw [lastDaily, List.filterMap_append, List.getLast?_append]
  rcases refreshed : tick.dailyOf zone day with _ | database
  · simp [refreshed, lastDaily]
  · simp [refreshed]

theorem lastIntraday_concat (tick : SchedulerTick) :
    lastIntraday (ticks ++ [tick]) = tick.intradayOf.or (lastIntraday ticks) := by
  rw [lastIntraday, List.filterMap_append, List.getLast?_append]
  rcases refreshed : tick.intradayOf with _ | database
  · simp [refreshed, lastIntraday]
  · simp [refreshed]

theorem mem_dailySessionSummary_iff :
    (row ∈ (sourcesAfter zone ticks).dailySessionSummary ∧ row.date = day) ↔
      ∃ database, lastDaily zone day ticks = some database ∧
        row ∈ insertedRows zone database.tables day day := by
  induction ticks using List.reverseRecOn with
  | nil => simp [sourcesAfter, lastDaily]
  | append_singleton ticks tick ih =>
      rw [sourcesAfter_concat, lastDaily_concat]
      cases tick with
      | daily database =>
          rw [daily_dailySessionSummary, List.mem_append, List.mem_filter]
          by_cases same : yesterday zone database = day
          · have refreshed :
                (SchedulerTick.daily database).dailyOf zone day = some database := if_pos same
            simp only [refreshed, Option.some_or, Option.some.injEq, exists_eq_left', same]
            constructor
            · rintro ⟨⟨_, outside⟩ | inserted, dated⟩
              · simp [dated] at outside
              · exact inserted
            · intro inserted
              have dates := insertedRows_date inserted
              exact ⟨Or.inr inserted, by omega⟩
          · have skipped : (SchedulerTick.daily database).dailyOf zone day = none := if_neg same
            rw [skipped, Option.none_or, ← ih]
            constructor
            · rintro ⟨⟨kept, _⟩ | inserted, dated⟩
              · exact ⟨kept, dated⟩
              · have dates := insertedRows_date inserted
                omega
            · rintro ⟨kept, dated⟩
              refine ⟨Or.inl ⟨kept, ?_⟩, dated⟩
              rw [Bool.not_eq_true', Bool.and_eq_false_iff, decide_eq_false_iff_not,
                decide_eq_false_iff_not]
              omega
      | intraday database => exact ih
      | failed => exact ih

theorem mem_todayMv_iff :
    row ∈ (sourcesAfter zone ticks).todayMv ↔
      ∃ database, lastIntraday ticks = some database ∧ row ∈ todaySessionSummary database := by
  induction ticks using List.reverseRecOn with
  | nil => simp [sourcesAfter, lastIntraday]
  | append_singleton ticks tick ih =>
      rw [sourcesAfter_concat, lastIntraday_concat]
      cases tick with
      | daily database =>
          have kept : ((sourcesAfter zone ticks).tick zone (.daily database)).todayMv =
              (sourcesAfter zone ticks).todayMv := by
            rw [OverviewSources.tick]
            split <;> rfl
          rw [kept]
          exact ih
      | intraday database =>
          simp [SchedulerTick.intradayOf, OverviewSources.tick]
      | failed => exact ih

end

section

variable {rows : List DailyTrafficRow} {row : DailyTrafficRow}

theorem mem_sumByDay_iff :
    row ∈ sumByDay rows ↔ (∃ other ∈ rows, other.group = row.group) ∧
      row.billableUnits = ((rows.filter fun other => other.group = row.group).map
        DailyTrafficRow.billableUnits).sum := by
  simp only [sumByDay, List.mem_map]
  constructor
  · rintro ⟨group, grouped, rfl⟩
    obtain ⟨occurs, whole⟩ := mem_groupBy.1 grouped
    exact ⟨occurs, by rw [whole]; rfl⟩
  · rintro ⟨occurs, units⟩
    refine ⟨(row.group, rows.filter fun other => other.group = row.group),
      mem_groupBy.2 ⟨occurs, rfl⟩, ?_⟩
    cases row
    rw [← units]
    rfl

def figuresByDay (rows : List DailyTrafficRow) :
    KeyedTable (Int × String) DailyTrafficRow DailyTrafficRow.group where
  rows := sumByDay rows
  unique := by
    simp only [sumByDay, List.map_map]
    exact groupBy_keys_nodup

theorem sumByDay_positive (positive : ∀ other ∈ rows, 1 ≤ other.billableUnits)
    (summed : row ∈ sumByDay rows) : 1 ≤ row.billableUnits := by
  obtain ⟨⟨other, member, same⟩, units⟩ := mem_sumByDay_iff.1 summed
  rw [units]
  apply sum_positive
  · intro amount inside
    obtain ⟨counted, found, rfl⟩ := List.mem_map.1 inside
    exact positive counted (List.mem_filter.1 found).1
  · have found : other ∈ rows.filter fun other => other.group = row.group :=
      List.mem_filter.2 ⟨member, decide_eq_true same⟩
    exact fun empty => List.ne_nil_of_mem found (List.map_eq_nil_iff.1 empty)

theorem exists_sumByDay_iff (key : Int × String) :
    (∃ summed ∈ sumByDay rows, summed.group = key) ↔ ∃ other ∈ rows, other.group = key := by
  constructor
  · rintro ⟨summed, member, rfl⟩
    exact (mem_sumByDay_iff.1 member).1
  · rintro ⟨other, member, rfl⟩
    exact ⟨⟨other.day, other.operatorName, ((rows.filter fun row =>
      row.group = other.group).map DailyTrafficRow.billableUnits).sum⟩,
      mem_sumByDay_iff.2 ⟨⟨other, member, rfl⟩, rfl⟩, rfl⟩

theorem eq_of_alone {figure : DailyTrafficRow}
    (alone : rows.filter (fun other => other.group = figure.group) = [figure])
    (summed : row ∈ sumByDay rows) (same : row.group = figure.group) : row = figure := by
  have units := (mem_sumByDay_iff.1 summed).2
  rw [same, alone, List.map_singleton, List.sum_singleton] at units
  obtain ⟨day, operatorName⟩ := Prod.ext_iff.1 same
  cases row
  cases figure
  simp only [DailyTrafficRow.group] at day operatorName units
  rw [day, operatorName, units]

theorem mem_of_alone {first second : List DailyTrafficRow} {key : Int × String}
    (summed : row ∈ sumByDay (sumByDay first ++ sumByDay second)) (keyed : row.group = key)
    (alone : ∀ other ∈ sumByDay second, other.group ≠ key) : row ∈ sumByDay first := by
  obtain ⟨figure, member, same⟩ := (mem_sumByDay_iff.1 summed).1
  have found : figure ∈ sumByDay first := by
    rcases List.mem_append.1 member with found | elsewhere
    · exact found
    · exact absurd (same.trans keyed) (alone figure elsewhere)
  have single : (sumByDay first ++ sumByDay second).filter
      (fun other => other.group = figure.group) = [figure] := by
    have none : (sumByDay second).filter (fun other => other.group = figure.group) = [] := by
      rw [List.filter_eq_nil_iff]
      intro other inside taken
      exact alone other inside ((of_decide_eq_true taken).trans (same.trans keyed))
    rw [List.filter_append, none, List.append_nil]
    exact (figuresByDay first).filter_key_eq found
  rw [eq_of_alone single summed same.symm]
  exact found

theorem sumByDay_append_comm {first second : List DailyTrafficRow} :
    row ∈ sumByDay (first ++ second) ↔ row ∈ sumByDay (second ++ first) := by
  simp only [mem_sumByDay_iff, List.filter_append, List.map_append, List.sum_append,
    List.mem_append, or_comm, Int.add_comm]

end

/-! What the page shows of its sources. -/

section

variable {nextMonth : Int → Int} {collate : String → String → Bool} {zone : Int}
  {ticks : List SchedulerTick} {sources : OverviewSources} {load : OverviewLoad} {day : Int}
  {operatorName : String}

theorem denotes_inMonth (monthStart : Int) :
    Denotes (inMonth nextMonth monthStart) fun row =>
      decide (monthStart ≤ row.date) && decide (row.date < nextMonth monthStart) :=
  denotes_withValue _ _

theorem mem_select_iff {rows : List SummaryRow} {row : SummaryRow} :
    row ∈ select (overviewWhere nextMonth load) rows ↔
      row ∈ rows ∧ aclAdmits summaryColumns .date load.acl row = true ∧
        load.monthStart ≤ row.date ∧ row.date < nextMonth load.monthStart := by
  have meaning := denotes_joined (fun allowed inside => inside && allowed)
    (@denotes_aclClause _ summaryColumns .date load.acl)
    (@denotes_inMonth nextMonth load.monthStart)
  rw [overviewWhere, select_eq meaning, List.mem_filter]
  simp only [Bool.and_eq_true, decide_eq_true_eq]
  tauto

theorem exists_trafficOf_iff {operators : OperatorTable} {rows : List SummaryRow} :
    (∃ figure ∈ trafficOf operators rows, figure.group = (day, operatorName)) ↔
      ∃ row ∈ rows, row.date = day ∧
        (operators.byId row.operatorId).map OperatorRecord.name = some operatorName := by
  simp only [trafficOf, List.mem_filterMap, Option.map_eq_some_iff]
  constructor
  · rintro ⟨_, ⟨row, member, operator, known, rfl⟩, same⟩
    obtain ⟨rfl, rfl⟩ := Prod.ext_iff.1 same
    exact ⟨row, member, rfl, operator, known, rfl⟩
  · rintro ⟨row, member, rfl, operator, known, rfl⟩
    exact ⟨_, ⟨row, member, operator, known, rfl⟩, rfl⟩

theorem exists_pastDays_iff :
    (∃ row ∈ pastDays nextMonth (sourcesAfter zone ticks) load,
      row.group = (day, operatorName)) ↔
      RolledUp zone ticks load.now day (load.shows nextMonth day operatorName) := by
  rw [pastDays, exists_sumByDay_iff, exists_trafficOf_iff]
  simp only [List.mem_filter, mem_select_iff, decide_eq_true_eq]
  constructor
  · rintro ⟨row, ⟨⟨member, admitted, from_, before⟩, past⟩, rfl, named⟩
    obtain ⟨database, last, inserted⟩ := mem_dailySessionSummary_iff.1 ⟨member, rfl⟩
    exact ⟨past, database, last, row, inserted, rfl, admitted, from_, before, named⟩
  · rintro ⟨past, database, last, row, inserted, rfl, admitted, from_, before, named⟩
    have member := (mem_dailySessionSummary_iff.2 ⟨database, last, inserted⟩).1
    exact ⟨row, ⟨⟨member, admitted, from_, before⟩, past⟩, rfl, named⟩

theorem exists_today_iff :
    (∃ row ∈ today nextMonth (sourcesAfter zone ticks) load,
      row.group = (day, operatorName)) ↔
      Viewed ticks (load.shows nextMonth day operatorName) := by
  rw [today, exists_sumByDay_iff, exists_trafficOf_iff]
  simp only [mem_select_iff]
  constructor
  · rintro ⟨row, ⟨member, admitted, from_, before⟩, rfl, named⟩
    obtain ⟨database, last, computed⟩ := mem_todayMv_iff.1 member
    exact ⟨database, last, row, computed, rfl, admitted, from_, before, named⟩
  · rintro ⟨database, last, row, computed, rfl, admitted, from_, before, named⟩
    exact ⟨row, ⟨mem_todayMv_iff.2 ⟨database, last, computed⟩, admitted, from_, before⟩, rfl,
      named⟩

theorem mem_loadDailyTraffic_iff {row : DailyTrafficRow} :
    row ∈ loadDailyTraffic nextMonth collate sources load ↔
      row ∈ sumByDay (pastDays nextMonth sources load ++ today nextMonth sources load) := by
  rw [loadDailyTraffic]
  split
  next denied =>
    have nothing : ∀ rows : List SummaryRow, select (overviewWhere nextMonth load) rows = [] := by
      intro rows
      rw [List.eq_nil_iff_forall_not_mem]
      intro shown member
      have admitted := (mem_select_iff.1 member).2.1
      simp [denied, aclAdmits] at admitted
    simp [pastDays, today, nothing, trafficOf, sumByDay, groupBy]
  next => exact (List.perm_insertionSort _ _).mem_iff

theorem units_positive {row : DailyTrafficRow}
    (shown : row ∈ loadDailyTraffic nextMonth collate (sourcesAfter zone ticks) load) :
    1 ≤ row.billableUnits := by
  have traffic : ∀ rows : List SummaryRow, (∀ row ∈ rows, 1 ≤ row.billableUnits) →
      ∀ figure ∈ sumByDay (trafficOf load.operators rows), 1 ≤ figure.billableUnits := by
    intro rows positive figure summed
    refine sumByDay_positive ?_ summed
    intro other member
    obtain ⟨source, inside, paired⟩ := List.mem_filterMap.1 member
    obtain ⟨_, _, rfl⟩ := Option.map_eq_some_iff.1 paired
    exact positive source inside
  refine sumByDay_positive ?_ (mem_loadDailyTraffic_iff.1 shown)
  intro figure member
  rcases List.mem_append.1 member with past | current
  · refine traffic _ ?_ figure past
    intro source inside
    obtain ⟨_, _, inserted⟩ := mem_dailySessionSummary_iff.1
      ⟨(mem_select_iff.1 (List.mem_filter.1 inside).1).1, rfl⟩
    exact insertedRows_units inserted
  · refine traffic _ ?_ figure current
    intro source inside
    obtain ⟨database, _, computed⟩ := mem_todayMv_iff.1 (mem_select_iff.1 inside).1
    rw [todaySessionSummary_eq] at computed
    exact insertedRows_units computed

theorem oneSource_iff :
    (∀ row ∈ loadDailyTraffic nextMonth collate sources load, row.group = (day, operatorName) →
      (row ∈ pastDays nextMonth sources load ∧
        ∀ other ∈ today nextMonth sources load, other.group ≠ (day, operatorName)) ∨
      (row ∈ today nextMonth sources load ∧
        ∀ other ∈ pastDays nextMonth sources load, other.group ≠ (day, operatorName))) ↔
      ¬ ((∃ row ∈ pastDays nextMonth sources load, row.group = (day, operatorName)) ∧
        ∃ row ∈ today nextMonth sources load, row.group = (day, operatorName)) := by
  constructor
  · rintro one ⟨⟨past, pastMember, pastKey⟩, current, currentMember, currentKey⟩
    obtain ⟨sum, summed, keyed⟩ := (exists_sumByDay_iff (day, operatorName)).2
      ⟨past, List.mem_append_left (today nextMonth sources load) pastMember, pastKey⟩
    rcases one sum (mem_loadDailyTraffic_iff.2 summed) keyed with ⟨_, alone⟩ | ⟨_, alone⟩
    · exact alone current currentMember currentKey
    · exact alone past pastMember pastKey
  · intro notBoth row shown keyed
    have summed := mem_loadDailyTraffic_iff.1 shown
    by_cases past : ∃ row ∈ pastDays nextMonth sources load, row.group = (day, operatorName)
    · have alone : ∀ other ∈ today nextMonth sources load, other.group ≠ (day, operatorName) :=
        fun other member same => notBoth ⟨past, other, member, same⟩
      exact Or.inl ⟨mem_of_alone summed keyed alone, alone⟩
    · have alone : ∀ other ∈ pastDays nextMonth sources load,
          other.group ≠ (day, operatorName) :=
        fun other member same => past ⟨other, member, same⟩
      exact Or.inr ⟨mem_of_alone (sumByDay_append_comm.1 summed) keyed alone, alone⟩

theorem notLost_iff :
    (∃ row ∈ loadDailyTraffic nextMonth collate (sourcesAfter zone ticks) load,
      row.group = (day, operatorName) ∧ row.billableUnits ≠ 0) ↔
      RolledUp zone ticks load.now day (load.shows nextMonth day operatorName) ∨
        Viewed ticks (load.shows nextMonth day operatorName) := by
  rw [← exists_pastDays_iff, ← exists_today_iff]
  constructor
  · rintro ⟨row, shown, keyed, _⟩
    obtain ⟨other, member, same⟩ := (mem_sumByDay_iff.1 (mem_loadDailyTraffic_iff.1 shown)).1
    rcases List.mem_append.1 member with past | current
    · exact Or.inl ⟨other, past, same.trans keyed⟩
    · exact Or.inr ⟨other, current, same.trans keyed⟩
  · intro either
    have occurs : ∃ row ∈ pastDays nextMonth (sourcesAfter zone ticks) load ++
        today nextMonth (sourcesAfter zone ticks) load, row.group = (day, operatorName) := by
      rcases either with ⟨row, member, keyed⟩ | ⟨row, member, keyed⟩
      · exact ⟨row, List.mem_append_left _ member, keyed⟩
      · exact ⟨row, List.mem_append_right _ member, keyed⟩
    obtain ⟨sum, summed, keyed⟩ := (exists_sumByDay_iff (day, operatorName)).2 occurs
    have shown : sum ∈ loadDailyTraffic nextMonth collate (sourcesAfter zone ticks) load :=
      mem_loadDailyTraffic_iff.2 summed
    have positive := units_positive shown
    exact ⟨sum, shown, keyed, by omega⟩

theorem lastDaily_mem {database : DatabaseAt} (last : lastDaily zone day ticks = some database) :
    SchedulerTick.daily database ∈ ticks ∧ yesterday zone database = day := by
  obtain ⟨tick, member, refreshed⟩ := List.mem_filterMap.1 (List.mem_of_getLast? last)
  cases tick with
  | daily other =>
      rw [SchedulerTick.dailyOf] at refreshed
      split at refreshed
      next same =>
        cases refreshed
        exact ⟨member, same⟩
      next => cases refreshed
  | intraday other => cases refreshed
  | failed => cases refreshed

theorem lastIntraday_mem {database : DatabaseAt} (last : lastIntraday ticks = some database) :
    SchedulerTick.intraday database ∈ ticks := by
  obtain ⟨tick, member, refreshed⟩ := List.mem_filterMap.1 (List.mem_of_getLast? last)
  cases tick with
  | daily other => cases refreshed
  | intraday other =>
      cases refreshed
      exact member
  | failed => cases refreshed

theorem included_of_held {counts : SummaryRow → Prop} {now : Int}
    (held : RolledUp zone ticks now day counts ∨ Viewed ticks counts) :
    ∃ tick ∈ ticks, tick.includes zone counts := by
  rcases held with ⟨_, database, last, row, inserted, counted⟩ | ⟨database, last, shown⟩
  · obtain ⟨member, same⟩ := lastDaily_mem last
    refine ⟨_, member, row, ?_, counted⟩
    rw [same]
    exact inserted
  · exact ⟨_, lastIntraday_mem last, shown⟩

theorem countedOnce_iff_held :
    CountedOnce nextMonth collate zone ticks load day operatorName ↔
      ¬ (RolledUp zone ticks load.now day (load.shows nextMonth day operatorName) ∧
        Viewed ticks (load.shows nextMonth day operatorName)) ∧
      ((∃ tick ∈ ticks, tick.includes zone (load.shows nextMonth day operatorName)) →
        RolledUp zone ticks load.now day (load.shows nextMonth day operatorName) ∨
          Viewed ticks (load.shows nextMonth day operatorName)) := by
  rw [← @notLost_iff nextMonth collate, ← exists_pastDays_iff, ← exists_today_iff,
    ← @oneSource_iff nextMonth collate]
  exact ⟨fun counted => ⟨counted.oneSource, counted.notLost⟩, fun both => ⟨both.1, both.2⟩⟩

end

/-- After any refreshes at any times, on any page load: the figure of a day and operator that a
refresh has included is counted once if and only if exactly one of these holds: the day is over
and its last nightly refresh included it, or the last refresh of the view included it. -/
theorem day_counted_once_iff (nextMonth : Int → Int) (collate : String → String → Bool)
    (zone : Int) (ticks : List SchedulerTick) (load : OverviewLoad) (day : Int)
    (operatorName : String) :
    CountedOnce nextMonth collate zone ticks load day operatorName ↔
      ((∃ tick ∈ ticks, tick.includes zone (load.shows nextMonth day operatorName)) →
        (RolledUp zone ticks load.now day (load.shows nextMonth day operatorName) ↔
          ¬ Viewed ticks (load.shows nextMonth day operatorName))) := by
  have included := @included_of_held zone ticks day (load.shows nextMonth day operatorName) load.now
  rw [countedOnce_iff_held]
  constructor
  · rintro ⟨notBoth, held⟩ refreshed
    constructor
    · intro rolledUp viewed
      exact notBoth ⟨rolledUp, viewed⟩
    · intro unviewed
      exact (held refreshed).resolve_right unviewed
  · intro once
    constructor
    · rintro ⟨rolledUp, viewed⟩
      exact (once (included (Or.inl rolledUp))).1 rolledUp viewed
    · intro refreshed
      by_cases viewed : Viewed ticks (load.shows nextMonth day operatorName)
      · exact Or.inr viewed
      · exact Or.inl ((once refreshed).2 viewed)

def hourMicros : Int := 3600000000

def noonTables : LegTables where
  operators := rollupOperators
  legs := [rollupLeg 1 (100 * dayMicros + 9 * hourMicros) (some 10)]
  operatorKnown := by decide

def noonRow : SummaryRow := ⟨100, 3, 10, 1, 1, 0, 1⟩

def pastMidnight : List SchedulerTick :=
  [.intraday ⟨100 * dayMicros + 20 * hourMicros, noonTables⟩,
    .intraday ⟨100 * dayMicros + 22 * hourMicros, noonTables⟩]

def staleView : List SchedulerTick :=
  [.intraday ⟨100 * dayMicros + 20 * hourMicros, noonTables⟩, .failed,
    .daily ⟨101 * dayMicros + 2 * hourMicros, noonTables⟩]

def overviewLoad (now : Int) : OverviewLoad := ⟨now, rollupOperators, none, 90⟩

theorem shows_noonRow (now : Int) :
    (overviewLoad now).shows (· + 30) 100 "tigo" noonRow :=
  ⟨rfl, rfl, (by decide : (90 : Int) ≤ 100), (by decide : (100 : Int) < 90 + 30), rfl⟩

/-- The day vanishes at midnight until the nightly run, and is doubled by a stale view. -/
theorem handed_over_day_miscounted :
    ¬ CountedOnce (· + 30) (fun _ _ => true) 0 pastMidnight
        (overviewLoad (100 * dayMicros + 23 * hourMicros)) 100 "tigo" ∧
      ¬ CountedOnce (· + 30) (fun _ _ => true) 0 staleView
        (overviewLoad (101 * dayMicros + 3 * hourMicros)) 100 "tigo" := by
  constructor
  · rw [countedOnce_iff_held]
    rintro ⟨_, held⟩
    rcases held ⟨_, List.mem_cons_self, noonRow, by decide, shows_noonRow _⟩ with
      ⟨_, database, last, _⟩ | ⟨database, last, row, shown, _⟩
    · have never : lastDaily 0 100 pastMidnight = none := rfl
      rw [never] at last
      cases last
    · have emptied : todaySessionSummary ⟨100 * dayMicros + 22 * hourMicros, noonTables⟩ = [] := by
        decide
      have refreshed : lastIntraday pastMidnight =
          some ⟨100 * dayMicros + 22 * hourMicros, noonTables⟩ := rfl
      rw [refreshed] at last
      cases last
      rw [emptied] at shown
      exact absurd shown (List.not_mem_nil)
  · rw [countedOnce_iff_held]
    rintro ⟨notBoth, _⟩
    exact notBoth ⟨⟨by decide, _, rfl, noonRow, by decide, shows_noonRow _⟩,
      _, rfl, noonRow, by decide, shows_noonRow _⟩

end UssdGateway
