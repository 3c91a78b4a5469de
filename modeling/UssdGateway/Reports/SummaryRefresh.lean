import UssdGateway.Library.WindowRefresh
import UssdGateway.Reports.DailySummary

/-!
What `refresh_daily_session_summary` leaves behind. The inserted rows are the rows of the window in
the rollup of all legs, so a refresh is a window refresh of that view.
-/

namespace UssdGateway

open Grouping WindowRefresh

def groupsOf (zone : Int) (legs : List LegRecord) : List SessionGroup :=
  (groupBy (LegRecord.groupKey zone) legs).map fun group =>
    { key := group.1
      firstTs := firstTs group.2
      lastTs := lastTs group.2
      legsInSession := group.2.length
      hadError := group.2.any fun leg => leg.errorClass.isSome }

def rollup (zone : Int) (operators : OperatorTable) (legs : List LegRecord) : List SummaryRow :=
  (groupBy bucket (joinOperators operators (keptGroups (groupsOf zone legs)))).map summaryRow

def dayWithin (first last date : Int) : Bool := decide (first ≤ date) && decide (date ≤ last)

def legsOfDays (zone first last : Int) (legs : List LegRecord) : List LegRecord :=
  legs.filter fun leg => dayWithin first last (localDate zone leg.ts)

def rowsOfDays (first last : Int) (summary : List SummaryRow) : List SummaryRow :=
  summary.filter fun row => dayWithin first last row.date

def rowsOfOtherDays (first last : Int) (summary : List SummaryRow) : List SummaryRow :=
  summary.filter fun row => !dayWithin first last row.date

/-- The table after the statement. One that raises is rolled back. -/
def afterRefresh (zone : Int) (tables : LegTables) (summary : List SummaryRow)
    (startDate endDate : Option Int) : List SummaryRow :=
  match refreshDailySessionSummary zone tables summary startDate endDate with
  | .ok (_, refreshed) => refreshed
  | .error _ => summary

theorem inWindow_eq (zone first last : Int) (leg : LegRecord) :
    inWindow zone first last leg = dayWithin first last (localDate zone leg.ts) := by
  have upper : localDate zone leg.ts < last + 1 ↔ localDate zone leg.ts ≤ last := by omega
  simp only [inWindow, dayWithin, midnight_le_iff, lt_midnight_iff, upper]

theorem perGroup_eq (zone : Int) (legs : List LegRecord) (first last : Int) :
    perGroup zone legs first last = groupsOf zone (legsOfDays zone first last legs) := by
  have window : legs.filter (inWindow zone first last) = legsOfDays zone first last legs :=
    List.filter_congr fun leg _ => inWindow_eq zone first last leg
  rw [perGroup, window]
  rfl

/-! Each stage of the query keeps days apart. -/

theorem groupsOf_filter (zone : Int) (legs : List LegRecord) (wanted : Int → Bool) :
    groupsOf zone (legs.filter fun leg => wanted (localDate zone leg.ts)) =
      (groupsOf zone legs).filter fun group => wanted group.key.date := by
  have grouped := groupBy_filter (LegRecord.groupKey zone) legs fun key => wanted key.date
  simp only [LegRecord.groupKey] at grouped
  rw [groupsOf, groupsOf, List.filter_map]
  exact congrArg _ grouped

theorem keptGroups_filter (groups : List SessionGroup) (wanted : Int → Bool) :
    keptGroups (groups.filter fun group => wanted group.key.date) =
      (keptGroups groups).filter fun group => wanted group.key.date := by
  simp only [keptGroups, List.filter_filter]
  refine List.filter_congr fun group _ => ?_
  rcases day : wanted group.key.date with _ | _
  · rw [Bool.and_false, Bool.false_and]
  · -- The partition of the window function lies within one day.
    have same : attributed (groups.filter fun group => wanted group.key.date) group =
        attributed groups group := by
      rw [attributed, attributed, List.any_filter]
      refine congrArg (groups.any ·) (funext fun other => ?_)
      by_cases sameDay : other.key.date = group.key.date
      · rw [sameDay, day, Bool.true_and]
      · simp [sameDay]
    rw [same, Bool.and_true, Bool.true_and]

theorem joinOperators_filter (operators : OperatorTable) (groups : List SessionGroup)
    (wanted : SessionGroup → Bool) :
    joinOperators operators (groups.filter wanted) =
      (joinOperators operators groups).filter fun joined => wanted joined.1 := by
  induction groups with
  | nil => rfl
  | cons group rest ih =>
      simp only [joinOperators, List.filter_cons, List.filterMap_cons] at ih ⊢
      rcases known : operators.byId group.key.operatorId with _ | operator <;>
        rcases kept : wanted group with _ | _ <;>
        simp [known, kept, ih]

theorem rollup_filter (zone : Int) (operators : OperatorTable) (legs : List LegRecord)
    (wanted : Int → Bool) :
    rollup zone operators (legs.filter fun leg => wanted (localDate zone leg.ts)) =
      (rollup zone operators legs).filter fun row => wanted row.date := by
  have grouped := groupBy_filter bucket
    (joinOperators operators (keptGroups (groupsOf zone legs))) fun key => wanted key.1
  simp only [bucket] at grouped
  rw [rollup, rollup, groupsOf_filter, keptGroups_filter,
    joinOperators_filter _ _ fun group => wanted group.key.date, List.filter_map]
  exact congrArg _ grouped

theorem insertedRows_eq (zone : Int) (tables : LegTables) (first last : Int) :
    insertedRows zone tables first last =
      rowsOfDays first last (rollup zone tables.operators tables.legs) := by
  rw [rowsOfDays, ← rollup_filter, insertedRows, perGroup_eq]
  rfl

theorem refreshDailySessionSummary_ordered (zone : Int) (tables : LegTables)
    (summary : List SummaryRow) {first last : Int} (ordered : first ≤ last) :
    refreshDailySessionSummary zone tables summary (some first) (some last) =
      .ok ((insertedRows zone tables first last).length,
        afterRefresh zone tables summary (some first) (some last)) := by
  have forward : ¬ last < first := by omega
  simp only [afterRefresh, refreshDailySessionSummary, if_neg forward]

theorem afterRefresh_eq (zone : Int) (tables : LegTables) (summary : List SummaryRow)
    {first last : Int} (ordered : first ≤ last) :
    afterRefresh zone tables summary (some first) (some last) =
      refresh (fun row => dayWithin first last row.date)
        (rollup zone tables.operators tables.legs) summary := by
  have forward : ¬ last < first := by omega
  simp only [afterRefresh, refreshDailySessionSummary, if_neg forward, insertedRows_eq]
  rfl

theorem firstTs_perm {legs legs' : List LegRecord} (reordered : legs.Perm legs') :
    firstTs legs = firstTs legs' := by
  rcases legs with _ | ⟨leg, rest⟩
  · rw [List.nil_perm.1 reordered]
  · have nonempty : legs' ≠ [] := fun none => by
      rw [none] at reordered
      exact List.cons_ne_nil _ _ (List.perm_nil.1 reordered)
    obtain ⟨⟨least, member, stamped⟩, below⟩ := firstTs_least (List.cons_ne_nil leg rest)
    obtain ⟨⟨least', member', stamped'⟩, below'⟩ := firstTs_least nonempty
    have one := below' least (reordered.mem_iff.1 member)
    have two := below least' (reordered.mem_iff.2 member')
    omega

theorem lastTs_perm {legs legs' : List LegRecord} (reordered : legs.Perm legs') :
    lastTs legs = lastTs legs' := by
  rcases legs with _ | ⟨leg, rest⟩
  · rw [List.nil_perm.1 reordered]
  · have nonempty : legs' ≠ [] := fun none => by
      rw [none] at reordered
      exact List.cons_ne_nil _ _ (List.perm_nil.1 reordered)
    obtain ⟨⟨greatest, member, stamped⟩, above⟩ := lastTs_greatest (List.cons_ne_nil leg rest)
    obtain ⟨⟨greatest', member', stamped'⟩, above'⟩ := lastTs_greatest nonempty
    have one := above' greatest (reordered.mem_iff.1 member)
    have two := above greatest' (reordered.mem_iff.2 member')
    omega

theorem groupsOf_perm (zone : Int) {legs legs' : List LegRecord} (reordered : legs.Perm legs') :
    (groupsOf zone legs).Perm (groupsOf zone legs') := by
  refine groupBy_map_perm ?_ reordered
  intro key members members' same
  have errors : (members.any fun leg => leg.errorClass.isSome) =
      members'.any fun leg => leg.errorClass.isSome := by
    rw [Bool.eq_iff_iff, List.any_eq_true, List.any_eq_true]
    simp only [same.mem_iff]
  simp only [firstTs_perm same, lastTs_perm same, same.length_eq, errors]

theorem keptGroups_perm {groups groups' : List SessionGroup} (reordered : groups.Perm groups') :
    (keptGroups groups).Perm (keptGroups groups') := by
  have same : ∀ group, attributed groups group = attributed groups' group := by
    intro group
    rw [Bool.eq_iff_iff, attributed, attributed, List.any_eq_true, List.any_eq_true]
    simp only [reordered.mem_iff]
  simp only [keptGroups, same]
  exact reordered.filter _

theorem rollup_perm (zone : Int) (operators : OperatorTable) {legs legs' : List LegRecord}
    (reordered : legs.Perm legs') :
    (rollup zone operators legs).Perm (rollup zone operators legs') := by
  refine groupBy_map_perm ?_ ((keptGroups_perm (groupsOf_perm zone reordered)).filterMap _)
  intro key members members' same
  simp only [summaryRow, same.length_eq, same.countP_eq, (same.map _).sum_eq]

/-! The laws. -/

theorem rowsOfDays_afterRefresh (zone : Int) (tables : LegTables) (summary : List SummaryRow)
    {first last : Int} (ordered : first ≤ last) :
    rowsOfDays first last (afterRefresh zone tables summary (some first) (some last)) =
      rollup zone tables.operators (legsOfDays zone first last tables.legs) := by
  rw [afterRefresh_eq zone tables summary ordered, rowsOfDays, filter_inside_refresh, legsOfDays,
    rollup_filter]

theorem afterRefresh_split (zone : Int) (tables : LegTables) (summary : List SummaryRow)
    {first middle last : Int} (lower : first ≤ middle) (upper : middle < last) :
    (afterRefresh zone tables (afterRefresh zone tables summary (some first) (some middle))
        (some (middle + 1)) (some last)).Perm
      (afterRefresh zone tables summary (some first) (some last)) := by
  rw [afterRefresh_eq zone tables _ (show middle + 1 ≤ last by omega),
    afterRefresh_eq zone tables _ lower,
    afterRefresh_eq zone tables _ (show first ≤ last by omega)]
  refine refresh_cover fun row => ?_
  rw [Bool.eq_iff_iff]
  simp only [dayWithin, Bool.or_eq_true, Bool.and_eq_true, decide_eq_true_eq]
  omega

theorem afterRefresh_raised (zone : Int) (tables : LegTables) (summary : List SummaryRow)
    {startDate endDate : Option Int}
    (invalid : ∀ first last, startDate = some first → endDate = some last → last < first) :
    refreshDailySessionSummary zone tables summary startDate endDate =
        .error (.invalidWindow startDate endDate) ∧
      afterRefresh zone tables summary startDate endDate = summary := by
  have raised : refreshDailySessionSummary zone tables summary startDate endDate =
      .error (.invalidWindow startDate endDate) := by
    rcases startDate with _ | first
    · rfl
    rcases endDate with _ | last
    · rfl
    exact if_pos (invalid first last rfl rfl)
  refine ⟨raised, ?_⟩
  rw [afterRefresh, raised]

/-- The laws of the refresh. Tables are compared as the rows they hold. -/
theorem refresh_laws (zone : Int) (tables : LegTables) (summary : List SummaryRow) :
    (∀ first last, first ≤ last →
      let refreshed := afterRefresh zone tables summary (some first) (some last)
      (∃ inserted, refreshDailySessionSummary zone tables summary (some first) (some last) =
        .ok (inserted, refreshed)) ∧
      rowsOfOtherDays first last refreshed = rowsOfOtherDays first last summary ∧
      (∀ (tables' : LegTables) summary', tables'.operators = tables.operators →
        (legsOfDays zone first last tables'.legs).Perm (legsOfDays zone first last tables.legs) →
        (rowsOfDays first last
          (afterRefresh zone tables' summary' (some first) (some last))).Perm
            (rowsOfDays first last refreshed)) ∧
      afterRefresh zone tables refreshed (some first) (some last) = refreshed) ∧
    (∀ first middle last, first ≤ middle → middle < last →
      (afterRefresh zone tables (afterRefresh zone tables summary (some first) (some middle))
        (some (middle + 1)) (some last)).Perm
          (afterRefresh zone tables summary (some first) (some last))) ∧
    ∀ startDate endDate,
      (∀ first last, startDate = some first → endDate = some last → last < first) →
      refreshDailySessionSummary zone tables summary startDate endDate =
          .error (.invalidWindow startDate endDate) ∧
        afterRefresh zone tables summary startDate endDate = summary := by
  refine ⟨?_, fun first middle last => afterRefresh_split zone tables summary,
    fun startDate endDate => afterRefresh_raised zone tables summary⟩
  intro first last ordered
  refine ⟨⟨_, refreshDailySessionSummary_ordered zone tables summary ordered⟩, ?_, ?_, ?_⟩
  · rw [afterRefresh_eq zone tables summary ordered]
    exact filter_outside_refresh _ _ _
  · intro tables' summary' sameOperators sameLegs
    rw [rowsOfDays_afterRefresh zone tables' summary' ordered,
      rowsOfDays_afterRefresh zone tables summary ordered, sameOperators]
    exact rollup_perm zone tables.operators sameLegs
  · rw [afterRefresh_eq zone tables _ ordered, afterRefresh_eq zone tables _ ordered]
    exact refresh_refresh _ _ _

end UssdGateway
