import UssdGateway.Reports.Overview
import UssdGateway.Reports.SummaryRefresh
import Mathlib.Algebra.Order.Group.Nat

/-!
The rollup before and after the 0 groups of attributed sessions are dropped from it. What is
inserted for other shortcodes stays as it was.
-/

namespace UssdGateway

open Grouping

def previousInsertedRows (zone : Int) (tables : LegTables) (startDate endDate : Int) :
    List SummaryRow :=
  (groupBy bucket (joinOperators tables.operators
    (perGroup zone tables.legs startDate endDate))).map summaryRow

/-- `refresh_daily_session_summary` of migration 023. -/
def previousRefreshDailySessionSummary (zone : Int) (tables : LegTables)
    (summary : List SummaryRow) (startDate endDate : Option Int) :
    Except RefreshError (Nat × List SummaryRow) :=
  match startDate, endDate with
  | some first, some last =>
      if last < first then .error (.invalidWindow startDate endDate)
      else
        let inserted := previousInsertedRows zone tables first last
        .ok (inserted.length,
          (summary.filter fun row => !(decide (first ≤ row.date) && decide (row.date ≤ last))) ++
            inserted)
  | _, _ => .error (.invalidWindow startDate endDate)

def SummaryRow.onDay (date : Int) (operatorId : Nat) (row : SummaryRow) : Bool :=
  decide (row.date = date ∧ row.operatorId = operatorId)

def attributedRows (rows : List SummaryRow) : List SummaryRow :=
  rows.filter fun row => decide (row.shortcodeId ≠ 0)

def unattributedSessions (zone : Int) (legs : List LegRecord) (date : Int) (operatorId : Nat) :
    List String :=
  let onDay := legs.filter (LegRecord.onDay zone date operatorId)
  (onDay.map fun leg => leg.sessionId).dedup.filter fun session =>
    onDay.all fun leg => decide (leg.sessionId = session → leg.shortcodeId.getD 0 = 0)

def MixedSession (zone : Int) (legs : List LegRecord) (date : Int) (operatorId : Nat) : Prop :=
  ∃ first ∈ legs, ∃ second ∈ legs,
    first.onDay zone date operatorId = true ∧ second.onDay zone date operatorId = true ∧
    first.sessionId = second.sessionId ∧
    first.shortcodeId.getD 0 ≠ 0 ∧ second.shortcodeId.getD 0 = 0

structure SummaryRow.AtMost (row previous : SummaryRow) : Prop where
  key : row.key = previous.key
  sessions : row.sessions ≤ previous.sessions
  legs : row.legs ≤ previous.legs
  errors : row.errors ≤ previous.errors
  billableUnits : row.billableUnits ≤ previous.billableUnits

/-- How the rows of a window differ between the versions. -/
structure OnlyDuplicatesDropped (zone : Int) (legs : List LegRecord) (first last : Int)
    (previous rows : List SummaryRow) : Prop where
  attributedSame : attributedRows rows = attributedRows previous
  zeroPresent : ∀ date operatorId, first ≤ date → date ≤ last →
    ((∃ row ∈ rows, row.key = (date, operatorId, 0)) ↔
      unattributedSessions zone legs date operatorId ≠ [])
  zeroSessions : ∀ row ∈ rows, row.shortcodeId = 0 →
    row.sessions = (unattributedSessions zone legs row.date row.operatorId).length
  zeroShrinks : ∀ row ∈ rows, row.shortcodeId = 0 → ∃ other ∈ previous, row.AtMost other
  unmixedSame : ∀ date operatorId, ¬ MixedSession zone legs date operatorId →
    rows.filter (SummaryRow.onDay date operatorId) =
      previous.filter (SummaryRow.onDay date operatorId)

theorem summaryOf_filter (operators : OperatorTable) (groups : List SessionGroup)
    (wanted : Int × Nat × Nat → Bool) :
    (summaryOf operators groups).filter (fun row => wanted row.key) =
      summaryOf operators (groups.filter fun group => wanted group.bucket) := by
  have grouped := groupBy_filter bucket (joinOperators operators groups) wanted
  rw [summaryOf, summaryOf, joinOperators_filter operators groups fun group => wanted group.bucket,
    List.filter_map]
  exact congrArg _ grouped.symm

theorem summaryOf_sublist {operators : OperatorTable} {kept groups : List SessionGroup}
    (sub : kept.Sublist groups) {row : SummaryRow} (member : row ∈ summaryOf operators kept) :
    ∃ other ∈ summaryOf operators groups, row.AtMost other := by
  obtain ⟨⟨joined, found, keyed⟩, figures⟩ := mem_summaryOf.1 member
  have joinedSub : (joinOperators operators kept).Sublist (joinOperators operators groups) :=
    sub.filterMap _
  have members := joinedSub.filter fun joined => decide (bucket joined = row.key)
  refine ⟨summaryRow (row.key, (joinOperators operators groups).filter
    fun joined => bucket joined = row.key), ?_, ?_⟩
  · exact mem_summaryOf.2 ⟨⟨joined, joinedSub.subset found, keyed⟩, rfl⟩
  · rw [figures]
    exact {
      key := rfl
      sessions := members.length_le
      legs := (members.map _).sum_le_sum fun _ _ => Nat.zero_le _
      errors := members.countP_le
      billableUnits := (members.map _).sum_le_sum fun units billed => by
        obtain ⟨_, _, rfl⟩ := List.mem_map.1 billed
        exact Int.le_trans (by decide) (groupUnits_positive _ _) }

section

variable {zone first last : Int} {tables : LegTables}

theorem sessions_summaryOf {kept : List SessionGroup}
    (sub : kept.Sublist (perGroup zone tables.legs first last)) {row : SummaryRow}
    (member : row ∈ summaryOf tables.operators kept) :
    row.sessions = (kept.filter fun group => decide (group.bucket = row.key)).length := by
  obtain ⟨_, figures⟩ := mem_summaryOf.1 member
  calc row.sessions
      = ((joinOperators tables.operators kept).filter
          fun joined => decide (bucket joined = row.key)).length := by rw [figures]; rfl
    _ = (((joinOperators tables.operators kept).map Prod.fst).filter
          fun group => decide (group.bucket = row.key)).length := by
        rw [List.filter_map, List.length_map]
        rfl
    _ = (kept.filter fun group => decide (group.bucket = row.key)).length := by
        rw [perGroup_joined sub]

theorem exists_group_on_day {date : Int} (lower : first ≤ date) (upper : date ≤ last)
    (operatorId shortcodeId : Nat) (sessionId : String) :
    (∃ group ∈ perGroup zone tables.legs first last,
      group.key = ⟨date, operatorId, shortcodeId, sessionId⟩) ↔
      ∃ leg ∈ tables.legs, leg.onDay zone date operatorId = true ∧ leg.sessionId = sessionId ∧
        leg.shortcodeId.getD 0 = shortcodeId := by
  rw [exists_perGroup_iff]
  constructor
  · rintro ⟨leg, member, _, keyed⟩
    simp only [LegRecord.groupKey, GroupKey.mk.injEq] at keyed
    obtain ⟨day, operator, shortcode, session⟩ := keyed
    exact ⟨leg, member, decide_eq_true ⟨day, operator⟩, session, shortcode⟩
  · rintro ⟨leg, member, onDay, rfl, rfl⟩
    obtain ⟨rfl, rfl⟩ := of_decide_eq_true onDay
    exact ⟨leg, member, inWindow_of_date lower upper, rfl⟩

theorem mem_unattributedSessions {date : Int} {operatorId : Nat} {session : String} :
    session ∈ unattributedSessions zone tables.legs date operatorId ↔
      (∃ leg ∈ tables.legs, leg.onDay zone date operatorId = true ∧ leg.sessionId = session) ∧
        ∀ leg ∈ tables.legs, leg.onDay zone date operatorId = true → leg.sessionId = session →
          leg.shortcodeId.getD 0 = 0 := by
  simp only [unattributedSessions, List.mem_filter, List.mem_dedup, List.mem_map, and_assoc,
    List.all_eq_true, decide_eq_true_eq, and_imp]

def zeroGroups (zone : Int) (legs : List LegRecord) (first last date : Int) (operatorId : Nat) :
    List SessionGroup :=
  (keptGroups (perGroup zone legs first last)).filter fun group =>
    decide (group.bucket = (date, operatorId, 0))

theorem mem_zeroGroups {date : Int} {operatorId : Nat} {group : SessionGroup} :
    group ∈ zeroGroups zone tables.legs first last date operatorId ↔
      group ∈ perGroup zone tables.legs first last ∧
        group.key = ⟨date, operatorId, 0, group.key.sessionId⟩ ∧
        attributed (perGroup zone tables.legs first last) group = false := by
  obtain ⟨⟨day, operator, shortcode, session⟩, firstTs, lastTs, legs, hadError⟩ := group
  simp only [zeroGroups, List.mem_filter, mem_keptGroups, SessionGroup.bucket, decide_eq_true_eq,
    Prod.mk.injEq, GroupKey.mk.injEq, and_true]
  constructor
  · rintro ⟨⟨member, kept⟩, rfl, rfl, rfl⟩
    exact ⟨member, ⟨rfl, rfl, rfl⟩, kept.resolve_left fun nonzero => nonzero rfl⟩
  · rintro ⟨member, ⟨rfl, rfl, rfl⟩, kept⟩
    exact ⟨⟨member, Or.inr kept⟩, rfl, rfl, rfl⟩

theorem zeroGroups_sessions {date : Int} (lower : first ≤ date) (upper : date ≤ last)
    (operatorId : Nat) (session : String) :
    session ∈ (zeroGroups zone tables.legs first last date operatorId).map
        (fun group => group.key.sessionId) ↔
      session ∈ unattributedSessions zone tables.legs date operatorId := by
  have unattributed : ∀ group : SessionGroup, group.key = ⟨date, operatorId, 0, session⟩ →
      (attributed (perGroup zone tables.legs first last) group = false ↔
        ∀ leg ∈ tables.legs, leg.onDay zone date operatorId = true → leg.sessionId = session →
          leg.shortcodeId.getD 0 = 0) := by
    intro group keyed
    rw [← Bool.not_eq_true, attributed_iff, keyed]
    constructor
    · intro none leg member onDay same
      by_contra nonzero
      obtain ⟨other, grouped, otherKey⟩ :=
        (exists_group_on_day lower upper operatorId _ session).2 ⟨leg, member, onDay, same, rfl⟩
      refine none ⟨other, grouped, ?_⟩
      rw [otherKey]
      exact ⟨rfl, rfl, rfl, nonzero⟩
    · rintro whole ⟨other, grouped, day, operator, same, nonzero⟩
      have otherKey : other.key = ⟨date, operatorId, other.key.shortcodeId, session⟩ := by
        simp only at day operator same
        rw [← day, ← operator, ← same]
      obtain ⟨leg, member, onDay, named, shortcode⟩ :=
        (exists_group_on_day lower upper operatorId _ session).1 ⟨other, grouped, otherKey⟩
      exact nonzero (shortcode ▸ whole leg member onDay named)
  rw [mem_unattributedSessions, List.mem_map]
  constructor
  · rintro ⟨group, member, rfl⟩
    obtain ⟨grouped, keyed, kept⟩ := mem_zeroGroups.1 member
    obtain ⟨leg, found, onDay, same, _⟩ :=
      (exists_group_on_day lower upper operatorId 0 _).1 ⟨group, grouped, keyed⟩
    exact ⟨⟨leg, found, onDay, same⟩, (unattributed group keyed).1 kept⟩
  · rintro ⟨⟨leg, found, onDay, same⟩, whole⟩
    obtain ⟨group, grouped, keyed⟩ := (exists_group_on_day lower upper operatorId 0 session).2
      ⟨leg, found, onDay, same, whole leg found onDay same⟩
    have named : group.key.sessionId = session := by rw [keyed]
    refine ⟨group, mem_zeroGroups.2 ⟨grouped, ?_, (unattributed group keyed).2 whole⟩, named⟩
    rw [named]
    exact keyed

theorem zeroGroups_length {date : Int} (lower : first ≤ date) (upper : date ≤ last)
    (operatorId : Nat) :
    (zeroGroups zone tables.legs first last date operatorId).length =
      (unattributedSessions zone tables.legs date operatorId).length := by
  have groups : (perGroup zone tables.legs first last).Nodup := perGroup_keys_nodup.of_map _
  have kept : (zeroGroups zone tables.legs first last date operatorId).Nodup :=
    (groups.filter _).filter _
  have nodup : ((zeroGroups zone tables.legs first last date operatorId).map
      fun group => group.key.sessionId).Nodup := by
    rw [List.nodup_map_iff_inj_on kept]
    intro one oneMember other otherMember same
    obtain ⟨oneGroup, oneKey, _⟩ := mem_zeroGroups.1 oneMember
    obtain ⟨otherGroup, otherKey, _⟩ := mem_zeroGroups.1 otherMember
    exact eq_of_key oneGroup otherGroup (by rw [oneKey, otherKey, same])
  have sessions : (unattributedSessions zone tables.legs date operatorId).Nodup :=
    (List.nodup_dedup _).filter _
  rw [← List.length_map fun group : SessionGroup => group.key.sessionId]
  refine ((List.perm_ext_iff_of_nodup nodup sessions).2 fun session => ?_).length_eq
  exact zeroGroups_sessions lower upper operatorId session

theorem inserted_same (wanted : Int × Nat × Nat → Bool)
    (kept : ∀ group ∈ perGroup zone tables.legs first last, wanted group.bucket = true →
      group.key.shortcodeId ≠ 0 ∨
        attributed (perGroup zone tables.legs first last) group = false) :
    (insertedRows zone tables first last).filter (fun row => wanted row.key) =
      (previousInsertedRows zone tables first last).filter fun row => wanted row.key := by
  have groups : (keptGroups (perGroup zone tables.legs first last)).filter
      (fun group => wanted group.bucket) =
        (perGroup zone tables.legs first last).filter fun group => wanted group.bucket := by
    rw [keptGroups, List.filter_filter]
    refine List.filter_congr fun group member => ?_
    rcases chosen : wanted group.bucket with _ | _
    · rfl
    · simpa using kept group member chosen
  rw [insertedRows, ← summaryOf, previousInsertedRows, ← summaryOf, summaryOf_filter,
    summaryOf_filter, groups]

theorem attributed_mixed {group : SessionGroup} {date : Int} {operatorId : Nat}
    (grouped : group ∈ perGroup zone tables.legs first last)
    (onDay : group.onDay date operatorId = true) (zero : group.key.shortcodeId = 0)
    (named : attributed (perGroup zone tables.legs first last) group = true) :
    MixedSession zone tables.legs date operatorId := by
  obtain ⟨other, otherGroup, day, operator, session, nonzero⟩ := attributed_iff.1 named
  obtain ⟨leg, member, _, keyed⟩ := (exists_perGroup_iff _).1 ⟨group, grouped, rfl⟩
  obtain ⟨otherLeg, otherMember, _, otherKeyed⟩ :=
    (exists_perGroup_iff _).1 ⟨other, otherGroup, rfl⟩
  have otherDay : other.onDay date operatorId = true := by
    rw [SessionGroup.onDay, day, operator]
    exact onDay
  refine ⟨otherLeg, otherMember, leg, member, (onDay_of_groupKey otherKeyed).trans otherDay,
    (onDay_of_groupKey keyed).trans onDay, ?_⟩
  rw [← keyed] at zero session
  rw [← otherKeyed] at nonzero session
  exact ⟨session, nonzero, zero⟩

theorem onlyDuplicatesDropped (zone : Int) (tables : LegTables) (first last : Int) :
    OnlyDuplicatesDropped zone tables.legs first last
      (previousInsertedRows zone tables first last) (insertedRows zone tables first last) := by
  have sub := keptGroups_sublist (perGroup zone tables.legs first last)
  constructor
  case attributedSame =>
    exact inserted_same (fun key => decide (key.2.2 ≠ 0)) fun group _ nonzero =>
      Or.inl (of_decide_eq_true nonzero)
  case zeroPresent =>
    intro date operatorId lower upper
    rw [← List.length_pos_iff, ← @zeroGroups_length zone first last tables date lower upper,
      List.length_pos_iff_exists_mem]
    refine (exists_summaryOf_iff sub (date, operatorId, 0)).trans ?_
    simp only [zeroGroups, List.mem_filter, decide_eq_true_eq]
  case zeroSessions =>
    intro row inserted zero
    obtain ⟨lower, upper⟩ := insertedRows_date inserted
    rw [sessions_summaryOf sub inserted, ← zeroGroups_length lower upper, SummaryRow.key, zero]
    rfl
  case zeroShrinks =>
    intro row inserted _
    exact summaryOf_sublist sub inserted
  case unmixedSame =>
    intro date operatorId unmixed
    refine inserted_same (fun key => decide (key.1 = date ∧ key.2.1 = operatorId)) ?_
    intro group grouped onDay
    by_cases zero : group.key.shortcodeId = 0
    · refine Or.inr (Bool.not_eq_true _ ▸ fun named => ?_)
      exact unmixed (attributed_mixed grouped onDay zero named)
    · exact Or.inl zero

theorem dayWithin_iff {date : Int} :
    dayWithin first last date = true ↔ first ≤ date ∧ date ≤ last := by
  simp [dayWithin]

theorem rebuilt_window {kept : List SessionGroup}
    (sub : kept.Sublist (perGroup zone tables.legs first last)) (summary : List SummaryRow) :
    rowsOfDays first last ((summary.filter fun row => !dayWithin first last row.date) ++
        summaryOf tables.operators kept) = summaryOf tables.operators kept ∧
      rowsOfOtherDays first last ((summary.filter fun row => !dayWithin first last row.date) ++
        summaryOf tables.operators kept) = rowsOfOtherDays first last summary := by
  have inside : rowsOfDays first last (summaryOf tables.operators kept) =
      summaryOf tables.operators kept :=
    List.filter_eq_self.2 fun _ member => dayWithin_iff.2 (summaryOf_date sub member)
  have outside : rowsOfOtherDays first last (summaryOf tables.operators kept) = [] := by
    rw [rowsOfOtherDays, List.filter_eq_nil_iff]
    intro row member
    simp [dayWithin_iff.2 (summaryOf_date sub member)]
  rw [rowsOfDays] at inside
  rw [rowsOfOtherDays] at outside
  constructor
  · simp [rowsOfDays, List.filter_append, List.filter_filter, inside]
  · simp [rowsOfOtherDays, List.filter_append, List.filter_filter, outside]

end

/-- On every table and window: either both versions raise, or they leave the same rows on the
other days and differ within the window in the duplicates alone. -/
theorem duplicate_fix_drops_duplicates (zone : Int) (tables : LegTables)
    (summary : List SummaryRow) (startDate endDate : Option Int) :
    (∃ error, refreshDailySessionSummary zone tables summary startDate endDate = .error error ∧
      previousRefreshDailySessionSummary zone tables summary startDate endDate = .error error) ∨
    ∃ first last inserted after previousInserted previous,
      startDate = some first ∧ endDate = some last ∧ first ≤ last ∧
      refreshDailySessionSummary zone tables summary startDate endDate = .ok (inserted, after) ∧
      previousRefreshDailySessionSummary zone tables summary startDate endDate =
        .ok (previousInserted, previous) ∧
      rowsOfOtherDays first last after = rowsOfOtherDays first last previous ∧
      OnlyDuplicatesDropped zone tables.legs first last (rowsOfDays first last previous)
        (rowsOfDays first last after) := by
  rcases startDate with _ | first
  · exact Or.inl ⟨_, rfl, rfl⟩
  rcases endDate with _ | last
  · exact Or.inl ⟨_, rfl, rfl⟩
  by_cases reversed : last < first
  · exact Or.inl ⟨_, if_pos reversed, if_pos reversed⟩
  · obtain ⟨inside, others⟩ :=
      rebuilt_window (keptGroups_sublist (perGroup zone tables.legs first last)) summary
    obtain ⟨previousInside, previousOthers⟩ :=
      rebuilt_window (List.Sublist.refl (perGroup zone tables.legs first last)) summary
    refine Or.inr ⟨first, last, _, _, _, _, rfl, rfl, by omega, if_neg reversed,
      if_neg reversed, others.trans previousOthers.symm, ?_⟩
    have rows := onlyDuplicatesDropped zone tables first last
    rw [insertedRows, ← summaryOf, previousInsertedRows, ← summaryOf, ← inside,
      ← previousInside] at rows
    exact rows

end UssdGateway
