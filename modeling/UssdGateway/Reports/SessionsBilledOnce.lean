import UssdGateway.Reports.DailySummary

/-!
How often the rollup counts a session. A session is counted once for each shortcode its legs of
the day name, and once when they name none.
-/

namespace UssdGateway

open Grouping

def billedSessions (summary : List SummaryRow) (date : Int) (operatorId : Nat) : Nat :=
  ((summary.filter fun row => decide (row.date = date ∧ row.operatorId = operatorId)).map
    SummaryRow.sessions).sum

def LegRecord.onDay (zone date : Int) (operatorId : Nat) (leg : LegRecord) : Bool :=
  decide (localDate zone leg.ts = date ∧ leg.operatorId = operatorId)

def distinctSessions (zone : Int) (legs : List LegRecord) (date : Int) (operatorId : Nat) : Nat :=
  ((legs.filter (LegRecord.onDay zone date operatorId)).map fun leg => leg.sessionId).dedup.length

/-- A session with legs of the day on two shortcodes. -/
def SplitSession (zone : Int) (legs : List LegRecord) (date : Int) (operatorId : Nat) : Prop :=
  ∃ first ∈ legs, ∃ second ∈ legs,
    first.onDay zone date operatorId = true ∧ second.onDay zone date operatorId = true ∧
    first.sessionId = second.sessionId ∧
    first.shortcodeId.getD 0 ≠ 0 ∧ second.shortcodeId.getD 0 ≠ 0 ∧
    first.shortcodeId.getD 0 ≠ second.shortcodeId.getD 0

def SessionGroup.onDay (date : Int) (operatorId : Nat) (group : SessionGroup) : Bool :=
  decide (group.key.date = date ∧ group.key.operatorId = operatorId)

section

variable {zone : Int} {legs : List LegRecord} {startDate endDate : Int}

theorem perGroup_keys_nodup :
    ((perGroup zone legs startDate endDate).map SessionGroup.key).Nodup := by
  simp only [perGroup, List.map_map, Function.comp_def]
  exact groupBy_keys_nodup

theorem eq_of_key {first second : SessionGroup}
    (firstMember : first ∈ perGroup zone legs startDate endDate)
    (secondMember : second ∈ perGroup zone legs startDate endDate)
    (same : first.key = second.key) : first = second :=
  List.inj_on_of_nodup_map perGroup_keys_nodup firstMember secondMember same

theorem exists_perGroup_iff (key : GroupKey) :
    (∃ group ∈ perGroup zone legs startDate endDate, group.key = key) ↔
      ∃ leg ∈ legs, inWindow zone startDate endDate leg = true ∧ leg.groupKey zone = key := by
  simp only [perGroup, List.mem_map]
  constructor
  · rintro ⟨_, ⟨group, member, rfl⟩, rfl⟩
    obtain ⟨⟨leg, inside, same⟩, _⟩ := mem_groupBy.1 member
    rw [List.mem_filter] at inside
    exact ⟨leg, inside.1, inside.2, same⟩
  · rintro ⟨leg, member, inside, same⟩
    have grouped : (key, (legs.filter (inWindow zone startDate endDate)).filter
        fun other => other.groupKey zone = key) ∈
        groupBy (LegRecord.groupKey zone) (legs.filter (inWindow zone startDate endDate)) := by
      rw [mem_groupBy]
      exact ⟨⟨leg, List.mem_filter.2 ⟨member, inside⟩, same⟩, rfl⟩
    exact ⟨_, ⟨_, grouped, rfl⟩, rfl⟩

theorem inWindow_of_date {leg : LegRecord} (lower : startDate ≤ localDate zone leg.ts)
    (upper : localDate zone leg.ts ≤ endDate) : inWindow zone startDate endDate leg = true := by
  simp only [inWindow, Bool.and_eq_true, decide_eq_true_eq, midnight_le_iff, lt_midnight_iff]
  omega

theorem exists_group_of_leg {leg : LegRecord} (member : leg ∈ legs)
    (lower : startDate ≤ localDate zone leg.ts) (upper : localDate zone leg.ts ≤ endDate) :
    ∃ group ∈ perGroup zone legs startDate endDate, group.key = leg.groupKey zone :=
  (exists_perGroup_iff _).2 ⟨leg, member, inWindow_of_date lower upper, rfl⟩

theorem attributed_iff {group : SessionGroup} :
    attributed (perGroup zone legs startDate endDate) group = true ↔
      ∃ other ∈ perGroup zone legs startDate endDate, other.key.date = group.key.date ∧
        other.key.operatorId = group.key.operatorId ∧
        other.key.sessionId = group.key.sessionId ∧ other.key.shortcodeId ≠ 0 := by
  simp [attributed]

theorem mem_keptGroups {groups : List SessionGroup} {group : SessionGroup} :
    group ∈ keptGroups groups ↔
      group ∈ groups ∧ (group.key.shortcodeId ≠ 0 ∨ attributed groups group = false) := by
  simp [keptGroups]

theorem exists_kept {group : SessionGroup}
    (member : group ∈ perGroup zone legs startDate endDate) :
    ∃ other ∈ keptGroups (perGroup zone legs startDate endDate),
      other.key.date = group.key.date ∧ other.key.operatorId = group.key.operatorId ∧
      other.key.sessionId = group.key.sessionId := by
  by_cases named : attributed (perGroup zone legs startDate endDate) group = true
  · obtain ⟨other, otherMember, date, operator, session, nonzero⟩ := attributed_iff.1 named
    exact ⟨other, mem_keptGroups.2 ⟨otherMember, Or.inl nonzero⟩, date, operator, session⟩
  · exact ⟨group, mem_keptGroups.2 ⟨member, Or.inr (by simpa using named)⟩, rfl, rfl, rfl⟩

theorem kept_apart {first second : SessionGroup}
    (firstKept : first ∈ keptGroups (perGroup zone legs startDate endDate))
    (secondKept : second ∈ keptGroups (perGroup zone legs startDate endDate))
    (date : first.key.date = second.key.date)
    (operator : first.key.operatorId = second.key.operatorId)
    (session : first.key.sessionId = second.key.sessionId) (apart : first ≠ second) :
    first.key.shortcodeId ≠ 0 ∧ second.key.shortcodeId ≠ 0 ∧
      first.key.shortcodeId ≠ second.key.shortcodeId := by
  obtain ⟨firstMember, firstKeeps⟩ := mem_keptGroups.1 firstKept
  obtain ⟨secondMember, secondKeeps⟩ := mem_keptGroups.1 secondKept
  have codes : first.key.shortcodeId ≠ second.key.shortcodeId := by
    intro same
    apply apart
    apply eq_of_key firstMember secondMember
    cases firstKey : first.key
    cases secondKey : second.key
    simp_all
  refine ⟨?_, ?_, codes⟩
  · intro zero
    have unnamed : attributed (perGroup zone legs startDate endDate) first = false :=
      firstKeeps.resolve_left (fun nonzero => nonzero zero)
    have named : attributed (perGroup zone legs startDate endDate) first = true :=
      attributed_iff.2 ⟨second, secondMember, date.symm, operator.symm, session.symm, by omega⟩
    rw [unnamed] at named
    exact absurd named (by simp)
  · intro zero
    have unnamed : attributed (perGroup zone legs startDate endDate) second = false :=
      secondKeeps.resolve_left (fun nonzero => nonzero zero)
    have named : attributed (perGroup zone legs startDate endDate) second = true :=
      attributed_iff.2 ⟨first, firstMember, date, operator, session, by omega⟩
    rw [unnamed] at named
    exact absurd named (by simp)

def keptOnDay (zone : Int) (legs : List LegRecord) (startDate endDate date : Int)
    (operatorId : Nat) : List SessionGroup :=
  (keptGroups (perGroup zone legs startDate endDate)).filter
    (SessionGroup.onDay date operatorId)

theorem keptOnDay_nodup (date : Int) (operatorId : Nat) :
    (keptOnDay zone legs startDate endDate date operatorId).Nodup := by
  have groups : (perGroup zone legs startDate endDate).Nodup := perGroup_keys_nodup.of_map _
  exact (groups.filter _).filter _

theorem onDay_of_groupKey {leg : LegRecord} {date : Int} {operatorId : Nat} {group : SessionGroup}
    (keyed : leg.groupKey zone = group.key) :
    leg.onDay zone date operatorId = group.onDay date operatorId := by
  simp only [LegRecord.onDay, SessionGroup.onDay, ← keyed, LegRecord.groupKey]

theorem keptOnDay_sessions {date : Int} (operatorId : Nat) (lower : startDate ≤ date)
    (upper : date ≤ endDate) (name : String) :
    name ∈ (keptOnDay zone legs startDate endDate date operatorId).map
        (fun group => group.key.sessionId) ↔
      name ∈ (legs.filter (LegRecord.onDay zone date operatorId)).map fun leg => leg.sessionId := by
  simp only [keptOnDay, List.mem_map, List.mem_filter]
  constructor
  · rintro ⟨group, ⟨kept, onDay⟩, rfl⟩
    obtain ⟨leg, member, _, keyed⟩ :=
      (exists_perGroup_iff group.key).1 ⟨group, (mem_keptGroups.1 kept).1, rfl⟩
    refine ⟨leg, ⟨member, (onDay_of_groupKey keyed).trans onDay⟩, ?_⟩
    rw [← keyed]
    rfl
  · rintro ⟨leg, ⟨member, onDay⟩, rfl⟩
    have day : localDate zone leg.ts = date := by
      simp only [LegRecord.onDay, decide_eq_true_eq] at onDay
      exact onDay.1
    obtain ⟨group, grouped, keyed⟩ := exists_group_of_leg member (day ▸ lower) (day ▸ upper)
    obtain ⟨other, kept, date, operator, session⟩ := exists_kept grouped
    have sameDay : other.onDay (localDate zone leg.ts) leg.operatorId = true := by
      simp only [SessionGroup.onDay, decide_eq_true_eq, date, operator, keyed]
      exact ⟨rfl, rfl⟩
    refine ⟨other, ⟨kept, ?_⟩, ?_⟩
    · simp only [LegRecord.onDay, decide_eq_true_eq] at onDay
      rw [← onDay.1, ← onDay.2]
      exact sameDay
    · rw [session, keyed]
      rfl

theorem keptOnDay_sessions_nodup_iff {date : Int} (operatorId : Nat) (lower : startDate ≤ date)
    (upper : date ≤ endDate) :
    ((keptOnDay zone legs startDate endDate date operatorId).map
        (fun group => group.key.sessionId)).Nodup ↔ ¬ SplitSession zone legs date operatorId := by
  constructor
  · rintro nodup ⟨first, firstMember, second, secondMember, firstDay, secondDay, session,
      firstNamed, secondNamed, apart⟩
    have grouped : ∀ leg ∈ legs, leg.onDay zone date operatorId = true →
        leg.shortcodeId.getD 0 ≠ 0 →
        ∃ group ∈ keptOnDay zone legs startDate endDate date operatorId,
          group.key = leg.groupKey zone := by
      intro leg member onDay named
      have day : localDate zone leg.ts = date := by
        simp only [LegRecord.onDay, decide_eq_true_eq] at onDay
        exact onDay.1
      obtain ⟨group, found, keyed⟩ := exists_group_of_leg member (day ▸ lower) (day ▸ upper)
      have kept : group ∈ keptGroups (perGroup zone legs startDate endDate) := by
        refine mem_keptGroups.2 ⟨found, Or.inl ?_⟩
        rw [keyed]
        exact named
      exact ⟨group, List.mem_filter.2 ⟨kept, (onDay_of_groupKey keyed.symm).symm.trans onDay⟩,
        keyed⟩
    obtain ⟨firstGroup, firstKept, firstKey⟩ := grouped first firstMember firstDay firstNamed
    obtain ⟨secondGroup, secondKept, secondKey⟩ :=
      grouped second secondMember secondDay secondNamed
    have sameSession : firstGroup.key.sessionId = secondGroup.key.sessionId := by
      rw [firstKey, secondKey]
      exact session
    have equal := List.inj_on_of_nodup_map nodup firstKept secondKept sameSession
    have codes := congrArg (fun group => group.key.shortcodeId) equal
    simp only [firstKey, secondKey] at codes
    exact apart codes
  · intro unsplit
    rw [List.nodup_map_iff_inj_on (keptOnDay_nodup date operatorId)]
    intro first firstKept second secondKept session
    by_contra apart
    obtain ⟨firstGroup, firstDay⟩ := List.mem_filter.1 firstKept
    obtain ⟨secondGroup, secondDay⟩ := List.mem_filter.1 secondKept
    obtain ⟨firstDate, firstOperator⟩ := of_decide_eq_true firstDay
    obtain ⟨secondDate, secondOperator⟩ := of_decide_eq_true secondDay
    obtain ⟨firstNamed, secondNamed, codes⟩ := kept_apart firstGroup secondGroup
      (firstDate.trans secondDate.symm) (firstOperator.trans secondOperator.symm) session apart
    obtain ⟨firstLeg, firstMember, _, firstKey⟩ :=
      (exists_perGroup_iff first.key).1 ⟨first, (mem_keptGroups.1 firstGroup).1, rfl⟩
    obtain ⟨secondLeg, secondMember, _, secondKey⟩ :=
      (exists_perGroup_iff second.key).1 ⟨second, (mem_keptGroups.1 secondGroup).1, rfl⟩
    refine unsplit ⟨firstLeg, firstMember, secondLeg, secondMember,
      (onDay_of_groupKey firstKey).trans firstDay, (onDay_of_groupKey secondKey).trans secondDay,
      ?_⟩
    rw [← firstKey] at session firstNamed codes
    rw [← secondKey] at session secondNamed codes
    exact ⟨session, firstNamed, secondNamed, codes⟩

end

theorem joinOperators_fst {tables : LegTables} {zone startDate endDate : Int}
    {groups : List SessionGroup}
    (grouped : ∀ group ∈ groups, group ∈ perGroup zone tables.legs startDate endDate) :
    (joinOperators tables.operators groups).map Prod.fst = groups := by
  induction groups with
  | nil => rfl
  | cons group rest ih =>
      obtain ⟨leg, member, _, keyed⟩ := (exists_perGroup_iff group.key).1
        ⟨group, grouped group List.mem_cons_self, rfl⟩
      obtain ⟨operator, found⟩ := Option.isSome_iff_exists.1 (tables.operatorKnown leg member)
      have known : tables.operators.byId group.key.operatorId = some operator := by
        rw [← keyed]
        exact found
      have tail := ih fun other inside => grouped other (List.mem_cons_of_mem _ inside)
      simp only [joinOperators, List.filterMap_cons, known, Option.map_some, List.map_cons]
      rw [← joinOperators, tail]

def summaryOf (operators : OperatorTable) (groups : List SessionGroup) : List SummaryRow :=
  (groupBy bucket (joinOperators operators groups)).map summaryRow

def SessionGroup.bucket (group : SessionGroup) : Int × Nat × Nat :=
  (group.key.date, group.key.operatorId, group.key.shortcodeId)

theorem keptGroups_sublist (groups : List SessionGroup) : (keptGroups groups).Sublist groups :=
  List.filter_sublist

theorem mem_summaryOf {operators : OperatorTable} {groups : List SessionGroup}
    {row : SummaryRow} :
    row ∈ summaryOf operators groups ↔
      (∃ joined ∈ joinOperators operators groups, bucket joined = row.key) ∧
        row = summaryRow (row.key,
          (joinOperators operators groups).filter fun joined => bucket joined = row.key) := by
  simp only [summaryOf, List.mem_map, mem_groupBy]
  constructor
  · rintro ⟨⟨key, members⟩, ⟨occurs, whole⟩, rfl⟩
    exact ⟨occurs, congrArg (fun rows => summaryRow (key, rows)) whole⟩
  · rintro ⟨occurs, figures⟩
    exact ⟨_, ⟨occurs, rfl⟩, figures.symm⟩

section

variable {zone first last : Int} {tables : LegTables}

theorem perGroup_joined {kept : List SessionGroup}
    (sub : kept.Sublist (perGroup zone tables.legs first last)) :
    (joinOperators tables.operators kept).map Prod.fst = kept :=
  joinOperators_fst fun _ member => sub.subset member

theorem exists_summaryOf_iff {kept : List SessionGroup}
    (sub : kept.Sublist (perGroup zone tables.legs first last)) (key : Int × Nat × Nat) :
    (∃ row ∈ summaryOf tables.operators kept, row.key = key) ↔
      ∃ group ∈ kept, group.bucket = key := by
  have joined := perGroup_joined sub
  constructor
  · rintro ⟨row, member, rfl⟩
    obtain ⟨⟨pair, found, keyed⟩, _⟩ := mem_summaryOf.1 member
    exact ⟨pair.1, joined ▸ List.mem_map_of_mem found, keyed⟩
  · rintro ⟨group, member, rfl⟩
    rw [← joined] at member
    obtain ⟨pair, found, rfl⟩ := List.mem_map.1 member
    exact ⟨summaryRow (bucket pair, (joinOperators tables.operators kept).filter
      fun joined => bucket joined = bucket pair),
      mem_summaryOf.2 ⟨⟨pair, found, rfl⟩, rfl⟩, rfl⟩

theorem summaryOf_date {kept : List SessionGroup}
    (sub : kept.Sublist (perGroup zone tables.legs first last)) {row : SummaryRow}
    (member : row ∈ summaryOf tables.operators kept) :
    first ≤ row.date ∧ row.date ≤ last := by
  obtain ⟨group, found, keyed⟩ := (exists_summaryOf_iff sub row.key).1 ⟨row, member, rfl⟩
  obtain ⟨leg, _, inside, legKey⟩ :=
    (exists_perGroup_iff group.key).1 ⟨group, sub.subset found, rfl⟩
  have date : row.date = localDate zone leg.ts :=
    calc row.date
        = group.key.date := (congrArg Prod.fst keyed).symm
      _ = localDate zone leg.ts := by
          rw [← legKey]
          rfl
  simp only [inWindow, Bool.and_eq_true, decide_eq_true_eq, midnight_le_iff, lt_midnight_iff]
    at inside
  omega

end

theorem billedSessions_insertedRows (zone : Int) (tables : LegTables)
    (startDate endDate date : Int) (operatorId : Nat) :
    billedSessions (insertedRows zone tables startDate endDate) date operatorId =
      (keptOnDay zone tables.legs startDate endDate date operatorId).length := by
  have joined : (joinOperators tables.operators
      (keptGroups (perGroup zone tables.legs startDate endDate))).map Prod.fst =
        keptGroups (perGroup zone tables.legs startDate endDate) :=
    joinOperators_fst fun group member => (mem_keptGroups.1 member).1
  have counted := sum_length_groupBy bucket (joinOperators tables.operators
    (keptGroups (perGroup zone tables.legs startDate endDate)))
    fun key => decide (key.1 = date ∧ key.2.1 = operatorId)
  calc billedSessions (insertedRows zone tables startDate endDate) date operatorId
      = (joinOperators tables.operators (keptGroups
          (perGroup zone tables.legs startDate endDate))).countP
          fun pair => SessionGroup.onDay date operatorId pair.1 := by
        simp only [billedSessions, insertedRows, List.filter_map, List.map_map]
        exact counted
    _ = (keptGroups (perGroup zone tables.legs startDate endDate)).countP
          (SessionGroup.onDay date operatorId) := by
        conv_rhs => rw [← joined, List.countP_map]
        rfl
    _ = (keptOnDay zone tables.legs startDate endDate date operatorId).length :=
        List.countP_eq_length_filter

theorem billedSessions_refreshed {summary inserted : List SummaryRow} {first last date : Int}
    (lower : first ≤ date) (upper : date ≤ last) (operatorId : Nat) :
    billedSessions ((summary.filter fun row =>
        !(decide (first ≤ row.date) && decide (row.date ≤ last))) ++ inserted) date operatorId =
      billedSessions inserted date operatorId := by
  have dropped : ((summary.filter fun row =>
      !(decide (first ≤ row.date) && decide (row.date ≤ last))).filter
        fun row => decide (row.date = date ∧ row.operatorId = operatorId)) = [] := by
    rw [List.filter_eq_nil_iff]
    intro row member
    have outside := (List.mem_filter.1 member).2
    simp only [Bool.not_eq_true', Bool.and_eq_false_iff, decide_eq_false_iff_not] at outside
    simp only [decide_eq_true_eq, not_and]
    intro same
    omega
  simp only [billedSessions, List.filter_append, dropped, List.nil_append]

/-- For every leg table and every day of an accepted window: the sessions of an operator's buckets
add up to its distinct sessions of the day if and only if none of them has legs on two
shortcodes. -/
theorem sessions_billed_once_iff (zone : Int) (tables : LegTables) (summary : List SummaryRow)
    {first last date : Int} (accepted : first ≤ last) (lower : first ≤ date)
    (upper : date ≤ last) (operatorId : Nat) :
    ∃ inserted after,
      refreshDailySessionSummary zone tables summary (some first) (some last) =
        .ok (inserted, after) ∧
      (billedSessions after date operatorId =
          distinctSessions zone tables.legs date operatorId ↔
        ¬ SplitSession zone tables.legs date operatorId) := by
  have ran : refreshDailySessionSummary zone tables summary (some first) (some last) =
      .ok ((insertedRows zone tables first last).length,
        (summary.filter fun row =>
          !(decide (first ≤ row.date) && decide (row.date ≤ last))) ++
          insertedRows zone tables first last) := by
    simp only [refreshDailySessionSummary]
    rw [if_neg (by omega)]
  refine ⟨_, _, ran, ?_⟩
  rw [billedSessions_refreshed lower upper, billedSessions_insertedRows, distinctSessions,
    length_eq_dedup_iff (keptOnDay_sessions operatorId lower upper)]
  exact keptOnDay_sessions_nodup_iff operatorId lower upper

def rollupOperators : OperatorTable where
  rows := [⟨3, "tigo", some 20⟩]
  idsUnique := by decide
  namesUnique := by decide
  windowsAccepted := by simp

def rollupLeg (id : Nat) (ts : Int) (shortcodeId : Option Nat) : LegRecord where
  id := id
  ts := ts
  operatorId := 3
  operatorName := "tigo"
  shortcodeId := shortcodeId
  serviceCode := none
  sessionId := "T1"
  msisdn := none
  ussdString := none
  direction := "response"
  handlerResponseAction := some "CON"
  handlerResponseText := none
  handlerElapsedMs := none
  errorClass := none

def splitTables : LegTables where
  operators := rollupOperators
  legs := [rollupLeg 1 0 (some 10), rollupLeg 2 5000000 (some 11)]
  operatorKnown := by decide

def wholeTables : LegTables where
  operators := rollupOperators
  legs := [rollupLeg 1 0 (some 10), rollupLeg 2 5000000 (some 10), rollupLeg 3 9000000 none]
  operatorKnown := by decide

theorem split_session_billed_twice :
    ∃ inserted after,
      refreshDailySessionSummary 0 splitTables [] (some 0) (some 0) = .ok (inserted, after) ∧
      billedSessions after 0 3 = 2 ∧ distinctSessions 0 splitTables.legs 0 3 = 1 :=
  ⟨_, _, rfl, by decide, by decide⟩

theorem whole_session_billed_once :
    ∃ inserted after,
      refreshDailySessionSummary 0 wholeTables [] (some 0) (some 0) = .ok (inserted, after) ∧
      billedSessions after 0 3 = distinctSessions 0 wholeTables.legs 0 3 := by
  obtain ⟨inserted, after, ran, billed⟩ :=
    sessions_billed_once_iff 0 wholeTables [] (Int.le_refl 0) (Int.le_refl 0) (Int.le_refl 0) 3
  refine ⟨inserted, after, ran, billed.2 ?_⟩
  rintro ⟨first, firstMember, second, secondMember, _, _, _, firstNamed, secondNamed, apart⟩
  have codes : ∀ leg ∈ wholeTables.legs, leg.shortcodeId.getD 0 ≠ 0 →
      leg.shortcodeId.getD 0 = 10 := by
    decide
  exact apart ((codes first firstMember firstNamed).trans
    (codes second secondMember secondNamed).symm)

end UssdGateway
