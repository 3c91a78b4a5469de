import UssdGateway.Reports.SessionCounts

/-!
When the count from the rollup reaches the count of the slow path.
-/

namespace UssdGateway

open SqlClause Grouping WindowRefresh

abbrev Bucket := Int × Nat × Nat

def bucketColumns : AclColumns Bucket where
  scCol key := some key.2.2
  tsCol key := key.1

def dayColumns (zone : Int) : AclColumns LegRecord where
  scCol leg := leg.shortcodeId
  tsCol leg := localDate zone leg.ts

def bucketHolds (pg : PgDates) (operators : OperatorTable) (filters : ReportFilters)
    (scFilter : ShortcodeAcl) (key : Bucket) : Bool :=
  decide (pg.date (filters.fromTs.getD "") ≤ key.1) &&
  (decide (key.1 ≤ pg.date (filters.toTs.getD "")) &&
  ((!decide (filters.operators ≠ []) || namesOperator operators filters.operators key.2.1) &&
  (aclAdmits bucketColumns .date scFilter key && true)))

theorem aclAdmits_congr {ρ σ : Type} {columns : AclColumns ρ} {columns' : AclColumns σ}
    (grain : Grain) (acl : ShortcodeAcl) {row : ρ} {row' : σ}
    (sameCode : columns.scCol row = columns'.scCol row')
    (sameTime : columns.tsCol row = columns'.tsCol row') :
    aclAdmits columns grain acl row = aclAdmits columns' grain acl row' := by
  simp only [aclAdmits, fromFloor, sameCode, sameTime]

theorem denotes_rollupWhere (pg : PgDates) (operators : OperatorTable) (filters : ReportFilters)
    (scFilter : ShortcodeAcl) :
    Denotes (rollupWhere pg operators filters scFilter) fun row =>
      bucketHolds pg operators filters scFilter (row.date, row.operatorId, row.shortcodeId) := by
  have access : Denotes (onlyIf scFilter.isSome (aclClause summaryColumns .date scFilter))
      fun row => aclAdmits bucketColumns .date scFilter
        (row.date, row.operatorId, row.shortcodeId) := by
    have same : (fun row : SummaryRow => aclAdmits bucketColumns .date scFilter
        (row.date, row.operatorId, row.shortcodeId)) = aclAdmits summaryColumns .date scFilter :=
      funext fun row => aclAdmits_congr .date scFilter rfl rfl
    rw [same]
    cases scFilter with
    | none => exact denotes_constant _
    | some grants => exact denotes_aclClause (some grants)
  exact denotes_allOf_cons (denotes_withValue _ _) <|
    denotes_allOf_cons (denotes_withValue _ _) <|
    denotes_allOf_cons (denotes_onlyIf _ (denotes_withValue _ _)) <|
    denotes_allOf_cons access denotes_allOf_nil

theorem aclAdmits_aclIntersect {ρ : Type} (columns : AclColumns ρ) (grain : Grain)
    (acl : ShortcodeAcl) (ids : List Int) (row : ρ) :
    aclAdmits columns grain (aclIntersect acl ids) row = true ↔
      aclAdmits columns grain acl row = true ∧
        (ids = [] ∨ idIn ids (columns.scCol row) = true) := by
  by_cases unpicked : ids = []
  · simp [aclIntersect, unpicked]
  rcases code : columns.scCol row with _ | id
  · rcases acl with _ | grants <;> simp [aclIntersect, unpicked, aclAdmits, code, idIn]
  · rcases acl with _ | grants
    · simp only [aclIntersect, unpicked, if_false, aclAdmits, code, idIn, Option.any_some,
        List.any_map, List.any_filter, List.any_eq_true, Function.comp_def, Bool.and_eq_true,
        decide_eq_true_eq, Option.some.injEq, false_or, true_and]
      constructor
      · rintro ⟨wanted, member, nonneg, named, _⟩
        have same : Int.ofNat id = wanted := by
          rw [named]
          exact Int.toNat_of_nonneg nonneg
        rwa [same]
      · intro member
        refine ⟨Int.ofNat id, member, Int.natCast_nonneg id, rfl, ?_⟩
        simp [fromFloor]
    · simp only [aclIntersect, unpicked, if_false, aclAdmits, code, idIn, Option.any_some,
        List.any_filter, List.any_eq_true, Bool.and_eq_true, decide_eq_true_eq,
        Option.some.injEq, false_or]
      constructor
      · rintro ⟨grant, granted, picked, named, late⟩
        exact ⟨⟨grant, granted, named, late⟩, named ▸ picked⟩
      · rintro ⟨⟨grant, granted, named, late⟩, picked⟩
        exact ⟨grant, granted, named ▸ picked, named, late⟩

def rolledGroups (zone : Int) (operators : OperatorTable) (legs : List LegRecord) :
    List (SessionGroup × OperatorRecord) :=
  joinOperators operators (keptGroups (groupsOf zone legs))

theorem sum_sessions_rollup (zone : Int) (operators : OperatorTable) (legs : List LegRecord)
    (wanted : Bucket → Bool) :
    (((rollup zone operators legs).filter fun row =>
      wanted (row.date, row.operatorId, row.shortcodeId)).map SummaryRow.sessions).sum =
      ((rolledGroups zone operators legs).filter fun joined => wanted (bucket joined)).length := by
  have counted := sum_length_groupBy bucket (rolledGroups zone operators legs) wanted
  rw [List.countP_eq_length_filter] at counted
  rw [rollup, List.filter_map, List.map_map]
  exact counted

theorem mem_groupsOf (zone : Int) {legs : List LegRecord} {leg : LegRecord} (member : leg ∈ legs) :
    ∃ group ∈ groupsOf zone legs, group.key = leg.groupKey zone := by
  have grouped : (leg.groupKey zone, legs.filter fun other =>
      other.groupKey zone = leg.groupKey zone) ∈ groupBy (LegRecord.groupKey zone) legs :=
    mem_groupBy.2 ⟨⟨leg, member, rfl⟩, rfl⟩
  exact ⟨_, List.mem_map_of_mem grouped, rfl⟩

theorem mem_rolledGroups_of_kept {operators : OperatorTable} {groups : List SessionGroup}
    {group : SessionGroup} {operator : OperatorRecord} (member : group ∈ groups)
    (known : operators.byId group.key.operatorId = some operator) :
    (group, operator) ∈ joinOperators operators groups :=
  List.mem_filterMap.2 ⟨group, member, by rw [known]; rfl⟩

theorem exists_keptGroup (zone : Int) {legs : List LegRecord} {leg : LegRecord}
    (member : leg ∈ legs) :
    ∃ group ∈ keptGroups (groupsOf zone legs), group.key.date = localDate zone leg.ts ∧
      group.key.operatorId = leg.operatorId ∧ group.key.sessionId = leg.sessionId ∧
      (leg.shortcodeId.getD 0 ≠ 0 → group.key.shortcodeId = leg.shortcodeId.getD 0) := by
  obtain ⟨group, grouped, key⟩ := mem_groupsOf zone member
  by_cases kept : group ∈ keptGroups (groupsOf zone legs)
  · exact ⟨group, kept, by rw [key]; rfl, by rw [key]; rfl, by rw [key]; rfl,
      fun _ => by rw [key]; rfl⟩
  · have dropped : ¬ (group.key.shortcodeId ≠ 0 ∨ attributed (groupsOf zone legs) group = false) :=
      fun reason => kept (List.mem_filter.2 ⟨grouped, by simpa using reason⟩)
    have unattributed : leg.shortcodeId.getD 0 = 0 := by
      have zeroed := Classical.not_not.1 fun nonzero => dropped (Or.inl nonzero)
      rwa [key] at zeroed
    have elsewhere : attributed (groupsOf zone legs) group = true := by
      rcases found : attributed (groupsOf zone legs) group with _ | _
      · exact absurd (Or.inr found) dropped
      · rfl
    obtain ⟨other, otherGrouped, same⟩ := List.any_eq_true.1 elsewhere
    obtain ⟨sameDay, sameOperator, sameSession, coded⟩ := decide_eq_true_eq.mp same
    refine ⟨other, List.mem_filter.2 ⟨otherGrouped, by simp [coded]⟩, ?_, ?_, ?_,
      fun nonzero => absurd unattributed nonzero⟩
    · rw [sameDay, key]
      rfl
    · rw [sameOperator, key]
      rfl
    · rw [sameSession, key]
      rfl

section

variable {pg : PgDates} {fireTime : Int} {operators : OperatorTable}

def ReportState.KeepsRollup (zone : Int) (state : ReportState operators) : Prop :=
  state.dailySessionSummary.Perm (rollup zone operators state.rolledUp)

theorem keepsRollup {state : ReportState operators}
    (reached : (reportRuns pg fireTime operators).Reachable state) :
    state.KeepsRollup pg.zone := by
  refine reached.invariant ?_ ?_
  · rintro state ⟨_, noRows, noneRead, _⟩
    rw [ReportState.KeepsRollup, noRows, noneRead]
    rfl
  · intro state event after kept stepped
    cases event with
    | wait later =>
        obtain ⟨_, moved⟩ := Option.ite_none_right_eq_some.1 stepped
        rw [← Option.some.inj moved]
        exact kept
    | write leg =>
        simp only [reportRuns, stepReport] at stepped
        split at stepped
        · rw [← Option.some.inj stepped]
          exact kept
        · cases stepped
    | nightly =>
        obtain ⟨_, moved⟩ := Option.ite_none_right_eq_some.1 stepped
        rw [← Option.some.inj moved, ReportState.KeepsRollup,
          afterRefresh_eq pg.zone state.tables _ (Int.le_refl _)]
        have derived := derive_refresh (rollup pg.zone operators)
          (fun row => dayWithin (localDate pg.zone state.now - 1)
            (localDate pg.zone state.now - 1) row.date)
          (fun rows => rollup_filter pg.zone operators rows _)
          (fun rows => rollup_filter pg.zone operators rows fun date =>
            !dayWithin (localDate pg.zone state.now - 1) (localDate pg.zone state.now - 1) date)
          state.legs state.rolledUp
        exact (refresh_perm kept _ _).trans derived.symm

/-! The two counts. -/

variable {filters : ReportFilters} {acl : ShortcodeAcl}

theorem matchesLeg_rollup {leg : LegRecord} (found : matchesLeg pg filters acl 0 leg = true) :
    aclAdmits legColumns .ts acl leg = true ∧
      (truthy filters.toTs = true →
        localDate pg.zone leg.ts ≤ pg.date (filters.toTs.getD "")) ∧
      (filters.operators = [] ∨ leg.operatorName ∈ filters.operators) ∧
      (filters.shortcodeIds = [] ∨ idIn filters.shortcodeIds leg.shortcodeId = true) := by
  simp only [matchesLeg, toHolds, Bool.and_eq_true, Bool.or_eq_true, Bool.not_eq_true',
    decide_eq_true_eq, decide_eq_false_iff_not, Classical.not_not] at found
  obtain ⟨granted, _, early, _, _, operator, picked, _⟩ := found
  refine ⟨granted, ?_, operator, picked⟩
  intro bounded
  rcases early with unbounded | early
  · rw [bounded] at unbounded
    cases unbounded
  · rw [Int.add_zero, lt_midnight_iff] at early
    omega

/-- The rollup counts the session of this leg: the last refresh of its day has read it, its day is
not before the first day asked for, nor before the first whole day of the grant. -/
structure CountedByRollup (pg : PgDates) {operators : OperatorTable}
    (state : ReportState operators) (filters : ReportFilters) (acl : ShortcodeAcl)
    (leg : LegRecord) : Prop where
  read : leg ∈ state.rolledUp
  inRange : pg.date (filters.fromTs.getD "") ≤ localDate pg.zone leg.ts
  granted : aclAdmits (dayColumns pg.zone) .date acl leg = true

/-- Each session the slow path counts has a leg, among those it counts it by, that the rollup
counts it by too. -/
def EverySessionCounted (pg : PgDates) {operators : OperatorTable}
    (state : ReportState operators) (filters : ReportFilters) (acl : ShortcodeAcl) : Prop :=
  ∀ leg ∈ state.legs, matchesLeg pg filters acl 0 leg = true →
    ∃ other ∈ state.legs, other.group = leg.group ∧ matchesLeg pg filters acl 0 other = true ∧
      CountedByRollup pg state filters acl other

theorem exists_countedGroup {state : ReportState operators} {leg : LegRecord}
    (member : leg ∈ state.legs) (found : matchesLeg pg filters acl 0 leg = true)
    (bounded : truthy filters.toTs = true)
    (counted : CountedByRollup pg state filters acl leg) :
    ∃ joined ∈ rolledGroups pg.zone operators state.rolledUp,
      bucketHolds pg operators filters (aclIntersect acl filters.shortcodeIds)
        (bucket joined) = true ∧ (joined.1.key.sessionId, joined.2.name) = leg.group := by
  obtain ⟨operator, known, named⟩ :=
    Option.map_eq_some_iff.1 (state.wellNamed leg member).1
  obtain ⟨group, kept, sameDay, sameOperator, sameSession, sameCode⟩ :=
    exists_keptGroup pg.zone counted.read
  obtain ⟨_, early, operatorPicked, codePicked⟩ := matchesLeg_rollup found
  have joins : (group, operator) ∈ rolledGroups pg.zone operators state.rolledUp :=
    mem_rolledGroups_of_kept kept (by rw [sameOperator]; exact known)
  refine ⟨(group, operator), joins, ?_, ?_⟩
  · simp only [bucketHolds, bucket, sameDay, Bool.and_eq_true, decide_eq_true_eq, and_true,
      Bool.or_eq_true, Bool.not_eq_true', decide_eq_false_iff_not, Classical.not_not]
    refine ⟨counted.inRange, early bounded, ?_, ?_⟩
    · rcases operatorPicked with all | picked
      · exact Or.inl all
      · refine Or.inr (List.any_eq_true.2 ⟨operator, List.mem_of_find?_eq_some known, ?_⟩)
        have sameId : operator.id = leg.operatorId := by simpa using List.find?_some known
        simp [sameId, sameOperator, named, picked]
    · have admitted := (aclAdmits_aclIntersect (dayColumns pg.zone) .date acl
        filters.shortcodeIds leg).2 ⟨counted.granted, codePicked⟩
      rcases coded : leg.shortcodeId with _ | code
      · -- Without a shortcode the leg is only seen by an unrestricted caller who picked none.
        rcases narrowed : aclIntersect acl filters.shortcodeIds with _ | grants
        · rfl
        · rw [narrowed] at admitted
          simp [aclAdmits, dayColumns, coded] at admitted
      · have nonzero : code ≠ 0 := fun zero =>
          (state.wellNamed leg member).2 (by rw [coded, zero])
        have sameShortcode : group.key.shortcodeId = code := by
          simpa [coded] using sameCode (by simpa [coded] using nonzero)
        rw [← admitted]
        refine aclAdmits_congr .date _ ?_ rfl
        simp [bucketColumns, dayColumns, coded, sameShortcode]
  · rw [sameSession, named]
    rfl

/-- In a run from the installation on, a number from the rollup is not below the number of sessions
of the slow path, if the rollup counts each of these sessions. -/
theorem rollup_never_under_reports {state : ReportState operators}
    (reached : (reportRuns pg fireTime operators).Reachable state)
    (covered : EverySessionCounted pg state filters acl) {count : Nat}
    (answered : tryRollupBoundedCount pg operators state.dailySessionSummary state.now filters acl =
      some count) :
    (matchingSessions pg state.legs filters acl).length ≤ count := by
  simp only [tryRollupBoundedCount, Option.ite_none_left_eq_some] at answered
  obtain ⟨_, _, _, ranged, _, answered⟩ := answered
  have bounded : truthy filters.toTs = true := by
    rcases found : truthy filters.toTs with _ | _
    · exact absurd (Or.inr found) ranged
    · rfl
  have nobody : (∀ leg ∈ state.legs, ¬ matchesLeg pg filters acl 0 leg = true) →
      matchingSessions pg state.legs filters acl = [] := by
    intro none
    refine List.eq_nil_iff_forall_not_mem.2 fun name member => ?_
    obtain ⟨leg, present, found, _⟩ := mem_matchingSessions.1 member
    exact none leg present found
  split at answered
  next denied =>
    have none := nobody fun leg _ found => by
      have granted := (matchesLeg_rollup found).1
      rw [denied] at granted
      cases granted
    rw [none]
    exact Nat.zero_le _
  next =>
    split at answered
    next narrowed =>
      have none := nobody fun leg present found => by
        obtain ⟨other, _, _, otherFound, counted⟩ := covered leg present found
        have admitted := (aclAdmits_aclIntersect (dayColumns pg.zone) .date acl
          filters.shortcodeIds other).2 ⟨counted.granted, (matchesLeg_rollup otherFound).2.2.2⟩
        rw [narrowed] at admitted
        cases admitted
      rw [none]
      exact Nat.zero_le _
    next =>
      have sums := (((keepsRollup reached).filter fun row =>
        bucketHolds pg operators filters (aclIntersect acl filters.shortcodeIds)
          (row.date, row.operatorId, row.shortcodeId)).map SummaryRow.sessions).sum_eq
      rw [sum_sessions_rollup] at sums
      rw [Option.some.injEq, select_eq (denotes_rollupWhere pg operators filters _), sums]
        at answered
      -- Each session is the name of a counted group.
      have named : matchingSessions pg state.legs filters acl ⊆
          ((rolledGroups pg.zone operators state.rolledUp).filter fun joined =>
            bucketHolds pg operators filters (aclIntersect acl filters.shortcodeIds)
              (bucket joined)).map fun joined => (joined.1.key.sessionId, joined.2.name) := by
        intro name member
        obtain ⟨leg, present, found, rfl⟩ := mem_matchingSessions.1 member
        obtain ⟨other, otherPresent, sameGroup, otherFound, counted⟩ := covered leg present found
        obtain ⟨joined, rolled, holds, label⟩ :=
          exists_countedGroup otherPresent otherFound bounded counted
        rw [← sameGroup, ← label]
        exact List.mem_map_of_mem (List.mem_filter.2 ⟨rolled, holds⟩)
      have fits := (List.subperm_of_subset (List.nodup_dedup _) named).length_le
      rwa [List.length_map, answered] at fits

end

def oneHour : Int := 3600 * microsPerSecond

def firstDates : PgDates where
  zone := 0
  timestamptz _ := 0
  date _ := 0

def morningLeg : LegRecord where
  id := 1
  ts := 10 * oneHour
  operatorId := 1
  operatorName := "vodacom"
  shortcodeId := some 10
  serviceCode := some "*149*01#"
  sessionId := "V1"
  msisdn := some "255750000001"
  ussdString := none
  direction := "response"
  handlerResponseAction := some "END"
  handlerResponseText := none
  handlerElapsedMs := none
  errorClass := none

def firstDayFilter : ReportFilters where
  fromTs := some "1970-01-01"
  toTs := some "1970-01-01"
  msisdn := none
  sessionId := none
  operators := []
  shortcodeIds := []
  errorClass := none

def installed : ReportState vodacomOnly where
  now := 9 * oneHour
  legs := []
  wellNamed := by simp
  dailySessionSummary := []
  nextFire := 26 * oneHour
  rolledUp := []

def twoOClock : Int := 2 * oneHour

def untilCounted (hour : Int) : List ReportEvent :=
  [.wait (11 * oneHour), .write morningLeg] ++
    (if hour < 26 then [] else [.wait (26 * oneHour), .nightly]) ++ [.wait (hour * oneHour)]

theorem installed_reachable :
    (reportRuns firstDates twoOClock vodacomOnly).Reachable installed :=
  .start ⟨rfl, rfl, rfl, by decide⟩

/-- Half past midnight the session is in no rollup, and no session is shown. -/
theorem session_missed_before_the_refresh :
    ∃ state : ReportState vodacomOnly,
      (reportRuns firstDates twoOClock vodacomOnly).Reachable state ∧
      tryRollupBoundedCount firstDates vodacomOnly state.dailySessionSummary state.now
        firstDayFilter none = some 0 ∧
      matchingSessions firstDates state.legs firstDayFilter none = [("V1", "vodacom")] ∧
      countSessions firstDates state.legs firstDayFilter none = 1 := by
  have evaluated : ((reportRuns firstDates twoOClock vodacomOnly).run installed
      (untilCounted 25)).any (fun state =>
        decide (tryRollupBoundedCount firstDates vodacomOnly state.dailySessionSummary state.now
          firstDayFilter none = some 0 ∧
          matchingSessions firstDates state.legs firstDayFilter none = [("V1", "vodacom")] ∧
          countSessions firstDates state.legs firstDayFilter none = 1)) = true := by
    decide +kernel
  obtain ⟨state, ran, counts⟩ := (Option.any_eq_true _ _).1 evaluated
  exact ⟨state, installed_reachable.run ran, of_decide_eq_true counts⟩

/-- After the refresh it is. -/
theorem session_counted_after_the_refresh :
    ∃ state : ReportState vodacomOnly,
      (reportRuns firstDates twoOClock vodacomOnly).Reachable state ∧
      tryRollupBoundedCount firstDates vodacomOnly state.dailySessionSummary state.now
        firstDayFilter none = some 1 ∧
      (matchingSessions firstDates state.legs firstDayFilter none).length ≤ 1 := by
  have evaluated : ((reportRuns firstDates twoOClock vodacomOnly).run installed
      (untilCounted 27)).any (fun state =>
        decide (tryRollupBoundedCount firstDates vodacomOnly state.dailySessionSummary state.now
          firstDayFilter none = some 1 ∧ state.rolledUp = state.legs ∧
          state.legs = [morningLeg])) = true := by
    decide +kernel
  obtain ⟨state, ran, counts⟩ := (Option.any_eq_true _ _).1 evaluated
  obtain ⟨answered, read, written⟩ := of_decide_eq_true counts
  have reached := installed_reachable.run ran
  refine ⟨state, reached, answered, rollup_never_under_reports reached ?_ answered⟩
  intro leg member found
  refine ⟨leg, member, rfl, found, ⟨read ▸ member, ?_, rfl⟩⟩
  rw [written, List.mem_singleton] at member
  rw [member]
  decide

end UssdGateway
