import Mathlib.Algebra.Group.Nat.Defs
import Mathlib.Algebra.Group.Prod
import UssdGateway.Portal.HistoryFloor
import UssdGateway.Reports.DailyScheduler

/-!
The daily summary page. It groups the rows of the nightly rollup once more, by day and by operator,
shortcode or owner, for those rows that the session's access list and the filters admit.
-/

namespace UssdGateway

open SqlClause Grouping WindowRefresh

inductive SummaryGrouping where
  | date
  | dateOperator
  | dateShortcode
  | dateOwner
deriving DecidableEq

structure SummaryFilters where
  fromDate : String
  toDate : String
  operatorIds : List Int
  shortcodeIds : List Int
  ownerUserId : Option Int

structure ShortcodeName where
  id : Nat
  code : String
  label : Option String
  ownerUserId : Option Nat

structure OwnerName where
  id : Nat
  email : String
  name : String

structure SummaryNames where
  displayName : Nat → String
  shortcodes : List ShortcodeName
  portalUsers : List OwnerName

structure SummaryPlace where
  date : Int
  operator : OperatorRecord
  shortcodeId : Nat
  shortcode : Option ShortcodeName
  owner : Option OwnerName

/-- `JOIN operators`, `LEFT JOIN shortcodes`, `LEFT JOIN portal_users`, each by a primary key. -/
def SummaryNames.place (names : SummaryNames) (operators : OperatorTable)
    (key : Int × Nat × Nat) : Option SummaryPlace :=
  (operators.byId key.2.1).map fun operator =>
    let shortcode := names.shortcodes.find? fun row => decide (row.id = key.2.2)
    { date := key.1
      operator
      shortcodeId := key.2.2
      shortcode
      owner := (shortcode.bind ShortcodeName.ownerUserId).bind fun id =>
        names.portalUsers.find? fun row => decide (row.id = id) }

def joinNames (names : SummaryNames) (operators : OperatorTable) (summary : List SummaryRow) :
    List (SummaryRow × SummaryPlace) :=
  summary.filterMap fun row => (names.place operators row.key).map fun place => (row, place)

abbrev PlaceClause := Builder SqlValue SummaryPlace

def placeColumns : AclColumns SummaryPlace where
  scCol place := some place.shortcodeId
  tsCol := SummaryPlace.date

def dateBetween (pg : PgDates) (fromDate toDate : String) : PlaceClause :=
  joined (· && ·)
    (withValue (.text fromDate) fun value place =>
      match value with
      | some (.text wanted) => decide (pg.date wanted ≤ place.date)
      | _ => false)
    (withValue (.text toDate) fun value place =>
      match value with
      | some (.text wanted) => decide (place.date ≤ pg.date wanted)
      | _ => false)

def placeIdAny (column : SummaryPlace → Option Nat) (ids : List Int) : PlaceClause :=
  withValue (.ids ids) fun value place =>
    match value with
    | some (.ids wanted) => idIn wanted (column place)
    | _ => false

def ownerOf (place : SummaryPlace) : Option Nat := place.shortcode.bind ShortcodeName.ownerUserId

def ownerIs (id : Int) : PlaceClause :=
  withValue (.number id) fun value place =>
    match value with
    | some (.number wanted) => idIn [wanted] (ownerOf place)
    | _ => false

def summaryWhere (pg : PgDates) (filters : SummaryFilters) (acl : ShortcodeAcl) : PlaceClause :=
  allOf [dateBetween pg filters.fromDate filters.toDate,
    onlyIf acl.isSome (aclClause placeColumns .date acl),
    onlyIf (decide (filters.operatorIds ≠ []))
      (placeIdAny (fun place => some place.operator.id) filters.operatorIds),
    onlyIf (decide (filters.shortcodeIds ≠ []))
      (placeIdAny (fun place => some place.shortcodeId) filters.shortcodeIds),
    onlyIf filters.ownerUserId.isSome (ownerIs (filters.ownerUserId.getD 0))]

/-! The groups. -/

def groupLabel (names : SummaryNames) (place : SummaryPlace) :
    SummaryGrouping → Option (String × String)
  | .date => none
  | .dateOperator => some (place.operator.name, names.displayName place.operator.id)
  | .dateShortcode =>
      some ((place.shortcode.map ShortcodeName.code).getD "unmatched",
        (place.shortcode.map fun row =>
          row.code ++ (row.label.map (" · " ++ ·)).getD "").getD "unmatched")
  | .dateOwner =>
      some ((place.owner.map OwnerName.email).getD "unmatched",
        (place.owner.map fun row => row.name ++ " <" ++ row.email ++ ">").getD "unmatched")

abbrev Figures := Nat × Nat × Nat × Int

def SummaryRow.figures (row : SummaryRow) : Figures :=
  (row.sessions, row.legs, row.errors, row.billableUnits)

structure SummaryPageRow where
  date : Int
  group : Option (String × String)
  figures : Figures
deriving DecidableEq

def pageKey (names : SummaryNames) (grouping : SummaryGrouping)
    (entry : SummaryRow × SummaryPlace) : Int × Option (String × String) :=
  (entry.2.date, groupLabel names entry.2 grouping)

def entryFigures (entry : SummaryRow × SummaryPlace) : Figures := entry.1.figures

def pageRow (key : Int × Option (String × String)) (figures : Figures) : SummaryPageRow :=
  { date := key.1, group := key.2, figures }

/-- The result of `GROUP BY`, in no particular order. -/
def summaryGroups (pg : PgDates) (operators : OperatorTable) (names : SummaryNames)
    (summary : List SummaryRow) (filters : SummaryFilters) (acl : ShortcodeAcl)
    (grouping : SummaryGrouping) : List SummaryPageRow :=
  (groupBy (pageKey names grouping)
    (select (onPart Prod.snd (summaryWhere pg filters acl))
      (joinNames names operators summary))).map
        fun group => pageRow group.1 (group.2.map entryFigures).sum

def SummaryPageRow.Before (collate : String → String → Bool) (first second : SummaryPageRow) :
    Prop :=
  second.date < first.date ∨ second.date = first.date ∧
    match first.group, second.group with
    | some one, some two => collate one.1 two.1 = true
    | _, _ => True

def rowLimit (maxRows : Nat) : Nat := max 1 (min maxRows 50000)

/-- What `loadDailySummary` may return: rows that the order does not tell apart come as they
please, also at the limit. -/
def Listed (collate : String → String → Bool) (maxRows : Nat) (groups page : List SummaryPageRow) :
    Prop :=
  ∃ ordered : List SummaryPageRow, ordered.Perm groups ∧
    ordered.Pairwise (SummaryPageRow.Before collate) ∧ page = ordered.take (rowLimit maxRows)

def matchesPlace (pg : PgDates) (filters : SummaryFilters) (acl : ShortcodeAcl)
    (place : SummaryPlace) : Bool :=
  (decide (pg.date filters.fromDate ≤ place.date) &&
      decide (place.date ≤ pg.date filters.toDate)) &&
    ((!acl.isSome || aclAdmits placeColumns .date acl place) &&
      ((!decide (filters.operatorIds ≠ []) || idIn filters.operatorIds (some place.operator.id)) &&
        ((!decide (filters.shortcodeIds ≠ []) ||
            idIn filters.shortcodeIds (some place.shortcodeId)) &&
          ((!filters.ownerUserId.isSome || idIn [filters.ownerUserId.getD 0] (ownerOf place)) &&
            true))))

theorem denotes_summaryWhere (pg : PgDates) (filters : SummaryFilters) (acl : ShortcodeAcl) :
    Denotes (summaryWhere pg filters acl) (matchesPlace pg filters acl) := by
  refine denotes_allOf_cons ?_ (denotes_allOf_cons ?_ (denotes_allOf_cons ?_
    (denotes_allOf_cons ?_ (denotes_allOf_cons ?_ denotes_allOf_nil))))
  · exact denotes_joined _ (denotes_withValue _ _) (denotes_withValue _ _)
  · exact denotes_onlyIf _ (denotes_aclClause acl)
  · exact denotes_onlyIf _ (denotes_withValue _ _)
  · exact denotes_onlyIf _ (denotes_withValue _ _)
  · exact denotes_onlyIf _ (denotes_withValue _ _)

def joinedEntries (pg : PgDates) (operators : OperatorTable) (names : SummaryNames)
    (summary : List SummaryRow) (filters : SummaryFilters) (acl : ShortcodeAcl) :
    List (SummaryRow × SummaryPlace) :=
  (joinNames names operators summary).filter fun entry => matchesPlace pg filters acl entry.2

section

variable {pg : PgDates} {operators : OperatorTable} {names : SummaryNames}
variable {filters : SummaryFilters} {acl : ShortcodeAcl} {grouping : SummaryGrouping}

theorem summaryGroups_eq (summary : List SummaryRow) :
    summaryGroups pg operators names summary filters acl grouping =
      (groupBy (pageKey names grouping)
        (joinedEntries pg operators names summary filters acl)).map
          fun group => pageRow group.1 (group.2.map entryFigures).sum := by
  rw [summaryGroups, select_eq (denotes_onPart _ (denotes_summaryWhere pg filters acl))]
  rfl

theorem filter_joinNames (test : SummaryPlace → Bool) (summary : List SummaryRow) :
    ((joinNames names operators summary).filter fun entry => test entry.2).map Prod.fst =
      summary.filter fun row => (names.place operators row.key).any test := by
  induction summary with
  | nil => rfl
  | cons row rest ih =>
      rw [joinNames] at ih ⊢
      rcases found : names.place operators row.key with _ | place
      · simp [found, ih]
      · rcases passes : test place with _ | _
        · simp [found, passes, ih]
        · simp [found, passes, ih]

theorem place_date {key : Int × Nat × Nat} {place : SummaryPlace}
    (found : names.place operators key = some place) :
    place.date = key.1 ∧ place.shortcodeId = key.2.2 := by
  obtain ⟨operator, _, rfl⟩ := Option.map_eq_some_iff.1 found
  exact ⟨rfl, rfl⟩

/-! Two tables with the same figures by day, operator and shortcode. -/

structure SameFigures (first second : List SummaryRow) : Prop where
  occurs : ∀ key, key ∈ first.map SummaryRow.key ↔ key ∈ second.map SummaryRow.key
  sums : ∀ wanted : Int × Nat × Nat → Bool,
    ((first.filter fun row => wanted row.key).map SummaryRow.figures).sum =
      ((second.filter fun row => wanted row.key).map SummaryRow.figures).sum

theorem SameFigures.groups {first second : List SummaryRow} (same : SameFigures first second) :
    (summaryGroups pg operators names first filters acl grouping).Perm
      (summaryGroups pg operators names second filters acl grouping) := by
  rw [summaryGroups_eq, summaryGroups_eq]
  refine groupBy_sums_perm (fun key => ?_) (fun key => ?_) pageRow
  · have reached : ∀ summary : List SummaryRow,
        key ∈ (joinedEntries pg operators names summary filters acl).map
            (pageKey names grouping) ↔
          ∃ bucket ∈ summary.map SummaryRow.key, ∃ place,
            names.place operators bucket = some place ∧ matchesPlace pg filters acl place = true ∧
              (place.date, groupLabel names place grouping) = key := by
      intro summary
      simp only [joinedEntries, joinNames, List.mem_map, List.mem_filter, List.mem_filterMap,
        Option.map_eq_some_iff]
      constructor
      · rintro ⟨_, ⟨⟨row, present, place, found, rfl⟩, passes⟩, rfl⟩
        exact ⟨row.key, ⟨row, present, rfl⟩, place, found, passes, rfl⟩
      · rintro ⟨_, ⟨row, present, rfl⟩, place, found, passes, rfl⟩
        exact ⟨(row, place), ⟨⟨row, present, place, found, rfl⟩, passes⟩, rfl⟩
    rw [reached, reached]
    simp only [same.occurs]
  · have summed : ∀ summary : List SummaryRow,
        (((joinedEntries pg operators names summary filters acl).filter fun entry =>
            pageKey names grouping entry = key).map entryFigures).sum =
          ((summary.filter fun row => (names.place operators row.key).any fun place =>
            matchesPlace pg filters acl place &&
              decide ((place.date, groupLabel names place grouping) = key)).map
                SummaryRow.figures).sum := by
      intro summary
      rw [← filter_joinNames, joinedEntries, List.filter_filter, List.map_map]
      refine congrArg (fun rows : List (SummaryRow × SummaryPlace) =>
        (rows.map entryFigures).sum) (List.filter_congr fun entry _ => ?_)
      rw [Bool.and_comm]
      rfl
    rw [summed, summed]
    exact same.sums fun bucket => (names.place operators bucket).any fun place =>
      matchesPlace pg filters acl place &&
        decide ((place.date, groupLabel names place grouping) = key)

end

theorem SameFigures.trans {first second third : List SummaryRow} (left : SameFigures first second)
    (right : SameFigures second third) : SameFigures first third :=
  ⟨fun key => (left.occurs key).trans (right.occurs key),
    fun wanted => (left.sums wanted).trans (right.sums wanted)⟩

theorem sameFigures_of_perm {first second : List SummaryRow} (reordered : first.Perm second) :
    SameFigures first second :=
  ⟨fun _ => (reordered.map _).mem_iff, fun _ => ((reordered.filter _).map _).sum_eq⟩

theorem sameFigures_flatMap {α : Type} {items : List α} {first second : α → List SummaryRow}
    (same : ∀ item ∈ items, SameFigures (first item) (second item)) :
    SameFigures (items.flatMap first) (items.flatMap second) := by
  induction items with
  | nil => exact ⟨fun _ => Iff.rfl, fun _ => rfl⟩
  | cons item rest ih =>
      obtain ⟨here, others⟩ := List.forall_mem_cons.1 same
      obtain ⟨occurs, sums⟩ := ih others
      constructor
      · intro key
        simp only [List.flatMap_cons, List.map_append, List.mem_append, here.occurs, occurs]
      · intro wanted
        simp only [List.flatMap_cons, List.filter_append, List.map_append, List.sum_append,
          here.sums, sums]

def soloRow (billed : SessionGroup × OperatorRecord) : SummaryRow :=
  summaryRow (bucket billed, [billed])

def rollupSessions (zone : Int) (operators : OperatorTable) (legs : List LegRecord) :
    List (SessionGroup × OperatorRecord) :=
  joinOperators operators (keptGroups (groupsOf zone legs))

theorem figures_summaryRow (key : Int × Nat × Nat)
    (members : List (SessionGroup × OperatorRecord)) :
    (summaryRow (key, members)).figures =
      (members.map fun billed => (soloRow billed).figures).sum := by
  induction members with
  | nil => rfl
  | cons billed rest ih =>
      rw [List.map_cons, List.sum_cons, ← ih]
      simp only [SummaryRow.figures, soloRow, summaryRow, List.length_cons, List.map_cons,
        List.sum_cons, List.countP_cons, List.length_nil, List.map_nil, List.sum_nil,
        List.countP_nil, Prod.mk_add_mk, Prod.mk.injEq]
      omega

theorem rollup_sameFigures (zone : Int) (operators : OperatorTable) (legs : List LegRecord) :
    SameFigures (rollup zone operators legs)
      ((rollupSessions zone operators legs).map soloRow) := by
  have rows : rollup zone operators legs =
      (groupBy bucket (rollupSessions zone operators legs)).map summaryRow := rfl
  constructor
  · intro key
    rw [rows, List.map_map, List.map_map]
    have left : SummaryRow.key ∘ summaryRow = Prod.fst := rfl
    have right : SummaryRow.key ∘ soloRow = bucket := rfl
    rw [left, right, map_fst_groupBy, List.mem_dedup]
  · intro wanted
    rw [rows, List.filter_map, List.filter_map, List.map_map, List.map_map]
    have groups := groupBy_filter bucket (rollupSessions zone operators legs) wanted
    have kept : (groupBy bucket (rollupSessions zone operators legs)).filter
        ((fun row => wanted row.key) ∘ summaryRow) =
          groupBy bucket ((rollupSessions zone operators legs).filter
            fun billed => wanted (bucket billed)) := groups.symm
    rw [kept, ← sum_groupBy bucket]
    refine congrArg List.sum (List.map_congr_left fun group _ => ?_)
    exact figures_summaryRow group.1 group.2

section

variable {ids : List Nat} {state after : DailyState ids} {fireTime : Int}

def DailyState.billedSessions (state : DailyState ids) : List (SessionGroup × OperatorRecord) :=
  state.rolledUp.flatMap fun rolled =>
    rollupSessions 0 rolled.2 (legsOfDays 0 rolled.1 rolled.1 state.legs)

/-- The rollup that was never aggregated: one row a session. -/
def DailyState.sessionRows (state : DailyState ids) : List SummaryRow :=
  state.billedSessions.map soloRow

def DailyState.DaysOnce (state : DailyState ids) : Prop := (state.rolledUp.map Prod.fst).Nodup

theorem DailyState.DaysOnce.step (once : state.DaysOnce) {event : DailyEvent ids}
    (stepped : state.step fireTime event = some after) : after.DaysOnce := by
  have stores : ∀ {event : PartitionEvent (KnownLeg ids)} {after : DailyState ids},
      state.stored event = some after → after.DaysOnce := by
    intro event after stored
    obtain ⟨_, _, rfl⟩ := Option.map_eq_some_iff.1 stored
    exact once
  cases event with
  | elapsed micros => exact stores stepped
  | logged leg => exact stores (Option.ite_none_right_eq_some.1 stepped).2
  | edited id form =>
      obtain rfl := Option.some.inj stepped
      rw [DailyState.actionUpdateOperator]
      split <;> exact once
  | planned =>
      rw [DailyState.step] at stepped
      split at stepped <;> cases stepped
      exact once
  | woke connected =>
      rw [DailyState.step] at stepped
      split at stepped
      · obtain ⟨_, moved⟩ := Option.ite_none_right_eq_some.1 stepped
        cases moved
        exact once
      · cases stepped
  | performed faults =>
      rw [DailyState.step] at stepped
      split at stepped
      next target task rest ticking =>
        obtain ⟨middle, performed, rfl⟩ := Option.map_eq_some_iff.1 stepped
        cases task with
        | refreshYesterday =>
            obtain rfl := Option.some.inj performed
            refine List.nodup_cons.2 ⟨?_, once.sublist (List.filter_sublist.map _)⟩
            rintro member
            obtain ⟨rolled, kept, same⟩ := List.mem_map.1 member
            exact of_decide_eq_true (List.mem_filter.1 kept).2 same
        | ensureWeekly =>
            have kept : middle.DaysOnce := stores performed
            exact kept
        | archiveOld =>
            have kept : middle.DaysOnce := stores performed
            exact kept
      · cases stepped
  | failed =>
      rw [DailyState.step] at stepped
      split at stepped <;> cases stepped
      exact once
  | restarted =>
      obtain rfl := Option.some.inj stepped
      exact once

theorem daysOnce_of_reachable (reached : (dailyRuns fireTime ids).Reachable state) :
    state.DaysOnce := by
  refine reached.invariant ?_ fun _ _ _ once stepped => once.step stepped
  rintro start ⟨_, _, _, _, _, _, noDays, _⟩
  rw [DailyState.DaysOnce, noDays]
  exact List.nodup_nil

/-- The summary is the bills of the days that were rolled up, one after the other. -/
theorem summary_perm (reached : (dailyRuns fireTime ids).Reachable state) :
    state.dailySessionSummary.Perm (state.rolledUp.flatMap fun rolled =>
      rollup 0 rolled.2 (legsOfDays 0 rolled.1 rolled.1 state.legs)) := by
  have billed : state.Billed :=
    reached.invariant (fun _ initial => billed_of_initial initial)
      fun _ _ _ billed stepped => billed.step stepped
  have covered : ∀ row ∈ state.dailySessionSummary, row.date ∈ state.rolledUp.map Prod.fst := by
    intro row member
    obtain ⟨rolled, present, same⟩ := billed.others row member
    exact List.mem_map.2 ⟨rolled, present, same⟩
  refine (perm_flatMap_key (daysOnce_of_reachable reached) covered).trans ?_
  rw [List.flatMap_map]
  refine List.Perm.flatMap_left _ fun rolled present => ?_
  have day : (state.dailySessionSummary.filter fun row => decide (row.date = rolled.1)) =
      rowsOfDays rolled.1 rolled.1 state.dailySessionSummary := by
    refine List.filter_congr fun row _ => ?_
    rw [dayWithin, ← Bool.decide_and, decide_eq_decide]
    omega
  rw [day]
  exact billed.bills rolled present

theorem summary_sameFigures (reached : (dailyRuns fireTime ids).Reachable state) :
    SameFigures state.dailySessionSummary state.sessionRows := by
  refine (sameFigures_of_perm (summary_perm reached)).trans ?_
  rw [DailyState.sessionRows, DailyState.billedSessions, List.map_flatMap]
  exact sameFigures_flatMap fun rolled _ => rollup_sameFigures 0 rolled.2 _

/-! What a restricted session sees is made of legs it may read. -/

def LegRecord.bucketKey (zone : Int) (leg : LegRecord) : Int × Nat × Nat :=
  (localDate zone leg.ts, leg.operatorId, leg.shortcodeId.getD 0)

theorem groupsOf_filter_bucket (zone : Int) (legs : List LegRecord)
    (wanted : Int × Nat × Nat → Bool) :
    groupsOf zone (legs.filter fun leg => wanted (leg.bucketKey zone)) =
      (groupsOf zone legs).filter fun group =>
        wanted (group.key.date, group.key.operatorId, group.key.shortcodeId) := by
  have grouped := groupBy_filter (LegRecord.groupKey zone) legs fun key =>
    wanted (key.date, key.operatorId, key.shortcodeId)
  rw [groupsOf, groupsOf, List.filter_map]
  exact congrArg _ grouped

theorem keptGroups_filter_bucket (groups : List SessionGroup) {wanted : Int × Nat × Nat → Bool}
    (matched : ∀ key, wanted key = true → key.2.2 ≠ 0) :
    keptGroups (groups.filter fun group =>
        wanted (group.key.date, group.key.operatorId, group.key.shortcodeId)) =
      (keptGroups groups).filter fun group =>
        wanted (group.key.date, group.key.operatorId, group.key.shortcodeId) := by
  simp only [keptGroups, List.filter_filter]
  refine List.filter_congr fun group _ => ?_
  rcases inside : wanted (group.key.date, group.key.operatorId, group.key.shortcodeId) with _ | _
  · rw [Bool.and_false, Bool.false_and]
  · rw [decide_eq_true (matched _ inside), Bool.true_or, Bool.true_or]

theorem rollup_filter_bucket (zone : Int) (operators : OperatorTable) (legs : List LegRecord)
    {wanted : Int × Nat × Nat → Bool} (matched : ∀ key, wanted key = true → key.2.2 ≠ 0) :
    rollup zone operators (legs.filter fun leg => wanted (leg.bucketKey zone)) =
      (rollup zone operators legs).filter fun row => wanted row.key := by
  have grouped := groupBy_filter bucket
    (joinOperators operators (keptGroups (groupsOf zone legs))) wanted
  rw [rollup, rollup, groupsOf_filter_bucket, keptGroups_filter_bucket _ matched,
    joinOperators_filter _ _ fun group =>
      wanted (group.key.date, group.key.operatorId, group.key.shortcodeId), List.filter_map]
  exact congrArg _ grouped

def keyColumns : AclColumns (Int × Nat × Nat) where
  scCol key := some key.2.2
  tsCol := Prod.fst

theorem visible_of_admitted {grants : List ShortcodeGrant}
    (positive : ∀ grant ∈ grants, 0 < grant.id) {leg : LegRecord}
    (admitted : aclAdmits keyColumns .date (some grants) (leg.bucketKey 0) = true) :
    aclAdmits legColumns .ts (some grants) leg = true := by
  obtain ⟨grant, granted, admits⟩ := List.any_eq_true.1 admitted
  obtain ⟨own, late⟩ := Bool.and_eq_true_iff.1 admits
  refine List.any_eq_true.2 ⟨grant, granted, Bool.and_eq_true_iff.2 ⟨decide_eq_true ?_, ?_⟩⟩
  · have same : leg.shortcodeId.getD 0 = grant.id := Option.some.inj (of_decide_eq_true own)
    have known := positive grant granted
    rcases code : leg.shortcodeId with _ | id
    · rw [code, Option.getD_none] at same
      omega
    · rw [code, Option.getD_some] at same
      exact code.trans (congrArg some same)
  · rw [fromFloor, Bool.or_eq_true_iff] at late ⊢
    refine late.imp_right fun late => decide_eq_true ?_
    refine ceilToLocalDate_le (le_trans (of_decide_eq_true late) ?_)
    exact Int.ediv_le_ediv (by decide) (Int.add_le_add_left (by decide) _)

/-- The legs that a session with these grants may read. Floors count from where the clock of the
log does. -/
def readableLegs (grants : List ShortcodeGrant) (legs : List LegRecord) : List LegRecord :=
  legs.filter (aclAdmits legColumns .ts (some grants))

def admittedRows (grants : List ShortcodeGrant) (summary : List SummaryRow) : List SummaryRow :=
  summary.filter fun row => aclAdmits keyColumns .date (some grants) row.key

theorem admittedRows_rollup {grants : List ShortcodeGrant}
    (positive : ∀ grant ∈ grants, 0 < grant.id) (operators : OperatorTable) (day : Int)
    (legs : List LegRecord) :
    admittedRows grants (rollup 0 operators (legsOfDays 0 day day legs)) =
      admittedRows grants
        (rollup 0 operators (legsOfDays 0 day day (readableLegs grants legs))) := by
  have matched : ∀ key : Int × Nat × Nat,
      aclAdmits keyColumns .date (some grants) key = true → key.2.2 ≠ 0 := by
    intro key admitted
    obtain ⟨grant, granted, admits⟩ := List.any_eq_true.1 admitted
    have same : key.2.2 = grant.id :=
      Option.some.inj (of_decide_eq_true (Bool.and_eq_true_iff.1 admits).1)
    have known := positive grant granted
    omega
  rw [admittedRows, admittedRows, ← rollup_filter_bucket _ _ _ matched,
    ← rollup_filter_bucket _ _ _ matched]
  refine congrArg _ ?_
  simp only [legsOfDays, readableLegs, List.filter_filter]
  refine List.filter_congr fun leg _ => ?_
  rcases admitted : aclAdmits keyColumns .date (some grants) (leg.bucketKey 0) with _ | _
  · rw [Bool.false_and, Bool.false_and]
  · rw [visible_of_admitted positive admitted, Bool.and_true]

theorem joinedEntries_admitted {pg : PgDates} {operators : OperatorTable} {names : SummaryNames}
    {filters : SummaryFilters} (grants : List ShortcodeGrant) (summary : List SummaryRow) :
    joinedEntries pg operators names (admittedRows grants summary) filters (some grants) =
      joinedEntries pg operators names summary filters (some grants) := by
  simp only [joinedEntries, joinNames, admittedRows, List.filter_filterMap, List.filterMap_filter]
  refine List.filterMap_congr fun row _ => ?_
  rcases found : names.place operators row.key with _ | place
  · split <;> rfl
  · obtain ⟨day, code⟩ := place_date found
    have same : aclAdmits placeColumns .date (some grants) place =
        aclAdmits keyColumns .date (some grants) row.key := by
      simp only [aclAdmits, fromFloor, placeColumns, keyColumns, day, code]
      rfl
    split
    · rfl
    next out =>
      have refused : matchesPlace pg filters (some grants) place = false := by
        rw [matchesPlace, same, Bool.eq_false_iff.2 out]
        simp
      rw [Option.map_some, Option.filter_some, refused]
      rfl

theorem summaryGroups_perm {pg : PgDates} {operators : OperatorTable} {names : SummaryNames}
    {filters : SummaryFilters} {grouping : SummaryGrouping} {grants : List ShortcodeGrant}
    {first second : List SummaryRow}
    (same : (admittedRows grants first).Perm (admittedRows grants second)) :
    (summaryGroups pg operators names first filters (some grants) grouping).Perm
      (summaryGroups pg operators names second filters (some grants) grouping) := by
  rw [summaryGroups_eq, summaryGroups_eq, ← joinedEntries_admitted grants first,
    ← joinedEntries_admitted grants second]
  refine groupBy_map_perm ?_ ((same.filterMap _).filter _)
  intro key members members' reordered
  rw [(reordered.map entryFigures).sum_eq]

theorem Listed.of_perm {collate : String → String → Bool} {maxRows : Nat}
    {groups groups' page : List SummaryPageRow} (listed : Listed collate maxRows groups page)
    (same : groups.Perm groups') : Listed collate maxRows groups' page := by
  obtain ⟨ordered, reordered, sorted, taken⟩ := listed
  exact ⟨ordered, reordered.trans same, sorted, taken⟩

theorem DailyState.admitted_perm {first second : DailyState ids} {early late : Int}
    (firstReached : (dailyRuns early ids).Reachable first)
    (secondReached : (dailyRuns late ids).Reachable second) {grants : List ShortcodeGrant}
    (positive : ∀ grant ∈ grants, 0 < grant.id) (rolled : second.rolledUp.Perm first.rolledUp)
    (readable : (readableLegs grants second.legs).Perm (readableLegs grants first.legs)) :
    (admittedRows grants second.dailySessionSummary).Perm
      (admittedRows grants first.dailySessionSummary) := by
  have bills : ∀ {state : DailyState ids} {fireTime : Int},
      (dailyRuns fireTime ids).Reachable state →
        (admittedRows grants state.dailySessionSummary).Perm
          (state.rolledUp.flatMap fun rolled => admittedRows grants
            (rollup 0 rolled.2 (legsOfDays 0 rolled.1 rolled.1
              (readableLegs grants state.legs)))) := by
    intro state fireTime reached
    refine ((summary_perm reached).filter _).trans (List.Perm.of_eq ?_)
    rw [List.filter_flatMap]
    exact List.flatMap_congr fun rolled _ => admittedRows_rollup positive rolled.2 rolled.1 _
  refine (bills secondReached).trans (.trans ?_ (bills firstReached).symm)
  refine (rolled.flatMap_right _).trans (List.Perm.flatMap_left _ fun day _ => ?_)
  exact (rollup_perm 0 day.2 (readable.filter _)).filter _

def rivalLeg : KnownLeg [1] :=
  ⟨{ juneLeg.1 with id := 2, shortcodeId := some 20, sessionId := "V2" }, by decide⟩

def rivalNovember : DailyState [1] :=
  ((dailyRuns 7200000000 [1]).run juneScheduler (.logged rivalLeg :: summerOfBills)).getD
    juneScheduler

def summerDates : PgDates where
  zone := 0
  timestamptz _ := 0
  date text := if text = "2026-06-01" then 740073 else 740255

def summerNames : SummaryNames where
  displayName _ := "Vodacom"
  shortcodes := [⟨10, "*149*01#", none, some 7⟩, ⟨20, "*149*02#", none, some 8⟩]
  portalUsers := [⟨7, "owner@example.org", "Owner"⟩]

def summerFilters : SummaryFilters where
  fromDate := "2026-06-01"
  toDate := "2026-11-30"
  operatorIds := []
  shortcodeIds := []
  ownerUserId := none

theorem OperatorTable.eq_of_rows {first second : OperatorTable} (same : first.rows = second.rows) :
    first = second := by
  cases first
  cases second
  cases same
  rfl

theorem rolled_eq_of_rows {first second : List (Int × OperatorTable)}
    (same : (first.map fun rolled => (rolled.1, rolled.2.rows)) =
      second.map fun rolled => (rolled.1, rolled.2.rows)) : first = second := by
  refine List.map_injective_iff.2 ?_ same
  rintro ⟨day, operators⟩ ⟨day', operators'⟩ equal
  obtain ⟨days, rows⟩ := Prod.mk.inj equal
  exact Prod.ext days (OperatorTable.eq_of_rows rows)

theorem november_ran (events : List (DailyEvent [1]))
    (goes : ((dailyRuns 7200000000 [1]).run juneScheduler events).isSome) :
    (dailyRuns 7200000000 [1]).Reachable
      (((dailyRuns 7200000000 [1]).run juneScheduler events).getD juneScheduler) := by
  obtain ⟨last, found⟩ := Option.isSome_iff_exists.1 goes
  rw [found, Option.getD_some]
  exact (StepSystem.ReachableBy.start juneScheduler_initial).run (fun _ _ => trivial) found

theorem SameFigures.entries {pg : PgDates} {operators : OperatorTable} {names : SummaryNames}
    {filters : SummaryFilters} {acl : ShortcodeAcl} {first second : List SummaryRow}
    (same : SameFigures first second) :
    ((joinedEntries pg operators names first filters acl).map entryFigures).sum =
      ((joinedEntries pg operators names second filters acl).map entryFigures).sum := by
  have summed : ∀ summary : List SummaryRow,
      (joinedEntries pg operators names summary filters acl).map entryFigures =
        (summary.filter fun row =>
          (names.place operators row.key).any (matchesPlace pg filters acl)).map
            SummaryRow.figures := by
    intro summary
    rw [← filter_joinNames, List.map_map]
    rfl
  rw [summed, summed]
  exact same.sums fun key => (names.place operators key).any (matchesPlace pg filters acl)

theorem Listed.sum_figures {collate : String → String → Bool} {maxRows : Nat}
    {groups page : List SummaryPageRow} (listed : Listed collate maxRows groups page)
    (short : page.length < rowLimit maxRows) :
    (page.map SummaryPageRow.figures).sum = (groups.map SummaryPageRow.figures).sum := by
  obtain ⟨ordered, reordered, _, rfl⟩ := listed
  rw [List.length_take] at short
  rw [List.take_of_length_le (by omega)]
  exact (reordered.map _).sum_eq

/-- The page that reads the rollup is the page that would group the sessions themselves, and when
the limit does not cut it, its columns add up to the same figures under every grouping. -/
theorem summary_of_sessions (reached : (dailyRuns fireTime ids).Reachable state)
    (collate : String → String → Bool) (pg : PgDates) (names : SummaryNames)
    (filters : SummaryFilters) (acl : ShortcodeAcl) (grouping : SummaryGrouping) (maxRows : Nat)
    (page : List SummaryPageRow) :
    (Listed collate maxRows (summaryGroups pg state.operators names state.dailySessionSummary
        filters acl grouping) page ↔
      Listed collate maxRows (summaryGroups pg state.operators names state.sessionRows
        filters acl grouping) page) ∧
      (Listed collate maxRows (summaryGroups pg state.operators names state.dailySessionSummary
          filters acl grouping) page → page.length < rowLimit maxRows →
        (page.map SummaryPageRow.figures).sum =
          ((joinedEntries pg state.operators names state.sessionRows filters acl).map
            entryFigures).sum) := by
  have figures := summary_sameFigures reached
  have same := @SameFigures.groups pg state.operators names filters acl grouping _ _ figures
  refine ⟨⟨fun listed => listed.of_perm same, fun listed => listed.of_perm same.symm⟩, ?_⟩
  intro listed short
  rw [listed.sum_figures short, summaryGroups_eq, List.map_map, ← figures.entries,
    ← sum_groupBy (pageKey names grouping)]
  rfl

theorem rival_november_adds_up :
    (([⟨740080, some ("*149*01#", "*149*01#"), (1, 1, 0, 1)⟩,
        ⟨740080, some ("*149*02#", "*149*02#"), (1, 1, 0, 1)⟩] : List SummaryPageRow).map
          SummaryPageRow.figures).sum =
      ((joinedEntries summerDates rivalNovember.operators summerNames rivalNovember.sessionRows
        summerFilters none).map entryFigures).sum := by
  refine (summary_of_sessions (november_ran (.logged rivalLeg :: summerOfBills)
    (by decide +kernel)) (fun one two => decide (one ≤ two)) summerDates summerNames summerFilters
    none .dateShortcode 5000 _).2 ?_ (by decide)
  refine ⟨[⟨740080, some ("*149*01#", "*149*01#"), (1, 1, 0, 1)⟩,
    ⟨740080, some ("*149*02#", "*149*02#"), (1, 1, 0, 1)⟩], ?_, ?_, rfl⟩
  · decide +kernel
  · exact List.pairwise_pair.2 (.inr ⟨rfl, by decide +kernel⟩)

end

end UssdGateway
