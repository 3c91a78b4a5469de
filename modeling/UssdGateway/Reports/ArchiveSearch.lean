import UssdGateway.Reports.DailyScheduler
import UssdGateway.Reports.Filters

/-!
The archive page. A day goes to the archive with all its legs or stays in the live table with all
of them, so that what a search shows of a day it shows whole.
-/

namespace UssdGateway

open SqlClause

structure ArchiveFilters where
  fromDate : String
  toDate : String
  msisdn : Option String
  sessionId : Option String
  shortcodeId : Option Int
  operatorName : Option String

def archiveRowCap : Nat := 500

structure ArchiveResult where
  rows : List LegRecord
  capped : Bool

def archiveFrom (pg : PgDates) (text : String) : LegClause :=
  withValue (.text text) fun value leg =>
    match value with
    | some (.text wanted) => decide (midnight pg.zone (pg.date wanted) ≤ leg.ts)
    | _ => false

def shortcodeIs (id : Int) : LegClause :=
  withValue (.number id) fun value leg =>
    match value with
    | some (.number wanted) => idIn [wanted] leg.shortcodeId
    | _ => false

def pickedShortcode (filters : ArchiveFilters) : Option Int :=
  filters.shortcodeId.filter fun id => decide (id ≠ 0)

def archiveWhere (pg : PgDates) (filters : ArchiveFilters) : LegClause :=
  allOf [archiveFrom pg filters.fromDate, tsTo pg 0 filters.toDate,
    onlyIf (truthy filters.msisdn) (textIs (fun leg => leg.msisdn) (filters.msisdn.getD "")),
    onlyIf (truthy filters.sessionId)
      (textIs (fun leg => some leg.sessionId) (filters.sessionId.getD "")),
    onlyIf (pickedShortcode filters).isSome (shortcodeIs ((pickedShortcode filters).getD 0)),
    onlyIf (truthy filters.operatorName)
      (textIs (fun leg => some leg.operatorName) (filters.operatorName.getD ""))]

/-- The range is checked before the archive is read. `utcMidnight` is `Date.parse` of the date at
midnight, in milliseconds. -/
def checkWindow (utcMidnight : String → Option Int) (maxWindowDays : Int)
    (filters : ArchiveFilters) : Except String Unit :=
  match utcMidnight filters.fromDate, utcMidnight filters.toDate with
  | some first, some last =>
      if last < first then .error "invalid date range"
      else if maxWindowDays * 86400000 < last - first + 86400000 then
        .error ("date range too wide — the archive is unindexed, so searches are limited to " ++
          toString maxWindowDays ++ " days at a time")
      else .ok ()
  | _, _ => .error "invalid date range"

/-- One row more than is shown tells that there are more. -/
def capRows (rows : List LegRecord) : ArchiveResult :=
  let capped := decide (archiveRowCap < rows.length)
  { rows := if capped then rows.take archiveRowCap else rows, capped }

/-- What `searchArchive` may come to over these rows of the archive, `ORDER BY ts DESC`. -/
def Searches (utcMidnight : String → Option Int) (maxWindowDays : Int) (pg : PgDates)
    (archived : List LegRecord) (filters : ArchiveFilters)
    (result : Except String ArchiveResult) : Prop :=
  match checkWindow utcMidnight maxWindowDays filters with
  | .error error => result = .error error
  | .ok () => ∃ ordered : List LegRecord, ordered.Perm (select (archiveWhere pg filters) archived) ∧
      ordered.Pairwise (fun first second => second.ts ≤ first.ts) ∧
        result = .ok (capRows (ordered.take (archiveRowCap + 1)))

def matchesArchived (pg : PgDates) (filters : ArchiveFilters) (leg : LegRecord) : Bool :=
  decide (midnight pg.zone (pg.date filters.fromDate) ≤ leg.ts) &&
    (decide (leg.ts < midnight pg.zone (pg.date filters.toDate + 1) + 0) &&
      ((!truthy filters.msisdn || decide (leg.msisdn = some (filters.msisdn.getD ""))) &&
        ((!truthy filters.sessionId ||
            decide (some leg.sessionId = some (filters.sessionId.getD ""))) &&
          ((!(pickedShortcode filters).isSome ||
              idIn [(pickedShortcode filters).getD 0] leg.shortcodeId) &&
            ((!truthy filters.operatorName ||
                decide (some leg.operatorName = some (filters.operatorName.getD ""))) && true)))))

theorem denotes_archiveWhere (pg : PgDates) (filters : ArchiveFilters) :
    Denotes (archiveWhere pg filters) (matchesArchived pg filters) := by
  refine denotes_allOf_cons ?_ (denotes_allOf_cons ?_ (denotes_allOf_cons ?_
    (denotes_allOf_cons ?_ (denotes_allOf_cons ?_ (denotes_allOf_cons ?_ denotes_allOf_nil)))))
  · exact denotes_withValue _ _
  · exact denotes_withValue _ _
  · exact denotes_onlyIf _ (denotes_textIs _ _)
  · exact denotes_onlyIf _ (denotes_textIs _ _)
  · exact denotes_onlyIf _ (denotes_withValue _ _)
  · exact denotes_onlyIf _ (denotes_textIs _ _)

theorem Searches.uncapped {utcMidnight : String → Option Int} {maxWindowDays : Int} {pg : PgDates}
    {archived : List LegRecord} {filters : ArchiveFilters} {result : ArchiveResult}
    (searches : Searches utcMidnight maxWindowDays pg archived filters (.ok result))
    (whole : result.capped = false) :
    result.rows.Perm (archived.filter (matchesArchived pg filters)) := by
  rw [Searches] at searches
  split at searches
  · cases searches
  · obtain ⟨ordered, reordered, _, same⟩ := searches
    obtain rfl := Except.ok.inj same
    rw [select_eq (denotes_archiveWhere pg filters)] at reordered
    have short : ¬ archiveRowCap < (ordered.take (archiveRowCap + 1)).length :=
      of_decide_eq_false whole
    have all : ordered.take (archiveRowCap + 1) = ordered := by
      refine List.take_of_length_le ?_
      rw [List.length_take] at short
      omega
    rw [capRows, all]
    rw [all] at short
    simpa [short] using reordered

/-! Days are archived whole. -/

section

variable {ρ : Type} {ts : ρ → Int} {catalog : Catalog ρ} {store after : LogStore ρ}

def Catalog.DaysApart (ts : ρ → Int) (catalog : Catalog ρ) : Prop :=
  ∀ old ∈ catalog.archivedRows, ∀ row ∈ catalog.current,
    localDate 0 (ts old) ≠ localDate 0 (ts row)

theorem Partition.Spans.contains_day {part : Partition ρ} {lower upper first second : Int}
    (spans : part.Spans lower upper) (same : localDate 0 first = localDate 0 second)
    (inside : part.bound.contains first = true) : part.bound.contains second = true := by
  rw [spans.contains_iff] at inside ⊢
  simp only [dayStart, localDate, dayMicros] at inside same ⊢
  omega

theorem Catalog.Ranged.same_part (ranged : catalog.Ranged) {part other : Partition ρ}
    (listed : part ∈ catalog.live) (listed' : other ∈ catalog.live) {instant : Int}
    (inside : part.bound.contains instant = true)
    (inside' : other.bound.contains instant = true) : part = other := by
  by_contra different
  have symmetric : Std.Symm fun first second : Partition ρ => ∀ instant,
      ¬ (first.bound.contains instant = true ∧ second.bound.contains instant = true) :=
    ⟨fun _ _ never instant both => never instant ⟨both.2, both.1⟩⟩
  exact ranged.disjoint.forall listed listed' different instant ⟨inside, inside'⟩

theorem archived_apart (sound : store.Sound) (filed : store.catalog.Filed ts)
    (apart : store.catalog.DaysApart ts) (faults : Str → Faults) (daysToKeep : Int) :
    (archiveOldSessionLogPartitions faults store.now daysToKeep
      store.catalog).catalog.DaysApart ts := by
  obtain ⟨moves, between, _⟩ := archive_moves faults store.now daysToKeep sound.ranged.settled
  have stays : ∀ row ∈ (archiveOldSessionLogPartitions faults store.now daysToKeep
      store.catalog).catalog.current, (∃ part ∈ store.catalog.live, row ∈ part.rows ∧
        ∀ move ∈ moves, move.1.name ≠ part.name) ∨ row ∈ store.catalog.defaultRows := by
    intro row member
    rw [Catalog.current, between.live, between.defaultRows, List.mem_append] at member
    refine member.imp_left fun live => ?_
    obtain ⟨part, kept, inside⟩ := List.mem_flatMap.1 live
    obtain ⟨listed, named⟩ := List.mem_filter.1 kept
    refine ⟨part, listed, inside, fun move moved same => of_decide_eq_true named ?_⟩
    exact List.mem_map.2 ⟨move, moved, same⟩
  intro old archived row member sameDay
  rw [Catalog.archivedRows, between.archive, List.flatMap_append, List.mem_append] at archived
  rcases archived with before | moved
  · refine apart old before row ?_ sameDay
    rw [Catalog.current, List.mem_append]
    refine (stays row member).imp_left ?_
    rintro ⟨part, listed, inside, _⟩
    exact List.mem_flatMap.2 ⟨part, listed, inside⟩
  · rw [List.flatMap_map] at moved
    obtain ⟨move, listed, held⟩ := List.mem_flatMap.1 moved
    have live := (between.expired move listed).1
    obtain ⟨lower, upper, spans⟩ := sound.ranged.spans move.1 live
    have contains := spans.contains_day sameDay (filed.live move.1 live old held)
    rcases stays row member with ⟨part, present, inside, others⟩ | defaults
    · have same := sound.ranged.same_part live present contains
        (filed.live part present row inside)
      exact others move listed (by rw [same])
    · exact filed.defaults row defaults ⟨move.1, live, contains⟩

theorem Retained.apart {before after : Catalog ρ} {added : List ρ} {horizon : Int}
    (retained : Retained ts horizon before after added [] []) (apart : before.DaysApart ts)
    (fresh : ∀ row ∈ added, ∀ old ∈ before.archivedRows,
      localDate 0 (ts old) ≠ localDate 0 (ts row)) : after.DaysApart ts := by
  intro old archived row member
  have before : old ∈ before.archivedRows := by
    have inside := retained.archived.mem_iff.1 archived
    rwa [List.append_nil] at inside
  have current := retained.current.mem_iff.1 (List.mem_append_left _ member)
  rcases List.mem_append.1 current with was | new
  · exact apart old before row was
  · exact fresh row new old before

end

section

variable {ids : List Nat} {start state after last : DailyState ids} {fireTime : Int}

theorem DailyState.Kept.stored_apart (kept : state.Kept)
    (apart : state.store.catalog.DaysApart knownTs) {event : PartitionEvent (KnownLeg ids)}
    (dropless : event.isDrop = false) (fresh : ∀ leg ∈ event.added, leg.1.ts = state.store.now)
    (stepped : state.stored event = some after) : after.store.catalog.DaysApart knownTs := by
  obtain ⟨store, moved, rfl⟩ := Option.map_eq_some_iff.1 stepped
  cases event with
  | elapsed micros =>
      rw [LogStore.step] at moved
      split at moved
      · cases moved
      · obtain rfl := Option.some.inj moved
        exact apart
  | inserted leg =>
      obtain rfl := Option.some.inj moved
      refine (kept.sound.ranged.inserted_retained leg 0).apart apart fun row new old archived => ?_
      have now := fresh row new
      have early := kept.old old archived
      simp only [knownTs, localDate, now, dayMicros] at early ⊢
      omega
  | ensured generation ahead =>
      rw [LogStore.step] at moved
      split at moved
      · cases moved
      · obtain rfl := Option.some.inj moved
        exact (ensured_retained 0 kept.filed).1.apart apart
          fun _ member => absurd member List.not_mem_nil
  | dropped daysToKeep => cases dropless
  | archived daysToKeep faults =>
      obtain rfl := Option.some.inj moved
      exact archived_apart kept.sound kept.filed apart faults daysToKeep

theorem DailyState.step_store {event : DailyEvent ids}
    (stepped : state.step fireTime event = some after) :
    after.store = state.store ∨ ∃ stored between, state.stored stored = some between ∧
      between.store = after.store ∧ stored.isDrop = false ∧
        ∀ leg ∈ stored.added, leg.1.ts = state.store.now := by
  have none : ∀ leg ∈ ([] : List (KnownLeg ids)), leg.1.ts = state.store.now :=
    fun _ member => absurd member List.not_mem_nil
  cases event with
  | elapsed micros => exact .inr ⟨_, _, stepped, rfl, rfl, none⟩
  | logged leg =>
      obtain ⟨now, stepped⟩ := Option.ite_none_right_eq_some.1 stepped
      refine .inr ⟨_, _, stepped, rfl, rfl, fun other member => ?_⟩
      rw [List.mem_singleton.1 member]
      exact now
  | edited id form =>
      obtain rfl := Option.some.inj stepped
      rw [DailyState.actionUpdateOperator]
      split <;> exact .inl rfl
  | planned =>
      rw [DailyState.step] at stepped
      split at stepped <;> cases stepped
      exact .inl rfl
  | woke connected =>
      rw [DailyState.step] at stepped
      split at stepped
      · obtain ⟨_, moved⟩ := Option.ite_none_right_eq_some.1 stepped
        cases moved
        exact .inl rfl
      · cases stepped
  | performed faults =>
      rw [DailyState.step] at stepped
      split at stepped
      next target task rest ticking =>
        obtain ⟨middle, performed, rfl⟩ := Option.map_eq_some_iff.1 stepped
        cases task with
        | refreshYesterday =>
            obtain rfl := Option.some.inj performed
            exact .inl rfl
        | ensureWeekly => exact .inr ⟨_, _, performed, rfl, rfl, none⟩
        | archiveOld => exact .inr ⟨_, _, performed, rfl, rfl, none⟩
      · cases stepped
  | failed =>
      rw [DailyState.step] at stepped
      split at stepped <;> cases stepped
      exact .inl rfl
  | restarted =>
      obtain rfl := Option.some.inj stepped
      exact .inl rfl

theorem DailyState.run_apart {events : List (DailyEvent ids)} (billed : start.Billed)
    (apart : start.store.catalog.DaysApart knownTs)
    (ran : (dailyRuns fireTime ids).run start events = some last) :
    last.Billed ∧ last.store.catalog.DaysApart knownTs := by
  induction events generalizing start with
  | nil =>
      obtain rfl := Option.some.inj ran
      exact ⟨billed, apart⟩
  | cons event rest ih =>
      obtain ⟨middle, stepped, ran⟩ := Option.bind_eq_some_iff.1 ran
      refine ih (billed.step stepped) ?_ ran
      rcases DailyState.step_store stepped with same | ⟨_, _, stored, same, dropless, fresh⟩
      · rwa [same]
      · rw [← same]
        exact billed.toKept.stored_apart apart dropless fresh stored

/-- In every run of the scheduler from a log whose days are not split, a search that is not cut
shows of each day nothing, and the reports have all its legs, or it shows all the legs of the day
that the filters ask for, and the reports have none of them: then the day is 120 days back. -/
theorem search_shows_whole_days {events : List (DailyEvent ids)}
    (initial : (dailyRuns fireTime ids).initial start)
    (apart : start.store.catalog.DaysApart knownTs)
    (ran : (dailyRuns fireTime ids).run start events = some last)
    {utcMidnight : String → Option Int} {maxWindowDays : Int} {pg : PgDates}
    {filters : ArchiveFilters} {result : ArchiveResult}
    (searches : Searches utcMidnight maxWindowDays pg
      (last.store.catalog.archivedRows.map (·.1)) filters (.ok result))
    (whole : result.capped = false) (day : Int) :
    (legsOfDays 0 day day result.rows = [] ∧
        (legsOfDays 0 day day (last.store.catalog.current.map (·.1))).Perm
          (legsOfDays 0 day day last.legs)) ∨
      (legsOfDays 0 day day (last.store.catalog.current.map (·.1)) = [] ∧
        day ≤ last.today - 120 ∧
        (legsOfDays 0 day day result.rows).Perm
          ((legsOfDays 0 day day last.legs).filter (matchesArchived pg filters))) := by
  obtain ⟨billed, apart⟩ := DailyState.run_apart (billed_of_initial initial) apart ran
  have found := searches.uncapped whole
  have parts := (billed.whole.map (·.1)).filter fun leg =>
    dayWithin day day (localDate 0 leg.ts)
  rw [List.map_append, List.filter_append] at parts
  have shown : (legsOfDays 0 day day result.rows).Perm
      ((legsOfDays 0 day day (last.store.catalog.archivedRows.map (·.1))).filter
        (matchesArchived pg filters)) := by
    refine (found.filter _).trans (List.Perm.of_eq ?_)
    rw [legsOfDays, List.filter_filter, List.filter_filter]
    exact List.filter_congr fun _ _ => Bool.and_comm _ _
  rcases empty : legsOfDays 0 day day (last.store.catalog.archivedRows.map (·.1)) with
    _ | ⟨leg, rest⟩
  · refine .inl ⟨?_, ?_⟩
    · rw [empty] at shown
      exact shown.eq_nil
    · rw [legsOfDays] at empty
      rw [empty, List.append_nil] at parts
      exact parts
  · have member : leg ∈ legsOfDays 0 day day (last.store.catalog.archivedRows.map (·.1)) := by
      rw [empty]
      exact List.mem_cons_self
    obtain ⟨listed, here⟩ := List.mem_filter.1 member
    obtain ⟨old, archived, rfl⟩ := List.mem_map.1 listed
    simp only [dayWithin, Bool.and_eq_true, decide_eq_true_eq] at here
    have none : legsOfDays 0 day day (last.store.catalog.current.map (·.1)) = [] := by
      refine List.filter_eq_nil_iff.2 fun other inside => ?_
      obtain ⟨row, current, rfl⟩ := List.mem_map.1 inside
      have different := apart old archived row current
      simp only [dayWithin, Bool.and_eq_true, decide_eq_true_eq, knownTs] at different ⊢
      omega
    refine .inr ⟨none, ?_, ?_⟩
    · have early := billed.old old archived
      simp only [DailyState.today, localDate, dayMicros] at early here ⊢
      omega
    · rw [legsOfDays] at none
      rw [none, List.nil_append] at parts
      exact shown.trans (parts.filter _)

end

def juneDates : PgDates where
  zone := 0
  timestamptz _ := 0
  date text := if text = "2026-06-08" then 740080 else 740081

def juneFilters : ArchiveFilters where
  fromDate := "2026-06-08"
  toDate := "2026-06-09"
  msisdn := some "255750000001"
  sessionId := none
  shortcodeId := none
  operatorName := some ""

def juneMidnight (text : String) : Option Int :=
  if text = "2026-06-08" then some 1780876800000
  else if text = "2026-06-09" then some 1780963200000
  else none

theorem june_leg_found :
    (legsOfDays 0 740080 740080 [juneLeg.1] = [] ∧
        (legsOfDays 0 740080 740080 (novemberScheduler.store.catalog.current.map (·.1))).Perm
          (legsOfDays 0 740080 740080 novemberScheduler.legs)) ∨
      (legsOfDays 0 740080 740080 (novemberScheduler.store.catalog.current.map (·.1)) = [] ∧
        740080 ≤ novemberScheduler.today - 120 ∧
        (legsOfDays 0 740080 740080 [juneLeg.1]).Perm
          ((legsOfDays 0 740080 740080 novemberScheduler.legs).filter
            (matchesArchived juneDates juneFilters))) := by
  have goes : ((dailyRuns 7200000000 [1]).run juneScheduler summerOfBills).isSome := by
    decide +kernel
  have ran : (dailyRuns 7200000000 [1]).run juneScheduler summerOfBills =
      some novemberScheduler := by
    obtain ⟨last, found⟩ := Option.isSome_iff_exists.1 goes
    rw [novemberScheduler, found, Option.getD_some]
  have found : novemberScheduler.store.catalog.archivedRows.map (·.1) = [juneLeg.1] := by
    decide +kernel
  have searches : Searches juneMidnight 7 juneDates
      (novemberScheduler.store.catalog.archivedRows.map (·.1)) juneFilters
        (.ok ⟨[juneLeg.1], false⟩) := by
    rw [found]
    exact ⟨[juneLeg.1], .of_eq (by decide +kernel), List.pairwise_singleton _ _, rfl⟩
  exact search_shows_whole_days juneScheduler_initial
    (fun _ member => absurd member List.not_mem_nil) ran searches rfl 740080

end UssdGateway
