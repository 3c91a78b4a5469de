import UssdGateway.Gateway.Backlog
import UssdGateway.Reports.SessionReport
import UssdGateway.Reports.SessionsBilledOnce

/-!
What a bill owes to the log writer. The time of a leg is the time of its insertion, so the span of a
session of several legs depends on when the batches are flushed.
-/

namespace UssdGateway

open Grouping

def sessionLegs (session : String × String) (legs : List LegRecord) : List LegRecord :=
  legs.filter fun leg => leg.group = session

/-- The legs of a session by `ts`, then `id`. -/
def legOrder (session : String × String) (legs : List LegRecord) : List LegValues :=
  ((sessionLegs session legs).insertionSort fun first second =>
    first.ts < second.ts ∨ (first.ts = second.ts ∧ first.id ≤ second.id)).map
      fun leg => leg.toLegValues

def reportUnits (operators : OperatorTable) (session : String × String) (legs : List LegRecord) :
    Option Int :=
  (sessionFigures windowUnits ((operators.byName session.2).bind OperatorRecord.billableWindowSecs)
    (session, sessionLegs session legs)).billableUnits

def rollupGroups (zone : Int) (operators : OperatorTable) (session : String × String)
    (legs : List LegRecord) (startDate endDate : Int) : List (SessionGroup × OperatorRecord) :=
  (joinOperators operators (keptGroups (perGroup zone legs startDate endDate))).filter
    fun joined => (joined.1.key.sessionId, joined.2.name) = session

def rollupUnits (zone : Int) (operators : OperatorTable) (session : String × String)
    (legs : List LegRecord) (startDate endDate : Int) : Int :=
  ((rollupGroups zone operators session legs startDate endDate).map fun joined =>
    groupUnits joined.2 joined.1).sum

def Covers (zone startDate endDate : Int) (legs : List LegRecord) : Prop :=
  ∀ leg ∈ legs, startDate ≤ localDate zone leg.ts ∧ localDate zone leg.ts ≤ endDate

structure SameBilling (operators : OperatorTable) (session : String × String)
    (first second : List LegRecord) : Prop where
  order : legOrder session first = legOrder session second
  span : spanMicros (sessionLegs session first) = spanMicros (sessionLegs session second)
  report : reportUnits operators session first = reportUnits operators session second
  rollup : ∀ zone startDate endDate, Covers zone startDate endDate first →
    Covers zone startDate endDate second →
    rollupUnits zone operators session first startDate endDate =
      rollupUnits zone operators session second startDate endDate

/-- Any two runs of the writers that persist the same legs bill the session alike. -/
def WriterIndependent (workload : Workload) (session : String × String) : Prop :=
  ∀ (firstConfig secondConfig : WriterConfig) (first second : WriterState),
    (writer firstConfig workload).Reachable first → first.AllPersisted workload →
    (writer secondConfig workload).Reachable second → second.AllPersisted workload →
    SameBilling workload.operators session first.persisted second.persisted

def Workload.legsOf (workload : Workload) (session : String × String) : List LegValues :=
  (workload.completions.map Completion.values).filter fun values =>
    (values.sessionId, values.operatorName) = session

section

variable {operators : OperatorTable} {session : String × String} {legs : List LegRecord}

theorem mem_joinOperators {groups : List SessionGroup} {joined : SessionGroup × OperatorRecord} :
    joined ∈ joinOperators operators groups ↔
      joined.1 ∈ groups ∧ operators.byId joined.1.key.operatorId = some joined.2 := by
  simp only [joinOperators, List.mem_filterMap, Option.map_eq_some_iff]
  constructor
  · rintro ⟨group, member, operator, known, rfl⟩
    exact ⟨member, known⟩
  · rintro ⟨member, known⟩
    exact ⟨joined.1, member, joined.2, known, rfl⟩

theorem mem_sessionLegs_of_key {zone startDate endDate : Int} {leg : LegRecord}
    (named : ∀ leg ∈ legs, (operators.byId leg.operatorId).map OperatorRecord.name =
      some leg.operatorName)
    {joined : SessionGroup × OperatorRecord}
    (member : joined ∈ rollupGroups zone operators session legs startDate endDate)
    (legMember : leg ∈ legs) (keyed : leg.groupKey zone = joined.1.key) :
    leg ∈ sessionLegs session legs := by
  obtain ⟨inJoin, about⟩ := List.mem_filter.1 member
  have operator := named leg legMember
  rw [show leg.operatorId = joined.1.key.operatorId from congrArg GroupKey.operatorId keyed,
    (mem_joinOperators.1 inJoin).2] at operator
  rw [sessionLegs, List.mem_filter]
  refine ⟨legMember, decide_eq_true ?_⟩
  rw [← of_decide_eq_true about, ← keyed]
  exact Prod.ext rfl (Option.some.inj operator).symm

theorem rollupGroup_single {zone startDate endDate : Int} {leg : LegRecord}
    (named : ∀ leg ∈ legs, (operators.byId leg.operatorId).map OperatorRecord.name =
      some leg.operatorName)
    (single : sessionLegs session legs = [leg]) {joined : SessionGroup × OperatorRecord}
    (member : joined ∈ rollupGroups zone operators session legs startDate endDate) :
    joined.1.key = leg.groupKey zone ∧ joined.1.firstTs = leg.ts ∧ joined.1.lastTs = leg.ts := by
  have kept := (mem_joinOperators.1 (List.mem_filter.1 member).1).1
  obtain ⟨group, grouped, same⟩ := List.mem_map.1 (mem_keptGroups.1 kept).1
  obtain ⟨⟨row, rowMember, rowKey⟩, whole⟩ := mem_groupBy.1 grouped
  have only : ∀ other ∈ group.2, other = leg := by
    intro other inside
    rw [whole, List.mem_filter, List.mem_filter] at inside
    obtain ⟨⟨otherMember, _⟩, otherKey⟩ := inside
    have keyed : other.groupKey zone = joined.1.key := by
      rw [← same]
      exact of_decide_eq_true otherKey
    have ours := mem_sessionLegs_of_key named member otherMember keyed
    rw [single] at ours
    exact List.mem_singleton.1 ours
  have rowInside : row ∈ group.2 := by
    rw [whole, List.mem_filter]
    exact ⟨rowMember, decide_eq_true rowKey⟩
  have nonempty : group.2 ≠ [] := List.ne_nil_of_mem rowInside
  obtain ⟨first, firstInside, firstStamp⟩ := (firstTs_least nonempty).1
  obtain ⟨last, lastInside, lastStamp⟩ := (lastTs_greatest nonempty).1
  rw [← same]
  refine ⟨?_, ?_, ?_⟩
  · rw [← only row rowInside]
    exact rowKey.symm
  · rw [← only first firstInside]
    exact firstStamp.symm
  · rw [← only last lastInside]
    exact lastStamp.symm

theorem rollupGroups_empty {zone startDate endDate : Int}
    (named : ∀ leg ∈ legs, (operators.byId leg.operatorId).map OperatorRecord.name =
      some leg.operatorName)
    (none : sessionLegs session legs = []) :
    rollupGroups zone operators session legs startDate endDate = [] := by
  rw [List.eq_nil_iff_forall_not_mem]
  intro joined member
  have kept := (mem_joinOperators.1 (List.mem_filter.1 member).1).1
  obtain ⟨leg, legMember, _, keyed⟩ := (exists_perGroup_iff joined.1.key).1
    ⟨joined.1, (mem_keptGroups.1 kept).1, rfl⟩
  have ours := mem_sessionLegs_of_key named member legMember keyed
  rw [none] at ours
  cases ours

theorem rollupGroups_single {zone startDate endDate : Int} {leg : LegRecord}
    (named : ∀ leg ∈ legs, (operators.byId leg.operatorId).map OperatorRecord.name =
      some leg.operatorName)
    (covers : Covers zone startDate endDate legs) (single : sessionLegs session legs = [leg]) :
    (rollupGroups zone operators session legs startDate endDate).length = 1 := by
  let tables : LegTables := ⟨operators, legs, by
    intro leg member
    rw [← Option.isSome_map (f := OperatorRecord.name), named leg member]
    rfl⟩
  have joinKept : (joinOperators operators (keptGroups
      (perGroup zone legs startDate endDate))).map Prod.fst =
        keptGroups (perGroup zone legs startDate endDate) :=
    @joinOperators_fst tables _ _ _ _ fun group member => (mem_keptGroups.1 member).1
  have nodup : ((rollupGroups zone operators session legs startDate endDate).map
      fun joined => joined.1.key).Nodup := by
    have kept : ((keptGroups (perGroup zone legs startDate endDate)).map SessionGroup.key).Nodup :=
      perGroup_keys_nodup.sublist (List.filter_sublist.map _)
    rw [← joinKept, List.map_map] at kept
    exact kept.sublist (List.filter_sublist.map _)
  have allSame : ∀ key ∈ (rollupGroups zone operators session legs startDate endDate).map
      (fun joined => joined.1.key), key = leg.groupKey zone := by
    intro key member
    obtain ⟨joined, inside, rfl⟩ := List.mem_map.1 member
    exact (rollupGroup_single named single inside).1
  have atMost : (rollupGroups zone operators session legs startDate endDate).length ≤ 1 := by
    rw [List.eq_replicate_iff.2 ⟨rfl, allSame⟩, List.nodup_replicate, List.length_map] at nodup
    exact nodup
  have ours : leg ∈ sessionLegs session legs := by
    rw [single]
    exact List.mem_singleton_self _
  obtain ⟨legMember, about⟩ := List.mem_filter.1 ours
  obtain ⟨group, grouped, keyed⟩ := exists_group_of_leg legMember (covers leg legMember).1
    (covers leg legMember).2
  obtain ⟨other, kept, _, operatorSame, sessionSame⟩ := exists_kept grouped
  obtain ⟨operator, known, name⟩ := Option.map_eq_some_iff.1 (named leg legMember)
  have joined : (other, operator) ∈ rollupGroups zone operators session legs startDate endDate := by
    rw [rollupGroups, List.mem_filter, mem_joinOperators]
    rw [keyed] at operatorSame sessionSame
    refine ⟨⟨kept, by rw [operatorSame]; exact known⟩, decide_eq_true ?_⟩
    rw [sessionSame, name]
    exact of_decide_eq_true about
  have atLeast := List.length_pos_of_mem joined
  omega

theorem groupUnits_of_instant (operator : OperatorRecord) {group : SessionGroup}
    (instant : group.firstTs = group.lastTs) : groupUnits operator group = 1 := by
  rw [groupUnits]
  split
  · rw [instant, Int.sub_self]
    simp [windowUnits, ceilDiv]
  · rfl

theorem rollupUnits_single {zone startDate endDate : Int} {leg : LegRecord}
    (named : ∀ leg ∈ legs, (operators.byId leg.operatorId).map OperatorRecord.name =
      some leg.operatorName)
    (covers : Covers zone startDate endDate legs) (single : sessionLegs session legs = [leg]) :
    rollupUnits zone operators session legs startDate endDate = 1 := by
  obtain ⟨joined, alone⟩ := List.length_eq_one_iff.1 (rollupGroups_single named covers single)
  have inside : joined ∈ rollupGroups zone operators session legs startDate endDate := by
    rw [alone]
    exact List.mem_singleton_self _
  obtain ⟨_, first, last⟩ := rollupGroup_single named single inside
  rw [rollupUnits, alone, List.map_singleton, List.sum_singleton,
    groupUnits_of_instant _ (first.trans last.symm)]

end

theorem AllPersisted.sessionLegs {workload : Workload} {state : WriterState}
    (persisted : state.AllPersisted workload) (session : String × String) :
    ((UssdGateway.sessionLegs session state.persisted).map fun leg => leg.toLegValues).Perm
      (workload.legsOf session) := by
  have filtered := persisted.filter fun values =>
    (values.sessionId, values.operatorName) = session
  rw [List.filter_map] at filtered
  exact filtered

theorem AllPersisted.named {workload : Workload} {state : WriterState}
    (persisted : state.AllPersisted workload) :
    ∀ leg ∈ state.persisted, (workload.operators.byId leg.operatorId).map OperatorRecord.name =
      some leg.operatorName := by
  intro leg member
  have values : leg.toLegValues ∈ workload.completions.map Completion.values :=
    persisted.mem_iff.1 (List.mem_map.2 ⟨leg, member, rfl⟩)
  obtain ⟨completion, inside, same⟩ := List.mem_map.1 values
  have named := workload.named completion inside
  rw [same] at named
  exact named

theorem sameBilling_of_single {workload : Workload} {session : String × String}
    (atMost : (workload.legsOf session).length ≤ 1) {first second : WriterState}
    (firstAll : first.AllPersisted workload) (secondAll : second.AllPersisted workload) :
    SameBilling workload.operators session first.persisted second.persisted := by
  have firstLegs := AllPersisted.sessionLegs firstAll session
  have secondLegs := AllPersisted.sessionLegs secondAll session
  rcases values : workload.legsOf session with _ | ⟨value, rest⟩
  · rw [values, List.perm_nil, List.map_eq_nil_iff] at firstLegs secondLegs
    refine ⟨by simp [legOrder, firstLegs, secondLegs], by rw [firstLegs, secondLegs],
      by simp [reportUnits, firstLegs, secondLegs], ?_⟩
    intro zone startDate endDate _ _
    rw [rollupUnits, rollupUnits, rollupGroups_empty (AllPersisted.named firstAll) firstLegs,
      rollupGroups_empty (AllPersisted.named secondAll) secondLegs]
  · rw [values, List.length_cons] at atMost
    obtain rfl := List.length_eq_zero_iff.1 (by omega : rest.length = 0)
    rw [values, List.perm_singleton, List.map_eq_singleton_iff] at firstLegs secondLegs
    obtain ⟨firstLeg, firstSingle, firstValue⟩ := firstLegs
    obtain ⟨secondLeg, secondSingle, secondValue⟩ := secondLegs
    have noSpan : ∀ leg : LegRecord, spanMicros [leg] = 0 := by
      intro leg
      simp [spanMicros, firstTs, lastTs]
    refine ⟨by simp [legOrder, firstSingle, secondSingle, firstValue, secondValue],
      by rw [firstSingle, secondSingle, noSpan, noSpan],
      by simp only [reportUnits, sessionFigures, firstSingle, secondSingle, noSpan], ?_⟩
    intro zone startDate endDate firstCovers secondCovers
    rw [rollupUnits_single (AllPersisted.named firstAll) firstCovers firstSingle,
      rollupUnits_single (AllPersisted.named secondAll) secondCovers secondSingle]

theorem allPersisted_of_stamped {workload : Workload} {state : WriterState} {now gap : Int}
    (rows : state.persisted = stamped 1 now gap workload.completions) :
    state.AllPersisted workload := by
  rw [WriterState.AllPersisted, rows, stamped_values]

theorem spanMicros_stamped {workload : Workload} {session : String × String}
    (several : 2 ≤ (workload.legsOf session).length) {state : WriterState} {now gap : Int}
    (forward : 0 ≤ gap) (rows : state.persisted = stamped 1 now gap workload.completions) :
    gap ≤ spanMicros (sessionLegs session state.persisted) ∧
      spanMicros (sessionLegs session state.persisted) ≤ gap * workload.completions.length := by
  have count := (AllPersisted.sessionLegs (allPersisted_of_stamped rows) session).length_eq
  rw [List.length_map] at count
  have apart : (sessionLegs session state.persisted).Pairwise fun earlier later =>
      earlier.ts + gap ≤ later.ts := by
    rw [rows]
    exact (stamped_apart forward).filter _
  have within : ∀ leg ∈ sessionLegs session state.persisted,
      now + gap ≤ leg.ts ∧ leg.ts ≤ now + gap * workload.completions.length := by
    intro leg member
    have inside := (List.mem_filter.1 member).1
    rw [rows] at inside
    exact ⟨stamped_after forward inside, stamped_before forward inside⟩
  rcases legs : sessionLegs session state.persisted with _ | ⟨first, _ | ⟨second, rest⟩⟩
  · rw [legs, List.length_nil] at count
    omega
  · rw [legs, List.length_singleton] at count
    omega
  · rw [legs] at apart within
    have nonempty : first :: second :: rest ≠ [] := List.cons_ne_nil _ _
    obtain ⟨⟨earliest, earliestMember, earliestStamp⟩, least⟩ := firstTs_least nonempty
    obtain ⟨⟨latest, latestMember, latestStamp⟩, greatest⟩ := lastTs_greatest nonempty
    have gapped := (List.pairwise_cons.1 apart).1 second List.mem_cons_self
    have lower := least first List.mem_cons_self
    have upper := greatest second (List.mem_cons_of_mem _ List.mem_cons_self)
    have earliestBound := (within earliest earliestMember).1
    have latestBound := (within latest latestMember).2
    simp only [spanMicros]
    omega

theorem windowUnits_lt {windowSecs : Nat} {short long : Int} (positive : 1 ≤ windowSecs)
    (nonneg : 0 ≤ short) (longer : short + 2 * (microsPerSecond * windowSecs) ≤ long) :
    windowUnits windowSecs short < windowUnits windowSecs long := by
  have window : 0 < microsPerSecond * (windowSecs : Int) :=
    Int.mul_pos (by decide) (by omega)
  have more : ceilDiv short (microsPerSecond * windowSecs) + 2 ≤
      ceilDiv long (microsPerSecond * windowSecs) := by
    have shifted := Int.add_mul_ediv_right (-short) (-2) (Int.ne_of_gt window)
    have monotone : -long / (microsPerSecond * (windowSecs : Int)) ≤
        (-short + -2 * (microsPerSecond * (windowSecs : Int))) / (microsPerSecond * windowSecs) :=
      Int.ediv_le_ediv window (by omega)
    simp only [ceilDiv]
    omega
  have least : 0 ≤ ceilDiv short (microsPerSecond * windowSecs) := by
    have below : -short / (microsPerSecond * (windowSecs : Int)) ≤
        0 / (microsPerSecond * windowSecs) := Int.ediv_le_ediv window (by omega)
    rw [Int.zero_ediv] at below
    simp only [ceilDiv]
    omega
  simp only [windowUnits, ceilDiv_ceilDiv _ _ (by decide : (0 : Int) ≤ microsPerSecond)]
  omega

theorem report_writer_independent_iff (workload : Workload) (session : String × String) :
    (∀ (firstConfig secondConfig : WriterConfig) (first second : WriterState),
      (writer firstConfig workload).Reachable first → first.AllPersisted workload →
      (writer secondConfig workload).Reachable second → second.AllPersisted workload →
      reportUnits workload.operators session first.persisted =
        reportUnits workload.operators session second.persisted) ↔
      (workload.legsOf session).length ≤ 1 ∨
        (workload.operators.byName session.2).bind OperatorRecord.billableWindowSecs = none := by
  constructor
  · intro independent
    by_contra neither
    rw [not_or] at neither
    have several : 2 ≤ (workload.legsOf session).length := by omega
    obtain ⟨windowSecs, billed⟩ := Option.ne_none_iff_exists'.1 neither.2
    obtain ⟨operator, found, window⟩ := Option.bind_eq_some_iff.1 billed
    have member := List.mem_of_find?_eq_some found
    obtain ⟨positive, _⟩ := workload.operators.windowsAccepted operator member windowSecs window
    obtain ⟨quickConfig, quick, _, quickReached, quickRows⟩ :=
      exists_stamped workload Int.one_nonneg
    have forward : 0 ≤ (workload.completions.length : Int) +
        2 * (microsPerSecond * (windowSecs : Int)) := by
      simp only [microsPerSecond]
      omega
    obtain ⟨slowConfig, slow, _, slowReached, slowRows⟩ := exists_stamped workload forward
    have same := independent quickConfig slowConfig quick slow quickReached
      (allPersisted_of_stamped quickRows) slowReached (allPersisted_of_stamped slowRows)
    have quickSpan := spanMicros_stamped several Int.one_nonneg quickRows
    have slowSpan := (spanMicros_stamped several forward slowRows).1
    have fewer := windowUnits_lt positive (by omega : 0 ≤ spanMicros
      (sessionLegs session quick.persisted)) (by omega : _ ≤ spanMicros
        (sessionLegs session slow.persisted))
    simp only [reportUnits, sessionFigures, billed, Option.map_some, Option.some.injEq] at same
    omega
  · rintro (atMost | unbilled) firstConfig secondConfig first second _ firstAll _ secondAll
    · exact (sameBilling_of_single atMost firstAll secondAll).report
    · simp [reportUnits, sessionFigures, unbilled]

/-- The bill of a session does not depend on the writers exactly when it has at most one leg. -/
theorem writer_independent_iff (workload : Workload) (session : String × String) :
    WriterIndependent workload session ↔ (workload.legsOf session).length ≤ 1 := by
  constructor
  · intro independent
    by_contra several
    have several : 2 ≤ (workload.legsOf session).length := by omega
    -- one microsecond between rows against more than all of them took
    obtain ⟨quickConfig, quick, _, quickReached, quickRows⟩ :=
      exists_stamped workload Int.one_nonneg
    obtain ⟨slowConfig, slow, _, slowReached, slowRows⟩ :=
      exists_stamped workload (Int.natCast_nonneg (workload.completions.length + 1))
    have same := (independent quickConfig slowConfig quick slow quickReached
      (allPersisted_of_stamped quickRows) slowReached (allPersisted_of_stamped slowRows)).span
    have quickSpan := (spanMicros_stamped several Int.one_nonneg quickRows).2
    have slowSpan := (spanMicros_stamped several (Int.natCast_nonneg _) slowRows).1
    omega
  · intro atMost firstConfig secondConfig first second _ firstAll _ secondAll
    exact sameBilling_of_single atMost firstAll secondAll

def exampleLeg (ussdString : String) : LegValues where
  operatorId := 1
  operatorName := "vodacom"
  shortcodeId := some 1
  serviceCode := some "*149*01#"
  sessionId := "S1"
  msisdn := some "255740000001"
  ussdString := some ussdString
  direction := "inbound"
  handlerResponseAction := some "CON"
  handlerResponseText := some "Welcome"
  handlerElapsedMs := some 40
  errorClass := none

def exampleWorkload : Workload where
  operators :=
    { rows := [{ id := 1, name := "vodacom", billableWindowSecs := some 20 }]
      idsUnique := vodacomOnly.idsUnique
      namesUnique := vodacomOnly.namesUnique
      windowsAccepted := vodacomOnly.windowsAccepted }
  completions :=
    [{ instant := 0, worker := 0, values := exampleLeg "*149*01#" },
      { instant := 19900000, worker := 0, values := exampleLeg "1" }]
  ordered := by decide
  named := by decide

def round (taken inserted : Int) : List (Int × WriterEvent) :=
  [(taken, .get 0), (taken + 250000, .flush 0), (inserted, .insertRow 0), (inserted, .commit 0)]

def promptRun : List (Int × WriterEvent) :=
  (0, .complete) :: round 0 250000 ++ (19900000, .complete) :: round 19900000 20150000

def blockedRun : List (Int × WriterEvent) :=
  (0, .complete) :: round 0 250000 ++ (19900000, .complete) :: round 19900000 20400000

def exampleRows (second : Int) : List LegRecord :=
  [{ toLegValues := exampleLeg "*149*01#", id := 1, ts := 250000 },
    { toLegValues := exampleLeg "1", id := 2, ts := second }]

/-- The same session is one unit in one run and two in the other. -/
theorem blocked_insert_bills_twice :
    ¬ WriterIndependent exampleWorkload ("S1", "vodacom") ∧
      reportUnits exampleWorkload.operators ("S1", "vodacom") (exampleRows 20150000) = some 1 ∧
      reportUnits exampleWorkload.operators ("S1", "vodacom") (exampleRows 20400000) = some 2 ∧
      rollupUnits 0 exampleWorkload.operators ("S1", "vodacom") (exampleRows 20150000) 0 0 = 1 ∧
      rollupUnits 0 exampleWorkload.operators ("S1", "vodacom") (exampleRows 20400000) 0 0 = 2 := by
  have promptRows : ((writer defaultConfig exampleWorkload).run (exampleWorkload.start 0)
      promptRun).map WriterState.persisted = some (exampleRows 20150000) := rfl
  have blockedRows : ((writer defaultConfig exampleWorkload).run (exampleWorkload.start 0)
      blockedRun).map WriterState.persisted = some (exampleRows 20400000) := rfl
  have units : reportUnits exampleWorkload.operators ("S1", "vodacom") (exampleRows 20150000) =
      some 1 ∧ reportUnits exampleWorkload.operators ("S1", "vodacom") (exampleRows 20400000) =
      some 2 := by decide
  refine ⟨?_, units.1, units.2, by decide, by decide⟩
  intro independent
  obtain ⟨prompt, promptRan, promptTable⟩ := Option.map_eq_some_iff.1 promptRows
  obtain ⟨blocked, blockedRan, blockedTable⟩ := Option.map_eq_some_iff.1 blockedRows
  have started : (writer defaultConfig exampleWorkload).Reachable (exampleWorkload.start 0) :=
    .start ⟨0, rfl⟩
  have same := (independent defaultConfig defaultConfig prompt blocked
    (started.run promptRan) (by rw [WriterState.AllPersisted, promptTable]; exact .refl _)
    (started.run blockedRan) (by rw [WriterState.AllPersisted, blockedTable]; exact .refl _)).report
  rw [promptTable, blockedTable, units.1, units.2] at same
  exact absurd same (by decide)

end UssdGateway
