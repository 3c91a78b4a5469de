import UssdGateway.Reports.SessionReport
import UssdGateway.Reports.SessionsBilledOnce

/-!
The billable summary above the Sessions report, and what the rows of the report add up to.
-/

namespace UssdGateway

open Grouping Paging

structure PerSession where
  operatorName : String
  sessionId : String
  durationSecs : Int
deriving DecidableEq

structure OperatorSummary where
  operatorName : String
  windowSecs : Option Nat
  sessions : Nat
  billableUnits : Option Int
deriving DecidableEq

structure BillableSummary where
  perOperator : List OperatorSummary
  totalBillableUnits : Int
deriving DecidableEq

def perSession (legs : List LegRecord) : List PerSession :=
  (groupBy (fun leg : LegRecord => (leg.operatorName, leg.sessionId)) legs).map fun group =>
    ⟨group.1.1, group.1.2, ceilDiv (lastTs group.2 - firstTs group.2) microsPerSecond⟩

def joinWindows (operators : OperatorTable) (sessions : List PerSession) :
    List (PerSession × Option Nat) :=
  sessions.filterMap fun session =>
    (operators.byName session.operatorName).map fun operator =>
      (session, operator.billableWindowSecs)

def operatorAndWindow (joined : PerSession × Option Nat) : String × Option Nat :=
  (joined.1.operatorName, joined.2)

def operatorSummary (group : (String × Option Nat) × List (PerSession × Option Nat)) :
    OperatorSummary where
  operatorName := group.1.1
  windowSecs := group.1.2
  sessions := group.2.length
  billableUnits := group.1.2.map fun secs : Nat =>
    (group.2.map fun joined => max 1 (ceilDiv joined.1.durationSecs secs)).sum

/-- An operator without a window bills its sessions. -/
def OperatorSummary.billed (summary : OperatorSummary) : Int :=
  summary.billableUnits.getD summary.sessions

def loadBillableSummary (collate : String → String → Bool) (pg : PgDates) (tables : ReportTables)
    (filters : ReportFilters) (acl : ShortcodeAcl) : BillableSummary :=
  let legs := SqlClause.select (buildSessionWhere pg filters acl tables.legs) tables.legs
  let perOperator := ((groupBy operatorAndWindow
    (joinWindows tables.operators (perSession legs))).map operatorSummary).insertionSort
      fun first second => collate first.operatorName second.operatorName = true
  ⟨perOperator, (perOperator.map OperatorSummary.billed).sum⟩

def SessionRow.billed (row : SessionRow) : Int := row.billableUnits.getD 1

def rowsOfOperator (rows : List SessionRow) (operatorName : String) : List SessionRow :=
  rows.filter fun row => decide (row.operatorName = operatorName)

/-- Pages read one after the other, each by a query of its own. -/
def readPages (sortings : Nat → SessionSorting) (pg : PgDates) (tables : ReportTables)
    (filters : ReportFilters) (acl : ShortcodeAcl) (pageSize : Int) (count : Nat) :
    List SessionRow :=
  (List.range count).flatMap fun number : Nat =>
    loadSessionPage (sortings number) pg tables filters acl (number + 1) pageSize

/-- The summary has an entry for each operator of the rows, with their figures. -/
structure AddsUp (summary : BillableSummary) (rows : List SessionRow) : Prop where
  oneEntry : (summary.perOperator.map OperatorSummary.operatorName).Nodup
  entries : ∀ name, (∃ entry ∈ summary.perOperator, entry.operatorName = name) ↔
    ∃ row ∈ rows, row.operatorName = name
  sessions : ∀ entry ∈ summary.perOperator,
    entry.sessions = (rowsOfOperator rows entry.operatorName).length
  billed : ∀ entry ∈ summary.perOperator,
    entry.billed = ((rowsOfOperator rows entry.operatorName).map SessionRow.billed).sum
  total : summary.totalBillableUnits = (rows.map SessionRow.billed).sum

def PerSession.ofGroup (group : (String × String) × List LegRecord) : PerSession :=
  ⟨group.1.2, group.1.1, ceilDiv (spanMicros group.2) microsPerSecond⟩

theorem perSession_eq (legs : List LegRecord) :
    perSession legs = (groupBy LegRecord.group legs).map PerSession.ofGroup := by
  have renamed := groupBy_map_key Prod.swap_injective LegRecord.group legs
  rw [perSession]
  refine (congrArg _ renamed).trans ?_
  rw [List.map_map]
  rfl

theorem joinWindows_known {tables : ReportTables} {legs : List LegRecord}
    (known : ∀ leg ∈ legs, (tables.operators.byName leg.operatorName).isSome = true) :
    joinWindows tables.operators (perSession legs) =
      (groupBy LegRecord.group legs).map fun group =>
        (PerSession.ofGroup group, tables.windowOf group.1.2) := by
  rw [perSession_eq, joinWindows, List.filterMap_map, ← List.filterMap_eq_map]
  refine List.filterMap_congr fun group member => ?_
  obtain ⟨⟨leg, inside, sameGroup⟩, _⟩ := mem_groupBy.1 member
  have named : leg.operatorName = group.1.2 := congrArg Prod.snd sameGroup
  obtain ⟨operator, found⟩ := Option.isSome_iff_exists.1 (known leg inside)
  rw [named] at found
  simp only [Function.comp_apply, PerSession.ofGroup, ReportTables.windowOf, found,
    Option.map_some, Option.bind_some]

def billedSession (joined : PerSession × Option Nat) : Int :=
  (joined.2.map fun secs : Nat => max 1 (ceilDiv joined.1.durationSecs secs)).getD 1

theorem billed_sessionRow (tables : ReportTables)
    (group : (String × String) × List LegRecord) :
    (sessionRow tables group).billed =
      billedSession (PerSession.ofGroup group, tables.windowOf group.1.2) := rfl

theorem billed_operatorSummary {joined : List (PerSession × Option Nat)}
    {group : (String × Option Nat) × List (PerSession × Option Nat)}
    (grouped : group ∈ groupBy operatorAndWindow joined) :
    (operatorSummary group).billed = (group.2.map billedSession).sum := by
  have sameWindow : ∀ session ∈ group.2, session.2 = group.1.2 := by
    intro session member
    rw [(mem_groupBy.1 grouped).2] at member
    exact congrArg Prod.snd (of_decide_eq_true (List.mem_filter.1 member).2)
  rcases window : group.1.2 with _ | secs
  · have one : group.2.map billedSession = group.2.map fun _ => 1 :=
      List.map_congr_left fun session member => by
        rw [billedSession, sameWindow session member, window]
        rfl
    rw [one]
    simp [OperatorSummary.billed, operatorSummary, window]
  · have units : group.2.map billedSession =
        group.2.map fun joined => max 1 (ceilDiv joined.1.durationSecs secs) :=
      List.map_congr_left fun session member => by
        rw [billedSession, sameWindow session member, window]
        rfl
    rw [units]
    simp only [OperatorSummary.billed, operatorSummary, window, Option.map_some, Option.getD_some]

/-! The entries of the summary and the rows of their operators. -/

section

variable {collate : String → String → Bool} {pg : PgDates} {tables : ReportTables}
  {filters : ReportFilters} {acl : ShortcodeAcl} {legs : List LegRecord}

theorem rowsOfOperator_perm (name : String) :
    (rowsOfOperator (sessionRows tables legs) name).Perm
      (((groupBy LegRecord.group legs).filter fun group => decide (group.1.2 = name)).map
        (sessionRow tables)) := by
  refine List.Perm.of_eq ?_
  rw [rowsOfOperator, sessionRows, List.filter_map]
  rfl

theorem members_eq (known : ∀ leg ∈ legs, (tables.operators.byName leg.operatorName).isSome = true)
    {group : (String × Option Nat) × List (PerSession × Option Nat)}
    (grouped : group ∈ groupBy operatorAndWindow
      (joinWindows tables.operators (perSession legs))) :
    group.1.2 = tables.windowOf group.1.1 ∧
      group.2 = ((groupBy LegRecord.group legs).filter fun session =>
        decide (session.1.2 = group.1.1)).map fun session =>
          (PerSession.ofGroup session, tables.windowOf session.1.2) := by
  rw [joinWindows_known known] at grouped
  obtain ⟨⟨pair, found, keyed⟩, whole⟩ := mem_groupBy.1 grouped
  obtain ⟨own, _, rfl⟩ := List.mem_map.1 found
  have name : own.1.2 = group.1.1 := congrArg Prod.fst keyed
  have window : group.1.2 = tables.windowOf group.1.1 := by
    rw [← name]
    exact (congrArg Prod.snd keyed).symm
  refine ⟨window, ?_⟩
  rw [whole, List.filter_map]
  refine congrArg _ (List.filter_congr fun session _ => ?_)
  simp only [Function.comp_apply, operatorAndWindow, Prod.ext_iff, PerSession.ofGroup, window]
  rw [decide_eq_decide, and_iff_left_iff_imp]
  intro same
  rw [same]

def summaryEntries (tables : ReportTables) (legs : List LegRecord) : List OperatorSummary :=
  (groupBy operatorAndWindow (joinWindows tables.operators (perSession legs))).map operatorSummary

theorem entry_known {entry : OperatorSummary} (member : entry ∈ summaryEntries tables legs) :
    (tables.operators.byName entry.operatorName).isSome = true := by
  obtain ⟨group, grouped, rfl⟩ := List.mem_map.1 member
  obtain ⟨⟨pair, found, keyed⟩, _⟩ := mem_groupBy.1 grouped
  obtain ⟨session, _, joined⟩ := List.mem_filterMap.1 found
  obtain ⟨operator, byName, rfl⟩ := Option.map_eq_some_iff.1 joined
  have name : session.operatorName = group.1.1 := congrArg Prod.fst keyed
  rw [operatorSummary, ← name, byName]
  rfl

section

variable (known : ∀ leg ∈ legs, (tables.operators.byName leg.operatorName).isSome = true)

include known

theorem entry_names_nodup :
    ((summaryEntries tables legs).map OperatorSummary.operatorName).Nodup := by
  rw [summaryEntries, List.map_map]
  refine (List.nodup_map_iff_inj_on (groupBy_keys_nodup.of_map _)).2 ?_
  intro one oneMember other otherMember same
  have keys : one.1 = other.1 := by
    refine Prod.ext same ?_
    rw [(members_eq known oneMember).1, (members_eq known otherMember).1]
    exact congrArg _ same
  exact List.inj_on_of_nodup_map groupBy_keys_nodup oneMember otherMember keys

theorem exists_entry_iff (name : String) :
    (∃ entry ∈ summaryEntries tables legs, entry.operatorName = name) ↔
      ∃ row ∈ sessionRows tables legs, row.operatorName = name := by
  constructor
  · rintro ⟨entry, member, rfl⟩
    obtain ⟨group, grouped, rfl⟩ := List.mem_map.1 member
    obtain ⟨⟨pair, found, keyed⟩, _⟩ := mem_groupBy.1 grouped
    rw [joinWindows_known known] at found
    obtain ⟨session, listed, rfl⟩ := List.mem_map.1 found
    exact ⟨_, mem_sessionRows.2 ⟨session, listed, rfl⟩, congrArg Prod.fst keyed⟩
  · rintro ⟨row, listed, rfl⟩
    obtain ⟨session, member, rfl⟩ := mem_sessionRows.1 listed
    have joined : (PerSession.ofGroup session, tables.windowOf session.1.2) ∈
        joinWindows tables.operators (perSession legs) := by
      rw [joinWindows_known known]
      exact List.mem_map_of_mem member
    obtain ⟨group, grouped, keyed⟩ := @exists_groupBy _ _ _ operatorAndWindow _ _ joined
    exact ⟨_, List.mem_map_of_mem grouped, congrArg Prod.fst keyed⟩

theorem entry_sessions {entry : OperatorSummary} (member : entry ∈ summaryEntries tables legs) :
    entry.sessions =
      (rowsOfOperator (sessionRows tables legs) entry.operatorName).length := by
  obtain ⟨group, grouped, rfl⟩ := List.mem_map.1 member
  rw [(rowsOfOperator_perm _).length_eq, List.length_map]
  simp only [operatorSummary, (members_eq known grouped).2, List.length_map]

theorem entry_billed {entry : OperatorSummary} (member : entry ∈ summaryEntries tables legs) :
    entry.billed = ((rowsOfOperator (sessionRows tables legs) entry.operatorName).map
      SessionRow.billed).sum := by
  obtain ⟨group, grouped, rfl⟩ := List.mem_map.1 member
  rw [billed_operatorSummary grouped, (members_eq known grouped).2,
    ((rowsOfOperator_perm _).map _).sum_eq, List.map_map, List.map_map]
  exact congrArg _ (List.map_congr_left fun session _ => (billed_sessionRow tables session).symm)

theorem entries_total :
    ((summaryEntries tables legs).map OperatorSummary.billed).sum =
      ((sessionRows tables legs).map SessionRow.billed).sum := by
  calc ((summaryEntries tables legs).map OperatorSummary.billed).sum
      = ((groupBy operatorAndWindow (joinWindows tables.operators (perSession legs))).map
          fun group => (group.2.map billedSession).sum).sum := by
        rw [summaryEntries, List.map_map]
        exact congrArg _ (List.map_congr_left fun group => billed_operatorSummary)
    _ = ((joinWindows tables.operators (perSession legs)).map billedSession).sum :=
        sum_groupBy _ _ _
    _ = ((sessionRows tables legs).map SessionRow.billed).sum := by
        rw [joinWindows_known known, sessionRows, List.map_map, List.map_map]
        exact congrArg _ (List.map_congr_left fun session _ =>
          (billed_sessionRow tables session).symm)

end

theorem perOperator_perm :
    (loadBillableSummary collate pg tables filters acl).perOperator.Perm
      (summaryEntries tables
        (tables.legs.filter (matchesSession pg filters acl tables.legs))) := by
  rw [loadBillableSummary,
    SqlClause.select_eq (denotes_buildSessionWhere pg filters acl tables.legs)]
  exact List.perm_insertionSort _ _

theorem addsUp_of_known
    (known : ∀ leg ∈ tables.legs.filter (matchesSession pg filters acl tables.legs),
      (tables.operators.byName leg.operatorName).isSome = true) :
    AddsUp (loadBillableSummary collate pg tables filters acl) (sessionRows tables
      (tables.legs.filter (matchesSession pg filters acl tables.legs))) := by
  have entries := @perOperator_perm collate pg tables filters acl
  constructor
  case oneEntry => exact (entries.map _).nodup_iff.2 (entry_names_nodup known)
  case entries =>
    intro name
    simp only [entries.mem_iff]
    exact exists_entry_iff known name
  case sessions => exact fun entry member => entry_sessions known (entries.mem_iff.1 member)
  case billed => exact fun entry member => entry_billed known (entries.mem_iff.1 member)
  case total => exact (entries.map _).sum_eq.trans (entries_total known)

theorem AddsUp.of_perm {summary : BillableSummary} {rows rows' : List SessionRow}
    (addsUp : AddsUp summary rows) (perm : rows'.Perm rows) : AddsUp summary rows' := by
  have ofOperator : ∀ name, (rowsOfOperator rows' name).Perm (rowsOfOperator rows name) :=
    fun name => perm.filter _
  constructor
  case oneEntry => exact addsUp.oneEntry
  case entries =>
    intro name
    simp only [perm.mem_iff]
    exact addsUp.entries name
  case sessions =>
    exact fun entry member => (addsUp.sessions entry member).trans (ofOperator _).length_eq.symm
  case billed =>
    exact fun entry member =>
      (addsUp.billed entry member).trans ((ofOperator _).map _).sum_eq.symm
  case total => exact addsUp.total.trans (perm.map _).sum_eq.symm

variable {sortings : Nat → SessionSorting} {pageSize : Int} {count : Nat}

theorem readPages_eq :
    readPages sortings pg tables filters acl pageSize count =
      runPages sortings (pageLimit pageSize) count (sessionRows tables
        (tables.legs.filter (matchesSession pg filters acl tables.legs))) := by
  simp only [readPages, loadSessionPage_succ]
  rfl

theorem exhausted_iff (sorting : SessionSorting) :
    loadSessionPage sorting pg tables filters acl (count + 1) pageSize = [] ↔
      (sessionRows tables (tables.legs.filter (matchesSession pg filters acl
        tables.legs))).length ≤ count * pageLimit pageSize := by
  rw [loadSessionPage_succ, ← List.length_eq_zero_iff, page, List.length_take, List.length_drop,
    (sorting.perm _).length_eq]
  have positive := pageLimit_pos pageSize
  omega

theorem readPages_insertion
    (exhausted : loadSessionPage .insertion pg tables filters acl (count + 1) pageSize = []) :
    (readPages (fun _ => .insertion) pg tables filters acl pageSize count).Perm
      (sessionRows tables (tables.legs.filter (matchesSession pg filters acl tables.legs))) := by
  rw [exhausted_iff] at exhausted
  rw [readPages_eq, runPages, flatMap_page, List.take_of_length_le]
  · exact Sorting.insertion.perm _
  · rwa [(Sorting.insertion.perm _).length_eq]

theorem operator_of_tied {legs : List LegRecord} {row other : SessionRow}
    (member : row ∈ sessionRows tables legs) (otherMember : other ∈ sessionRows tables legs)
    (apart : other ≠ row) (follows : NewestFirst SessionRow.toSessionFigures row other)
    (leads : NewestFirst SessionRow.toSessionFigures other row) :
    other.operatorName ≠ row.operatorName := by
  intro sameOperator
  refine apart ?_
  obtain ⟨group, grouped, rfl⟩ := mem_sessionRows.1 member
  obtain ⟨otherGroup, otherGrouped, rfl⟩ := mem_sessionRows.1 otherMember
  have sameId : otherGroup.1.1 = group.1.1 := by
    simp only [NewestFirst, newestFirst, not_lt] at follows leads
    have lasts : (sessionRow tables group).lastTs = (sessionRow tables otherGroup).lastTs := by
      omega
    rcases follows with later | ⟨_, below⟩
    · omega
    rcases leads with later | ⟨_, above⟩
    · omega
    exact le_antisymm below above
  rw [List.inj_on_of_nodup_map groupBy_keys_nodup otherGrouped grouped
    (Prod.ext sameId sameOperator)]

theorem ties_of_addsUp
    (known : ∀ leg ∈ tables.legs.filter (matchesSession pg filters acl tables.legs),
      (tables.operators.byName leg.operatorName).isSome = true)
    (addsUp : ∀ (sortings : Nat → SessionSorting) (count : Nat),
      loadSessionPage (sortings count) pg tables filters acl (count + 1) pageSize = [] →
        AddsUp (loadBillableSummary collate pg tables filters acl)
          (readPages sortings pg tables filters acl pageSize count)) :
    SessionTies (pageLimit pageSize)
      (tables.legs.filter (matchesSession pg filters acl tables.legs)) := by
  rw [sessionTies_iff _ tables]
  intro row member
  by_contra astride
  obtain ⟨sortings, drops⟩ :=
    exists_dropped (pageLimit_pos pageSize) (sessionRows_nodup _ _) member astride
  let rows := sessionRows tables
    (tables.legs.filter (matchesSession pg filters acl tables.legs))
  have all : rows.length ≤ rows.length * pageLimit pageSize :=
    Nat.le_mul_of_pos_right _ (pageLimit_pos pageSize)
  have fewer := drops (fun other => decide (other.operatorName = row.operatorName))
    (decide_eq_true rfl)
    (fun other otherMember apart follows leads =>
      decide_eq_false (operator_of_tied member otherMember apart follows leads)) rows.length all
  rw [← readPages_eq, List.countP_eq_length_filter, List.countP_eq_length_filter] at fewer
  have whole : AddsUp (loadBillableSummary collate pg tables filters acl) _ :=
    addsUp_of_known known
  obtain ⟨entry, listed, named⟩ := (whole.entries row.operatorName).2 ⟨row, member, rfl⟩
  have short := (addsUp sortings rows.length ((exhausted_iff _).2 all)).sessions entry listed
  rw [whole.sessions entry listed, named] at short
  exact absurd (fewer.trans short) (Nat.succ_ne_self _)

end

/-- For all filters, access and tables, and pages read until one is empty, whichever order each
page leaves ties in: the summary is what the rows add up to if and only if every leg the report
reads names an operator of the table, and no page ends between sessions of one id that end at the
same instant. -/
theorem summary_adds_up_iff (collate : String → String → Bool) (pg : PgDates)
    (tables : ReportTables) (filters : ReportFilters) (acl : ShortcodeAcl) (pageSize : Int) :
    (∀ (sortings : Nat → SessionSorting) (count : Nat),
      loadSessionPage (sortings count) pg tables filters acl (count + 1) pageSize = [] →
        AddsUp (loadBillableSummary collate pg tables filters acl)
          (readPages sortings pg tables filters acl pageSize count)) ↔
      (∀ leg ∈ tables.legs, matchesSession pg filters acl tables.legs leg = true →
        (tables.operators.byName leg.operatorName).isSome = true) ∧
      SessionTies (pageLimit pageSize)
        (tables.legs.filter (matchesSession pg filters acl tables.legs)) := by
  constructor
  · intro addsUp
    have known : ∀ leg ∈ tables.legs, matchesSession pg filters acl tables.legs leg = true →
        (tables.operators.byName leg.operatorName).isSome = true := by
      intro leg member kept
      let rows := sessionRows tables
        (tables.legs.filter (matchesSession pg filters acl tables.legs))
      have exhausted : loadSessionPage .insertion pg tables filters acl (rows.length + 1)
          pageSize = [] :=
        (exhausted_iff _).2 (Nat.le_mul_of_pos_right _ (pageLimit_pos pageSize))
      have entries := ((addsUp (fun _ => .insertion) rows.length exhausted).of_perm
        (readPages_insertion exhausted).symm).entries leg.operatorName
      have inside := List.mem_filter.2 ⟨member, kept⟩
      obtain ⟨group, grouped, keyed⟩ := @exists_groupBy _ _ _ LegRecord.group _ _ inside
      obtain ⟨entry, listed, named⟩ := entries.2 ⟨_, mem_sessionRows.2
        ⟨group, grouped, rfl⟩, congrArg Prod.snd keyed⟩
      rw [← named]
      exact entry_known (perOperator_perm.mem_iff.1 listed)
    refine ⟨known, ties_of_addsUp (fun leg member => ?_) addsUp⟩
    exact known leg (List.mem_filter.1 member).1 (List.mem_filter.1 member).2
  · rintro ⟨known, ties⟩ sortings count exhausted
    rw [sessionTies_iff _ tables] at ties
    have whole : (readPages sortings pg tables filters acl pageSize count).Perm (sessionRows tables
        (tables.legs.filter (matchesSession pg filters acl tables.legs))) := by
      rw [readPages_eq]
      exact runPages_perm (pageLimit_pos pageSize) (sessionRows_nodup _ _) ties sortings
        ((exhausted_iff _).1 exhausted)
    refine (addsUp_of_known fun leg member => ?_).of_perm whole
    exact known leg (List.mem_filter.1 member).1 (List.mem_filter.1 member).2

def renamedTables : ReportTables where
  operators :=
    { rows := [⟨3, "yas", some 20⟩]
      idsUnique := by decide
      namesUnique := by decide
      windowsAccepted := by simp }
  legs := [rollupLeg 1 0 (some 10), rollupLeg 2 5000000 (some 10)]
  operatorKnown := by decide
  shortcodeCodes := [(10, "*148*00#")]

def unfiltered : ReportFilters where
  fromTs := none
  toTs := none
  msisdn := none
  sessionId := none
  operators := []
  shortcodeIds := []
  errorClass := none

/-- The report lists the session, the summary counts nothing. -/
theorem renamed_operator_not_counted :
    loadBillableSummary (fun first second => decide (first ≤ second)) ⟨0, fun _ => 0, fun _ => 0⟩
        renamedTables unfiltered none = ⟨[], 0⟩ ∧
      (readPages (fun _ => .insertion) ⟨0, fun _ => 0, fun _ => 0⟩ renamedTables unfiltered none
        50 1).map (fun row => (row.sessionId, row.operatorName, row.billed)) = [("T1", "tigo", 1)] ∧
      loadSessionPage .insertion ⟨0, fun _ => 0, fun _ => 0⟩ renamedTables unfiltered none 2 50 =
        [] := by
  decide +kernel

end UssdGateway
