import UssdGateway.Library.CivilDate
import UssdGateway.Library.Transition
import UssdGateway.Reports.Filters
import UssdGateway.Reports.SummaryRefresh

/-!
The number of sessions above the Sessions report: `tryRollupBoundedCount` sums the nightly rollup,
the slow path counts the sessions of the legs.
-/

namespace UssdGateway

open SqlClause Grouping WindowRefresh

def decimalDigit (value : Nat) : Char := Char.ofNat (48 + value % 10)

def twoDecimals (value : Nat) : List Char := [decimalDigit (value / 10), decimalDigit value]

def fourDecimals (value : Nat) : List Char :=
  twoDecimals (value / 100) ++ twoDecimals value

/-- Years beyond four digits have a sign and six digits. -/
def isoYear (year : Int) : List Char :=
  if 0 ≤ year ∧ year ≤ 9999 then fourDecimals year.toNat
  else (if year < 0 then '-' else '+') ::
    (twoDecimals (year.natAbs / 10000) ++ fourDecimals year.natAbs)

def unixEpochDay : Int := 719468

def isoDate (now : Int) : String :=
  let date := CivilDate.ofDay (unixEpochDay + localDate 0 now)
  String.ofList ((isoYear date.year ++ '-' :: (twoDecimals date.month.toNat ++
    '-' :: twoDecimals date.day.toNat)).take 10)

example : isoDate (20468 * dayMicros) = "2026-01-15" := by decide +kernel

def aclIntersect (acl : ShortcodeAcl) (ids : List Int) : ShortcodeAcl :=
  if ids = [] then acl
  else match acl with
    | none => some ((ids.filter fun id => decide (0 ≤ id)).map fun id => ⟨id.toNat, 0⟩)
    | some grants => some (grants.filter fun grant => decide (Int.ofNat grant.id ∈ ids))

abbrev SummaryClause := Builder SqlValue SummaryRow

def dateFrom (pg : PgDates) (text : String) : SummaryClause :=
  withValue (.text text) fun value row =>
    match value with
    | some (.text wanted) => decide (pg.date wanted ≤ row.date)
    | _ => false

def dateTo (pg : PgDates) (text : String) : SummaryClause :=
  withValue (.text text) fun value row =>
    match value with
    | some (.text wanted) => decide (row.date ≤ pg.date wanted)
    | _ => false

def namesOperator (operators : OperatorTable) (names : List String) (operatorId : Nat) : Bool :=
  operators.rows.any fun operator =>
    decide (operator.id = operatorId) && decide (operator.name ∈ names)

/-- `operator_id IN (SELECT id FROM operators WHERE name = ANY($n::text[]))`. -/
def operatorIdAny (operators : OperatorTable) (names : List String) : SummaryClause :=
  withValue (.texts names) fun value row =>
    match value with
    | some (.texts wanted) => namesOperator operators wanted row.operatorId
    | _ => false

def rollupWhere (pg : PgDates) (operators : OperatorTable) (filters : ReportFilters)
    (scFilter : ShortcodeAcl) : SummaryClause :=
  allOf [dateFrom pg (filters.fromTs.getD ""), dateTo pg (filters.toTs.getD ""),
    onlyIf (decide (filters.operators ≠ [])) (operatorIdAny operators filters.operators),
    onlyIf scFilter.isSome (aclClause summaryColumns .date scFilter)]

/-- `none` sends the caller to the slow path. Texts are compared with an ASCII one, so by code
point is by code unit. -/
def tryRollupBoundedCount (pg : PgDates) (operators : OperatorTable) (summary : List SummaryRow)
    (now : Int) (filters : ReportFilters) (acl : ShortcodeAcl) : Option Nat :=
  if truthy filters.msisdn = true then none
  else if truthy filters.sessionId = true then none
  else if errorClassPicked filters.errorClass = true then none
  else if truthy filters.fromTs = false ∨ truthy filters.toTs = false then none
  else if ¬ filters.toTs.getD "" < isoDate now then none
  else if acl = some [] then some 0
  else
    let scFilter := aclIntersect acl filters.shortcodeIds
    if scFilter = some [] then some 0
    else some ((select (rollupWhere pg operators filters scFilter) summary).map
      SummaryRow.sessions).sum

def matchingSessions (pg : PgDates) (legs : List LegRecord) (filters : ReportFilters)
    (acl : ShortcodeAcl) : List (String × String) :=
  ((select (buildWhere pg filters acl) legs).map LegRecord.group).dedup

theorem mem_matchingSessions {pg : PgDates} {legs : List LegRecord} {filters : ReportFilters}
    {acl : ShortcodeAcl} {session : String × String} :
    session ∈ matchingSessions pg legs filters acl ↔
      ∃ leg ∈ legs, matchesLeg pg filters acl 0 leg = true ∧ leg.group = session := by
  rw [matchingSessions, select_eq (denotes_buildWhere pg filters acl), List.mem_dedup,
    List.mem_map]
  simp only [List.mem_filter, and_assoc]

def countCap : Nat := 10000

def countSessions (pg : PgDates) (legs : List LegRecord) (filters : ReportFilters)
    (acl : ShortcodeAcl) : Nat :=
  ((matchingSessions pg legs filters acl).take (countCap + 1)).length

/-- What the writer gives every leg: the name its operator has, and a shortcode of the table, whose
ids start at 1. -/
def WellNamed (operators : OperatorTable) (leg : LegRecord) : Prop :=
  (operators.byId leg.operatorId).map OperatorRecord.name = some leg.operatorName ∧
    leg.shortcodeId ≠ some 0

instance (operators : OperatorTable) (leg : LegRecord) : Decidable (WellNamed operators leg) :=
  inferInstanceAs (Decidable (_ ∧ _))

structure ReportState (operators : OperatorTable) where
  now : Int
  legs : List LegRecord
  wellNamed : ∀ leg ∈ legs, WellNamed operators leg
  dailySessionSummary : List SummaryRow
  nextFire : Int
  rolledUp : List LegRecord

theorem WellNamed.known {operators : OperatorTable} {leg : LegRecord}
    (named : WellNamed operators leg) : (operators.byId leg.operatorId).isSome = true := by
  obtain ⟨operator, found, _⟩ := Option.map_eq_some_iff.1 named.1
  rw [found]
  rfl

def ReportState.tables {operators : OperatorTable} (state : ReportState operators) :
    LegTables where
  operators := operators
  legs := state.legs
  operatorKnown leg member := (state.wellNamed leg member).known

def nextDaily (fireTime now : Int) : Int :=
  let target := localDate 0 now * dayMicros + fireTime
  if target ≤ now then target + dayMicros else target

inductive ReportEvent where
  | wait (later : Int)
  | write (leg : LegRecord)
  | nightly

def stepReport (pg : PgDates) (fireTime : Int) {operators : OperatorTable}
    (state : ReportState operators) : ReportEvent → Option (ReportState operators)
  | .wait later =>
      if state.now ≤ later ∧ later ≤ state.nextFire then some { state with now := later } else none
  | .write leg =>
      if named : leg.ts ≤ state.now ∧ WellNamed operators leg then
        some { state with
          legs := state.legs ++ [leg]
          wellNamed := by
            intro other member
            rcases List.mem_append.1 member with earlier | added
            · exact state.wellNamed other earlier
            · exact List.mem_singleton.1 added ▸ named.2 }
      else none
  | .nightly =>
      if state.now = state.nextFire then
        let yesterday := localDate pg.zone state.now - 1
        some { state with
          dailySessionSummary := afterRefresh pg.zone state.tables state.dailySessionSummary
            (some yesterday) (some yesterday)
          nextFire := nextDaily fireTime state.now
          rolledUp := refresh (fun leg =>
            dayWithin yesterday yesterday (localDate pg.zone leg.ts)) state.legs state.rolledUp }
      else none

def reportRuns (pg : PgDates) (fireTime : Int) (operators : OperatorTable) :
    StepSystem (ReportState operators) ReportEvent where
  initial state := state.legs = [] ∧ state.dailySessionSummary = [] ∧ state.rolledUp = [] ∧
    state.nextFire = nextDaily fireTime state.now
  step := stepReport pg fireTime

end UssdGateway
