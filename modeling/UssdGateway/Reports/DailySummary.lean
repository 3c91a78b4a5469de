import UssdGateway.Reports.Acl
import Mathlib.Algebra.GroupWithZero.Nat
import Mathlib.Algebra.Ring.Int.Defs

/-!
`refresh_daily_session_summary`: the nightly rollup per day, operator and shortcode.
-/

namespace UssdGateway

open Grouping

/-- What a session is grouped by on one day. Legs without a shortcode go to 0. -/
structure GroupKey where
  date : Int
  operatorId : Nat
  shortcodeId : Nat
  sessionId : String
deriving DecidableEq

structure SessionGroup where
  key : GroupKey
  firstTs : Int
  lastTs : Int
  legsInSession : Nat
  hadError : Bool
deriving DecidableEq

structure SummaryRow where
  date : Int
  operatorId : Nat
  shortcodeId : Nat
  sessions : Nat
  legs : Nat
  errors : Nat
  billableUnits : Int
deriving DecidableEq

def SummaryRow.key (row : SummaryRow) : Int × Nat × Nat :=
  (row.date, row.operatorId, row.shortcodeId)

def summaryColumns : AclColumns SummaryRow where
  scCol row := some row.shortcodeId
  tsCol := SummaryRow.date

inductive RefreshError where
  | invalidWindow (startDate endDate : Option Int)
deriving DecidableEq

def LegRecord.groupKey (zone : Int) (leg : LegRecord) : GroupKey where
  date := localDate zone leg.ts
  operatorId := leg.operatorId
  shortcodeId := leg.shortcodeId.getD 0
  sessionId := leg.sessionId

def inWindow (zone startDate endDate : Int) (leg : LegRecord) : Bool :=
  decide (midnight zone startDate ≤ leg.ts) && decide (leg.ts < midnight zone (endDate + 1))

def perGroup (zone : Int) (legs : List LegRecord) (startDate endDate : Int) : List SessionGroup :=
  (groupBy (LegRecord.groupKey zone) (legs.filter (inWindow zone startDate endDate))).map
    fun group =>
      { key := group.1
        firstTs := firstTs group.2
        lastTs := lastTs group.2
        legsInSession := group.2.length
        hadError := group.2.any fun leg => leg.errorClass.isSome }

/-- `BOOL_OR(shortcode_id <> 0) OVER (PARTITION BY d, operator_id, session_id)`. -/
def attributed (groups : List SessionGroup) (group : SessionGroup) : Bool :=
  groups.any fun other => decide (other.key.date = group.key.date ∧
    other.key.operatorId = group.key.operatorId ∧ other.key.sessionId = group.key.sessionId ∧
    other.key.shortcodeId ≠ 0)

/-- The 0 group of a session attributed elsewhere is a duplicate. -/
def keptGroups (groups : List SessionGroup) : List SessionGroup :=
  groups.filter fun group => decide (group.key.shortcodeId ≠ 0) || !attributed groups group

def groupUnits (operator : OperatorRecord) (group : SessionGroup) : Int :=
  match operator.billableWindowSecs with
  | some windowSecs => windowUnits windowSecs (group.lastTs - group.firstTs)
  | none => 1

def joinOperators (operators : OperatorTable) (groups : List SessionGroup) :
    List (SessionGroup × OperatorRecord) :=
  groups.filterMap fun group =>
    (operators.byId group.key.operatorId).map fun operator => (group, operator)

def bucket (joined : SessionGroup × OperatorRecord) : Int × Nat × Nat :=
  (joined.1.key.date, joined.1.key.operatorId, joined.1.key.shortcodeId)

def summaryRow (group : (Int × Nat × Nat) × List (SessionGroup × OperatorRecord)) : SummaryRow where
  date := group.1.1
  operatorId := group.1.2.1
  shortcodeId := group.1.2.2
  sessions := group.2.length
  legs := (group.2.map fun joined => joined.1.legsInSession).sum
  errors := group.2.countP fun joined => joined.1.hadError
  billableUnits := (group.2.map fun joined => groupUnits joined.2 joined.1).sum

def insertedRows (zone : Int) (tables : LegTables) (startDate endDate : Int) : List SummaryRow :=
  (groupBy bucket (joinOperators tables.operators
    (keptGroups (perGroup zone tables.legs startDate endDate)))).map summaryRow

def refreshDailySessionSummary (zone : Int) (tables : LegTables) (summary : List SummaryRow)
    (startDate endDate : Option Int) : Except RefreshError (Nat × List SummaryRow) :=
  match startDate, endDate with
  | some first, some last =>
      if last < first then .error (.invalidWindow startDate endDate)
      else
        let inserted := insertedRows zone tables first last
        .ok (inserted.length,
          (summary.filter fun row => !(decide (first ≤ row.date) && decide (row.date ≤ last))) ++
            inserted)
  | _, _ => .error (.invalidWindow startDate endDate)

end UssdGateway
