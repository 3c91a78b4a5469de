import UssdGateway.Exports.SessionsExport
import Mathlib.Data.String.Basic

/-!
What an export file holds: CSV lines, one for each row of the job's query, and the chunks in which
the worker reads them.
-/

namespace UssdGateway

open SqlClause Grouping Paging

inductive Granularity where
  | legs
  | sessions
deriving DecidableEq, Repr

structure CsvTexts where
  timestamp : Int → String
  seconds : Int → String

inductive ExportSubject where
  | leg (record : LegRecord)
  | session (group : (String × String) × List LegRecord)
deriving DecidableEq

namespace Worker

def csvCell : Option String → List Char
  | none => []
  | some value =>
      if value.toList.any fun point => point ∈ ['\"', ',', '\n', '\r'] then
        ['\"'] ++ value.toList.flatMap (fun point =>
          if point = '\"' then ['\"', '\"'] else [point]) ++ ['\"']
      else value.toList

def csvLine (values : List (Option String)) : List Char :=
  [','].intercalate (values.map csvCell) ++ ['\n']

/-- `LEG_COLUMNS` and `SESSION_COLUMNS`. -/
def columns : Granularity → List String
  | .legs =>
      ["ts", "operator_name", "shortcode_code", "msisdn", "session_id", "direction",
        "handler_response_action", "error_class", "handler_elapsed_ms", "ussd_string",
        "handler_response_text"]
  | .sessions =>
      ["session_id", "operator_name", "shortcode_code", "msisdn", "first_ts", "last_ts",
        "duration_secs", "leg_count", "final_action", "final_error_class",
        "billable_window_secs", "billable_units"]

def headerLine (granularity : Granularity) : List Char :=
  csvLine ((columns granularity).map some)

def legValues (texts : CsvTexts) (tables : ReportTables) (leg : LegRecord) :
    List (Option String) :=
  [some (texts.timestamp leg.ts), some leg.operatorName,
    (tables.codeOf leg.shortcodeId).orElse fun _ => leg.serviceCode, leg.msisdn,
    some leg.sessionId, some leg.direction, leg.handlerResponseAction, leg.errorClass,
    leg.handlerElapsedMs.map toString, leg.ussdString, leg.handlerResponseText]

def sessionValues (texts : CsvTexts) (row : ExportRow) : List (Option String) :=
  [some row.sessionId, some row.operatorName, row.shortcodeCode, row.msisdn,
    some (texts.timestamp row.firstTs), some (texts.timestamp row.lastTs),
    some (texts.seconds row.durationMicros), some (toString row.legCount), row.finalAction,
    row.finalErrorClass, row.billableWindowSecs.map toString, row.billableUnits.map toString]

def exportValues (texts : CsvTexts) (tables : ReportTables) :
    ExportSubject → List (Option String)
  | .leg record => legValues texts tables record
  | .session group => sessionValues texts (exportRow tables group)

def selected (pg : PgDates) (filters : ExportFilters) (legs : List LegRecord) :
    Granularity → List ExportSubject
  | .legs => (select (buildWhere pg filters) legs).map .leg
  | .sessions => (groupBy LegRecord.group (select (buildWhere pg filters) legs)).map .session

/-- `ORDER BY ts DESC, id DESC` and `ORDER BY last_ts DESC, session_id DESC`. -/
def Precedes : ExportSubject → ExportSubject → Prop
  | .leg first, .leg second =>
      second.ts < first.ts ∨ (second.ts = first.ts ∧ second.id ≤ first.id)
  | .session first, .session second =>
      newestFirst (sessionFigures windowUnits none first) (sessionFigures windowUnits none second)
  | _, _ => False

instance : DecidableRel Precedes
  | .leg _, .leg _ => inferInstanceAs (Decidable (_ ∨ _))
  | .session _, .session _ => inferInstanceAs (Decidable (newestFirst _ _))
  | .leg _, .session _ => inferInstanceAs (Decidable False)
  | .session _, .leg _ => inferInstanceAs (Decidable False)

/-- An order in which the database may return the rows: ties come as they like. -/
def QueryOrder (pg : PgDates) (filters : ExportFilters) (legs : List LegRecord)
    (granularity : Granularity) (order : List ExportSubject) : Prop :=
  order.Perm (selected pg filters legs granularity) ∧ order.Pairwise Precedes

instance (pg : PgDates) (filters : ExportFilters) (legs : List LegRecord)
    (granularity : Granularity) (order : List ExportSubject) :
    Decidable (QueryOrder pg filters legs granularity order) :=
  inferInstanceAs (Decidable (_ ∧ _))

end Worker

def requested (pg : PgDates) (claims : SessionClaims) (filters : ReportFilters)
    (legs : List LegRecord) : Granularity → List ExportSubject
  | .legs => (legs.filter (matchesLeg pg filters (sessionAcl claims) 0)).map .leg
  | .sessions =>
      (groupBy LegRecord.group (legs.filter (matchesLeg pg filters (sessionAcl claims) 0))).map
        .session

namespace Worker

theorem selected_eq_requested (pg : PgDates) (claims : SessionClaims) (filters : ReportFilters)
    (legs : List LegRecord) (granularity : Granularity) :
    selected pg (actionCreateExport claims filters) legs granularity =
      requested pg claims filters legs granularity := by
  have chosen := select_eq (denotes_buildWhere pg claims filters) legs
  cases granularity with
  | legs => rw [selected, requested, chosen]
  | sessions => rw [selected, requested, chosen]

theorem sessionsQuery_pages (sorting : ExportSorting) (pg : PgDates) (tables : ReportTables)
    (filters : ExportFilters) :
    ∃ groups, QueryOrder pg filters tables.legs .sessions (groups.map .session) ∧
      ∀ offset limit, sessionsQuery sorting pg tables filters offset limit =
        (page limit offset groups).map (exportRow tables) := by
  have perm := sorting.perm (exportRows pg tables filters)
  rw [exportRows, ← congrFun₂ (List.eq_map_comp_perm (exportRow tables))] at perm
  obtain ⟨groups, same, perm⟩ := perm
  refine ⟨groups, ⟨perm.map ExportSubject.session, ?_⟩, ?_⟩
  · have sorted := sorting.sorted (exportRows pg tables filters)
    rw [exportRows, same, List.pairwise_map] at sorted
    rw [List.pairwise_map]
    exact sorted
  · intro offset limit
    rw [sessionsQuery, exportRows, same, page, page, List.map_take, List.map_drop]

end Worker

end UssdGateway
