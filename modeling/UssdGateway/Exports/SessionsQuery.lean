import UssdGateway.Portal.Claims
import UssdGateway.Reports.SessionReport

/-!
The export worker's own query builders: the filters a request stamps into its job, the WHERE
clause made of them, and the sessions query over it.
-/

namespace UssdGateway

open SqlClause Grouping Paging

structure ExportFilters where
  fromDate : Option String
  toDate : Option String
  msisdn : Option String
  sessionId : Option String
  errorClass : String
  operators : List String
  shortcodeIds : List Int
  allowedShortcodeIds : Option (List Nat)
  allowedShortcodeFrom : Option (List Int)
deriving DecidableEq

def orNull (field : Option String) : Option String := if truthy field then field else none

def actionCreateExport (claims : SessionClaims) (filters : ReportFilters) : ExportFilters where
  fromDate := orNull filters.fromTs
  toDate := orNull filters.toTs
  msisdn := orNull filters.msisdn
  sessionId := orNull filters.sessionId
  errorClass := if truthy filters.errorClass then filters.errorClass.getD "" else "any"
  operators := filters.operators
  shortcodeIds := filters.shortcodeIds
  allowedShortcodeIds := claims.shortcodeIds
  allowedShortcodeFrom := claims.shortcodeIds.map fun ids => ids.map claims.fromOf

namespace Worker

/-- The ids with the floors aligned to them, 0 where there is none. -/
def allowedGrants (ids : List Nat) (floors : List Int) : List (Nat × Int) :=
  ids.zipIdx.map fun entry => (entry.1, (floors[entry.2]?).getD 0)

def accessBranch (group : Int × List Nat) : LegClause :=
  if 0 < group.1 then
    joined (· && ·) (idAny legColumns (group.2.map Int.ofNat)) (sinceFloor legColumns .ts group.1)
  else idAny legColumns (group.2.map Int.ofNat)

def accessControl (filters : ExportFilters) : LegClause :=
  match filters.allowedShortcodeIds with
  | none => constant fun _ => true
  | some [] => constant fun _ => false
  | some (id :: rest) =>
      anyOf ((byFrom (allowedGrants (id :: rest)
        (filters.allowedShortcodeFrom.getD []))).map accessBranch)

def errorClassClause (errorClass : String) : LegClause :=
  if errorClass = "ok" then constant fun leg => leg.errorClass.isNone
  else if errorClass = "error" then constant fun leg => leg.errorClass.isSome
  else onlyIf (decide (errorClass ≠ "" ∧ errorClass ≠ "any"))
    (textIs (fun leg => leg.errorClass) errorClass)

def buildWhere (pg : PgDates) (filters : ExportFilters) : LegClause :=
  allOf
    [accessControl filters,
      onlyIf (truthy filters.fromDate) (tsFrom pg 0 (filters.fromDate.getD "")),
      onlyIf (truthy filters.toDate) (tsTo pg 0 (filters.toDate.getD "")),
      onlyIf (truthy filters.msisdn) (textIs (fun leg => leg.msisdn) (filters.msisdn.getD "")),
      onlyIf (truthy filters.sessionId)
        (textIs (fun leg => some leg.sessionId) (filters.sessionId.getD "")),
      onlyIf (decide (filters.operators ≠ [])) (operatorAny filters.operators),
      onlyIf (decide (filters.shortcodeIds ≠ [])) (idAny legColumns filters.shortcodeIds),
      errorClassClause filters.errorClass]

/-- `GREATEST(1, CEIL(span / window))`, the span in microseconds. -/
def windowUnits (windowSecs : Nat) (span : Int) : Int :=
  max 1 (ceilDiv span (microsPerSecond * windowSecs))

def anyValue {α : Type} (column : LegRecord → Option α) (legs : List LegRecord) : Option α :=
  legs.findSome? column

structure ExportRow extends SessionFigures where
  shortcodeCode : Option String
  msisdn : Option String
  finalAction : Option String
  finalErrorClass : Option String
  billableWindowSecs : Option Nat
deriving DecidableEq

def exportRow (tables : ReportTables) (group : (String × String) × List LegRecord) :
    ExportRow where
  toSessionFigures := sessionFigures windowUnits (tables.windowOf group.1.2) group
  shortcodeCode := (tables.codeOf (anyValue (fun leg => leg.shortcodeId) group.2)).orElse
    fun _ => (latestLeg group.2).bind fun leg => leg.serviceCode
  msisdn := anyValue (fun leg => leg.msisdn) group.2
  finalAction := (latestLeg group.2).bind fun leg => leg.handlerResponseAction
  finalErrorClass := (latestLeg group.2).bind fun leg => leg.errorClass
  billableWindowSecs := tables.windowOf group.1.2

def exportRows (pg : PgDates) (tables : ReportTables) (filters : ExportFilters) : List ExportRow :=
  (groupBy LegRecord.group (select (buildWhere pg filters) tables.legs)).map (exportRow tables)

abbrev ExportSorting := Sorting (NewestFirst ExportRow.toSessionFigures)

/-- One chunk of the sessions query, which is a query of its own. -/
def sessionsQuery (sorting : ExportSorting) (pg : PgDates) (tables : ReportTables)
    (filters : ExportFilters) (offset limit : Nat) : List ExportRow :=
  page limit offset (sorting.sort (exportRows pg tables filters))

theorem mem_exportRows {pg : PgDates} {tables : ReportTables} {filters : ExportFilters}
    {row : ExportRow} : row ∈ exportRows pg tables filters ↔
      ∃ group ∈ groupBy LegRecord.group (select (buildWhere pg filters) tables.legs),
        exportRow tables group = row := List.mem_map

theorem exportRow_of_figures {pg : PgDates} {tables : ReportTables} {filters : ExportFilters}
    {row other : ExportRow} (member : row ∈ exportRows pg tables filters)
    (otherMember : other ∈ exportRows pg tables filters)
    (same : row.toSessionFigures = other.toSessionFigures) : row = other := by
  obtain ⟨group, grouped, rfl⟩ := mem_exportRows.1 member
  obtain ⟨otherGroup, otherGrouped, rfl⟩ := mem_exportRows.1 otherMember
  rw [group_of_figures grouped otherGrouped same]

theorem exportRows_nodup (pg : PgDates) (tables : ReportTables) (filters : ExportFilters) :
    (exportRows pg tables filters).Nodup := by
  refine (List.nodup_map_iff_inj_on (groupBy_keys_nodup.of_map _)).2 ?_
  intro one oneMember other otherMember same
  exact group_of_figures oneMember otherMember (congrArg ExportRow.toSessionFigures same)

theorem exportTies_iff (pg : PgDates) (tables : ReportTables) (filters : ExportFilters)
    (limit : Nat) :
    SessionTies limit (select (buildWhere pg filters) tables.legs) ↔
      TiesTogether (NewestFirst ExportRow.toSessionFigures) limit (exportRows pg tables filters) :=
  (@tiesTogether_map _ (NewestFirst ExportRow.toSessionFigures) _ _
    (NewestFirst (sessionFigures UssdGateway.windowUnits none)) _ (exportRow tables)
    (fun _ _ => Iff.rfl) limit _).symm

theorem exported_iff {pg : PgDates} {tables : ReportTables} {filters : ExportFilters}
    {chunk : Nat} (positive : 0 < chunk)
    (ties : SessionTies chunk (select (buildWhere pg filters) tables.legs))
    (sortings : Nat → ExportSorting) (row : ExportRow) :
    (∃ number, row ∈ sessionsQuery (sortings number) pg tables filters (number * chunk) chunk) ↔
      ∃ group ∈ groupBy LegRecord.group (select (buildWhere pg filters) tables.legs),
        exportRow tables group = row := by
  rw [exportTies_iff] at ties
  simp only [sessionsQuery, mem_runPage_iff positive ties]
  rw [← mem_exportRows]
  constructor
  · rintro ⟨number, member, _⟩
    exact member
  · intro member
    exact ⟨_, member, rfl⟩

end Worker

end UssdGateway
