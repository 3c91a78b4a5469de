import UssdGateway.Library.TiedPages
import UssdGateway.Reports.Filters
import Mathlib.Data.String.Basic

/-!
The rows of the Sessions report: one per session and operator, over the legs `buildSessionWhere`
keeps.
-/

namespace UssdGateway

open Grouping Paging

structure SessionFigures where
  sessionId : String
  operatorName : String
  firstTs : Int
  lastTs : Int
  legCount : Nat
  durationMicros : Int
  billableUnits : Option Int
deriving DecidableEq

structure SessionRow extends SessionFigures where
  shortcodeCode : Option String
  msisdn : Option String
  finalAction : Option String
  finalErrorClass : Option String
  finalUssdString : Option String
  finalResponseText : Option String
  billableWindowSecs : Option Nat
deriving DecidableEq

structure ReportTables extends LegTables where
  shortcodeCodes : List (Nat × String)

def ReportTables.codeOf (tables : ReportTables) (shortcodeId : Option Nat) : Option String :=
  shortcodeId.bind fun id => List.lookup id tables.shortcodeCodes

def ReportTables.windowOf (tables : ReportTables) (operatorName : String) : Option Nat :=
  (tables.operators.byName operatorName).bind OperatorRecord.billableWindowSecs

def latestLeg : List LegRecord → Option LegRecord
  | [] => none
  | leg :: rest =>
      match latestLeg rest with
      | some later => if leg.ts < later.ts then some later else some leg
      | none => some leg

def latestValue {α : Type} (column : LegRecord → Option α) (legs : List LegRecord) : Option α :=
  (latestLeg (legs.filter fun leg => (column leg).isSome)).bind column

def spanMicros (legs : List LegRecord) : Int := lastTs legs - firstTs legs

def sessionFigures (units : Nat → Int → Int) (windowSecs : Option Nat)
    (group : (String × String) × List LegRecord) : SessionFigures where
  sessionId := group.1.1
  operatorName := group.1.2
  firstTs := firstTs group.2
  lastTs := lastTs group.2
  legCount := group.2.length
  durationMicros := spanMicros group.2
  billableUnits := windowSecs.map fun secs => units secs (spanMicros group.2)

def sessionRow (tables : ReportTables) (group : (String × String) × List LegRecord) :
    SessionRow where
  toSessionFigures := sessionFigures windowUnits (tables.windowOf group.1.2) group
  shortcodeCode := (tables.codeOf (latestValue (fun leg => leg.shortcodeId) group.2)).orElse
    fun _ => (latestLeg group.2).bind fun leg => leg.serviceCode
  msisdn := latestValue (fun leg => leg.msisdn) group.2
  finalAction := (latestLeg group.2).bind fun leg => leg.handlerResponseAction
  finalErrorClass := (latestLeg group.2).bind fun leg => leg.errorClass
  finalUssdString := (latestLeg group.2).bind fun leg => leg.ussdString
  finalResponseText := (latestLeg group.2).bind fun leg => leg.handlerResponseText
  billableWindowSecs := tables.windowOf group.1.2

/-- `ORDER BY last_ts DESC, session_id DESC`. -/
def newestFirst (first second : SessionFigures) : Prop :=
  second.lastTs < first.lastTs ∨
    (second.lastTs = first.lastTs ∧ ¬ first.sessionId < second.sessionId)

instance : DecidableRel newestFirst := fun _ _ => inferInstanceAs (Decidable (_ ∨ _))

theorem newestFirst_total (first second : SessionFigures) :
    newestFirst first second ∨ newestFirst second first := by
  simp only [newestFirst, not_lt]
  rcases Int.lt_trichotomy first.lastTs second.lastTs with before | same | after
  · exact .inr (.inl before)
  · rcases le_total first.sessionId second.sessionId with below | above
    · exact .inr (.inr ⟨same, below⟩)
    · exact .inl (.inr ⟨same.symm, above⟩)
  · exact .inl (.inl after)

theorem newestFirst_trans {first second third : SessionFigures}
    (left : newestFirst first second) (right : newestFirst second third) :
    newestFirst first third := by
  simp only [newestFirst, not_lt] at left right ⊢
  rcases left with later | ⟨same, ordered⟩
  · rcases right with alsoLater | ⟨alsoSame, _⟩
    · exact .inl (by omega)
    · exact .inl (by omega)
  · rcases right with later | ⟨alsoSame, alsoOrdered⟩
    · exact .inl (by omega)
    · exact .inr ⟨by omega, alsoOrdered.trans ordered⟩

/-- The order of rows with these figures. Rows of one session id that end at one instant, on two
operators, are equal in it. -/
def NewestFirst {ρ : Type} (figures : ρ → SessionFigures) (first second : ρ) : Prop :=
  newestFirst (figures first) (figures second)

section

variable {ρ : Type} (figures : ρ → SessionFigures)

instance : DecidableRel (NewestFirst figures) := fun _ _ =>
  inferInstanceAs (Decidable (newestFirst _ _))

instance : Std.Total (NewestFirst figures) := ⟨fun _ _ => newestFirst_total _ _⟩

instance : IsTrans ρ (NewestFirst figures) := ⟨fun _ _ _ => newestFirst_trans⟩

end

abbrev SessionSorting := Sorting (NewestFirst SessionRow.toSessionFigures)

def sessionRows (tables : ReportTables) (legs : List LegRecord) : List SessionRow :=
  (groupBy LegRecord.group legs).map (sessionRow tables)

def orderedSessions (sorting : SessionSorting) (tables : ReportTables) (legs : List LegRecord) :
    List SessionRow :=
  sorting.sort (sessionRows tables legs)

def maxPageSize : Int := 100

/-- The rows `loadSessionPage` returns for one page, which is a query of its own. -/
def loadSessionPage (sorting : SessionSorting) (pg : PgDates) (tables : ReportTables)
    (filters : ReportFilters) (acl : ShortcodeAcl) (number pageSize : Int) : List SessionRow :=
  let ps := max 1 (min maxPageSize pageSize)
  let offset := max 0 ((number - 1) * ps)
  page ps.toNat offset.toNat (orderedSessions sorting tables
    (SqlClause.select (buildSessionWhere pg filters acl tables.legs) tables.legs))

theorem mem_sessionRows {tables : ReportTables} {legs : List LegRecord} {row : SessionRow} :
    row ∈ sessionRows tables legs ↔
      ∃ group ∈ groupBy LegRecord.group legs, sessionRow tables group = row := List.mem_map

theorem group_of_figures {legs : List LegRecord} {units otherUnits : Nat → Int → Int}
    {window otherWindow : Option Nat} {group other : (String × String) × List LegRecord}
    (member : group ∈ groupBy LegRecord.group legs)
    (otherMember : other ∈ groupBy LegRecord.group legs)
    (same : sessionFigures units window group = sessionFigures otherUnits otherWindow other) :
    group = other :=
  List.inj_on_of_nodup_map groupBy_keys_nodup member otherMember
    (Prod.ext (congrArg SessionFigures.sessionId same) (congrArg SessionFigures.operatorName same))

theorem sessionRow_of_figures {tables : ReportTables} {legs : List LegRecord}
    {row other : SessionRow} (member : row ∈ sessionRows tables legs)
    (otherMember : other ∈ sessionRows tables legs)
    (same : row.toSessionFigures = other.toSessionFigures) : row = other := by
  obtain ⟨group, grouped, rfl⟩ := mem_sessionRows.1 member
  obtain ⟨otherGroup, otherGrouped, rfl⟩ := mem_sessionRows.1 otherMember
  rw [group_of_figures grouped otherGrouped same]

theorem sessionRows_nodup (tables : ReportTables) (legs : List LegRecord) :
    (sessionRows tables legs).Nodup := by
  refine (List.nodup_map_iff_inj_on (groupBy_keys_nodup.of_map _)).2 ?_
  intro one oneMember other otherMember same
  exact group_of_figures oneMember otherMember (congrArg SessionRow.toSessionFigures same)

/-- No boundary between pages, or chunks, of this size falls between sessions of these legs that
the order leaves equal. -/
def SessionTies (limit : Nat) (legs : List LegRecord) : Prop :=
  TiesTogether (NewestFirst (sessionFigures windowUnits none)) limit
    (groupBy LegRecord.group legs)

instance (limit : Nat) (legs : List LegRecord) : Decidable (SessionTies limit legs) :=
  inferInstanceAs (Decidable (TiesTogether _ _ _))

theorem sessionTies_iff (limit : Nat) (tables : ReportTables) (legs : List LegRecord) :
    SessionTies limit legs ↔
      TiesTogether (NewestFirst SessionRow.toSessionFigures) limit (sessionRows tables legs) :=
  (@tiesTogether_map _ (NewestFirst SessionRow.toSessionFigures) _ _
    (NewestFirst (sessionFigures windowUnits none)) _ (sessionRow tables) (fun _ _ => Iff.rfl)
    limit _).symm

def pageLimit (pageSize : Int) : Nat := (max 1 (min maxPageSize pageSize)).toNat

theorem pageLimit_pos (pageSize : Int) : 0 < pageLimit pageSize := by
  rw [pageLimit]
  omega

theorem loadSessionPage_succ (sorting : SessionSorting) (pg : PgDates) (tables : ReportTables)
    (filters : ReportFilters) (acl : ShortcodeAcl) (number : Nat) (pageSize : Int) :
    loadSessionPage sorting pg tables filters acl (number + 1) pageSize =
      page (pageLimit pageSize) (number * pageLimit pageSize) (sorting.sort (sessionRows tables
        (tables.legs.filter (matchesSession pg filters acl tables.legs)))) := by
  have size : (pageLimit pageSize : Int) = max 1 (min maxPageSize pageSize) :=
    Int.toNat_of_nonneg (by omega)
  have offset : (max 0 (((number : Int) + 1 - 1) * max 1 (min maxPageSize pageSize))).toNat =
      number * pageLimit pageSize := by
    rw [Int.add_sub_cancel, ← size, ← Int.natCast_mul, Int.max_eq_right (Int.natCast_nonneg _),
      Int.toNat_natCast]
  simp only [loadSessionPage, offset,
    SqlClause.select_eq (denotes_buildSessionWhere pg filters acl tables.legs)]
  rfl

theorem group_of_listed {sorting : SessionSorting} {pg : PgDates} {tables : ReportTables}
    {filters : ReportFilters} {acl : ShortcodeAcl} {number pageSize : Int} {row : SessionRow}
    (listed : row ∈ loadSessionPage sorting pg tables filters acl number pageSize) :
    ∃ group ∈ groupBy LegRecord.group
      (tables.legs.filter (matchesSession pg filters acl tables.legs)),
      sessionRow tables group = row := by
  rw [loadSessionPage,
    SqlClause.select_eq (denotes_buildSessionWhere pg filters acl tables.legs)] at listed
  exact mem_sessionRows.1 ((sorting.perm _).mem_iff.1 (mem_of_mem_page listed))

theorem listed_iff {pg : PgDates} {tables : ReportTables} {filters : ReportFilters}
    {acl : ShortcodeAcl} {pageSize : Int}
    (ties : SessionTies (pageLimit pageSize)
      (tables.legs.filter (matchesSession pg filters acl tables.legs)))
    (sortings : Nat → SessionSorting) (row : SessionRow) :
    (∃ number : Nat,
        row ∈ loadSessionPage (sortings number) pg tables filters acl (number + 1) pageSize) ↔
      ∃ group ∈ groupBy LegRecord.group
        (tables.legs.filter (matchesSession pg filters acl tables.legs)),
        sessionRow tables group = row := by
  rw [sessionTies_iff _ tables] at ties
  simp only [loadSessionPage_succ, mem_runPage_iff (pageLimit_pos pageSize) ties]
  rw [← mem_sessionRows]
  exact ⟨fun ⟨_, member, _⟩ => member, fun member => ⟨_, member, rfl⟩⟩

end UssdGateway
