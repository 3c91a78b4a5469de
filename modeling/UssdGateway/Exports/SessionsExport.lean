import UssdGateway.Exports.SessionsQuery
import Mathlib.Data.Set.Basic

/-!
The sessions export against the report on the screen. The worker aggregates the legs that match
the filters, the report every leg of the sessions that match.
-/

namespace UssdGateway

open SqlClause Grouping

namespace Worker

theorem allowedGrants_aligned (ids : List Nat) (floorOf : Nat → Int) :
    allowedGrants ids (ids.map floorOf) = ids.map fun id => (id, floorOf id) := by
  apply List.ext_getElem
  · simp [allowedGrants]
  · intro index bound other
    have below : index < ids.length := by simpa [allowedGrants] using bound
    simp [allowedGrants, below]

theorem denotes_accessBranch (group : Int × List Nat) :
    Denotes (accessBranch group) fun leg =>
      idIn (group.2.map Int.ofNat) (legColumns.scCol leg) &&
        fromFloor legColumns .ts group.1 leg := by
  simp only [accessBranch, fromFloor]
  split
  next floored =>
    have strict : ¬ group.1 ≤ 0 := by omega
    simp only [strict, decide_false, Bool.false_or]
    exact denotes_joined (· && ·) (denotes_idAny _) (denotes_sinceFloor _)
  next unfloored =>
    have low : group.1 ≤ 0 := by omega
    simp only [low, decide_true, Bool.true_or, Bool.and_true]
    exact denotes_idAny _

theorem denotes_accessControl (claims : SessionClaims) (filters : ReportFilters) :
    Denotes (accessControl (actionCreateExport claims filters))
      (aclAdmits legColumns .ts (sessionAcl claims)) := by
  rcases allowed : claims.shortcodeIds with _ | ids
  · simp only [accessControl, actionCreateExport, sessionAcl, allowed]
    exact denotes_constant _
  rcases ids with _ | ⟨id, rest⟩
  · simp only [accessControl, actionCreateExport, sessionAcl, allowed]
    exact denotes_constant _
  have branches := denotes_anyOf (byFrom ((id :: rest).map fun id => (id, claims.fromOf id)))
    accessBranch (fun group leg => idIn (group.2.map Int.ofNat) (legColumns.scCol leg) &&
      fromFloor legColumns .ts group.1 leg) fun group _ => denotes_accessBranch group
  simp only [any_byFrom, List.any_map, Function.comp_def] at branches
  simp only [accessControl, actionCreateExport, sessionAcl, allowed, Option.map_some,
    Option.getD_some]
  rw [allowedGrants_aligned]
  have meaning : aclAdmits legColumns .ts (some ((id :: rest).map fun id =>
      { id, fromSecs := claims.fromOf id })) = fun leg => (id :: rest).any fun id =>
        decide (legColumns.scCol leg = some id) &&
          fromFloor legColumns .ts (claims.fromOf id) leg := by
    funext leg
    simp only [aclAdmits, List.any_map, Function.comp_def]
  rw [meaning]
  exact branches

theorem truthy_orNull (field : Option String) : truthy (orNull field) = truthy field := by
  rw [orNull]
  split
  · rfl
  next falsy => simpa [truthy] using falsy

theorem orNull_getD {field : Option String} (present : truthy field = true) :
    (orNull field).getD "" = field.getD "" := by
  rw [orNull, if_pos present]

theorem denotes_orNull (field : Option String) (clause : String → LegClause)
    {meaning : String → LegRecord → Bool} (denotes : ∀ text, Denotes (clause text) (meaning text)) :
    Denotes (onlyIf (truthy (orNull field)) (clause ((orNull field).getD "")))
      fun leg => !truthy field || meaning (field.getD "") leg := by
  rw [truthy_orNull]
  by_cases present : truthy field = true
  · rw [orNull_getD present]
    exact denotes_onlyIf _ (denotes _)
  · have absent : truthy field = false := by simpa using present
    rw [absent]
    exact denotes_constant _

theorem denotes_errorClassClause (errorClass : Option String) :
    Denotes (errorClassClause (if truthy errorClass then errorClass.getD "" else "any"))
      fun leg => errorClassHolds errorClass leg.errorClass := by
  by_cases present : truthy errorClass = true
  · rcases errorClass with _ | wanted
    · exact absurd present (by decide)
    have nonempty : wanted ≠ "" := by simpa [truthy] using present
    simp only [present, if_true, Option.getD_some, errorClassClause, errorClassHolds,
      errorClassPicked, Bool.true_and, Option.some.injEq]
    by_cases ok : wanted = "ok"
    · subst ok
      exact denotes_constant _
    by_cases error : wanted = "error"
    · subst error
      exact denotes_constant _
    have built := denotes_onlyIf (decide (wanted ≠ "any"))
      (denotes_textIs (fun leg => leg.errorClass) wanted)
    simpa [ok, error, nonempty] using built
  · have absent : truthy errorClass = false := by simpa using present
    have meaning : (fun leg : LegRecord => errorClassHolds errorClass leg.errorClass) =
        fun _ => true := by
      funext leg
      simp [errorClassHolds, errorClassPicked, absent]
    rw [meaning]
    simp only [absent, Bool.false_eq_true, if_false]
    exact denotes_constant _

theorem denotes_buildWhere (pg : PgDates) (claims : SessionClaims) (filters : ReportFilters) :
    Denotes (buildWhere pg (actionCreateExport claims filters))
      (matchesLeg pg filters (sessionAcl claims) 0) :=
  denotes_allOf_cons (denotes_accessControl claims filters) <|
  denotes_allOf_cons (denotes_orNull _ (tsFrom pg 0) (denotes_tsFrom pg 0)) <|
  denotes_allOf_cons (denotes_orNull _ (tsTo pg 0) (denotes_tsTo pg 0)) <|
  denotes_allOf_cons (denotes_orNull _ (textIs fun leg => leg.msisdn) (denotes_textIs _)) <|
  denotes_allOf_cons
    (denotes_orNull _ (textIs fun leg => some leg.sessionId) (denotes_textIs _)) <|
  denotes_allOf_cons (denotes_onlyIf _ (denotes_operatorAny _)) <|
  denotes_allOf_cons (denotes_onlyIf _ (denotes_idAny _)) <|
  denotes_allOf_cons (denotes_errorClassClause _) denotes_allOf_nil

theorem windowUnits_eq (windowSecs : Nat) (span : Int) :
    windowUnits windowSecs span = UssdGateway.windowUnits windowSecs span := by
  rw [windowUnits, UssdGateway.windowUnits, ceilDiv_ceilDiv _ _ (by decide)]

end Worker

/-! What the report lists and what the job exports, session by session. -/

section

variable (pg : PgDates) (tables : ReportTables) (claims : SessionClaims) (filters : ReportFilters)

/-- Every page is a query of its own, with a run of its own. -/
def listedSessions (sortings : Nat → SessionSorting) (pageSize : Int) : Set SessionFigures :=
  {figures | ∃ number : Nat, ∃ row ∈ loadSessionPage (sortings number) pg tables filters
    (sessionAcl claims) (number + 1) pageSize, row.toSessionFigures = figures}

def exportedSessions (sortings : Nat → Worker.ExportSorting) (chunk : Nat) : Set SessionFigures :=
  {figures | ∃ number, ∃ row ∈ Worker.sessionsQuery (sortings number) pg tables
    (actionCreateExport claims filters) (number * chunk) chunk, row.toSessionFigures = figures}

/-- A session with a matching leg has no other leg, inside the padded dates and the access, that
the filters leave out. -/
def MatchesWhole : Prop :=
  ∀ leg ∈ tables.legs, ∀ other ∈ tables.legs, leg.group = other.group →
    matchesLeg pg filters (sessionAcl claims) 0 leg = true →
    matchesLeg pg (sharedFilters filters) (sessionAcl claims)
      (sessionEdgePadSecs * microsPerSecond) other = true →
    matchesLeg pg filters (sessionAcl claims) 0 other = true

def workerLegs : List LegRecord :=
  tables.legs.filter (matchesLeg pg filters (sessionAcl claims) 0)

def reportLegs : List LegRecord :=
  tables.legs.filter (matchesSession pg filters (sessionAcl claims) tables.legs)

def figuresOf (group : (String × String) × List LegRecord) : SessionFigures :=
  sessionFigures windowUnits (tables.windowOf group.1.2) group

end

section

variable {pg : PgDates} {tables : ReportTables} {claims : SessionClaims} {filters : ReportFilters}

theorem listed_iff_group {pageSize : Int}
    (ties : SessionTies (pageLimit pageSize) (reportLegs pg tables claims filters))
    (sortings : Nat → SessionSorting) (figures : SessionFigures) :
    figures ∈ listedSessions pg tables claims filters sortings pageSize ↔
      ∃ group ∈ groupBy LegRecord.group (reportLegs pg tables claims filters),
        figuresOf tables group = figures := by
  constructor
  · rintro ⟨number, row, member, rfl⟩
    obtain ⟨group, grouped, rfl⟩ := group_of_listed member
    exact ⟨group, grouped, rfl⟩
  · rintro ⟨group, grouped, rfl⟩
    obtain ⟨number, member⟩ := (listed_iff ties sortings (sessionRow tables group)).2
      ⟨group, grouped, rfl⟩
    exact ⟨number, _, member, rfl⟩

theorem exportRow_figures (group : (String × String) × List LegRecord) :
    (Worker.exportRow tables group).toSessionFigures = figuresOf tables group := by
  have units : Worker.windowUnits = windowUnits := by
    funext windowSecs span
    exact Worker.windowUnits_eq windowSecs span
  simp only [Worker.exportRow, figuresOf, units]

theorem workerLegs_eq :
    select (Worker.buildWhere pg (actionCreateExport claims filters)) tables.legs =
      workerLegs pg tables claims filters :=
  select_eq (Worker.denotes_buildWhere pg claims filters) tables.legs

theorem exported_iff_group {chunk : Nat} (positive : 0 < chunk)
    (ties : SessionTies chunk (workerLegs pg tables claims filters))
    (sortings : Nat → Worker.ExportSorting) (figures : SessionFigures) :
    figures ∈ exportedSessions pg tables claims filters sortings chunk ↔
      ∃ group ∈ groupBy LegRecord.group (workerLegs pg tables claims filters),
        figuresOf tables group = figures := by
  rw [← workerLegs_eq] at ties ⊢
  constructor
  · rintro ⟨number, row, member, rfl⟩
    obtain ⟨group, grouped, rfl⟩ :=
      (Worker.exported_iff positive ties sortings row).1 ⟨number, member⟩
    exact ⟨group, grouped, (exportRow_figures group).symm⟩
  · rintro ⟨group, grouped, rfl⟩
    obtain ⟨number, member⟩ := (Worker.exported_iff positive ties sortings
      (Worker.exportRow tables group)).2 ⟨group, grouped, rfl⟩
    exact ⟨number, _, member, exportRow_figures group⟩

theorem reportLegs_eq_workerLegs (whole : selectsSessionsByLeg filters = false ∨
    MatchesWhole pg tables claims filters) :
    reportLegs pg tables claims filters = workerLegs pg tables claims filters := by
  apply List.filter_congr
  intro leg member
  rw [Bool.eq_iff_iff]
  constructor
  · intro found
    obtain ⟨other, inside, same, chosen⟩ := exists_matchesLeg member found
    rcases whole with plain | whole
    · simpa only [matchesSession, plain, Bool.false_eq_true, if_false] using found
    · by_cases picks : selectsSessionsByLeg filters = true
      · simp only [matchesSession, picks, if_true, Bool.and_eq_true] at found
        exact whole other inside leg member same chosen found.1
      · simpa only [matchesSession, picks, Bool.false_eq_true, if_false] using found
  · exact matchesSession_of_matchesLeg member

theorem matchesLeg_of_listed (same : ∀ figures,
      (∃ group ∈ groupBy LegRecord.group (reportLegs pg tables claims filters),
        figuresOf tables group = figures) →
      ∃ group ∈ groupBy LegRecord.group (workerLegs pg tables claims filters),
        figuresOf tables group = figures)
    {leg : LegRecord} (member : leg ∈ reportLegs pg tables claims filters) :
    leg ∈ workerLegs pg tables claims filters := by
  have grouped : (leg.group, (reportLegs pg tables claims filters).filter
      fun other => other.group = leg.group) ∈
        groupBy LegRecord.group (reportLegs pg tables claims filters) :=
    mem_groupBy.2 ⟨⟨leg, member, rfl⟩, rfl⟩
  obtain ⟨group, exported, equal⟩ := same _ ⟨_, grouped, rfl⟩
  have key : group.1 = leg.group :=
    Prod.ext (congrArg SessionFigures.sessionId equal) (congrArg SessionFigures.operatorName equal)
  have count := congrArg SessionFigures.legCount equal
  simp only [figuresOf, sessionFigures] at count
  have rows := (mem_groupBy.1 exported).2
  rw [key] at rows
  rw [rows] at count
  have subset : (workerLegs pg tables claims filters).Sublist
      (reportLegs pg tables claims filters) := by
    have narrower : workerLegs pg tables claims filters =
        (reportLegs pg tables claims filters).filter
          (matchesLeg pg filters (sessionAcl claims) 0) := by
      rw [workerLegs, reportLegs, List.filter_filter]
      apply List.filter_congr
      intro other inside
      rw [Bool.eq_iff_iff, Bool.and_eq_true]
      constructor
      · intro found
        exact ⟨found, matchesSession_of_matchesLeg inside found⟩
      · exact fun both => both.1
    rw [narrower]
    exact List.filter_sublist
  have whole := (subset.filter fun other => decide (other.group = leg.group)).eq_of_length count
  have inside : leg ∈ (reportLegs pg tables claims filters).filter
      fun other => decide (other.group = leg.group) :=
    List.mem_filter.2 ⟨member, decide_eq_true rfl⟩
  rw [← whole] at inside
  exact (List.mem_filter.1 inside).1

end

section

variable {pg : PgDates} {tables : ReportTables} {claims : SessionClaims} {filters : ReportFilters}

theorem listed_of_group (sorting : SessionSorting) (pageSize : Int) {row : SessionRow}
    (member : row ∈ sessionRows tables (reportLegs pg tables claims filters)) :
    row.toSessionFigures ∈ listedSessions pg tables claims filters (fun _ => sorting) pageSize := by
  obtain ⟨number, found⟩ := (Paging.mem_pages_iff (pageLimit_pos pageSize) _ row).2
    ((sorting.perm _).mem_iff.2 member)
  refine ⟨number, row, ?_, rfl⟩
  rw [loadSessionPage_succ]
  exact found

theorem exported_of_group (sorting : Worker.ExportSorting) {chunk : Nat} (positive : 0 < chunk)
    {row : Worker.ExportRow}
    (member : row ∈ Worker.exportRows pg tables (actionCreateExport claims filters)) :
    row.toSessionFigures ∈
      exportedSessions pg tables claims filters (fun _ => sorting) chunk := by
  obtain ⟨number, found⟩ := (Paging.mem_pages_iff positive _ row).2
    ((sorting.perm _).mem_iff.2 member)
  exact ⟨number, row, found, rfl⟩

theorem ties_of_listed {pageSize : Int}
    (same : ∀ listing other : Nat → SessionSorting,
      listedSessions pg tables claims filters listing pageSize =
        listedSessions pg tables claims filters other pageSize) :
    SessionTies (pageLimit pageSize) (reportLegs pg tables claims filters) := by
  rw [sessionTies_iff _ tables,
    Paging.tiesTogether_iff_read (pageLimit_pos pageSize) (sessionRows_nodup _ _)]
  intro sortings row member
  have listed := listed_of_group .insertion pageSize member
  rw [same _ sortings] at listed
  obtain ⟨number, other, found, figures⟩ := listed
  have otherMember := mem_sessionRows.2 (group_of_listed found)
  rw [loadSessionPage_succ] at found
  exact ⟨number, sessionRow_of_figures otherMember member figures ▸ found⟩

theorem ties_of_exported {chunk : Nat} (positive : 0 < chunk)
    (same : ∀ exporting other : Nat → Worker.ExportSorting,
      exportedSessions pg tables claims filters exporting chunk =
        exportedSessions pg tables claims filters other chunk) :
    SessionTies chunk (workerLegs pg tables claims filters) := by
  rw [← workerLegs_eq, Worker.exportTies_iff,
    Paging.tiesTogether_iff_read positive (Worker.exportRows_nodup _ _ _)]
  intro sortings row member
  have exported := exported_of_group .insertion positive member
  rw [same _ sortings] at exported
  obtain ⟨number, other, found, figures⟩ := exported
  have otherMember := ((sortings number).perm _).mem_iff.1 (Paging.mem_of_mem_page found)
  exact ⟨number, Worker.exportRow_of_figures otherMember member figures ▸ found⟩

theorem matchesWhole_of_same {pageSize : Int} {chunk : Nat} (positive : 0 < chunk)
    (listedTies : SessionTies (pageLimit pageSize) (reportLegs pg tables claims filters))
    (exportedTies : SessionTies chunk (workerLegs pg tables claims filters))
    {listing : Nat → SessionSorting} {exporting : Nat → Worker.ExportSorting}
    (same : listedSessions pg tables claims filters listing pageSize =
      exportedSessions pg tables claims filters exporting chunk)
    (picks : selectsSessionsByLeg filters = true) : MatchesWhole pg tables claims filters := by
  simp only [Set.ext_iff, listed_iff_group listedTies, exported_iff_group positive exportedTies]
    at same
  intro leg member other inside group found shared
  have listed : other ∈ reportLegs pg tables claims filters := by
    refine List.mem_filter.2 ⟨inside, ?_⟩
    rw [matchesSession, if_pos picks, shared, Bool.true_and, List.any_eq_true]
    refine ⟨leg, member, ?_⟩
    rw [found, Bool.and_true]
    exact decide_eq_true group
  exact (List.mem_filter.1 (matchesLeg_of_listed (fun figures => (same figures).1) listed)).2

end

/-- For every leg table, filter set and access, whichever order each page of the report and each
chunk of the export leaves ties in: the export has the sessions of the report, with the same first
and last time, leg count, duration and units, if and only if no filter picks legs or every session
that matches does so with all its legs, and no page and no chunk ends between sessions of one id
that end at the same instant. -/
theorem sessions_export_iff (pg : PgDates) (tables : ReportTables) (claims : SessionClaims)
    (filters : ReportFilters) (pageSize : Int) {chunk : Nat} (positive : 0 < chunk) :
    (∀ (listing : Nat → SessionSorting) (exporting : Nat → Worker.ExportSorting),
        listedSessions pg tables claims filters listing pageSize =
          exportedSessions pg tables claims filters exporting chunk) ↔
      (selectsSessionsByLeg filters = false ∨ MatchesWhole pg tables claims filters) ∧
        SessionTies (pageLimit pageSize) (reportLegs pg tables claims filters) ∧
        SessionTies chunk (reportLegs pg tables claims filters) := by
  constructor
  · intro same
    have listedTies := ties_of_listed fun listing other =>
      (same listing fun _ => .insertion).trans (same other fun _ => .insertion).symm
    have exportedTies := ties_of_exported positive fun exporting other =>
      (same (fun _ => .insertion) exporting).symm.trans (same (fun _ => .insertion) other)
    have whole : selectsSessionsByLeg filters = false ∨ MatchesWhole pg tables claims filters := by
      by_cases picks : selectsSessionsByLeg filters = true
      · exact Or.inr (matchesWhole_of_same positive listedTies exportedTies
          (same (fun _ => .insertion) fun _ => .insertion) picks)
      · exact Or.inl (by simpa using picks)
    refine ⟨whole, listedTies, ?_⟩
    rwa [reportLegs_eq_workerLegs whole]
  · rintro ⟨whole, listedTies, exportedTies⟩ listing exporting
    rw [reportLegs_eq_workerLegs whole] at exportedTies
    ext figures
    rw [listed_iff_group listedTies, exported_iff_group positive exportedTies,
      reportLegs_eq_workerLegs whole]

def plainDates : PgDates where
  zone := 0
  timestamptz _ := 0
  date _ := 0

def exportLeg (id : Nat) (secs : Int) (errorClass : Option String) : LegRecord where
  id := id
  ts := secs * microsPerSecond
  operatorId := 1
  operatorName := "vodacom"
  shortcodeId := some 10
  serviceCode := some "*149*01#"
  sessionId := "V1"
  msisdn := some "255750000001"
  ussdString := none
  direction := "response"
  handlerResponseAction := some "CON"
  handlerResponseText := none
  handlerElapsedMs := none
  errorClass := errorClass

def exportTables : ReportTables where
  operators :=
    { rows := [⟨1, "vodacom", some 20⟩]
      idsUnique := vodacomOnly.idsUnique
      namesUnique := vodacomOnly.namesUnique
      windowsAccepted := vodacomOnly.windowsAccepted }
  legs := [exportLeg 1 0 none, exportLeg 2 30 none, exportLeg 3 66 (some "timeout")]
  operatorKnown := by decide
  shortcodeCodes := [(10, "*149*01#")]

def exportFilter (errorClass : String) : ReportFilters where
  fromTs := none
  toTs := none
  msisdn := none
  sessionId := none
  operators := []
  shortcodeIds := []
  errorClass := some errorClass

def openClaims : SessionClaims where
  sub := 1
  email := "admin@example.com"
  name := "Super Admin"
  role := "super_admin"
  perms := ["reports.view_all"]
  shortcodeIds := none
  shortcodeFrom := []
  pwv := 1

/-- The report shows 3 legs, 66 seconds and 4 units, the export 1 leg, 0 seconds and 1 unit. -/
theorem failed_leg_exported_alone :
    (loadSessionPage .insertion plainDates exportTables (exportFilter "error")
        (sessionAcl openClaims) 1 50).map
        (fun row => (row.legCount, row.durationMicros, row.billableUnits)) =
      [(3, 66 * microsPerSecond, some 4)] ∧
    (Worker.sessionsQuery .insertion plainDates exportTables
        (actionCreateExport openClaims (exportFilter "error")) 0 10000).map
        (fun row => (row.legCount, row.durationMicros, row.billableUnits)) =
      [(1, 0, some 1)] ∧
    ∀ listing exporting,
      listedSessions plainDates exportTables openClaims (exportFilter "error") listing 50 ≠
        exportedSessions plainDates exportTables openClaims (exportFilter "error") exporting
          10000 := by
  refine ⟨by decide +kernel, by decide +kernel, ?_⟩
  intro listing exporting same
  have whole := matchesWhole_of_same (by decide) (by decide +kernel) (by decide +kernel) same
    (by decide)
  have first : exportLeg 1 0 none ∈ exportTables.legs := by decide
  have last : exportLeg 3 66 (some "timeout") ∈ exportTables.legs := by decide
  exact absurd (whole _ last _ first rfl (by decide) (by decide)) (by decide)

theorem unfiltered_export_agrees :
    listedSessions plainDates exportTables openClaims (exportFilter "any")
        (fun _ => .insertion) 50 =
      exportedSessions plainDates exportTables openClaims (exportFilter "any")
        (fun _ => .insertion) 10000 :=
  (sessions_export_iff plainDates exportTables openClaims (exportFilter "any") 50
    (by decide)).2 ⟨Or.inl (by decide), by decide +kernel, by decide +kernel⟩ _ _

end UssdGateway
