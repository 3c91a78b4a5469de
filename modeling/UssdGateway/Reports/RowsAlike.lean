import UssdGateway.Reports.SessionReport

/-!
The row of one session under two filters. Filters that pick legs read the session an hour past the
date range on both sides, the others stop at the range itself.
-/

namespace UssdGateway

open Grouping

def edgePad (filters : ReportFilters) : Int :=
  if selectsSessionsByLeg filters then sessionEdgePadSecs * microsPerSecond else 0

section

variable (pg : PgDates) (filters : ReportFilters) (acl : ShortcodeAcl)

structure AtRangeEdge (leg : LegRecord) : Prop where
  granted : aclAdmits legColumns .ts acl leg = true
  from_ : fromHolds pg (sessionEdgePadSecs * microsPerSecond) filters.fromTs leg = true
  to_ : toHolds pg (sessionEdgePadSecs * microsPerSecond) filters.toTs leg = true
  outside : ¬ (fromHolds pg 0 filters.fromTs leg = true ∧ toHolds pg 0 filters.toTs leg = true)

/-- The legs that make up the row of a session, once it is listed. -/
def shownLegs (legs : List LegRecord) (pad : Int) (session : String × String) :
    List LegRecord :=
  legs.filter fun leg =>
    matchesLeg pg (sharedFilters filters) acl pad leg && decide (leg.group = session)

end

section

variable {pg : PgDates} {tables : ReportTables} {filters : ReportFilters} {acl : ShortcodeAcl}

theorem matchesLeg_of_unselective (unselective : selectsSessionsByLeg filters = false)
    (pad : Int) (leg : LegRecord) :
    matchesLeg pg filters acl pad leg = matchesLeg pg (sharedFilters filters) acl pad leg := by
  simp only [selectsSessionsByLeg, Bool.or_eq_false_iff, decide_eq_false_iff_not, not_not]
    at unselective
  obtain ⟨⟨⟨noMsisdn, noSessionId⟩, noShortcodes⟩, noErrorClass⟩ := unselective
  have absent : truthy none = false := rfl
  have unpicked : errorClassPicked none = false := rfl
  simp only [matchesLeg, sharedFilters, textHolds, errorClassHolds, noMsisdn, noSessionId,
    noShortcodes, noErrorClass, absent, unpicked, Bool.not_false, Bool.true_or]
  rfl

theorem matchesSession_of_listed {session : String × String} {leg : LegRecord}
    (listed : ∃ other ∈ tables.legs, matchesSession pg filters acl tables.legs other = true ∧
      other.group = session) (group : leg.group = session) :
    matchesSession pg filters acl tables.legs leg =
      matchesLeg pg (sharedFilters filters) acl (edgePad filters) leg := by
  by_cases picks : selectsSessionsByLeg filters = true
  · obtain ⟨other, _, chosen, sameGroup⟩ := listed
    simp only [matchesSession, edgePad, picks, if_true, Bool.and_eq_true] at chosen ⊢
    rw [group, ← sameGroup, chosen.2, Bool.and_true]
  · simp only [matchesSession, edgePad, picks, Bool.false_eq_true, if_false]
    exact matchesLeg_of_unselective (by simpa using picks) 0 leg

theorem row_of_listed {sorting : SessionSorting} {number pageSize : Int} {row : SessionRow}
    (listed : row ∈ loadSessionPage sorting pg tables filters acl number pageSize) :
    row = sessionRow tables ((row.sessionId, row.operatorName),
      shownLegs pg filters acl tables.legs (edgePad filters)
        (row.sessionId, row.operatorName)) := by
  obtain ⟨⟨session, legs⟩, member, rfl⟩ := group_of_listed listed
  obtain ⟨⟨other, kept, sameGroup⟩, whole⟩ := mem_groupBy.1 member
  obtain ⟨inside, chosen⟩ := List.mem_filter.1 kept
  have made : legs = shownLegs pg filters acl tables.legs (edgePad filters) session := by
    refine whole.trans ?_
    rw [List.filter_filter, shownLegs]
    apply List.filter_congr
    intro leg _
    by_cases group : leg.group = session
    · rw [matchesSession_of_listed ⟨other, inside, chosen, sameGroup⟩ group, Bool.and_comm]
    · simp only [group, decide_false, Bool.false_and, Bool.and_false]
  rw [made]
  rfl

end

section

variable {pg : PgDates} {tables : ReportTables} {acl : ShortcodeAcl}
  {first second : ReportFilters} {session : String × String}

def SameScope (first second : ReportFilters) : Prop :=
  first.fromTs = second.fromTs ∧ first.toTs = second.toTs ∧ first.operators = second.operators

theorem sharedFilters_eq (scope : SameScope first second) :
    sharedFilters first = sharedFilters second := by
  obtain ⟨from_, to_, operators⟩ := scope
  simp only [sharedFilters, from_, to_, operators]

theorem matchesLeg_padded_iff (filters : ReportFilters) {leg : LegRecord}
    (operator : filters.operators = [] ∨ leg.operatorName ∈ filters.operators) :
    matchesLeg pg (sharedFilters filters) acl (sessionEdgePadSecs * microsPerSecond) leg = true ↔
      matchesLeg pg (sharedFilters filters) acl 0 leg = true ∨
        AtRangeEdge pg filters acl leg := by
  have admitted : (!decide (filters.operators ≠ []) ||
      decide (leg.operatorName ∈ filters.operators)) = true := by
    rcases operator with none_ | named
    · simp [none_]
    · simp [named]
  have split : ∀ pad, matchesLeg pg (sharedFilters filters) acl pad leg = true ↔
      aclAdmits legColumns .ts acl leg = true ∧ fromHolds pg pad filters.fromTs leg = true ∧
        toHolds pg pad filters.toTs leg = true := by
    intro pad
    simp only [matchesLeg, Bool.and_eq_true]
    constructor
    · rintro ⟨granted, early, late, _⟩
      exact ⟨granted, early, late⟩
    · rintro ⟨granted, early, late⟩
      exact ⟨granted, early, late, rfl, rfl, admitted, rfl, rfl, trivial⟩
  constructor
  · intro padded
    obtain ⟨granted, early, late⟩ := (split _).1 padded
    by_cases inside : fromHolds pg 0 filters.fromTs leg = true ∧
        toHolds pg 0 filters.toTs leg = true
    · exact Or.inl ((split 0).2 ⟨granted, inside⟩)
    · exact Or.inr ⟨granted, early, late, inside⟩
  · rintro (inside | ⟨granted, early, late, _⟩)
    · exact @matchesLeg_shared pg (sharedFilters filters) acl _ leg (by decide) inside
    · exact (split _).2 ⟨granted, early, late⟩

theorem shownLegs_sublist (filters : ReportFilters) :
    (shownLegs pg filters acl tables.legs 0 session).Sublist
      (shownLegs pg filters acl tables.legs (sessionEdgePadSecs * microsPerSecond) session) := by
  apply List.monotone_filter_right
  intro leg kept
  simp only [Bool.and_eq_true] at kept ⊢
  exact ⟨@matchesLeg_shared pg (sharedFilters filters) acl _ leg (by decide) kept.1, kept.2⟩

theorem shownLegs_eq_iff (filters : ReportFilters)
    (operator : ∀ leg ∈ tables.legs, leg.group = session →
      filters.operators = [] ∨ leg.operatorName ∈ filters.operators) :
    shownLegs pg filters acl tables.legs (sessionEdgePadSecs * microsPerSecond) session =
        shownLegs pg filters acl tables.legs 0 session ↔
      ∀ leg ∈ tables.legs, leg.group = session → ¬ AtRangeEdge pg filters acl leg := by
  constructor
  · intro whole leg member group edge
    have padded : leg ∈ shownLegs pg filters acl tables.legs
        (sessionEdgePadSecs * microsPerSecond) session := by
      refine List.mem_filter.2 ⟨member, ?_⟩
      rw [(matchesLeg_padded_iff filters (operator leg member group)).2 (Or.inr edge),
        Bool.true_and]
      exact decide_eq_true group
    rw [whole] at padded
    have inside := (Bool.and_eq_true_iff.1 (List.mem_filter.1 padded).2).1
    simp only [matchesLeg, Bool.and_eq_true] at inside
    exact edge.outside ⟨inside.2.1, inside.2.2.1⟩
  · intro inside
    apply List.filter_congr
    intro leg member
    by_cases group : leg.group = session
    · rw [decide_eq_true group, Bool.and_true, Bool.and_true, Bool.eq_iff_iff,
        matchesLeg_padded_iff filters (operator leg member group)]
      exact or_iff_left (inside leg member group)
    · rw [decide_eq_false group, Bool.and_false, Bool.and_false]

theorem figures_eq_iff (filters : ReportFilters) (windowSecs : Option Nat) :
    sessionFigures windowUnits windowSecs (session,
          shownLegs pg filters acl tables.legs (sessionEdgePadSecs * microsPerSecond) session) =
        sessionFigures windowUnits windowSecs
          (session, shownLegs pg filters acl tables.legs 0 session) ↔
      shownLegs pg filters acl tables.legs (sessionEdgePadSecs * microsPerSecond) session =
        shownLegs pg filters acl tables.legs 0 session := by
  constructor
  · intro same
    exact ((shownLegs_sublist filters).eq_of_length
      (congrArg SessionFigures.legCount same).symm).symm
  · intro same
    rw [same]

theorem operator_of_listed {sorting : SessionSorting} {number pageSize : Int}
    {filters : ReportFilters} {row : SessionRow}
    (listed : row ∈ loadSessionPage sorting pg tables filters acl number pageSize)
    {leg : LegRecord} (group : leg.group = (row.sessionId, row.operatorName)) :
    filters.operators = [] ∨ leg.operatorName ∈ filters.operators := by
  obtain ⟨⟨session, legs⟩, member, rfl⟩ := group_of_listed listed
  obtain ⟨⟨other, kept, sameGroup⟩, _⟩ := mem_groupBy.1 member
  obtain ⟨inside, chosen⟩ := List.mem_filter.1 kept
  rw [matchesSession_of_listed ⟨other, inside, chosen, sameGroup⟩ sameGroup] at chosen
  simp only [matchesLeg, Bool.and_eq_true] at chosen
  have named : leg.operatorName = other.operatorName :=
    congrArg Prod.snd (group.trans sameGroup.symm)
  have admitted := chosen.2.2.2.2.2.1
  simp only [sharedFilters, Bool.or_eq_true, Bool.not_eq_true'] at admitted
  rw [named]
  rcases admitted with unrestricted | member
  · exact Or.inl (not_not.1 (of_decide_eq_false unrestricted))
  · exact Or.inr (of_decide_eq_true member)

/-- For every leg table, access, date range and operators, and any two filters over these that list
a session: its rows agree if and only if both filters pick legs, or neither does, or the session
has no leg in the hour around the range. -/
theorem rows_alike_iff (scope : SameScope first second) {sorting otherSorting : SessionSorting}
    {number pageSize otherNumber otherPageSize : Int} {row other : SessionRow}
    (listed : row ∈ loadSessionPage sorting pg tables first acl number pageSize)
    (alsoListed : other ∈ loadSessionPage otherSorting pg tables second acl otherNumber
      otherPageSize)
    (sameId : row.sessionId = other.sessionId)
    (sameOperator : row.operatorName = other.operatorName) :
    row.toSessionFigures = other.toSessionFigures ↔
      (selectsSessionsByLeg first = selectsSessionsByLeg second ∨
        ∀ leg ∈ tables.legs, leg.group = (row.sessionId, row.operatorName) →
          ¬ AtRangeEdge pg first acl leg) := by
  obtain ⟨session, isSession⟩ : ∃ session, session = (row.sessionId, row.operatorName) := ⟨_, rfl⟩
  have figures := congrArg SessionRow.toSessionFigures (row_of_listed listed)
  have otherFigures := congrArg SessionRow.toSessionFigures (row_of_listed alsoListed)
  have operator : ∀ leg ∈ tables.legs, leg.group = session →
      first.operators = [] ∨ leg.operatorName ∈ first.operators := fun leg _ group =>
    operator_of_listed listed (group.trans isSession)
  have shared : ∀ pad, shownLegs pg second acl tables.legs pad session =
      shownLegs pg first acl tables.legs pad session := by
    intro pad
    rw [shownLegs, shownLegs, sharedFilters_eq scope]
  rw [← sameId, ← sameOperator, ← isSession] at otherFigures
  rw [← isSession] at figures ⊢
  simp only [sessionRow, shared] at figures otherFigures
  rw [figures, otherFigures, ← shownLegs_eq_iff first operator]
  rcases picks : selectsSessionsByLeg first <;> rcases alsoPicks : selectsSessionsByLeg second
  · simp only [edgePad, picks, alsoPicks, true_or]
  · simp only [edgePad, picks, alsoPicks, Bool.false_eq_true, if_false, if_true, false_or]
    rw [eq_comm, figures_eq_iff]
  · simp only [edgePad, picks, alsoPicks, Bool.false_eq_true, if_false, if_true, false_or,
      Bool.true_eq_false]
    exact figures_eq_iff first _
  · simp only [edgePad, picks, alsoPicks, true_or]

end

def edgeDates : PgDates where
  zone := 0
  timestamptz text := if text = "1970-01-02" then dayMicros else 0
  date text := if text = "1970-01-02" then 1 else 0

def edgeLeg (id : Nat) (secs : Int) : LegRecord where
  id := id
  ts := secs * microsPerSecond
  operatorId := 1
  operatorName := "vodacom"
  shortcodeId := some 10
  serviceCode := some "*149*01#"
  sessionId := "V1"
  msisdn := some "255750000001"
  ussdString := none
  direction := "response"
  handlerResponseAction := some "CON"
  handlerResponseText := none
  handlerElapsedMs := none
  errorClass := none

def edgeTables (firstSecs : Int) : ReportTables where
  operators :=
    { rows := [⟨1, "vodacom", some 20⟩]
      idsUnique := vodacomOnly.idsUnique
      namesUnique := vodacomOnly.namesUnique
      windowsAccepted := vodacomOnly.windowsAccepted }
  legs := [edgeLeg 1 firstSecs, edgeLeg 2 86430]
  operatorKnown := by
    intro leg member
    rcases List.mem_cons.1 member with rfl | member
    · rfl
    · rw [List.mem_singleton.1 member]
      rfl
  shortcodeCodes := [(10, "*149*01#")]

def dayFilter (msisdn : Option String) : ReportFilters where
  fromTs := some "1970-01-02"
  toTs := some "1970-01-02"
  msisdn := msisdn
  sessionId := none
  operators := []
  shortcodeIds := []
  errorClass := none

/-- Unfiltered the session shows the leg after midnight, filtered by its number it shows both. -/
theorem midnight_session_differs :
    SameScope (dayFilter none) (dayFilter (some "255750000001")) ∧
    ∃ row ∈ loadSessionPage .insertion edgeDates (edgeTables 86340) (dayFilter none) none 1 50,
    ∃ other ∈ loadSessionPage .insertion edgeDates (edgeTables 86340)
      (dayFilter (some "255750000001")) none 1 50,
      row.sessionId = other.sessionId ∧ row.operatorName = other.operatorName ∧
        (row.legCount, row.durationMicros, row.billableUnits) = (1, 0, some 1) ∧
        (other.legCount, other.durationMicros, other.billableUnits) =
          (2, 90 * microsPerSecond, some 5) :=
  ⟨⟨rfl, rfl, rfl⟩, by decide +kernel⟩

/-- A session within the day has one row. -/
theorem day_session_alike :
    ∃ row ∈ loadSessionPage .insertion edgeDates (edgeTables 86400) (dayFilter none) none 1 50,
    ∃ other ∈ loadSessionPage .insertion edgeDates (edgeTables 86400)
      (dayFilter (some "255750000001")) none 1 50,
      row.toSessionFigures = other.toSessionFigures := by
  obtain ⟨row, listed, other, alsoListed, sameId, sameOperator⟩ :
      ∃ row ∈ loadSessionPage .insertion edgeDates (edgeTables 86400) (dayFilter none) none 1 50,
      ∃ other ∈ loadSessionPage .insertion edgeDates (edgeTables 86400)
        (dayFilter (some "255750000001")) none 1 50,
        row.sessionId = other.sessionId ∧ row.operatorName = other.operatorName := by
    decide +kernel
  refine ⟨row, listed, other, alsoListed, ?_⟩
  refine (rows_alike_iff ⟨rfl, rfl, rfl⟩ listed alsoListed sameId sameOperator).2 (Or.inr ?_)
  intro leg member _ edge
  have inside : ∀ leg ∈ (edgeTables 86400).legs,
      fromHolds edgeDates 0 (some "1970-01-02") leg = true ∧
        toHolds edgeDates 0 (some "1970-01-02") leg = true := by
    decide +kernel
  exact edge.outside (inside leg member)

end UssdGateway
