import UssdGateway.Reports.Acl

/-!
The WHERE clauses of the reports: `legConds`, `buildWhere` over legs, and `buildSessionWhere`,
which selects sessions by their legs.
-/

namespace UssdGateway

open SqlClause

/-- All filters are optional; an empty text or list narrows nothing. -/
structure ReportFilters where
  fromTs : Option String
  toTs : Option String
  msisdn : Option String
  sessionId : Option String
  operators : List String
  shortcodeIds : List Int
  errorClass : Option String
deriving DecidableEq

/-- How the database session reads dates, `zone` microseconds ahead of UTC. -/
structure PgDates where
  zone : Int
  timestamptz : String → Int
  date : String → Int

def truthy (field : Option String) : Bool := field.any fun text => decide (text ≠ "")

def legColumns : AclColumns LegRecord where
  scCol leg := leg.shortcodeId
  tsCol := LegRecord.ts

abbrev LegClause := Builder SqlValue LegRecord

def textIs (column : LegRecord → Option String) (text : String) : LegClause :=
  withValue (.text text) fun value leg =>
    match value with
    | some (.text wanted) => decide (column leg = some wanted)
    | _ => false

def tsFrom (pg : PgDates) (pad : Int) (text : String) : LegClause :=
  withValue (.text text) fun value leg =>
    match value with
    | some (.text wanted) => decide (pg.timestamptz wanted - pad ≤ leg.ts)
    | _ => false

def tsTo (pg : PgDates) (pad : Int) (text : String) : LegClause :=
  withValue (.text text) fun value leg =>
    match value with
    | some (.text wanted) => decide (leg.ts < midnight pg.zone (pg.date wanted + 1) + pad)
    | _ => false

def operatorAny (operators : List String) : LegClause :=
  withValue (.texts operators) fun value leg =>
    match value with
    | some (.texts wanted) => decide (leg.operatorName ∈ wanted)
    | _ => false

def errorClassIs (errorClass : String) : LegClause :=
  if errorClass = "ok" then constant fun leg => leg.errorClass.isNone
  else if errorClass = "error" then constant fun leg => leg.errorClass.isSome
  else textIs (fun leg => leg.errorClass) errorClass

def errorClassPicked (errorClass : Option String) : Bool :=
  truthy errorClass && decide (errorClass ≠ some "any")

/-- The leg-level predicates, the date range widened by `padSecs` on both sides. -/
def legConds (pg : PgDates) (filters : ReportFilters) (acl : ShortcodeAcl) (padSecs : Int) :
    List LegClause :=
  [onlyIf acl.isSome (aclClause legColumns .ts acl),
    onlyIf (truthy filters.fromTs)
      (tsFrom pg (padSecs * microsPerSecond) (filters.fromTs.getD "")),
    onlyIf (truthy filters.toTs) (tsTo pg (padSecs * microsPerSecond) (filters.toTs.getD "")),
    onlyIf (truthy filters.msisdn) (textIs (fun leg => leg.msisdn) (filters.msisdn.getD "")),
    onlyIf (truthy filters.sessionId)
      (textIs (fun leg => some leg.sessionId) (filters.sessionId.getD "")),
    onlyIf (decide (filters.operators ≠ [])) (operatorAny filters.operators),
    onlyIf (decide (filters.shortcodeIds ≠ [])) (idAny legColumns filters.shortcodeIds),
    onlyIf (errorClassPicked filters.errorClass) (errorClassIs (filters.errorClass.getD ""))]

def buildWhere (pg : PgDates) (filters : ReportFilters) (acl : ShortcodeAcl) : LegClause :=
  allOf (legConds pg filters acl 0)

def selectsSessionsByLeg (filters : ReportFilters) : Bool :=
  truthy filters.msisdn || truthy filters.sessionId || decide (filters.shortcodeIds ≠ []) ||
    errorClassPicked filters.errorClass

def sessionEdgePadSecs : Int := 3600

def sharedFilters (filters : ReportFilters) : ReportFilters :=
  { filters with msisdn := none, sessionId := none, shortcodeIds := [], errorClass := none }

def LegRecord.group (leg : LegRecord) : String × String := (leg.sessionId, leg.operatorName)

/-- The filters choose sessions by a semi-join, and every leg of those sessions is kept. -/
def buildSessionWhere (pg : PgDates) (filters : ReportFilters) (acl : ShortcodeAcl)
    (legs : List LegRecord) : LegClause :=
  if selectsSessionsByLeg filters then
    joined (fun chosen kept => kept && chosen)
      (semiJoin LegRecord.group legs (allOf (legConds pg filters acl 0)))
      (allOf (legConds pg (sharedFilters filters) acl sessionEdgePadSecs))
  else buildWhere pg filters acl

/-! What the clauses mean. -/

def fromHolds (pg : PgDates) (pad : Int) (fromTs : Option String) (leg : LegRecord) : Bool :=
  !truthy fromTs || decide (pg.timestamptz (fromTs.getD "") - pad ≤ leg.ts)

def toHolds (pg : PgDates) (pad : Int) (toTs : Option String) (leg : LegRecord) : Bool :=
  !truthy toTs || decide (leg.ts < midnight pg.zone (pg.date (toTs.getD "") + 1) + pad)

def textHolds (wanted column : Option String) : Bool :=
  !truthy wanted || decide (column = some (wanted.getD ""))

def errorClassHolds (wanted column : Option String) : Bool :=
  !errorClassPicked wanted ||
    (if wanted = some "ok" then column.isNone
    else if wanted = some "error" then column.isSome
    else decide (column = some (wanted.getD "")))

def matchesLeg (pg : PgDates) (filters : ReportFilters) (acl : ShortcodeAcl) (pad : Int)
    (leg : LegRecord) : Bool :=
  aclAdmits legColumns .ts acl leg &&
  (fromHolds pg pad filters.fromTs leg && (toHolds pg pad filters.toTs leg &&
  (textHolds filters.msisdn leg.msisdn && (textHolds filters.sessionId (some leg.sessionId) &&
  ((!decide (filters.operators ≠ []) || decide (leg.operatorName ∈ filters.operators)) &&
  ((!decide (filters.shortcodeIds ≠ []) || idIn filters.shortcodeIds leg.shortcodeId) &&
  (errorClassHolds filters.errorClass leg.errorClass && true)))))))

theorem denotes_textIs (column : LegRecord → Option String) (text : String) :
    Denotes (textIs column text) fun leg => decide (column leg = some text) :=
  denotes_withValue _ _

theorem denotes_tsFrom (pg : PgDates) (pad : Int) (text : String) :
    Denotes (tsFrom pg pad text) fun leg => decide (pg.timestamptz text - pad ≤ leg.ts) :=
  denotes_withValue _ _

theorem denotes_tsTo (pg : PgDates) (pad : Int) (text : String) :
    Denotes (tsTo pg pad text)
      fun leg => decide (leg.ts < midnight pg.zone (pg.date text + 1) + pad) :=
  denotes_withValue _ _

theorem denotes_operatorAny (operators : List String) :
    Denotes (operatorAny operators) fun leg => decide (leg.operatorName ∈ operators) :=
  denotes_withValue _ _

theorem denotes_errorClassIs (errorClass : Option String) :
    Denotes (onlyIf (errorClassPicked errorClass) (errorClassIs (errorClass.getD "")))
      fun leg => errorClassHolds errorClass leg.errorClass := by
  apply denotes_onlyIf
  rcases errorClass with _ | wanted
  · rw [Option.getD_none, errorClassIs, if_neg (by decide), if_neg (by decide)]
    exact denotes_textIs _ _
  · simp only [Option.getD_some, Option.some.injEq, errorClassIs]
    split
    · exact denotes_constant _
    · split
      · exact denotes_constant _
      · exact denotes_textIs _ _

theorem denotes_accessControl (acl : ShortcodeAcl) :
    Denotes (onlyIf acl.isSome (aclClause legColumns .ts acl)) (aclAdmits legColumns .ts acl) := by
  cases acl with
  | none => exact denotes_constant _
  | some grants => exact denotes_aclClause (some grants)

theorem denotes_legConds (pg : PgDates) (filters : ReportFilters) (acl : ShortcodeAcl)
    (padSecs : Int) :
    Denotes (allOf (legConds pg filters acl padSecs))
      (matchesLeg pg filters acl (padSecs * microsPerSecond)) :=
  denotes_allOf_cons (denotes_accessControl acl) <|
  denotes_allOf_cons (denotes_onlyIf _ (denotes_tsFrom _ _ _)) <|
  denotes_allOf_cons (denotes_onlyIf _ (denotes_tsTo _ _ _)) <|
  denotes_allOf_cons (denotes_onlyIf _ (denotes_textIs _ _)) <|
  denotes_allOf_cons (denotes_onlyIf _ (denotes_textIs _ _)) <|
  denotes_allOf_cons (denotes_onlyIf _ (denotes_operatorAny _)) <|
  denotes_allOf_cons (denotes_onlyIf _ (denotes_idAny _)) <|
  denotes_allOf_cons (denotes_errorClassIs _) denotes_allOf_nil

def matchesSession (pg : PgDates) (filters : ReportFilters) (acl : ShortcodeAcl)
    (legs : List LegRecord) (leg : LegRecord) : Bool :=
  if selectsSessionsByLeg filters then
    matchesLeg pg (sharedFilters filters) acl (sessionEdgePadSecs * microsPerSecond) leg &&
      legs.any fun other =>
        decide (other.group = leg.group) && matchesLeg pg filters acl 0 other
  else matchesLeg pg filters acl 0 leg

theorem denotes_buildWhere (pg : PgDates) (filters : ReportFilters) (acl : ShortcodeAcl) :
    Denotes (buildWhere pg filters acl) (matchesLeg pg filters acl 0) :=
  denotes_legConds pg filters acl 0

theorem denotes_buildSessionWhere (pg : PgDates) (filters : ReportFilters) (acl : ShortcodeAcl)
    (legs : List LegRecord) :
    Denotes (buildSessionWhere pg filters acl legs) (matchesSession pg filters acl legs) := by
  by_cases picks : selectsSessionsByLeg filters = true
  · have built := denotes_joined (fun chosen kept => kept && chosen)
      (denotes_semiJoin LegRecord.group legs (denotes_buildWhere pg filters acl))
      (denotes_legConds pg (sharedFilters filters) acl sessionEdgePadSecs)
    have meaning : matchesSession pg filters acl legs = fun leg =>
        matchesLeg pg (sharedFilters filters) acl (sessionEdgePadSecs * microsPerSecond) leg &&
          legs.any fun other =>
            decide (other.group = leg.group) && matchesLeg pg filters acl 0 other := by
      funext leg
      simp only [matchesSession, picks, if_true]
    rw [meaning, buildSessionWhere, if_pos picks]
    exact built
  · have meaning : matchesSession pg filters acl legs = matchesLeg pg filters acl 0 := by
      funext leg
      simp only [matchesSession, picks, Bool.false_eq_true, if_false]
    rw [meaning, buildSessionWhere, if_neg picks]
    exact denotes_buildWhere pg filters acl

theorem matchesLeg_shared {pg : PgDates} {filters : ReportFilters} {acl : ShortcodeAcl}
    {pad : Int} {leg : LegRecord} (widens : 0 ≤ pad)
    (found : matchesLeg pg filters acl 0 leg = true) :
    matchesLeg pg (sharedFilters filters) acl pad leg = true := by
  simp only [matchesLeg, Bool.and_eq_true] at found ⊢
  obtain ⟨granted, late, early, _, _, operator, _⟩ := found
  refine ⟨granted, ?_, ?_, rfl, rfl, operator, rfl, rfl, trivial⟩
  · simp only [fromHolds, sharedFilters, Bool.or_eq_true, decide_eq_true_eq] at late ⊢
    rcases late with absent | bound
    · exact Or.inl absent
    · exact Or.inr (decide_eq_true (by omega))
  · simp only [toHolds, sharedFilters, Bool.or_eq_true, decide_eq_true_eq] at early ⊢
    rcases early with absent | bound
    · exact Or.inl absent
    · exact Or.inr (decide_eq_true (by omega))

section

variable {pg : PgDates} {filters : ReportFilters} {acl : ShortcodeAcl} {legs : List LegRecord}
  {leg : LegRecord}

theorem matchesSession_of_matchesLeg (member : leg ∈ legs)
    (found : matchesLeg pg filters acl 0 leg = true) :
    matchesSession pg filters acl legs leg = true := by
  rw [matchesSession]
  split
  · rw [Bool.and_eq_true, List.any_eq_true]
    refine ⟨matchesLeg_shared (by decide) found, leg, member, ?_⟩
    rw [found, decide_eq_true rfl, Bool.and_true]
  · exact found

theorem exists_matchesLeg (member : leg ∈ legs)
    (kept : matchesSession pg filters acl legs leg = true) :
    ∃ other ∈ legs, other.group = leg.group ∧ matchesLeg pg filters acl 0 other = true := by
  rw [matchesSession] at kept
  split at kept
  · rw [Bool.and_eq_true, List.any_eq_true] at kept
    obtain ⟨_, other, inside, chosen⟩ := kept
    rw [Bool.and_eq_true, decide_eq_true_eq] at chosen
    exact ⟨other, inside, chosen.1, chosen.2⟩
  · exact ⟨leg, member, rfl, kept⟩

end

end UssdGateway
