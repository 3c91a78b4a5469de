import UssdGateway.Exports.SessionsExport
import UssdGateway.Library.JsonValues
import UssdGateway.Library.JsText

/-!
The legs export against the report on the screen, over the filter JSON itself: the form a request
submits, the object it stamps into the job, and the worker that reads it back from the table.
-/

namespace UssdGateway

open SqlClause JsonValues JsText

inductive FormEntry where
  | text (value : String)
  | file
deriving DecidableEq

def FormEntry.toText : FormEntry → String
  | .text value => value
  | .file => "[object File]"

abbrev FormData := List (String × FormEntry)

namespace FormData

def get (form : FormData) (key : String) : Option FormEntry := List.lookup key form

def getAll (form : FormData) (key : String) : List FormEntry :=
  (form.filter fun entry => decide (entry.1 = key)).map Prod.snd

end FormData

def strField (form : FormData) (key : String) : String :=
  trim ((form.get key).elim "" FormEntry.toText)

def strArrayField (form : FormData) (key : String) : List String :=
  ((form.getAll key).map fun entry => trim entry.toText).filter fun text => decide (text ≠ "")

def intArrayField (form : FormData) (key : String) : List Int :=
  (strArrayField form key).filterMap parseInt

def textOrNull (text : String) : JsValue := if text = "" then .null else .text text

def allowedIds (claims : SessionClaims) : JsValue :=
  match claims.shortcodeIds with
  | none => .null
  | some ids => .array (ids.map fun id => .number (Int.ofNat id))

def allowedFloors (claims : SessionClaims) : JsValue :=
  match claims.shortcodeIds with
  | none => .null
  | some ids => .array (ids.map fun id => .number (claims.fromOf id))

def actionCreateExportFilters (claims : SessionClaims) (form : FormData) : JsValue :=
  .object
    [("from", textOrNull (strField form "from")),
      ("to", textOrNull (strField form "to")),
      ("msisdn", textOrNull (strField form "msisdn")),
      ("session_id", textOrNull (strField form "session_id")),
      ("error_class", .text (if strField form "error_class" = "" then "any"
        else strField form "error_class")),
      ("operators", .array ((strArrayField form "operator").map .text)),
      ("shortcodeIds", .array ((intArrayField form "shortcode_id").map .number)),
      ("allowedShortcodeIds", allowedIds claims),
      ("allowedShortcodeFrom", allowedFloors claims),
      ("requested_by_email", .text claims.email),
      ("requested_by_role", .text claims.role)]

def submittedFilters (form : FormData) : ReportFilters where
  fromTs := some (strField form "from")
  toTs := some (strField form "to")
  msisdn := some (strField form "msisdn")
  sessionId := some (strField form "session_id")
  operators := strArrayField form "operator"
  shortcodeIds := intArrayField form "shortcode_id"
  errorClass := some (strField form "error_class")

namespace Worker

/-- What JavaScript and the database make of a value of another type than the field's own. -/
structure Coercions where
  number : JsValue → Int
  text : JsValue → String
  id : JsValue → Option Int

namespace Coercions

variable (coercions : Coercions)

/-- `Number(value) || 0`. -/
def numberOf : JsValue → Int
  | .undefined | .null => 0
  | .bool value => value.toInt
  | .number value => value
  | other => coercions.number other

/-- An item of `$n::int[]`, none for NULL. -/
def idOf : JsValue → Option Int
  | .undefined | .null => none
  | .number value => some value
  | other => coercions.id other

def textOf : JsValue → String
  | .text value => value
  | other => coercions.text other

/-- An item of `$n::text[]`, none for NULL. -/
def itemText : JsValue → Option String
  | .undefined | .null => none
  | item => some (coercions.textOf item)

end Coercions

def pushId (id : JsValue) (floor : Int) : List (Int × List JsValue) → List (Int × List JsValue)
  | [] => [(floor, [id])]
  | group :: rest =>
      if group.1 = floor then (group.1, group.2 ++ [id]) :: rest
      else group :: pushId id floor rest

section

variable (coercions : Coercions)

def flooredIds (allow floors : List JsValue) : List (JsValue × Int) :=
  allow.zipIdx.map fun entry => (entry.1, coercions.numberOf (JsValue.itemAt floors entry.2))

def branchOf (group : Int × List JsValue) : LegClause :=
  if 0 < group.1 then
    joined (· && ·) (idAny legColumns (group.2.filterMap coercions.idOf))
      (sinceFloor legColumns .ts group.1)
  else idAny legColumns (group.2.filterMap coercions.idOf)

def accessOf (filters : JsValue) : LegClause :=
  match filters.field "allowedShortcodeIds" with
  | .null | .undefined => constant fun _ => true
  | .array (id :: rest) =>
      let floors := match filters.field "allowedShortcodeFrom" with
        | .array floors => floors
        | _ => []
      anyOf (((flooredIds coercions (id :: rest) floors).foldl
        (fun groups entry => pushId entry.1 entry.2 groups) []).map (branchOf coercions))
  | _ => constant fun _ => false

def whenTruthy (value : JsValue) (clause : String → LegClause) : LegClause :=
  onlyIf value.truthy (clause (coercions.textOf value))

/-- A list that has no item narrows nothing, nor does anything that is no list. -/
def whenListed (value : JsValue) (clause : List JsValue → LegClause) : LegClause :=
  match value with
  | .array (item :: rest) => clause (item :: rest)
  | _ => constant fun _ => true

def errorClassOf (value : JsValue) : LegClause :=
  match value with
  | .text "ok" => constant fun leg => leg.errorClass.isNone
  | .text "error" => constant fun leg => leg.errorClass.isSome
  | .text "any" => constant fun _ => true
  | _ => whenTruthy coercions value (textIs fun leg => leg.errorClass)

def buildWhereJson (pg : PgDates) (filters : JsValue) : LegClause :=
  allOf
    [accessOf coercions filters,
      whenTruthy coercions (filters.field "from") (tsFrom pg 0),
      whenTruthy coercions (filters.field "to") (tsTo pg 0),
      whenTruthy coercions (filters.field "msisdn") (textIs fun leg => leg.msisdn),
      whenTruthy coercions (filters.field "session_id") (textIs fun leg => some leg.sessionId),
      whenListed (filters.field "operators") fun items =>
        operatorAny (items.filterMap coercions.itemText),
      whenListed (filters.field "shortcodeIds") fun items =>
        idAny legColumns (items.filterMap coercions.idOf),
      errorClassOf coercions (filters.field "error_class")]

end

end Worker

theorem defined_textOrNull (text : String) : (textOrNull text).Defined := by
  rw [textOrNull]
  split
  · exact .null
  · exact .text text

theorem defined_map {α : Type} {wrap : α → JsValue} (defined : ∀ value, (wrap value).Defined)
    (values : List α) : (JsValue.array (values.map wrap)).Defined := by
  apply JsValue.Defined.array
  intro item member
  obtain ⟨value, _, rfl⟩ := List.mem_map.1 member
  exact defined value

theorem defined_allowedIds (claims : SessionClaims) : (allowedIds claims).Defined := by
  rw [allowedIds]
  split
  · exact .null
  · exact defined_map (fun _ => .number _) _

theorem defined_allowedFloors (claims : SessionClaims) : (allowedFloors claims).Defined := by
  rw [allowedFloors]
  split
  · exact .null
  · exact defined_map (fun _ => .number _) _

theorem defined_filters (claims : SessionClaims) (form : FormData) :
    (actionCreateExportFilters claims form).Defined := by
  apply JsValue.Defined.object
  simp only [List.forall_mem_cons]
  exact ⟨defined_textOrNull _, defined_textOrNull _, defined_textOrNull _, defined_textOrNull _,
    .text _, defined_map .text _, defined_map .number _, defined_allowedIds claims,
    defined_allowedFloors claims, .text _, .text _, fun _ member => absurd member List.not_mem_nil⟩

namespace Worker

/-! The worker reads from the JSON what the typed filters say. -/

section

variable (coercions : Coercions)

theorem whenTruthy_textOrNull (text : String) (clause : String → LegClause) :
    whenTruthy coercions (textOrNull text) clause =
      onlyIf (truthy (orNull (some text))) (clause ((orNull (some text)).getD "")) := by
  by_cases blank : text = ""
  · subst blank
    rfl
  · simp [whenTruthy, textOrNull, orNull, truthy, blank, JsValue.truthy, Coercions.textOf]

theorem whenListed_map {α : Type} (wrap : α → JsValue) (values : List α)
    [Decidable (values ≠ [])] (clause : List JsValue → LegClause) :
    whenListed (.array (values.map wrap)) clause =
      onlyIf (decide (values ≠ [])) (clause (values.map wrap)) := by
  cases values with
  | nil => rw [decide_eq_false (fun filled => filled rfl)]; rfl
  | cons value rest => rw [decide_eq_true (List.cons_ne_nil value rest)]; rfl

theorem itemText_map (texts : List String) :
    (texts.map JsValue.text).filterMap coercions.itemText = texts := by
  rw [List.filterMap_map]
  exact List.filterMap_some

theorem idOf_map (ids : List Int) :
    (ids.map JsValue.number).filterMap coercions.idOf = ids := by
  rw [List.filterMap_map]
  exact List.filterMap_some

def numbered (group : Int × List Nat) : Int × List JsValue :=
  (group.1, group.2.map fun id => .number (Int.ofNat id))

theorem branchOf_numbered (group : Int × List Nat) :
    branchOf coercions (numbered group) = accessBranch group := by
  have ids : (numbered group).2.filterMap coercions.idOf = group.2.map Int.ofNat := by
    rw [← idOf_map coercions (group.2.map Int.ofNat), List.map_map]
    rfl
  rw [branchOf, accessBranch, ids]
  rfl

theorem pushId_numbered (id : Nat) (floor : Int) (groups : List (Int × List Nat)) :
    pushId (.number (Int.ofNat id)) floor (groups.map numbered) =
      (addGrant id floor groups).map numbered := by
  induction groups with
  | nil => rfl
  | cons group rest ih =>
      rw [List.map_cons, pushId, addGrant]
      by_cases same : group.1 = floor
      · rw [if_pos same, if_pos (show (numbered group).1 = floor from same)]
        simp [numbered]
      · rw [if_neg same, if_neg (show ¬ (numbered group).1 = floor from same), ih]
        rfl

theorem foldl_pushId (grants : List (Nat × Int)) (groups : List (Int × List Nat)) :
    (grants.map fun grant => (JsValue.number (Int.ofNat grant.1), grant.2)).foldl
        (fun groups entry => pushId entry.1 entry.2 groups) (groups.map numbered) =
      (grants.foldl (fun groups grant => addGrant grant.1 grant.2 groups) groups).map
        numbered := by
  induction grants generalizing groups with
  | nil => rfl
  | cons grant rest ih => rw [List.map_cons, List.foldl_cons, pushId_numbered, ih]; rfl

theorem flooredIds_aligned (ids : List Nat) (floorOf : Nat → Int) :
    flooredIds coercions (ids.map fun id => .number (Int.ofNat id))
        (ids.map fun id => .number (floorOf id)) =
      (ids.map fun id => (id, floorOf id)).map
        fun grant => (.number (Int.ofNat grant.1), grant.2) := by
  apply List.ext_getElem
  · simp [flooredIds]
  · intro index bound other
    have inside : index < ids.length := by simpa [flooredIds] using bound
    simp [flooredIds, JsValue.itemAt_map _ inside, Coercions.numberOf]

theorem branches_aligned (ids : List Nat) (floorOf : Nat → Int) :
    ((flooredIds coercions (ids.map fun id => .number (Int.ofNat id))
        (ids.map fun id => .number (floorOf id))).foldl
          (fun groups entry => pushId entry.1 entry.2 groups) []).map (branchOf coercions) =
      (byFrom (allowedGrants ids (ids.map floorOf))).map accessBranch := by
  have grouped := foldl_pushId (ids.map fun id => (id, floorOf id)) []
  rw [List.map_nil] at grouped
  have branches : branchOf coercions ∘ numbered = accessBranch := by
    funext group
    exact branchOf_numbered coercions group
  rw [flooredIds_aligned, allowedGrants_aligned, grouped, List.map_map, branches, byFrom]

theorem accessOf_filters (claims : SessionClaims) (form : FormData) :
    accessOf coercions (actionCreateExportFilters claims form) =
      accessControl (actionCreateExport claims (submittedFilters form)) := by
  have stampedIds : (actionCreateExportFilters claims form).field "allowedShortcodeIds" =
      allowedIds claims := rfl
  have stampedFloors : (actionCreateExportFilters claims form).field "allowedShortcodeFrom" =
      allowedFloors claims := rfl
  rw [accessOf, accessControl, stampedIds, stampedFloors]
  rcases allowed : claims.shortcodeIds with _ | ids
  · simp only [allowedIds, actionCreateExport, allowed]
  rcases ids with _ | ⟨id, rest⟩
  · simp only [allowedIds, actionCreateExport, allowed, List.map_nil]
  · simp only [allowedIds, allowedFloors, actionCreateExport, allowed, Option.map_some,
      Option.getD_some]
    exact congrArg anyOf (branches_aligned coercions (id :: rest) claims.fromOf)

theorem errorClassOf_filters (text : String) :
    errorClassOf coercions (.text (if text = "" then "any" else text)) =
      errorClassClause (if truthy (some text) then text else "any") := by
  by_cases blank : text = ""
  · subst blank
    rfl
  · have present : truthy (some text) = true := by simpa [truthy] using blank
    rw [if_neg blank, if_pos present, errorClassClause]
    by_cases ok : text = "ok"
    · subst ok
      rfl
    by_cases error : text = "error"
    · subst error
      rfl
    by_cases any : text = "any"
    · subst any
      rfl
    simp [errorClassOf, whenTruthy, Coercions.textOf, JsValue.truthy, ok, error, any, blank]

theorem buildWhereJson_eq (pg : PgDates) (claims : SessionClaims) (form : FormData) :
    buildWhereJson coercions pg (actionCreateExportFilters claims form) =
      buildWhere pg (actionCreateExport claims (submittedFilters form)) := by
  have operators := whenListed_map JsValue.text (strArrayField form "operator") fun items =>
    operatorAny (items.filterMap coercions.itemText)
  have shortcodes := whenListed_map JsValue.number (intArrayField form "shortcode_id") fun items =>
    idAny legColumns (items.filterMap coercions.idOf)
  rw [itemText_map] at operators
  rw [idOf_map] at shortcodes
  rw [buildWhereJson, buildWhere, accessOf_filters]
  simp only [actionCreateExportFilters, JsValue.field, List.lookup_cons, String.reduceBEq,
    beq_self_eq_true, Option.getD_some]
  rw [operators, shortcodes, errorClassOf_filters]
  simp only [whenTruthy_textOrNull, actionCreateExport, submittedFilters, Option.getD_some]
  rfl

end

end Worker

/-- For every session, submitted form and leg table: the worker, on the job's filters after their
way through JSON, selects the legs the report selects for the same filters under the session's
access. -/
theorem legs_export_eq (coercions : Worker.Coercions) (pg : PgDates) (claims : SessionClaims)
    (form : FormData) (legs : List LegRecord) :
    select (Worker.buildWhereJson coercions pg
        (actionCreateExportFilters claims form).roundTrip) legs =
      select (buildWhere pg (submittedFilters form) (sessionAcl claims)) legs := by
  rw [JsValue.roundTrip_of_defined (defined_filters claims form), Worker.buildWhereJson_eq,
    select_eq (Worker.denotes_buildWhere pg claims (submittedFilters form)),
    select_eq (denotes_buildWhere pg (submittedFilters form) (sessionAcl claims))]

end UssdGateway
