import Mathlib.Data.List.MinMax
import Mathlib.Data.List.Sort
import UssdGateway.Library.KeyedTable
import UssdGateway.Gateway.Unified

/-!
The tables of the gateway's hot path and the queries it makes of them: the routing registry
(operators and shortcodes) and the cache of live sessions. Times are microseconds.
-/

namespace UssdGateway

/-! The routing registry. -/

inductive ShortcodeEnvironment where
  | sandbox
  | production
deriving DecidableEq, Repr

inductive ShortcodeStatus where
  | active
  | maintenance
  | deactivated
deriving DecidableEq, Repr

def ShortcodeStatus.value : ShortcodeStatus → Str
  | active => lit "active"
  | maintenance => lit "maintenance"
  | deactivated => lit "deactivated"

inductive AuthMode where
  | none
  | bearer
deriving DecidableEq, Repr

inductive PayloadFormat where
  | gateway
  | legacy
deriving DecidableEq, Repr

structure OperatorRow where
  id : Nat
  name : Str
deriving DecidableEq

structure ShortcodeRecord where
  id : Nat
  operatorId : Nat
  code : Str
  environment : ShortcodeEnvironment
  ownerUserId : Nat
  handlerUrl : Str
  authMode : AuthMode
  bearerToken : Option Str
  timeoutSecs : Nat
  status : ShortcodeStatus
  statusMessage : Option Str
  payloadFormat : PayloadFormat
  verifyTls : Bool
deriving DecidableEq

structure ShortcodeRow where
  id : Nat
  operatorId : Nat
  operatorName : Str
  code : Str
  ownerUserId : Nat
  handlerUrl : Str
  authMode : AuthMode
  bearerToken : Option Str
  timeoutSecs : Nat
  status : ShortcodeStatus
  statusMessage : Option Str
  payloadFormat : PayloadFormat
  verifyTls : Bool
deriving DecidableEq

def ShortcodeRecord.row (record : ShortcodeRecord) (operatorName : Str) : ShortcodeRow where
  id := record.id
  operatorId := record.operatorId
  operatorName := operatorName
  code := record.code
  ownerUserId := record.ownerUserId
  handlerUrl := record.handlerUrl
  authMode := record.authMode
  bearerToken := record.bearerToken
  timeoutSecs := record.timeoutSecs
  status := record.status
  statusMessage := record.statusMessage
  payloadFormat := record.payloadFormat
  verifyTls := record.verifyTls

/-- The routing tables, with the constraints the schema puts on them. Text read back from the
database is always encodable. -/
structure Registry where
  operators : List OperatorRow
  shortcodes : List ShortcodeRecord
  operatorIdsUnique : (operators.map OperatorRow.id).Nodup
  operatorNamesUnique : (operators.map OperatorRow.name).Nodup
  codesUnique :
    (shortcodes.map fun record => (record.operatorId, record.code, record.environment)).Nodup
  messagesEncodable : ∀ record ∈ shortcodes, ∀ message ∈ record.statusMessage, message.Encodable

namespace Registry

/-- `SELECT id FROM operators WHERE name = …`, and 0 without a row. -/
def operatorId (registry : Registry) (name : Str) : Nat :=
  ((registry.operators.find? fun operator => operator.name = name).map OperatorRow.id).getD 0

def operatorName (registry : Registry) (id : Nat) : Option Str :=
  (registry.operators.find? fun operator => operator.id = id).map OperatorRow.name

def resolveShortcode (registry : Registry) (operatorName code : Str) : Option ShortcodeRow :=
  registry.shortcodes.findSome? fun record =>
    match registry.operatorName record.operatorId with
    | some name =>
        if name = operatorName ∧ record.code = code ∧ record.environment = .production then
          some (record.row name)
        else none
    | none => none

/-- `… code = ANY(candidates) … ORDER BY length(code) DESC LIMIT 1`. -/
def longestRegistered (registry : Registry) (operatorId : Nat) (candidates : List Str) :
    Option Str :=
  ((registry.shortcodes.filter fun record =>
    record.operatorId = operatorId ∧ record.code ∈ candidates ∧
      record.environment = .production).map ShortcodeRecord.code).argmax List.length

theorem resolveShortcode_spec {registry : Registry} {operatorName code : Str}
    {shortcode : ShortcodeRow}
    (resolved : registry.resolveShortcode operatorName code = some shortcode) :
    ∃ record ∈ registry.shortcodes, shortcode = record.row operatorName ∧
      record.code = code ∧ record.environment = .production ∧
      registry.operatorName record.operatorId = some operatorName := by
  obtain ⟨record, member, found⟩ := List.exists_of_findSome?_eq_some resolved
  rcases named : registry.operatorName record.operatorId with _ | name
  · simp [named] at found
  · simp only [named] at found
    split at found
    next wanted =>
      obtain ⟨same, coded, live⟩ := wanted
      subst same
      exact ⟨record, member, (Option.some.inj found).symm, coded, live, named⟩
    next => exact absurd found (by simp)

theorem operatorId_of_operatorName {registry : Registry} {id : Nat} {name : Str}
    (named : registry.operatorName id = some name) : registry.operatorId name = id := by
  obtain ⟨operator, found, rfl⟩ := Option.map_eq_some_iff.1 named
  have member := List.mem_of_find?_eq_some found
  have sameId : operator.id = id := by simpa using List.find?_some found
  rcases byName : registry.operators.find? (fun other => other.name = operator.name) with _ | other
  · rw [List.find?_eq_none] at byName
    exact absurd (decide_eq_true rfl) (byName operator member)
  · have otherMember := List.mem_of_find?_eq_some byName
    have sameName : other.name = operator.name := by simpa using List.find?_some byName
    have equal := List.inj_on_of_nodup_map registry.operatorNamesUnique otherMember member sameName
    simp [operatorId, byName, equal, sameId]

theorem resolveShortcode_operatorId {registry : Registry} {operatorName code : Str}
    {shortcode : ShortcodeRow}
    (resolved : registry.resolveShortcode operatorName code = some shortcode) :
    shortcode.operatorId = registry.operatorId operatorName := by
  obtain ⟨record, _, rfl, _, _, named⟩ := resolveShortcode_spec resolved
  exact (operatorId_of_operatorName named).symm

end Registry

def defaultStatusMessage : ShortcodeStatus → Str
  | .maintenance => lit "Service temporarily under maintenance. Please try again later."
  | .deactivated => lit "This service is currently unavailable."
  | .active => lit "Service is unavailable."

def statusMessageFor (shortcode : ShortcodeRow) : Str :=
  match shortcode.statusMessage with
  | some message => if message = [] then defaultStatusMessage shortcode.status else message
  | none => defaultStatusMessage shortcode.status

theorem statusMessageFor_encodable {registry : Registry} {operatorName code : Str}
    {shortcode : ShortcodeRow}
    (resolved : registry.resolveShortcode operatorName code = some shortcode) :
    (statusMessageFor shortcode).Encodable := by
  obtain ⟨record, member, rfl, _⟩ := Registry.resolveShortcode_spec resolved
  have fallback : ∀ status, (defaultStatusMessage status).Encodable := by
    intro status
    cases status <;> exact Str.encodable_lit _
  simp only [statusMessageFor, ShortcodeRecord.row]
  split
  next message found =>
    split
    · exact fallback _
    · exact registry.messagesEncodable record member message found
  next => exact fallback _

/-! The cache of live sessions. -/

abbrev SessionKey := Str × Nat

instance SessionKey.instLawfulBEq : LawfulBEq SessionKey := inferInstance

structure ActiveSessionRow where
  sessionId : Str
  operatorId : Nat
  serviceCode : Str
  shortcodeId : Option Nat
  msisdn : Option Str
  ussdString : Str
  createdAt : Nat
  lastSeenAt : Nat
deriving DecidableEq

def ActiveSessionRow.key (row : ActiveSessionRow) : SessionKey := (row.sessionId, row.operatorId)

abbrev SessionTable := KeyedTable SessionKey ActiveSessionRow ActiveSessionRow.key

structure ActiveSession where
  sessionId : Str
  operatorId : Nat
  serviceCode : Str
  shortcodeId : Option Nat
  msisdn : Option Str
  ussdString : Str
  idleMicros : Int
deriving DecidableEq

structure SessionUpsert where
  sessionId : Str
  operatorId : Nat
  serviceCode : Str
  shortcodeId : Option Nat
  msisdn : Option Str
  ussdString : Str
deriving DecidableEq

def SessionUpsert.key (values : SessionUpsert) : SessionKey := (values.sessionId, values.operatorId)

namespace SessionTable

def getActiveSession (table : SessionTable) (now : Nat) (key : SessionKey) :
    Option ActiveSession :=
  (table.find key).map fun row =>
    { sessionId := row.sessionId, operatorId := row.operatorId, serviceCode := row.serviceCode
      shortcodeId := row.shortcodeId, msisdn := row.msisdn, ussdString := row.ussdString
      idleMicros := (now : Int) - row.lastSeenAt }

def freshRow (values : SessionUpsert) (now : Nat) : ActiveSessionRow where
  sessionId := values.sessionId
  operatorId := values.operatorId
  serviceCode := values.serviceCode
  shortcodeId := values.shortcodeId
  msisdn := values.msisdn
  ussdString := values.ussdString
  createdAt := now
  lastSeenAt := now

/-- On conflict only the trail and the time of the last leg change. -/
def refresh (values : SessionUpsert) (now : Nat) (row : ActiveSessionRow) : ActiveSessionRow :=
  { row with ussdString := values.ussdString, lastSeenAt := now }

def upsertActiveSession (table : SessionTable) (now : Nat) (values : SessionUpsert) :
    SessionTable :=
  table.upsert (freshRow values now) (refresh values now) fun _ => rfl

def expireActiveSession (table : SessionTable) (key : SessionKey) : SessionTable :=
  table.erase key

theorem find_without (table : SessionTable) (gone : List SessionKey) (key : SessionKey) :
    (table.filter fun row => row.key ∉ gone).find key =
      if key ∈ gone then none else table.find key := by
  rw [KeyedTable.find_filter]
  rcases found : table.find key with _ | row
  · simp
  · have keyed : row.key = key := KeyedTable.key_of_find found
    by_cases removed : key ∈ gone
    · simp [Option.filter, keyed, removed]
    · simp [Option.filter, keyed, removed]

theorem getActiveSession_eq_none_iff (table : SessionTable) (now : Nat) (key : SessionKey) :
    getActiveSession table now key = none ↔ table.find key = none := by
  simp [getActiveSession]

theorem find_upsertActiveSession_self (table : SessionTable) (now : Nat)
    (values : SessionUpsert) :
    (upsertActiveSession table now values).find values.key =
      some (((table.find values.key).map (refresh values now)).getD (freshRow values now)) :=
  KeyedTable.find_upsert_self (freshRow values now) (refresh values now) (fun _ => rfl) table

theorem find_upsertActiveSession_of_ne (table : SessionTable) (now : Nat)
    (values : SessionUpsert) {key : SessionKey} (apart : key ≠ values.key) :
    (upsertActiveSession table now values).find key = table.find key :=
  KeyedTable.find_upsert_of_ne (freshRow values now) (refresh values now) (fun _ => rfl) table apart

theorem ussdString_upsertActiveSession (table : SessionTable) (now : Nat)
    (values : SessionUpsert) :
    ∃ row, (upsertActiveSession table now values).find values.key = some row ∧
      row.ussdString = values.ussdString := by
  rw [find_upsertActiveSession_self]
  rcases table.find values.key with _ | row
  · exact ⟨_, rfl, rfl⟩
  · exact ⟨_, rfl, rfl⟩

end SessionTable

/-! Idle sessions. -/

structure ExpiredSession where
  sessionId : Str
  operatorId : Nat
  operatorName : Str
  serviceCode : Str
  shortcodeId : Option Nat
  msisdn : Option Str
  ussdString : Str
  lastSeenAt : Nat
deriving DecidableEq

def ExpiredSession.key (expired : ExpiredSession) : SessionKey :=
  (expired.sessionId, expired.operatorId)

def ActiveSessionRow.expired (row : ActiveSessionRow) (operatorName : Str) : ExpiredSession where
  sessionId := row.sessionId
  operatorId := row.operatorId
  operatorName := operatorName
  serviceCode := row.serviceCode
  shortcodeId := row.shortcodeId
  msisdn := row.msisdn
  ussdString := row.ussdString
  lastSeenAt := row.lastSeenAt

def microsPerSec : Int := 1000000

/-- `min([idle_secs, *per_op.values()])`. -/
def minIdle (idleSecs : Int) (perOp : List (Str × Int)) : Int :=
  (perOp.map Prod.snd).foldr min idleSecs

/-- The idle condition of the claim, for a row joined with its operator, where it does not raise. -/
def isVictim (now : Nat) (idleSecs maxAgeSecs : Int) (perOp : List (Str × Int))
    (operatorName : Str) (row : ActiveSessionRow) : Bool :=
  decide ((row.lastSeenAt : Int) < now - minIdle idleSecs perOp * microsPerSec) &&
  decide ((row.lastSeenAt : Int) <
    now - ((List.lookup operatorName perOp).getD idleSecs) * microsPerSec) &&
  decide (now - maxAgeSecs * microsPerSec ≤ row.lastSeenAt)

/-- The rows the claim locks: oldest first, passing over rows another transaction holds. -/
def victims (registry : Registry) (table : SessionTable) (now : Nat) (idleSecs maxAgeSecs : Int)
    (limit : Nat) (perOp : List (Str × Int)) (locked : SessionKey → Bool) :
    List ExpiredSession :=
  ((((table.rows.filterMap fun row =>
    (registry.operatorName row.operatorId).bind fun name =>
      if isVictim now idleSecs maxAgeSecs perOp name row then some (row.expired name)
      else none).insertionSort fun first second => first.lastSeenAt ≤ second.lastSeenAt).filter
    fun expired => !locked expired.key).take limit)

theorem map_key_filterMap {chosen : ActiveSessionRow → Option ExpiredSession}
    (keyed : ∀ row expired, chosen row = some expired → expired.key = row.key)
    (rows : List ActiveSessionRow) :
    ((rows.filterMap chosen).map ExpiredSession.key).Sublist (rows.map ActiveSessionRow.key) := by
  induction rows with
  | nil => exact List.Sublist.slnil
  | cons row rest ih =>
      rw [List.filterMap_cons]
      split
      next => exact ih.cons _
      next expired found =>
        rw [List.map_cons, List.map_cons, keyed row expired found]
        exact ih.cons_cons _

theorem victims_once (registry : Registry) (table : SessionTable) (now : Nat)
    (idleSecs maxAgeSecs : Int) (limit : Nat) (perOp : List (Str × Int))
    (locked : SessionKey → Bool) :
    ((victims registry table now idleSecs maxAgeSecs limit perOp locked).map
      ExpiredSession.key).Nodup := by
  refine ((List.take_sublist _ _).trans List.filter_sublist).map _ |>.nodup ?_
  rw [((List.perm_insertionSort _ _).map ExpiredSession.key).nodup_iff]
  refine (map_key_filterMap ?_ table.rows).nodup table.unique
  intro row expired found
  obtain ⟨name, _, claimed⟩ := Option.bind_eq_some_iff.1 found
  split at claimed
  next => exact (Option.some.inj claimed) ▸ rfl
  next => cases claimed

theorem mem_victims {registry : Registry} {table : SessionTable} {now limit : Nat}
    {idleSecs maxAgeSecs : Int} {perOp : List (Str × Int)} {locked : SessionKey → Bool}
    {expired : ExpiredSession}
    (member : expired ∈ victims registry table now idleSecs maxAgeSecs limit perOp locked) :
    ∃ row ∈ table.rows, ∃ operatorName,
      registry.operatorName row.operatorId = some operatorName ∧
      isVictim now idleSecs maxAgeSecs perOp operatorName row = true ∧
      expired = row.expired operatorName := by
  have inside := (List.mem_filter.1 (List.mem_of_mem_take member)).1
  rw [List.mem_insertionSort, List.mem_filterMap] at inside
  obtain ⟨row, present, chosen⟩ := inside
  obtain ⟨operatorName, named, claimed⟩ := Option.bind_eq_some_iff.1 chosen
  split at claimed
  next idle => exact ⟨row, present, operatorName, named, idle, (Option.some.inj claimed).symm⟩
  next => cases claimed

/-- The first instant of a `timestamptz`, in unix seconds. -/
def minTimestampSecs : Int := -210866803200

/-- `now() - make_interval(secs => …)` is a timestamp. -/
def reachesBack (now : Nat) (secs : Int) : Bool :=
  decide (minTimestampSecs * microsPerSec ≤ now - secs * microsPerSec)

def maxInt4 : Int := 2147483647

/-- `COALESCE((per_op ->> name)::int, idle)`, none where the cast raises. -/
def operatorLimit (idleSecs : Int) (perOp : List (Str × Int)) (operatorName : Str) : Option Int :=
  match List.lookup operatorName perOp with
  | some secs => if -maxInt4 - 1 ≤ secs ∧ secs ≤ maxInt4 then some secs else none
  | none => some idleSecs

/-- The two bounds on the age of a row alone let it through to its operator's limit, and that
raises. -/
def limitRaises (now : Nat) (idleSecs maxAgeSecs : Int) (perOp : List (Str × Int))
    (operatorName : Str) (row : ActiveSessionRow) : Bool :=
  decide ((row.lastSeenAt : Int) < now - minIdle idleSecs perOp * microsPerSec) &&
  decide (now - maxAgeSecs * microsPerSec ≤ row.lastSeenAt) &&
  !(operatorLimit idleSecs perOp operatorName).any (reachesBack now)

def maxInt8 : Int := 9223372036854775807

/-- `LIMIT` takes a `bigint` that is not negative, and the entries are sent as `jsonb`. -/
def parametersRaise (limit : Int) (perOp : List (Str × Int)) : Bool :=
  decide (limit < 0) || decide (maxInt8 < limit) || !perOp.all fun entry => jsonbText entry.1

/-- The claim raises, by its parameters or on a row joined with its operator. The rows are sorted,
so each is looked at before the LIMIT. -/
def claimRaises (registry : Registry) (table : SessionTable) (now : Nat)
    (idleSecs maxAgeSecs limit : Int) (perOp : List (Str × Int)) : Bool :=
  parametersRaise limit perOp ||
  !reachesBack now (minIdle idleSecs perOp) || !reachesBack now maxAgeSecs ||
  table.rows.any fun row => (registry.operatorName row.operatorId).any fun name =>
    limitRaises now idleSecs maxAgeSecs perOp name row

/-- One statement: the locked rows are deleted and returned, or it raises. -/
def claimExpiredSessions (registry : Registry) (table : SessionTable)
    (now : Nat) (idleSecs maxAgeSecs limit : Int) (perOp : List (Str × Int))
    (locked : SessionKey → Bool) : Option (List ExpiredSession × SessionTable) :=
  if claimRaises registry table now idleSecs maxAgeSecs limit perOp then none
  else
    let claimed := victims registry table now idleSecs maxAgeSecs limit.toNat perOp locked
    some (claimed, table.filter fun row => row.key ∉ claimed.map ExpiredSession.key)

theorem claimExpiredSessions_eq_some {registry : Registry} {table after : SessionTable}
    {now : Nat} {idleSecs maxAgeSecs limit : Int} {perOp : List (Str × Int)}
    {locked : SessionKey → Bool} {claimed : List ExpiredSession}
    (returned : claimExpiredSessions registry table now idleSecs maxAgeSecs limit perOp locked =
      some (claimed, after)) :
    claimed = victims registry table now idleSecs maxAgeSecs limit.toNat perOp locked ∧
      after = table.filter fun row => row.key ∉ claimed.map ExpiredSession.key := by
  rw [claimExpiredSessions] at returned
  split at returned
  · cases returned
  · obtain ⟨rfl, rfl⟩ := Prod.mk.inj (Option.some.inj returned)
    exact ⟨rfl, rfl⟩

end UssdGateway
