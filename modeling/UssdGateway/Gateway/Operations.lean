import UssdGateway.Library.Effects
import UssdGateway.Gateway.Database

/-!
What the gateway's code does to the outside: its queries, its HTTP calls, the rows it hands to the
log writer and the coroutines it schedules. Legs are programs over these operations.
-/

namespace UssdGateway

open EffectProgram

/-! Parsed documents and inbound HTTP requests. -/

inductive Element where
  | node (tag : Str) (text : Option Str) (children : List Element)

namespace Element

def tag : Element → Str
  | node tag _ _ => tag

def text : Element → Option Str
  | node _ text _ => text

def children : Element → List Element
  | node _ _ children => children

def find (element : Element) (tag : Str) : Option Element :=
  element.children.find? fun child => child.tag = tag

mutual

def descendants : Element → List Element
  | node _ _ children => descendantsOf children

def descendantsOf : List Element → List Element
  | [] => []
  | child :: rest => child :: (descendants child ++ descendantsOf rest)

end

end Element

/-- A member of a decoded JSON object: a string, or anything else with its `str()`. -/
inductive JsonValue where
  | text (value : Str)
  | other (shown : Str)
deriving DecidableEq

/-- A decoded JSON document, an object's members by their last occurrence. -/
inductive JsonDocument where
  | object (members : List (Str × JsonValue))
  | other

/-- The parts of the Python library that no law of the gateway depends on. -/
structure PyRuntime where
  lower : Str → Str
  repr : Str → Str
  strTime : Nat → Str
  /-- `json.loads`, `none` where it raises. -/
  loads : Str → Option JsonDocument
  /-- `ET.fromstring` of a text, or the error's text. -/
  fromstring : Str → Except Str Element

structure RequestBody where
  isEmpty : Bool
  xml : Except Str Element
  /-- The members of a JSON object body, as `str()` shows them. -/
  json : Option (List (Str × Option Str))
  form : List (Str × Str)

structure Request where
  partnerSlug : Option Str
  queryParams : List (Str × Str)
  contentType : Option Str
  body : RequestBody

inductive HandlerPayload where
  | gateway (operator : Str) (msisdn : Option Str) (sessionId serviceCode ussdString event : Str)
      (rawPayload : Payload)
  | legacy (sessionId : Str) (msisdn : Option Str) (networkProvider serviceCode ussdString : Str)
deriving DecidableEq

def HandlerPayload.ussdString : HandlerPayload → Str
  | gateway _ _ _ _ ussdString _ _ => ussdString
  | legacy _ _ _ _ ussdString => ussdString

structure HandlerCall where
  url : Str
  authorization : Option Str
  timeoutSecs : Nat
  verifyTls : Bool
  payload : HandlerPayload
deriving DecidableEq

/-- What `httpx` makes of a call. Any other exception is an error of the operation. -/
inductive HttpResult where
  | timeout (detail : Str)
  | requestError (detail : Str)
  | response (status : Nat) (text : Str)
deriving DecidableEq

structure HttpExchange where
  elapsedMs : Nat
  result : HttpResult
deriving DecidableEq

structure OutboundCall where
  url : Str
  timeoutSecs : Nat
  user : Str
  pass : Str
  msisdn : Str
  msg : Str
  sessionid : Str
  transactionid : Str
  requestType : Str
  ussdgwId : Str
deriving DecidableEq

/-! Log rows. -/

inductive Direction where
  | inbound
  | response
  | asyncOutbound
deriving DecidableEq, Repr

/-- One row of `ussd_session_logs`: the columns of `_INSERT_COLS`. -/
structure LogRow where
  operatorId : Nat
  operatorName : Str
  shortcodeId : Option Nat
  serviceCode : Str
  sessionId : Str
  msisdn : Option Str
  ussdString : Str
  direction : Direction
  rawRequestPayload : Option Payload
  rawResponsePayload : Option Payload
  handlerUrl : Option Str
  handlerStatusCode : Option Nat
  handlerResponseAction : Option Action
  handlerResponseText : Option Str
  handlerElapsedMs : Option Nat
  errorClass : Option Str
  errorDetail : Option Str
deriving DecidableEq

def isSensitiveKey (key : Str) : Bool := key = lit "pass" ∨ key = lit "password"

def redactPayload (payload : Payload) : Payload :=
  payload.map fun entry =>
    if isSensitiveKey entry.1 && entry.2.truthy then (entry.1, .text (lit "***")) else entry

def payloadColumn : Option Payload → Option Payload
  | none => none
  | some payload => if payload = [] then none else some (redactPayload payload)

def LogRow.redacted (row : LogRow) : LogRow :=
  { row with
    rawRequestPayload := payloadColumn row.rawRequestPayload
    rawResponsePayload := payloadColumn row.rawResponsePayload }

@[simp] theorem LogRow.redacted_errorClass (row : LogRow) :
    row.redacted.errorClass = row.errorClass := rfl

@[simp] theorem LogRow.redacted_handlerResponseAction (row : LogRow) :
    row.redacted.handlerResponseAction = row.handlerResponseAction := rfl

structure LogQueue where
  maxsize : Nat
  rows : List LogRow
  enqueuedTotal : Nat
  droppedTotal : Nat

def LogQueue.putNowait (queue : LogQueue) (row : LogRow) : LogQueue :=
  if queue.rows.length < queue.maxsize then
    { queue with rows := queue.rows ++ [row], enqueuedTotal := queue.enqueuedTotal + 1 }
  else { queue with droppedTotal := queue.droppedTotal + 1 }

inductive Adapter where
  | vodacom
  | airtel
  | tigo
  | halotel
deriving DecidableEq, Repr

namespace Adapter

def operator : Adapter → Str
  | vodacom => lit "vodacom"
  | airtel => lit "airtel"
  | tigo => lit "tigo"
  | halotel => lit "halotel"

def isAsyncOutbound : Adapter → Bool
  | halotel => true
  | _ => false

def ofKey (operatorKey : Str) : Option Adapter :=
  [vodacom, airtel, tigo, halotel].find? fun adapter => adapter.operator = operatorKey

end Adapter

inductive BackgroundTask where
  | notifyTerminalEvent (shortcode : ShortcodeRow) (ur : UnifiedRequest) (ack : UnifiedReply)
  | asyncForwardThenPush (adapter : Adapter) (ur : UnifiedRequest) (shortcode : ShortcodeRow)
  | asyncCannedPush (adapter : Adapter) (ur : UnifiedRequest) (operatorKey : Str)
      (reply : UnifiedReply) (errorClass : Str) (shortcodeId operatorId : Option Nat)
      (operatorName : Option Str)
  | notifySessionExpired (expired : ExpiredSession)
deriving DecidableEq

/-! The operations. -/

inductive GatewayOp where
  | operatorId (name : Str)
  | resolveShortcode (operatorName code : Str)
  | longestRegistered (operatorId : Nat) (candidates : List Str)
  | getActiveSession (key : SessionKey)
  | upsertActiveSession (values : SessionUpsert)
  | expireActiveSession (key : SessionKey)
  | claimExpiredSessions (idleSecs maxAgeSecs limit : Int) (perOp : List (Str × Int))
  | sendToHandler (call : HandlerCall)
  | awaitHandler (call : HandlerCall)
  | pushToOperator (call : OutboundCall)
  | logLeg (row : LogRow)
  /-- `referenced` when the task is kept in `_BACKGROUND_TASKS`. -/
  | spawn (task : BackgroundTask) (referenced : Bool)

def GatewayOp.Answer : GatewayOp → Type
  | operatorId _ => Nat
  | resolveShortcode _ _ => Option ShortcodeRow
  | longestRegistered _ _ => Option Str
  | getActiveSession _ => Option ActiveSession
  | upsertActiveSession _ => Unit
  | expireActiveSession _ => Unit
  | claimExpiredSessions _ _ _ _ => List ExpiredSession
  | sendToHandler _ => Unit
  | awaitHandler _ => HttpExchange
  | pushToOperator _ => HttpExchange
  | logLeg _ => Unit
  | spawn _ _ => Unit

abbrev gatewayOps : Signature := ⟨GatewayOp, GatewayOp.Answer⟩

abbrev Program (α : Type) := Prog gatewayOps PyError α

namespace Program

def operatorId (name : Str) : Program Nat := Prog.call (S := gatewayOps) (.operatorId name)

def resolveShortcode (operatorName code : Str) : Program (Option ShortcodeRow) :=
  Prog.call (S := gatewayOps) (.resolveShortcode operatorName code)

def longestRegistered (operatorId : Nat) (candidates : List Str) : Program (Option Str) :=
  Prog.call (S := gatewayOps) (.longestRegistered operatorId candidates)

def getActiveSession (key : SessionKey) : Program (Option ActiveSession) :=
  Prog.call (S := gatewayOps) (.getActiveSession key)

def upsertActiveSession (values : SessionUpsert) : Program Unit :=
  Prog.call (S := gatewayOps) (.upsertActiveSession values)

def expireActiveSession (key : SessionKey) : Program Unit :=
  Prog.call (S := gatewayOps) (.expireActiveSession key)

def claimExpiredSessions (idleSecs maxAgeSecs limit : Int) (perOp : List (Str × Int)) :
    Program (List ExpiredSession) :=
  Prog.call (S := gatewayOps) (.claimExpiredSessions idleSecs maxAgeSecs limit perOp)

def sendToHandler (call : HandlerCall) : Program Unit :=
  Prog.call (S := gatewayOps) (.sendToHandler call)

def awaitHandler (call : HandlerCall) : Program HttpExchange :=
  Prog.call (S := gatewayOps) (.awaitHandler call)

def pushToOperator (call : OutboundCall) : Program HttpExchange :=
  Prog.call (S := gatewayOps) (.pushToOperator call)

def logLeg (row : LogRow) : Program Unit := Prog.call (S := gatewayOps) (.logLeg row)

def spawn (task : BackgroundTask) (referenced : Bool) : Program Unit :=
  Prog.call (S := gatewayOps) (.spawn task referenced)

def httpError {α : Type} (status : Nat) (detail : Str) : Program α :=
  .raise (.httpException status detail)

end Program

end UssdGateway
