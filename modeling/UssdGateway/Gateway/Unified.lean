import UssdGateway.Gateway.Text

/-!
The shapes the gateway speaks internally: what every adapter parses an inbound leg into, what a
handler answers, and what is logged of both.
-/

namespace UssdGateway

inductive Action where
  | CON
  | END
deriving DecidableEq, Repr

def Action.value : Action → Str
  | .CON => lit "CON"
  | .END => lit "END"

inductive SessionEvent where
  | start
  | input
  | userCancelledSession
  | providerSessionTermination
  | deliveryAck
  | systemSessionTermination
deriving DecidableEq, Repr

namespace SessionEvent

def value : SessionEvent → Str
  | start => lit "start"
  | input => lit "input"
  | userCancelledSession => lit "user_cancelled_session"
  | providerSessionTermination => lit "provider_session_termination"
  | deliveryAck => lit "delivery_ack"
  | systemSessionTermination => lit "system_session_termination"

def isTerminal : SessionEvent → Bool
  | userCancelledSession | providerSessionTermination => true
  | _ => false

def isSessionEnded : SessionEvent → Bool
  | systemSessionTermination => true
  | event => event.isTerminal

end SessionEvent

/-- Everything the gateway's own code can be stopped by. -/
inductive PyError where
  | httpException (status : Nat) (detail : Str)
  | unicodeEncodeError
  | raised (kind : Str)
deriving DecidableEq, Repr

inductive PayloadValue where
  | text (value : Str)
  | number (value : Int)
  | null
deriving DecidableEq, Repr

def PayloadValue.truthy : PayloadValue → Bool
  | text value => value ≠ []
  | number value => value ≠ 0
  | null => false

abbrev Payload := List (Str × PayloadValue)

namespace Payload

def get (payload : Payload) (key : Str) : Option PayloadValue := List.lookup key payload

def getText (payload : Payload) (key : Str) : Str :=
  match payload.get key with
  | some (.text value) => value
  | _ => []

def set (payload : Payload) (key : Str) (value : PayloadValue) : Payload :=
  if payload.any (fun entry => entry.1 = key) then
    payload.map fun entry => if entry.1 = key then (key, value) else entry
  else payload ++ [(key, value)]

end Payload

structure UnifiedRequest where
  operator : Str
  msisdn : Option Str
  sessionId : Str
  serviceCode : Str
  ussdString : Str
  event : SessionEvent
  rawPayload : Payload
  shortcodeId : Option Nat := none
deriving DecidableEq

structure UnifiedReply where
  action : Action
  message : Str
deriving DecidableEq

/-- The full result of a handler invocation. There is no reply when the handler failed. -/
structure HandlerOutcome where
  reply : Option UnifiedReply
  statusCode : Option Nat
  elapsedMs : Nat
  errorClass : Option Str := none
  errorDetail : Option Str := none
  rawResponsePayload : Option Payload := none

structure Response where
  content : EncodedText
  mediaType : Str

structure HalotelConfig where
  outboundUrl : Str
  outboundUser : Str
  outboundPass : Str
  ussdgwIdDefault : Str
  outboundTimeoutSecs : Nat

/-- The limits `__post_init__` checks: `{"default": idle_secs, **idle_secs_by_operator}`. -/
def checkedLimits (idleSecs : Int) (idleSecsByOperator : List (Str × Int)) : List Int :=
  (List.lookup (lit "default") idleSecsByOperator).getD idleSecs ::
    idleSecsByOperator.map Prod.snd

structure SessionExpiryConfig where
  idleSecs : Int
  notifyMaxAgeSecs : Int
  batch : Int
  idleSecsByOperator : List (Str × Int)
  /-- `__post_init__` refuses to start otherwise. -/
  accepted : ∀ secs ∈ checkedLimits idleSecs idleSecsByOperator,
    0 < secs ∧ secs < notifyMaxAgeSecs

namespace SessionExpiryConfig

def idleSecsFor (config : SessionExpiryConfig) (lower : Str → Str) (operatorName : Str) : Int :=
  (List.lookup (lower operatorName) config.idleSecsByOperator).getD config.idleSecs

end SessionExpiryConfig

structure Settings where
  handlerDefaultTimeoutSecs : Nat
  halotel : HalotelConfig
  expiry : SessionExpiryConfig

end UssdGateway
