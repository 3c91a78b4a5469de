import UssdGateway.Gateway.Parsing

/-!
The two outbound exchanges of a leg: the call to the shortcode's handler, whose reply is parsed
here, and the push of a menu back to Halotel.
-/

namespace UssdGateway

open EffectProgram

def optionalOr (first second : Option Str) : Option Str :=
  match first with
  | some text => if text = [] then second else some text
  | none => second

theorem optionalOr_eq_none_iff {first : Option Str} (second : Option Str)
    (named : first ≠ some []) : optionalOr first second = none ↔ first = none ∧ second = none := by
  rcases first with _ | text
  · simp [optionalOr]
  · have nonempty : text ≠ [] := by
      intro empty
      exact named (by rw [empty])
    simp [optionalOr, nonempty]

/-! The handler's reply. -/

def coerceAction : JsonValue → Option Action
  | .text raw =>
      let norm := Str.upper (Str.strip raw)
      if norm = lit "CON" then some .CON
      else if norm = lit "END" then some .END
      else none
  | .other _ => none

def JsonValue.shown : JsonValue → Str
  | text value => value
  | other shown => shown

def parseJsonReply (members : List (Str × JsonValue)) : Except Str UnifiedReply :=
  match (List.lookup (lit "action") members).bind coerceAction with
  | none => .error (lit "bad_action")
  | some action =>
      .ok { action
            message := ((List.lookup (lit "message") members).map JsonValue.shown).getD [] }

def parseTextReply (stripped : Str) : Except Str UnifiedReply :=
  let upper := Str.upper stripped
  if Str.startsWith upper (lit "CON") then
    .ok { action := .CON, message := Str.rstrip (Str.lstrip (stripped.drop 3)) }
  else if Str.startsWith upper (lit "END") then
    .ok { action := .END, message := Str.rstrip (Str.lstrip (stripped.drop 3)) }
  else .error (lit "bad_action")

/-- `_parse_handler_reply`: a reply or an error class. -/
def parseHandlerReply (runtime : PyRuntime) (bodyText : Str) : Except Str UnifiedReply :=
  let stripped := Str.strip bodyText
  match stripped with
  | [] => .error (lit "empty_body")
  | first :: _ =>
      if first ∈ lit "\x7b[" then
        match runtime.loads stripped with
        | none => .error (lit "badjson")
        | some .other => .error (lit "badjson_shape")
        | some (.object members) => parseJsonReply members
      else parseTextReply stripped

def legacySentinel : SessionEvent → Option Str
  | .userCancelledSession => some (lit "__USER_CANCELLED__")
  | .providerSessionTermination => some (lit "__TIMEOUT__")
  | .systemSessionTermination => some (lit "__SESSION_EXPIRED__")
  | _ => none

def buildHandlerPayload (shortcode : ShortcodeRow) (ur : UnifiedRequest) : HandlerPayload :=
  match shortcode.payloadFormat with
  | .legacy =>
      .legacy ur.sessionId ur.msisdn (Str.upper ur.operator) ur.serviceCode
        ((legacySentinel ur.event).getD ur.ussdString)
  | .gateway =>
      .gateway ur.operator ur.msisdn ur.sessionId ur.serviceCode ur.ussdString ur.event.value
        ur.rawPayload

def handlerCall (settings : Settings) (shortcode : ShortcodeRow) (ur : UnifiedRequest) :
    HandlerCall where
  url := shortcode.handlerUrl
  authorization :=
    match shortcode.authMode, shortcode.bearerToken with
    | .bearer, some token => if token = [] then none else some (lit "Bearer " ++ token)
    | _, _ => none
  timeoutSecs :=
    if shortcode.timeoutSecs = 0 then settings.handlerDefaultTimeoutSecs else shortcode.timeoutSecs
  verifyTls := shortcode.verifyTls
  payload := buildHandlerPayload shortcode ur

def logBodyTrunc : Nat := 2000

def handlerOutcome (runtime : PyRuntime) (exchange : HttpExchange) : HandlerOutcome :=
  match exchange.result with
  | .timeout detail =>
      { reply := none, statusCode := none, elapsedMs := exchange.elapsedMs
        errorClass := some (lit "timeout"), errorDetail := some (detail.take 300) }
  | .requestError detail =>
      { reply := none, statusCode := none, elapsedMs := exchange.elapsedMs
        errorClass := some (lit "transport"), errorDetail := some (detail.take 300) }
  | .response status bodyText =>
      let rawJson : Option Payload :=
        if bodyText = [] then none else some [(lit "text", .text (bodyText.take logBodyTrunc))]
      if 400 ≤ status then
        { reply := none, statusCode := some status, elapsedMs := exchange.elapsedMs
          errorClass := some (lit "non2xx")
          errorDetail := some (lit "HTTP " ++ lit (toString status) ++ lit ": " ++
            bodyText.take 300)
          rawResponsePayload := rawJson }
      else
        match parseHandlerReply runtime bodyText with
        | .error kind =>
            { reply := none, statusCode := some status, elapsedMs := exchange.elapsedMs
              errorClass := some (Str.orElse kind (lit "unparseable"))
              errorDetail := some (lit "could not parse handler reply: " ++ bodyText.take 300)
              rawResponsePayload := rawJson }
        | .ok reply =>
            { reply := some reply, statusCode := some status, elapsedMs := exchange.elapsedMs
              rawResponsePayload := rawJson }

def forward (runtime : PyRuntime) (settings : Settings) (shortcode : ShortcodeRow)
    (ur : UnifiedRequest) : Program HandlerOutcome := do
  let call := handlerCall settings shortcode ur
  Program.sendToHandler call
  let exchange ← Program.awaitHandler call
  pure (handlerOutcome runtime exchange)

theorem parseHandlerReply_error_ne_nil {runtime : PyRuntime} {bodyText kind : Str}
    (failed : parseHandlerReply runtime bodyText = .error kind) : kind ≠ [] := by
  have named : ∀ text : String, lit text = kind → text.toList ≠ [] → kind ≠ [] := by
    intro text same nonempty
    rw [← same]
    exact lit_ne_nil nonempty
  have textNamed : ∀ stripped, parseTextReply stripped = .error kind → kind ≠ [] := by
    intro stripped textFailed
    simp only [parseTextReply] at textFailed
    split at textFailed
    · exact absurd textFailed (by simp)
    · split at textFailed
      · exact absurd textFailed (by simp)
      · exact named _ (Except.error.inj textFailed) (by decide)
  have jsonNamed : ∀ members, parseJsonReply members = .error kind → kind ≠ [] := by
    intro members jsonFailed
    simp only [parseJsonReply] at jsonFailed
    split at jsonFailed
    · exact named _ (Except.error.inj jsonFailed) (by decide)
    · exact absurd jsonFailed (by simp)
  simp only [parseHandlerReply] at failed
  split at failed
  · exact named _ (Except.error.inj failed) (by decide)
  · split at failed
    · split at failed
      · exact named _ (Except.error.inj failed) (by decide)
      · exact named _ (Except.error.inj failed) (by decide)
      · exact jsonNamed _ failed
    · exact textNamed _ failed

theorem handlerOutcome_errorClass_eq_none_iff (runtime : PyRuntime) (exchange : HttpExchange) :
    (handlerOutcome runtime exchange).errorClass = none ↔
      ∃ reply, (handlerOutcome runtime exchange).reply = some reply := by
  simp only [handlerOutcome]
  split
  · simp
  · simp
  · split
    · simp
    · split
      · simp
      · simp

theorem handlerOutcome_errorClass_ne_nil (runtime : PyRuntime) (exchange : HttpExchange) :
    (handlerOutcome runtime exchange).errorClass ≠ some [] := by
  simp only [handlerOutcome]
  split
  · simpa using lit_ne_nil (by decide)
  · simpa using lit_ne_nil (by decide)
  · split
    · simpa using lit_ne_nil (by decide)
    · split
      next kind failed =>
        simp [Str.orElse, parseHandlerReply_error_ne_nil failed]
      next => simp

/-! The push to Halotel. -/

namespace Halotel

def outboundRequestType (action : Action) : Str :=
  match action with
  | .CON => lit "202"
  | .END => lit "203"

def firstText (elements : List Element) : Option Str :=
  (elements.head?.bind Element.text).map Str.strip

def childrenTagged (tag : Str) (elements : List Element) : List Element :=
  elements.flatMap fun element => element.children.filter fun child => child.tag = tag

/-- `_parse_outbound_ack`: an error code, or why there is none. -/
def parseOutboundAck (runtime : PyRuntime) (bodyText : Str) : Option Str × Option Str :=
  if bodyText = [] then (none, some (lit "empty body"))
  else
    match runtime.fromstring bodyText with
    | .error detail => (none, some (lit "malformed XML: " ++ detail))
    | .ok root =>
        let bodies := childrenTagged (soapTag "Body") [root]
        let anyBodies := root.descendants.filter fun element => element.tag = soapTag "Body"
        let under (elements : List Element) :=
          childrenTagged (lit "errorCode") (childrenTagged (lit "ussdresponse") elements)
        let anyCodes := root.descendants.filter fun element => element.tag = lit "errorCode"
        match (firstText (under bodies)).orElse fun _ =>
            (firstText (under anyBodies)).orElse fun _ => firstText anyCodes with
        | some code => (some code, none)
        | none => (none, some (lit "errorCode element not found"))

def outboundCall (config : HalotelConfig) (ur : UnifiedRequest) (reply : UnifiedReply) :
    OutboundCall :=
  let orNull (value : Str) := Str.orElse value (lit "null")
  { url := config.outboundUrl
    timeoutSecs := config.outboundTimeoutSecs
    user := orNull (Str.orElse (ur.rawPayload.getText (lit "user")) config.outboundUser)
    pass := orNull (Str.orElse (ur.rawPayload.getText (lit "pass")) config.outboundPass)
    msisdn := orNull (ur.msisdn.getD [])
    msg := orNull reply.message
    sessionid := orNull (ur.rawPayload.getText (lit "sessionid"))
    transactionid := orNull ur.sessionId
    requestType := outboundRequestType reply.action
    ussdgwId := orNull
      (Str.orElse (ur.rawPayload.getText (lit "ussdgw_id")) config.ussdgwIdDefault) }

def optionalText : Option Str → PayloadValue
  | some text => .text text
  | none => .null

def pushError (status : Nat) (errorCode parseErr : Option Str) : Payload :=
  if 400 ≤ status then [(lit "error", .text (lit "non2xx"))]
  else
    match errorCode with
    | some code =>
        if code = lit "0" then []
        else [(lit "error", .text (lit "halotel_errorcode_" ++ code))]
    | none =>
        match parseErr with
        | some detail => [(lit "error", .text (lit "unparseable")), (lit "detail", .text detail)]
        | none => []

def pushResult (runtime : PyRuntime) (requestType : Str) (exchange : HttpExchange) : Payload :=
  match exchange.result with
  | .timeout detail =>
      [(lit "error", .text (lit "timeout")), (lit "detail", .text (detail.take 300)),
        (lit "elapsed_ms", .number exchange.elapsedMs)]
  | .requestError detail =>
      [(lit "error", .text (lit "transport")), (lit "detail", .text (detail.take 300)),
        (lit "elapsed_ms", .number exchange.elapsedMs)]
  | .response status bodyText =>
      let ack := parseOutboundAck runtime bodyText
      [(lit "status", .number status), (lit "error_code", optionalText ack.1),
        (lit "body", .text (bodyText.take 500)), (lit "requestType", .text requestType),
        (lit "elapsed_ms", .number exchange.elapsedMs)] ++ pushError status ack.1 ack.2

def pushOutbound (runtime : PyRuntime) (config : HalotelConfig) (ur : UnifiedRequest)
    (reply : UnifiedReply) : Program Payload :=
  if config.outboundUrl = [] then
    pure [(lit "error", .text (lit "outbound_unconfigured"))]
  else do
    let call := outboundCall config ur reply
    let exchange ← Program.pushToOperator call
    pure (pushResult runtime call.requestType exchange)

end Halotel

/-- Synchronous adapters have no push: the pipeline never calls it for them. -/
def Adapter.pushOutbound (adapter : Adapter) (runtime : PyRuntime) (settings : Settings)
    (ur : UnifiedRequest) (reply : UnifiedReply) : Program Payload :=
  match adapter with
  | halotel => Halotel.pushOutbound runtime settings.halotel ur reply
  | _ => .raise (.raised (lit "AttributeError"))

end UssdGateway
