import UssdGateway.Gateway.Forwarder

/-!
The pipeline every MNO route runs through, its background coroutines, and the idle-session sweep.
-/

namespace UssdGateway

open EffectProgram

def legRow (ur : UnifiedRequest) (operatorId : Nat) (operatorName : Str)
    (shortcodeId : Option Nat) (serviceCode : Str) (direction : Direction) : LogRow where
  operatorId := operatorId
  operatorName := operatorName
  shortcodeId := shortcodeId
  serviceCode := serviceCode
  sessionId := ur.sessionId
  msisdn := ur.msisdn
  ussdString := ur.ussdString
  direction := direction
  rawRequestPayload := some ur.rawPayload
  rawResponsePayload := none
  handlerUrl := none
  handlerStatusCode := none
  handlerResponseAction := none
  handlerResponseText := none
  handlerElapsedMs := none
  errorClass := none
  errorDetail := none

def logServiceCode (ur : UnifiedRequest) : Str :=
  let dialed := ur.rawPayload.getText (lit "dialed_code")
  if dialed = [] then ur.serviceCode else Str.orElse (canonicalShortcode dialed) ur.serviceCode

def terminalNotifySkipReason : Option ShortcodeRow → Option Str
  | none => some (lit "unresolved")
  | some shortcode =>
      if shortcode.status = .active then none else some (lit "shortcode_inactive")

def serviceUnavailable : UnifiedReply :=
  { action := .END, message := lit "Service unavailable. Please try later." }

def serviceNotConfigured : UnifiedReply :=
  { action := .END, message := lit "Service not configured. Please try later." }

def replyOf (outcome : HandlerOutcome) : UnifiedReply := outcome.reply.getD serviceUnavailable

section

variable (runtime : PyRuntime) (settings : Settings) (adapter : Adapter) (ur : UnifiedRequest)

def isAuthFailed : Bool :=
  ur.rawPayload.get (lit "_auth_ok") = some (.text (lit "0")) && adapter.renderAuthFailed.isSome

def authFailedRow (operatorId : Nat) : LogRow :=
  { legRow ur operatorId adapter.operator ur.shortcodeId ur.serviceCode .inbound with
    errorClass := some (lit "auth_failed")
    errorDetail := some (lit "inbound creds rejected for operator=" ++ adapter.operator) }

def authFailedLeg (response : Response) : Program Response := do
  let operatorId ← Program.operatorId adapter.operator
  Program.logLeg (authFailedRow adapter ur operatorId)
  pure response

def inboundAck : UnifiedReply := { action := .CON, message := [] }

def deliveryAckRow (operatorId : Nat) : LogRow :=
  { legRow ur operatorId adapter.operator ur.shortcodeId ur.serviceCode .inbound with
    handlerResponseText := some ur.event.value }

def deliveryAckLeg : Program Response := do
  let operatorId ← Program.operatorId adapter.operator
  let response ← raiseOr (adapter.render inboundAck)
  Program.logLeg (deliveryAckRow adapter ur operatorId)
  pure response

def terminalAck : UnifiedReply := { action := .END, message := [] }

def terminalSkippedRow (resolved : Option ShortcodeRow) (operatorId : Nat) (reason : Str) :
    LogRow :=
  { legRow ur operatorId ((resolved.map ShortcodeRow.operatorName).getD adapter.operator)
      ((resolved.map ShortcodeRow.id).orElse fun _ => ur.shortcodeId) ur.serviceCode .inbound with
    handlerResponseAction := some terminalAck.action
    handlerResponseText := some ur.event.value
    errorDetail := some (lit "handler not notified: " ++ reason) }

def terminalShortcode : Program (Option ShortcodeRow) :=
  if ur.serviceCode = [] then pure none
  else Program.resolveShortcode adapter.operator ur.serviceCode

def terminalOperatorId : Option ShortcodeRow → Program Nat
  | some shortcode => pure shortcode.operatorId
  | none => Program.operatorId adapter.operator

def notifyOrLog (resolved : Option ShortcodeRow) (operatorId : Nat) : Program Unit :=
  match resolved, terminalNotifySkipReason resolved with
  | some shortcode, none => Program.spawn (.notifyTerminalEvent shortcode ur terminalAck) true
  | resolved, reason =>
      Program.logLeg (terminalSkippedRow adapter ur resolved operatorId (reason.getD []))

def terminalLeg : Program Response := do
  let resolved ← terminalShortcode adapter ur
  let operatorId ← terminalOperatorId adapter resolved
  Program.expireActiveSession (ur.sessionId, operatorId)
  let response ← raiseOr (adapter.render terminalAck)
  notifyOrLog adapter ur resolved operatorId
  pure response

def inactiveReply (shortcode : ShortcodeRow) : UnifiedReply :=
  { action := .END, message := statusMessageFor shortcode }

def inactiveRow (shortcode : ShortcodeRow) (response : Response) : LogRow :=
  { legRow ur shortcode.operatorId shortcode.operatorName (some shortcode.id) ur.serviceCode
      .response with
    rawResponsePayload := some [(lit "text", .text response.content.text)]
    handlerResponseAction := some (inactiveReply shortcode).action
    handlerResponseText := some (inactiveReply shortcode).message
    errorClass := some shortcode.status.value
    errorDetail := some (lit "shortcode in " ++ shortcode.status.value ++ lit " state") }

/-- Maintenance and deactivated shortcodes never reach the handler. -/
def inactiveLeg (shortcode : ShortcodeRow) : Program Response :=
  if adapter.isAsyncOutbound then do
    let response ← raiseOr (adapter.render inboundAck)
    Program.spawn (.asyncCannedPush adapter ur adapter.operator (inactiveReply shortcode)
      shortcode.status.value (some shortcode.id) (some shortcode.operatorId)
      (some shortcode.operatorName)) false
    pure response
  else do
    let response ← raiseOr (adapter.render (inactiveReply shortcode))
    Program.expireActiveSession (ur.sessionId, shortcode.operatorId)
    Program.logLeg (inactiveRow ur shortcode response)
    pure response

/-- The asynchronous branch: acknowledge now, work in the background. -/
def asyncLeg (resolved : Option ShortcodeRow) : Program Response := do
  let response ← raiseOr (adapter.render inboundAck)
  match resolved with
  | none =>
      Program.spawn (.asyncCannedPush adapter ur adapter.operator serviceNotConfigured
        (lit "shortcode_not_found") none none none) false
  | some shortcode => Program.spawn (.asyncForwardThenPush adapter ur shortcode) false
  pure response

def notConfiguredRow (operatorId : Nat) (response : Response) : LogRow :=
  { legRow ur operatorId adapter.operator none (logServiceCode ur) .response with
    rawResponsePayload := some [(lit "text", .text response.content.text)]
    handlerResponseAction := some serviceNotConfigured.action
    handlerResponseText := some serviceNotConfigured.message
    errorClass := some (lit "shortcode_not_found")
    errorDetail := some (lit "no active shortcode for operator=" ++ adapter.operator ++
      lit " code=" ++ logServiceCode ur) }

def notConfiguredLeg : Program Response := do
  let response ← raiseOr (adapter.render serviceNotConfigured)
  let expireOperatorId ← Program.operatorId adapter.operator
  Program.expireActiveSession (ur.sessionId, expireOperatorId)
  let operatorId ← Program.operatorId adapter.operator
  Program.logLeg (notConfiguredRow adapter ur operatorId response)
  pure response

def expireOnEnd (action : Action) (key : SessionKey) : Program Unit :=
  match action with
  | .END => Program.expireActiveSession key
  | .CON => pure ()

def handledRow (shortcode : ShortcodeRow) (direction : Direction) (outcome : HandlerOutcome)
    (action : Action) (text : Str) : LogRow :=
  { legRow ur shortcode.operatorId shortcode.operatorName (some shortcode.id) ur.serviceCode
      direction with
    rawResponsePayload := outcome.rawResponsePayload
    handlerUrl := some shortcode.handlerUrl
    handlerStatusCode := outcome.statusCode
    handlerResponseAction := some action
    handlerResponseText := some text
    handlerElapsedMs := some outcome.elapsedMs
    errorClass := outcome.errorClass
    errorDetail := outcome.errorDetail }

def forwardedLeg (shortcode : ShortcodeRow) : Program Response := do
  let outcome ← forward runtime settings shortcode ur
  let reply := replyOf outcome
  let response ← raiseOr (adapter.render reply)
  expireOnEnd reply.action (ur.sessionId, shortcode.operatorId)
  Program.logLeg (handledRow ur shortcode .response outcome reply.action reply.message)
  pure response

def menuLeg : Program Response := do
  let resolved ← Program.resolveShortcode adapter.operator ur.serviceCode
  match resolved with
  | some shortcode =>
      if shortcode.status ≠ .active then inactiveLeg adapter ur shortcode
      else if adapter.isAsyncOutbound then asyncLeg adapter ur resolved
      else forwardedLeg runtime settings adapter ur shortcode
  | none =>
      if adapter.isAsyncOutbound then asyncLeg adapter ur resolved
      else notConfiguredLeg adapter ur

def handleLeg : Program Response :=
  match isAuthFailed adapter ur, adapter.renderAuthFailed with
  | true, some response => authFailedLeg adapter ur response
  | _, _ =>
      if ur.event = .deliveryAck then deliveryAckLeg adapter ur
      else if ur.event.isTerminal then terminalLeg adapter ur
      else menuLeg runtime settings adapter ur

end

def handleUssd (runtime : PyRuntime) (settings : Settings) (operatorKey : Str)
    (request : Request) : Program Response :=
  match Adapter.ofKey operatorKey with
  | none => Program.httpError 404 (lit "unknown operator: " ++ operatorKey)
  | some adapter => do
      let ur ← adapter.parse runtime request
      handleLeg runtime settings adapter ur

/-! Background coroutines. -/

def guarded {α : Type} (program : Program α) : Program (Option α) :=
  (program >>= fun value => pure (some value)).attempt fun _ => pure none

section

variable (runtime : PyRuntime) (settings : Settings)

def notifyTerminalEvent (shortcode : ShortcodeRow) (ur : UnifiedRequest) (ack : UnifiedReply) :
    Program Unit := do
  match ← guarded (forward runtime settings shortcode ur) with
  | none => pure ()
  | some outcome => do
      -- What the MNO was told, not what the handler said back.
      let _ ← guarded (Program.logLeg
        (handledRow ur shortcode .inbound outcome ack.action ur.event.value))
      pure ()

def pushException : Payload := [(lit "error", .text (lit "push_exception"))]

def payloadText (payload : Payload) (key : Str) : Option Str :=
  match payload.get key with
  | some (.text value) => some value
  | _ => none

def pushedRow (ur : UnifiedRequest) (shortcode : ShortcodeRow) (outcome : HandlerOutcome)
    (reply : UnifiedReply) (pushResult : Payload) : LogRow :=
  { handledRow ur shortcode .asyncOutbound outcome reply.action reply.message with
    rawResponsePayload := some pushResult
    errorClass := optionalOr outcome.errorClass (payloadText pushResult (lit "error"))
    errorDetail := optionalOr outcome.errorDetail (payloadText pushResult (lit "detail")) }

def asyncForwardThenPush (adapter : Adapter) (ur : UnifiedRequest) (shortcode : ShortcodeRow) :
    Program Unit := do
  match ← guarded (forward runtime settings shortcode ur) with
  | none => pure ()
  | some outcome => do
      let reply := replyOf outcome
      let pushed ← guarded (adapter.pushOutbound runtime settings ur reply)
      let pushResult := pushed.getD pushException
      let _ ← guarded (expireOnEnd reply.action (ur.sessionId, shortcode.operatorId))
      Program.logLeg (pushedRow ur shortcode outcome reply pushResult)

def cannedRow (ur : UnifiedRequest) (operatorId : Nat) (operatorName : Str)
    (shortcodeId : Option Nat) (reply : UnifiedReply) (errorClass : Str) (pushResult : Payload) :
    LogRow :=
  { legRow ur operatorId operatorName shortcodeId
      (if shortcodeId = none then logServiceCode ur else ur.serviceCode) .asyncOutbound with
    rawResponsePayload := some pushResult
    handlerResponseAction := some reply.action
    handlerResponseText := some reply.message
    errorClass := some errorClass
    errorDetail := payloadText pushResult (lit "detail") }

def asyncCannedPush (adapter : Adapter) (ur : UnifiedRequest) (operatorKey : Str)
    (reply : UnifiedReply) (errorClass : Str) (shortcodeId operatorId : Option Nat)
    (operatorName : Option Str) : Program Unit := do
  let opId ← match operatorId with
    | some id => pure id
    | none => Program.operatorId operatorKey
  let pushed ← guarded (adapter.pushOutbound runtime settings ur reply)
  let pushResult := pushed.getD pushException
  let _ ← guarded (Program.expireActiveSession (ur.sessionId, opId))
  Program.logLeg (cannedRow ur opId (operatorName.getD operatorKey) shortcodeId reply errorClass
    pushResult)

def expiredRequest (expired : ExpiredSession) : UnifiedRequest where
  operator := expired.operatorName
  msisdn := expired.msisdn
  sessionId := expired.sessionId
  serviceCode := expired.serviceCode
  ussdString := expired.ussdString
  event := .systemSessionTermination
  rawPayload :=
    [(lit "_source", .text (lit "gateway_session_expiry")),
      (lit "idle_secs", .number (settings.expiry.idleSecsFor runtime.lower expired.operatorName)),
      (lit "last_seen_at", .text (runtime.strTime expired.lastSeenAt))]
  shortcodeId := expired.shortcodeId

def expiredRow (expired : ExpiredSession) (answered : Option (ShortcodeRow × HandlerOutcome))
    (skipReason : Option Str) : LogRow where
  operatorId := expired.operatorId
  operatorName := expired.operatorName
  shortcodeId := (answered.map fun pair => pair.1.id).orElse fun _ => expired.shortcodeId
  serviceCode := expired.serviceCode
  sessionId := expired.sessionId
  msisdn := expired.msisdn
  ussdString := expired.ussdString
  direction := .inbound
  rawRequestPayload := some
    [(lit "_source", .text (lit "gateway_session_expiry")),
      (lit "last_seen_at", .text (runtime.strTime expired.lastSeenAt))]
  rawResponsePayload := answered.bind fun pair => pair.2.rawResponsePayload
  handlerUrl := answered.map fun pair => pair.1.handlerUrl
  handlerStatusCode := answered.bind fun pair => pair.2.statusCode
  handlerResponseAction := none
  handlerResponseText := some SessionEvent.systemSessionTermination.value
  handlerElapsedMs := answered.map fun pair => pair.2.elapsedMs
  errorClass := answered.bind fun pair => pair.2.errorClass
  errorDetail :=
    match skipReason with
    | some reason => some (lit "handler not notified: " ++ reason)
    | none => answered.bind fun pair => pair.2.errorDetail

/-- The shortcode to notify, or nothing when its lookup raised. -/
def expiredShortcode (expired : ExpiredSession) : Program (Option (Option ShortcodeRow)) :=
  if expired.serviceCode = [] then pure (some none)
  else guarded (Program.resolveShortcode expired.operatorName expired.serviceCode)

def notifySessionExpired (expired : ExpiredSession) : Program Unit := do
  match ← expiredShortcode expired with
  | none => pure ()
  | some resolved =>
      match resolved, terminalNotifySkipReason resolved with
      | some shortcode, none => do
          match ← guarded (forward runtime settings shortcode
              (expiredRequest runtime settings expired)) with
          | none => pure ()
          | some outcome => do
              let _ ← guarded (Program.logLeg
                (expiredRow runtime expired (some (shortcode, outcome)) none))
              pure ()
      | _, reason => do
          let _ ← guarded (Program.logLeg (expiredRow runtime expired none reason))
          pure ()

def BackgroundTask.program : BackgroundTask → Program Unit
  | .notifyTerminalEvent shortcode ur ack =>
      UssdGateway.notifyTerminalEvent runtime settings shortcode ur ack
  | .asyncForwardThenPush adapter ur shortcode =>
      UssdGateway.asyncForwardThenPush runtime settings adapter ur shortcode
  | .asyncCannedPush adapter ur operatorKey reply errorClass shortcodeId operatorId operatorName =>
      UssdGateway.asyncCannedPush runtime settings adapter ur operatorKey reply errorClass
        shortcodeId operatorId operatorName
  | .notifySessionExpired expired => UssdGateway.notifySessionExpired runtime settings expired

end

/-- One notification of the batch after the other is scheduled; they run side by side. -/
def spawnEach : List ExpiredSession → Program Unit
  | [] => pure ()
  | expired :: rest => do
      Program.spawn (.notifySessionExpired expired) true
      spawnEach rest

def expireIdleSessionsOnce (settings : Settings) : Program Nat := do
  let config := settings.expiry
  let claimed ← Program.claimExpiredSessions config.idleSecs config.notifyMaxAgeSecs config.batch
    config.idleSecsByOperator
  spawnEach claimed
  pure claimed.length

end UssdGateway
