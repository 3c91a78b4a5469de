import UssdGateway.Gateway.ParsingRuns

/-!
One log row per leg. Every leg that the gateway answers hands exactly one row to the log writer,
and the row agrees with what the subscriber was shown.
-/

namespace UssdGateway

open EffectProgram

def SessionEvent.isMenu : SessionEvent → Bool
  | start | input => true
  | _ => false

def Adapter.isPlainText : Adapter → Bool
  | airtel | tigo => true
  | _ => false

section

variable (runtime : PyRuntime) (settings : Settings) (environment : Environment)
  (adapter : Adapter) (world : World) (ur : UnifiedRequest)

def handlerReply : Option UnifiedReply :=
  match world.registry.resolveShortcode adapter.operator ur.serviceCode with
  | none => none
  | some shortcode =>
      if shortcode.status = .active then
        match environment.answer (handlerCall settings shortcode ur) with
        | .ok exchange => (handlerOutcome runtime exchange).reply
        | .error _ => none
      else none

def PushAccepted (reply : UnifiedReply) : Prop :=
  settings.halotel.outboundUrl ≠ [] ∧
    ∃ exchange status bodyText,
      environment.push (Halotel.outboundCall settings.halotel ur reply) = .ok exchange ∧
      exchange.result = .response status bodyText ∧ status < 400 ∧
      Halotel.parseOutboundAck runtime bodyText = (some (lit "0"), none)

/-- What the subscriber is shown: the rendered response, or the menu pushed to Halotel. -/
def Shown (reply : UnifiedReply) (response : Response) (pushed : List OutboundCall) : Prop :=
  match adapter with
  | .halotel => pushed =
      if settings.halotel.outboundUrl = [] then []
      else [Halotel.outboundCall settings.halotel ur reply]
  | _ => adapter.render reply = .ok response ∧ pushed = []

def EndsSession (row : LogRow) : Prop :=
  ur.event.isTerminal = true ∨
    (ur.event.isMenu = true ∧ row.handlerResponseAction = some .END)

instance (row : LogRow) : Decidable (EndsSession ur row) :=
  inferInstanceAs (Decidable (_ ∨ _))

/-- The row of a menu leg agrees with the screen, with the handler and with the push. -/
def RowAgrees (row : LogRow) (response : Response) (pushed : List OutboundCall) : Prop :=
  ∃ reply : UnifiedReply,
    row.handlerResponseAction = some reply.action ∧
    Shown settings adapter ur reply response pushed ∧
    (row.errorClass = none ↔
      (handlerReply runtime settings environment adapter world ur).isSome = true ∧
      (adapter.isAsyncOutbound = true → PushAccepted runtime settings environment ur reply))

structure LegLogged (response : Response) (after : World) : Prop where
  row : ∃ row pushed,
    after.logQueue = world.logQueue.putNowait row ∧
    after.pushes = world.pushes ++ pushed ∧
    (ur.event.isMenu = true →
      RowAgrees runtime settings environment adapter world ur row response pushed) ∧
    after.sessions =
      if EndsSession ur row then
        SessionTable.expireActiveSession world.sessions (legKey world adapter ur)
      else world.sessions

def Unencodable : Prop :=
  adapter.isPlainText = true ∧ ur.event.isMenu = true ∧
    ∃ reply, handlerReply runtime settings environment adapter world ur = some reply ∧
      ¬ reply.message.Encodable

end

/-! Rendering. -/

theorem plainTextReply_eq_ok (reply : UnifiedReply) (encodable : reply.message.Encodable) :
    ∃ response, plainTextReply reply = .ok response := by
  have whole : (reply.action.value ++ lit " " ++ reply.message).Encodable := by
    cases action : reply.action <;> simp [Action.value, encodable]
  refine ⟨⟨⟨_, whole⟩, lit "text/plain; charset=utf-8"⟩, ?_⟩
  rw [plainTextReply, encodedResponse, dif_pos whole]

theorem plainTextReply_eq_error (reply : UnifiedReply) (lone : ¬ reply.message.Encodable) :
    plainTextReply reply = .error .unicodeEncodeError := by
  have whole : ¬ (reply.action.value ++ lit " " ++ reply.message).Encodable := by
    intro encodable
    exact lone ((Str.encodable_append _ _).1 encodable).2
  rw [plainTextReply, encodedResponse, dif_neg whole]

theorem render_eq_ok (adapter : Adapter) (reply : UnifiedReply)
    (encodable : adapter.isPlainText = true → reply.message.Encodable) :
    ∃ response, adapter.render reply = .ok response := by
  cases adapter with
  | vodacom => exact ⟨_, rfl⟩
  | airtel => exact plainTextReply_eq_ok reply (encodable rfl)
  | tigo => exact plainTextReply_eq_ok reply (encodable rfl)
  | halotel => exact ⟨_, rfl⟩

theorem render_eq_error {adapter : Adapter} {reply : UnifiedReply}
    (plain : adapter.isPlainText = true) (lone : ¬ reply.message.Encodable) :
    adapter.render reply = .error .unicodeEncodeError := by
  cases adapter with
  | vodacom => exact absurd plain (by decide)
  | airtel => exact plainTextReply_eq_error reply lone
  | tigo => exact plainTextReply_eq_error reply lone
  | halotel => exact absurd plain (by decide)

/-! Pushing to Halotel. -/

theorem parseOutboundAck_cases (runtime : PyRuntime) (bodyText : Str) :
    (∃ code, Halotel.parseOutboundAck runtime bodyText = (some code, none)) ∨
      ∃ detail, Halotel.parseOutboundAck runtime bodyText = (none, some detail) := by
  simp only [Halotel.parseOutboundAck]
  split
  · exact Or.inr ⟨_, rfl⟩
  · split
    · exact Or.inr ⟨_, rfl⟩
    · split
      · exact Or.inl ⟨_, rfl⟩
      · exact Or.inr ⟨_, rfl⟩

theorem payloadText_error_cons (value : Str) (rest : Payload) :
    payloadText ((lit "error", .text value) :: rest) (lit "error") = some value := by
  simp [payloadText, Payload.get]

theorem payloadText_error_append {first rest : Payload}
    (apart : ∀ key ∈ first.map Prod.fst, (lit "error" != key) = true) :
    payloadText (first ++ rest) (lit "error") = payloadText rest (lit "error") := by
  have absent : List.lookup (lit "error") first = none := by
    rw [List.lookup_eq_none_iff]
    exact fun entry member => apart entry.1 (List.mem_map_of_mem member)
  simp [payloadText, Payload.get, List.lookup_append, absent]

theorem pushResult_error_eq_none_iff (runtime : PyRuntime) (requestType : Str)
    (exchange : HttpExchange) :
    payloadText (Halotel.pushResult runtime requestType exchange) (lit "error") = none ↔
      ∃ status bodyText, exchange.result = .response status bodyText ∧ status < 400 ∧
        Halotel.parseOutboundAck runtime bodyText = (some (lit "0"), none) := by
  rcases result : exchange.result with detail | detail | ⟨status, bodyText⟩
  · simp [Halotel.pushResult, result, payloadText_error_cons]
  · simp [Halotel.pushResult, result, payloadText_error_cons]
  · simp only [Halotel.pushResult, result, HttpResult.response.injEq]
    rw [payloadText_error_append (by simp only [List.map_cons, List.map_nil]; decide)]
    simp only [Halotel.pushError]
    constructor
    · intro clean
      split at clean
      next => simp [payloadText_error_cons] at clean
      next below =>
        refine ⟨status, bodyText, ⟨rfl, rfl⟩, by omega, ?_⟩
        rcases parseOutboundAck_cases runtime bodyText with ⟨code, ack⟩ | ⟨detail, ack⟩
        · simp only [ack] at clean
          split at clean
          next zero => rw [ack, zero]
          next => simp [payloadText_error_cons] at clean
        · simp [ack, payloadText_error_cons] at clean
    · rintro ⟨_, _, ⟨rfl, rfl⟩, below, ack⟩
      rw [if_neg (by omega), ack]
      simp [payloadText, Payload.get]

section

variable (runtime : PyRuntime) (settings : Settings) (environment : Environment)
  (ur : UnifiedRequest) (reply : UnifiedReply) (world : World)

def pushLogged : Payload :=
  if settings.halotel.outboundUrl = [] then [(lit "error", .text (lit "outbound_unconfigured"))]
  else
    let call := Halotel.outboundCall settings.halotel ur reply
    match environment.push call with
    | .ok exchange => Halotel.pushResult runtime call.requestType exchange
    | .error _ => pushException

def pushedCalls : List OutboundCall :=
  if settings.halotel.outboundUrl = [] then []
  else [Halotel.outboundCall settings.halotel ur reply]

theorem run_guarded_pushOutbound :
    ∃ pushed, (guarded (Adapter.halotel.pushOutbound runtime settings ur reply)).run
        (perform environment) world =
      (.ok pushed, world.pushed (pushedCalls settings ur reply)) ∧
      pushed.getD pushException = pushLogged runtime settings environment ur reply := by
  simp only [run_guarded, Adapter.pushOutbound, Halotel.pushOutbound, pushLogged, pushedCalls]
  by_cases unset : settings.halotel.outboundUrl = []
  · exact ⟨some [(lit "error", .text (lit "outbound_unconfigured"))],
      by simp [unset, World.pushed]⟩
  · simp only [unset, if_false, Prog.run_bind, run_pushToOperator]
    rcases environment.push (Halotel.outboundCall settings.halotel ur reply) with error | exchange
    · exact ⟨none, rfl, rfl⟩
    · exact ⟨some _, rfl, rfl⟩

theorem pushLogged_error_eq_none_iff :
    payloadText (pushLogged runtime settings environment ur reply) (lit "error") = none ↔
      PushAccepted runtime settings environment ur reply := by
  simp only [pushLogged, PushAccepted]
  split
  next unset => simp [payloadText_error_cons, unset]
  next configured =>
    rcases environment.push (Halotel.outboundCall settings.halotel ur reply) with error | exchange
    · simp [pushException, payloadText_error_cons]
    · simp [pushResult_error_eq_none_iff, configured]

end

section

variable (runtime : PyRuntime) (settings : Settings) (environment : Environment)

def completed (answered : Except PyError Response × World) : Except PyError Response × World :=
  (answered.1, runBackground runtime settings environment answered.2.spawned answered.2.idle)

def AnswersAndLogs (adapter : Adapter) (world : World) (ur : UnifiedRequest)
    (result : Except PyError Response × World) : Prop :=
  ∃ response after, result = (.ok response, after) ∧
    LegLogged runtime settings environment adapter world ur response after

end

section

variable {runtime : PyRuntime} {settings : Settings} {environment : Environment}
  {adapter : Adapter} {world : World} {ur : UnifiedRequest}

theorem completed_of_quiet (answer : Except PyError Response) {after : World}
    (quiet : after.spawned = []) :
    completed runtime settings environment (answer, after) = (answer, after) := by
  simp [completed, quiet, runBackground, World.idle_of_quiet quiet]

theorem completed_scheduled (answer : Except PyError Response) (quiet : world.spawned = [])
    (task : BackgroundTask) :
    completed runtime settings environment (answer, world.scheduled task) =
      (answer, ((task.program runtime settings).run (perform environment) world).2) := by
  have settled : (world.scheduled task).idle = world := by
    simp only [World.scheduled, World.idle, ← quiet]
  simp [completed, quiet, runBackground, settled]

theorem not_isTerminal_of_isMenu {event : SessionEvent} (menu : event.isMenu = true) :
    event.isTerminal = false := by
  cases event <;> simp_all [SessionEvent.isMenu, SessionEvent.isTerminal]

theorem endsSession_of_isMenu (row : LogRow) (menu : ur.event.isMenu = true) :
    EndsSession ur row ↔ row.handlerResponseAction = some .END := by
  simp [EndsSession, menu, not_isTerminal_of_isMenu menu]

theorem handlerReply_of_answer {shortcode : ShortcodeRow} {exchange : HttpExchange}
    (resolved : world.registry.resolveShortcode adapter.operator ur.serviceCode = some shortcode)
    (active : shortcode.status = .active)
    (answered : environment.answer (handlerCall settings shortcode ur) = .ok exchange) :
    handlerReply runtime settings environment adapter world ur =
      (handlerOutcome runtime exchange).reply := by
  simp [handlerReply, resolved, active, answered]

theorem handlerReply_of_not_active {resolved : Option ShortcodeRow}
    (found : world.registry.resolveShortcode adapter.operator ur.serviceCode = resolved)
    (inactive : ∀ shortcode ∈ resolved, shortcode.status ≠ .active) :
    handlerReply runtime settings environment adapter world ur = none := by
  rcases resolved with _ | shortcode
  · simp [handlerReply, found]
  · simp [handlerReply, found, inactive shortcode rfl]

theorem shown_of_sync {reply : UnifiedReply} {response : Response}
    (sync : adapter.isAsyncOutbound = false) (rendered : adapter.render reply = .ok response) :
    Shown settings adapter ur reply response [] := by
  cases adapter with
  | halotel => exact absurd sync (by decide)
  | vodacom => exact ⟨rendered, rfl⟩
  | airtel => exact ⟨rendered, rfl⟩
  | tigo => exact ⟨rendered, rfl⟩

theorem run_forwardedLeg {shortcode : ShortcodeRow} {exchange : HttpExchange} {response : Response}
    (answered : environment.answer (handlerCall settings shortcode ur) = .ok exchange)
    (rendered : adapter.render (replyOf (handlerOutcome runtime exchange)) = .ok response) :
    (forwardedLeg runtime settings adapter ur shortcode).run (perform environment) world =
      (.ok response,
        ((world.called (handlerCall settings shortcode ur)).closedBy
          (replyOf (handlerOutcome runtime exchange)).action
          (ur.sessionId, shortcode.operatorId)).logged
          (handledRow ur shortcode .response (handlerOutcome runtime exchange)
            (replyOf (handlerOutcome runtime exchange)).action
            (replyOf (handlerOutcome runtime exchange)).message)) := by
  simp [forwardedLeg, Prog.run_bind, run_forward _ answered, rendered]

theorem run_notConfiguredLeg {response : Response}
    (rendered : adapter.render serviceNotConfigured = .ok response) :
    (notConfiguredLeg adapter ur).run (perform environment) world =
      (.ok response, (world.expired (legKey world adapter ur)).logged
        (notConfiguredRow adapter ur (world.registry.operatorId adapter.operator) response)) := by
  simp [notConfiguredLeg, Prog.run_bind, rendered, legKey]

theorem run_inactiveLeg_sync {shortcode : ShortcodeRow} {response : Response}
    (sync : adapter.isAsyncOutbound = false)
    (rendered : adapter.render (inactiveReply shortcode) = .ok response) :
    (inactiveLeg adapter ur shortcode).run (perform environment) world =
      (.ok response, (world.expired (ur.sessionId, shortcode.operatorId)).logged
        (inactiveRow ur shortcode response)) := by
  simp [inactiveLeg, Prog.run_bind, rendered, sync]

theorem run_inactiveLeg_async (shortcode : ShortcodeRow) :
    (inactiveLeg .halotel ur shortcode).run (perform environment) world =
      (.ok soapAckOk, world.scheduled (.asyncCannedPush .halotel ur Adapter.halotel.operator
        (inactiveReply shortcode) shortcode.status.value (some shortcode.id)
        (some shortcode.operatorId) (some shortcode.operatorName))) := by
  simp [inactiveLeg, Prog.run_bind, Adapter.isAsyncOutbound, Adapter.render]

theorem run_asyncLeg_none :
    (asyncLeg .halotel ur none).run (perform environment) world =
      (.ok soapAckOk, world.scheduled (.asyncCannedPush .halotel ur Adapter.halotel.operator
        serviceNotConfigured (lit "shortcode_not_found") none none none)) := by
  simp [asyncLeg, Prog.run_bind, Adapter.render]

theorem run_asyncLeg_some (shortcode : ShortcodeRow) :
    (asyncLeg .halotel ur (some shortcode)).run (perform environment) world =
      (.ok soapAckOk, world.scheduled (.asyncForwardThenPush .halotel ur shortcode)) := by
  simp [asyncLeg, Prog.run_bind, Adapter.render]

theorem run_asyncForwardThenPush {shortcode : ShortcodeRow} {exchange : HttpExchange}
    (answered : environment.answer (handlerCall settings shortcode ur) = .ok exchange) :
    (asyncForwardThenPush runtime settings .halotel ur shortcode).run (perform environment) world =
      (.ok (),
        (((world.called (handlerCall settings shortcode ur)).pushed
            (pushedCalls settings ur (replyOf (handlerOutcome runtime exchange)))).closedBy
          (replyOf (handlerOutcome runtime exchange)).action
          (ur.sessionId, shortcode.operatorId)).logged
          (pushedRow ur shortcode (handlerOutcome runtime exchange)
            (replyOf (handlerOutcome runtime exchange))
            (pushLogged runtime settings environment ur
              (replyOf (handlerOutcome runtime exchange))))) := by
  obtain ⟨pushed, ran, logged⟩ := run_guarded_pushOutbound runtime settings environment ur
    (replyOf (handlerOutcome runtime exchange))
    (world.called (handlerCall settings shortcode ur))
  simp only [asyncForwardThenPush, Prog.run_bind, run_guarded, run_forward _ answered,
    ran, logged, run_expireOnEnd, run_logLeg]

theorem run_asyncCannedPush (operatorKey : Str) (reply : UnifiedReply) (errorClass : Str)
    (shortcodeId operatorId : Option Nat) (operatorName : Option Str) :
    (asyncCannedPush runtime settings .halotel ur operatorKey reply errorClass shortcodeId
        operatorId operatorName).run (perform environment) world =
      (.ok (),
        ((world.pushed (pushedCalls settings ur reply)).expired
          (ur.sessionId, operatorId.getD (world.registry.operatorId operatorKey))).logged
          (cannedRow ur (operatorId.getD (world.registry.operatorId operatorKey))
            (operatorName.getD operatorKey) shortcodeId reply errorClass
            (pushLogged runtime settings environment ur reply))) := by
  obtain ⟨pushed, ran, logged⟩ :=
    run_guarded_pushOutbound runtime settings environment ur reply world
  cases operatorId with
  | none =>
      simp only [asyncCannedPush, Prog.run_bind, run_operatorId, ran, logged, run_guarded,
        run_expireActiveSession, run_logLeg, Option.getD_none]
  | some id =>
      simp only [asyncCannedPush, Prog.run_bind, Prog.pure_eq_done, Prog.run_done, ran, logged,
        run_guarded, run_expireActiveSession, run_logLeg, Option.getD_some]

theorem forwardedLeg_logged {shortcode : ShortcodeRow} {exchange : HttpExchange}
    (quiet : world.spawned = []) (sync : adapter.isAsyncOutbound = false)
    (menu : ur.event.isMenu = true)
    (resolved : world.registry.resolveShortcode adapter.operator ur.serviceCode = some shortcode)
    (active : shortcode.status = .active)
    (answered : environment.answer (handlerCall settings shortcode ur) = .ok exchange)
    (encodable : adapter.isPlainText = true →
      (replyOf (handlerOutcome runtime exchange)).message.Encodable) :
    AnswersAndLogs runtime settings environment adapter world ur
      (completed runtime settings environment
        ((forwardedLeg runtime settings adapter ur shortcode).run (perform environment)
          world)) := by
  obtain ⟨response, rendered⟩ := render_eq_ok adapter _ encodable
  have owner := Registry.resolveShortcode_operatorId resolved
  rw [run_forwardedLeg answered rendered]
  refine ⟨response, _, completed_of_quiet _ (by simp [quiet]), ⟨_, [], rfl, by simp, ?_, ?_⟩⟩
  · intro _
    refine ⟨_, rfl, shown_of_sync sync rendered, ?_⟩
    rw [handlerReply_of_answer resolved active answered, Option.isSome_iff_exists]
    simpa [sync, handledRow] using handlerOutcome_errorClass_eq_none_iff runtime exchange
  · simp only [endsSession_of_isMenu _ menu]
    simp [legKey, owner, handledRow]

theorem cannedLeg_logged {row : LogRow} {reply : UnifiedReply} {response : Response}
    {pushed : List OutboundCall} {after : World}
    (menu : ur.event.isMenu = true) (closing : reply.action = .END)
    (silent : handlerReply runtime settings environment adapter world ur = none)
    (action : row.handlerResponseAction = some reply.action) (explained : row.errorClass ≠ none)
    (shown : Shown settings adapter ur reply response pushed)
    (queue : after.logQueue = world.logQueue.putNowait row)
    (pushes : after.pushes = world.pushes ++ pushed)
    (sessions : after.sessions =
      SessionTable.expireActiveSession world.sessions (legKey world adapter ur)) :
    LegLogged runtime settings environment adapter world ur response after := by
  refine ⟨row, pushed, queue, pushes, ?_, ?_⟩
  · intro _
    refine ⟨reply, action, shown, ?_⟩
    simp [silent, explained]
  · rw [sessions, if_pos ((endsSession_of_isMenu row menu).2 (by rw [action, closing]))]

theorem notConfiguredLeg_logged (quiet : world.spawned = [])
    (sync : adapter.isAsyncOutbound = false) (menu : ur.event.isMenu = true)
    (unresolved : world.registry.resolveShortcode adapter.operator ur.serviceCode = none) :
    AnswersAndLogs runtime settings environment adapter world ur
      (completed runtime settings environment
        ((notConfiguredLeg adapter ur).run (perform environment) world)) := by
  obtain ⟨response, rendered⟩ := render_eq_ok adapter serviceNotConfigured
    (fun _ => Str.encodable_lit _)
  rw [run_notConfiguredLeg rendered]
  refine ⟨response, _, completed_of_quiet _ (by simp [quiet]), ?_⟩
  exact cannedLeg_logged menu rfl (handlerReply_of_not_active unresolved (by simp)) rfl
    (by simp [notConfiguredRow]) (shown_of_sync sync rendered) rfl (by simp) rfl

theorem inactiveLeg_logged {shortcode : ShortcodeRow} (quiet : world.spawned = [])
    (menu : ur.event.isMenu = true)
    (resolved : world.registry.resolveShortcode adapter.operator ur.serviceCode = some shortcode)
    (inactive : shortcode.status ≠ .active) :
    AnswersAndLogs runtime settings environment adapter world ur
      (completed runtime settings environment
        ((inactiveLeg adapter ur shortcode).run (perform environment) world)) := by
  have owner := Registry.resolveShortcode_operatorId resolved
  have silent : handlerReply runtime settings environment adapter world ur = none :=
    handlerReply_of_not_active resolved (by simpa using inactive)
  by_cases sync : adapter.isAsyncOutbound = false
  · obtain ⟨response, rendered⟩ := render_eq_ok adapter (inactiveReply shortcode)
      (fun _ => statusMessageFor_encodable resolved)
    rw [run_inactiveLeg_sync sync rendered]
    refine ⟨response, _, completed_of_quiet _ (by simp [quiet]), ?_⟩
    exact cannedLeg_logged menu rfl silent rfl (by simp [inactiveRow])
      (shown_of_sync sync rendered) rfl (by simp) (by simp [legKey, owner])
  · cases adapter <;> simp only [Adapter.isAsyncOutbound, not_true_eq_false] at sync
    rw [run_inactiveLeg_async, completed_scheduled _ quiet, BackgroundTask.program,
      run_asyncCannedPush]
    refine ⟨soapAckOk, _, rfl, ?_⟩
    exact cannedLeg_logged menu rfl silent rfl (by simp [cannedRow]) rfl rfl rfl
      (by simp [legKey, owner])

theorem asyncLeg_none_logged (quiet : world.spawned = []) (menu : ur.event.isMenu = true)
    (unresolved : world.registry.resolveShortcode Adapter.halotel.operator ur.serviceCode = none) :
    AnswersAndLogs runtime settings environment .halotel world ur
      (completed runtime settings environment
        ((asyncLeg .halotel ur none).run (perform environment) world)) := by
  rw [run_asyncLeg_none, completed_scheduled _ quiet, BackgroundTask.program, run_asyncCannedPush]
  refine ⟨soapAckOk, _, rfl, ?_⟩
  exact cannedLeg_logged menu rfl (handlerReply_of_not_active unresolved (by simp)) rfl
    (by simp [cannedRow]) rfl rfl rfl rfl

theorem asyncLeg_some_logged {shortcode : ShortcodeRow} {exchange : HttpExchange}
    (quiet : world.spawned = []) (menu : ur.event.isMenu = true)
    (resolved : world.registry.resolveShortcode Adapter.halotel.operator ur.serviceCode =
      some shortcode)
    (active : shortcode.status = .active)
    (answered : environment.answer (handlerCall settings shortcode ur) = .ok exchange) :
    AnswersAndLogs runtime settings environment .halotel world ur
      (completed runtime settings environment
        ((asyncLeg .halotel ur (some shortcode)).run (perform environment) world)) := by
  have owner := Registry.resolveShortcode_operatorId resolved
  rw [run_asyncLeg_some, completed_scheduled _ quiet, BackgroundTask.program,
    run_asyncForwardThenPush answered]
  refine ⟨soapAckOk, _, rfl,
    ⟨_, pushedCalls settings ur (replyOf (handlerOutcome runtime exchange)), rfl, rfl, ?_, ?_⟩⟩
  · intro _
    refine ⟨_, rfl, rfl, ?_⟩
    rw [handlerReply_of_answer resolved active answered, Option.isSome_iff_exists,
      ← handlerOutcome_errorClass_eq_none_iff, ← pushLogged_error_eq_none_iff]
    simp [pushedRow, Adapter.isAsyncOutbound,
      optionalOr_eq_none_iff _ (handlerOutcome_errorClass_ne_nil runtime exchange)]
  · simp only [endsSession_of_isMenu _ menu]
    simp [legKey, owner, pushedRow, handledRow]

def Registry.terminalShortcode (registry : Registry) (adapter : Adapter) (ur : UnifiedRequest) :
    Option ShortcodeRow :=
  if ur.serviceCode = [] then none
  else registry.resolveShortcode adapter.operator ur.serviceCode

theorem run_terminalShortcode :
    (terminalShortcode adapter ur).run (perform environment) world =
      (.ok (world.registry.terminalShortcode adapter ur), world) := by
  rw [terminalShortcode, Registry.terminalShortcode]
  split <;> rfl

theorem terminalShortcode_operatorId {shortcode : ShortcodeRow}
    (resolved : world.registry.terminalShortcode adapter ur = some shortcode) :
    shortcode.operatorId = world.registry.operatorId adapter.operator := by
  rw [Registry.terminalShortcode] at resolved
  split at resolved
  · exact absurd resolved (by simp)
  · exact Registry.resolveShortcode_operatorId resolved

theorem run_terminalOperatorId {resolved : Option ShortcodeRow}
    (found : world.registry.terminalShortcode adapter ur = resolved) :
    (terminalOperatorId adapter resolved).run (perform environment) world =
      (.ok (world.registry.operatorId adapter.operator), world) := by
  rcases resolved with _ | shortcode
  · rfl
  · rw [← terminalShortcode_operatorId found]
    rfl

theorem run_notifyTerminalEvent {shortcode : ShortcodeRow} {exchange : HttpExchange}
    (ack : UnifiedReply)
    (answered : environment.answer (handlerCall settings shortcode ur) = .ok exchange) :
    (notifyTerminalEvent runtime settings shortcode ur ack).run (perform environment) world =
      (.ok (), (world.called (handlerCall settings shortcode ur)).logged
        (handledRow ur shortcode .inbound (handlerOutcome runtime exchange) ack.action
          ur.event.value)) := by
  simp only [notifyTerminalEvent, Prog.run_bind, run_guarded, run_forward _ answered, run_logLeg,
    Prog.pure_eq_done, Prog.run_done]

theorem render_of_empty (adapter : Adapter) (action : Action) :
    ∃ response, adapter.render { action, message := [] } = .ok response := by
  apply render_eq_ok
  intro _ point member
  exact absurd member (List.not_mem_nil)

theorem deliveryAckLeg_logged (quiet : world.spawned = []) (ack : ur.event = .deliveryAck) :
    AnswersAndLogs runtime settings environment adapter world ur
      (completed runtime settings environment
        ((deliveryAckLeg adapter ur).run (perform environment) world)) := by
  obtain ⟨response, rendered⟩ := render_of_empty adapter .CON
  have ran : (deliveryAckLeg adapter ur).run (perform environment) world =
      (.ok response, world.logged
        (deliveryAckRow adapter ur (world.registry.operatorId adapter.operator))) := by
    simp [deliveryAckLeg, Prog.run_bind, inboundAck, rendered]
  rw [ran]
  refine ⟨response, _, completed_of_quiet _ (by simp [quiet]), ⟨_, [], rfl, by simp, ?_, ?_⟩⟩
  · simp [ack, SessionEvent.isMenu]
  · simp [EndsSession, ack, SessionEvent.isMenu, SessionEvent.isTerminal]

theorem shortcode_of_skipReason_none {resolved : Option ShortcodeRow}
    (notified : terminalNotifySkipReason resolved = none) :
    ∃ shortcode, resolved = some shortcode := by
  rcases resolved with _ | shortcode
  · simp [terminalNotifySkipReason] at notified
  · exact ⟨shortcode, rfl⟩

theorem run_notifyOrLog_notified {shortcode : ShortcodeRow} {operatorId : Nat}
    (notified : terminalNotifySkipReason (some shortcode) = none) :
    (notifyOrLog adapter ur (some shortcode) operatorId).run (perform environment) world =
      (.ok (), world.scheduled (.notifyTerminalEvent shortcode ur terminalAck)) := by
  simp [notifyOrLog, notified]

theorem run_notifyOrLog_skipped {resolved : Option ShortcodeRow} {operatorId : Nat} {reason : Str}
    (skipped : terminalNotifySkipReason resolved = some reason) :
    (notifyOrLog adapter ur resolved operatorId).run (perform environment) world =
      (.ok (), world.logged (terminalSkippedRow adapter ur resolved operatorId reason)) := by
  simp [notifyOrLog, skipped]

theorem terminalLeg_logged (quiet : world.spawned = []) (terminal : ur.event.isTerminal = true)
    (answers : ∀ call, ∃ exchange, environment.answer call = .ok exchange) :
    AnswersAndLogs runtime settings environment adapter world ur
      (completed runtime settings environment
        ((terminalLeg adapter ur).run (perform environment) world)) := by
  obtain ⟨response, rendered⟩ := render_of_empty adapter .END
  have notMenu : ur.event.isMenu = false := by
    cases event : ur.event <;> simp_all [SessionEvent.isMenu, SessionEvent.isTerminal]
  have logs : ∀ row, ∀ after : World, after.logQueue = world.logQueue.putNowait row →
      after.pushes = world.pushes → after.sessions =
        SessionTable.expireActiveSession world.sessions (legKey world adapter ur) →
      LegLogged runtime settings environment adapter world ur response after := by
    intro row after queue pushes sessions
    have ends : EndsSession ur row := Or.inl terminal
    exact ⟨row, [], queue, by simp [pushes], by simp [notMenu], by rw [sessions, if_pos ends]⟩
  have ran : ∀ after, (notifyOrLog adapter ur (world.registry.terminalShortcode adapter ur)
      (world.registry.operatorId adapter.operator)).run (perform environment)
      (world.expired (legKey world adapter ur)) = (.ok (), after) →
      (terminalLeg adapter ur).run (perform environment) world = (.ok response, after) := by
    intro after notified
    rw [legKey] at notified
    simp only [terminalLeg, Prog.run_bind, run_terminalShortcode, run_terminalOperatorId rfl,
      run_expireActiveSession, run_raiseOr, terminalAck, rendered, notified, Prog.pure_eq_done,
      Prog.run_done]
  rcases skipped : terminalNotifySkipReason (world.registry.terminalShortcode adapter ur) with
    _ | reason
  · obtain ⟨shortcode, resolved⟩ := shortcode_of_skipReason_none skipped
    obtain ⟨exchange, answered⟩ := answers (handlerCall settings shortcode ur)
    rw [resolved] at ran skipped
    rw [ran _ (run_notifyOrLog_notified skipped), completed_scheduled _ (by simpa using quiet),
      BackgroundTask.program, run_notifyTerminalEvent _ answered]
    exact ⟨response, _, rfl, logs _ _ rfl rfl rfl⟩
  · rw [ran _ (run_notifyOrLog_skipped skipped)]
    exact ⟨response, _, completed_of_quiet _ (by simp [quiet]), logs _ _ rfl rfl rfl⟩

/-! The pipeline as a whole. -/

theorem menuLeg_logged (quiet : world.spawned = []) (menu : ur.event.isMenu = true)
    (answers : ∀ call, ∃ exchange, environment.answer call = .ok exchange)
    (shown : ¬ Unencodable runtime settings environment adapter world ur) :
    AnswersAndLogs runtime settings environment adapter world ur
      (completed runtime settings environment
        ((menuLeg runtime settings adapter ur).run (perform environment) world)) := by
  simp only [menuLeg, Prog.run_bind, run_resolveShortcode]
  rcases resolved : world.registry.resolveShortcode adapter.operator ur.serviceCode with
    _ | shortcode
  · by_cases async : adapter.isAsyncOutbound = true
    · cases adapter <;> simp only [Adapter.isAsyncOutbound, Bool.false_eq_true] at async
      exact asyncLeg_none_logged quiet menu resolved
    · simp only [async, Bool.false_eq_true, if_false]
      exact notConfiguredLeg_logged quiet (by simpa using async) menu resolved
  · by_cases active : shortcode.status = .active
    · obtain ⟨exchange, answered⟩ := answers (handlerCall settings shortcode ur)
      by_cases async : adapter.isAsyncOutbound = true
      · cases adapter <;> simp only [Adapter.isAsyncOutbound, Bool.false_eq_true] at async
        simp only [active, Adapter.isAsyncOutbound, ne_eq, not_true_eq_false, if_false, if_true]
        exact asyncLeg_some_logged quiet menu resolved active answered
      · simp only [active, async, ne_eq, not_true_eq_false, if_false, Bool.false_eq_true]
        refine forwardedLeg_logged quiet (by simpa using async) menu resolved active answered ?_
        intro plain
        rcases replied : (handlerOutcome runtime exchange).reply with _ | reply
        · rw [replyOf, replied, Option.getD_none]
          exact Str.encodable_lit _
        · by_contra lone
          rw [replyOf, replied, Option.getD_some] at lone
          exact shown ⟨plain, menu, reply,
            (handlerReply_of_answer resolved active answered).trans replied, lone⟩
    · simp only [active, ne_eq, not_false_eq_true, if_true]
      exact inactiveLeg_logged quiet menu resolved active

theorem handleLeg_logged (quiet : world.spawned = [])
    (authenticated : isAuthFailed adapter ur = false)
    (wire : ur.event ≠ .systemSessionTermination)
    (answers : ∀ call, ∃ exchange, environment.answer call = .ok exchange)
    (shown : ¬ Unencodable runtime settings environment adapter world ur) :
    AnswersAndLogs runtime settings environment adapter world ur
      (completed runtime settings environment
        ((handleLeg runtime settings adapter ur).run (perform environment) world)) := by
  simp only [handleLeg, authenticated]
  by_cases ack : ur.event = .deliveryAck
  · simp only [ack, if_true]
    exact deliveryAckLeg_logged quiet ack
  by_cases terminal : ur.event.isTerminal = true
  · simp only [ack, terminal, if_false, if_true]
    exact terminalLeg_logged quiet terminal answers
  · simp only [ack, terminal, if_false]
    refine menuLeg_logged quiet ?_ answers shown
    cases event : ur.event <;> simp_all [SessionEvent.isMenu, SessionEvent.isTerminal]

theorem handleLeg_raises (quiet : world.spawned = [])
    (authenticated : isAuthFailed adapter ur = false)
    (unencodable : Unencodable runtime settings environment adapter world ur) :
    ∃ after, completed runtime settings environment
        ((handleLeg runtime settings adapter ur).run (perform environment) world) =
          (.error .unicodeEncodeError, after) ∧
      after.logQueue = world.logQueue := by
  obtain ⟨plain, menu, reply, replied, lone⟩ := unencodable
  have notAck : ur.event ≠ .deliveryAck := by
    intro ack
    simp [ack, SessionEvent.isMenu] at menu
  have sync : adapter.isAsyncOutbound = false := by
    cases adapter <;> simp_all [Adapter.isPlainText, Adapter.isAsyncOutbound]
  simp only [handleLeg, authenticated, notAck, not_isTerminal_of_isMenu menu, if_false,
    Bool.false_eq_true, menuLeg, Prog.run_bind, run_resolveShortcode]
  rw [handlerReply] at replied
  rcases resolved : world.registry.resolveShortcode adapter.operator ur.serviceCode with
    _ | shortcode
  · simp [resolved] at replied
  · simp only [resolved] at replied
    split at replied
    next active =>
      rcases answered : environment.answer (handlerCall settings shortcode ur) with
        error | exchange
      · simp [answered] at replied
      · simp only [answered] at replied
        have shown : replyOf (handlerOutcome runtime exchange) = reply := by
          rw [replyOf, replied, Option.getD_some]
        simp only [active, sync, ne_eq, not_true_eq_false, if_false, Bool.false_eq_true,
          forwardedLeg, Prog.run_bind, run_forward _ answered, shown, run_raiseOr,
          render_eq_error plain lone]
        rw [completed_of_quiet _ (by simpa using quiet)]
        exact ⟨_, rfl, rfl⟩
    next => simp at replied

theorem ofKey_operator (adapter : Adapter) : Adapter.ofKey adapter.operator = some adapter := by
  cases adapter <;> decide

theorem serve_handleUssd {request : Request} {before : World}
    (ran : (adapter.parse runtime request).run (perform environment) before.idle =
      (.ok ur, world)) :
    serve runtime settings environment (handleUssd runtime settings adapter.operator request)
        before =
      completed runtime settings environment
        ((handleLeg runtime settings adapter ur).run (perform environment) world) := by
  simp only [serve, handleUssd, ofKey_operator, Prog.run_bind_ok _ ran, completed]

theorem ParsedLeg.quiet {lostCode : Str} {before : World}
    (parsed : ParsedLeg adapter lostCode before.idle ur world) : world.spawned = [] := by
  rw [parsed.frame]
  rfl

theorem ParsedLeg.wire {lostCode : Str} {before : World}
    (parsed : ParsedLeg adapter lostCode before ur world) :
    ur.event ≠ .systemSessionTermination := by
  intro system
  cases parsed.cases <;> simp_all [SessionEvent.isTerminal]

/-- Every leg that parses, on every operator, whatever its shortcode, its handler and its push
answer: it is answered and logged exactly once, the row agreeing with the screen and the cache,
if and only if it is not a plain-text reply with a lone surrogate. -/
theorem leg_logged_iff {request : Request} {before : World}
    (answers : ∀ call, ∃ exchange, environment.answer call = .ok exchange)
    (ran : (adapter.parse runtime request).run (perform environment) before.idle =
      (.ok ur, world)) :
    world = { before.idle with sessions := world.sessions } ∧
    (AnswersAndLogs runtime settings environment adapter world ur
        (serve runtime settings environment (handleUssd runtime settings adapter.operator request)
          before) ↔
      ¬ Unencodable runtime settings environment adapter world ur) := by
  have parsed := parse_spec ran
  refine ⟨parsed.frame, ?_⟩
  rw [serve_handleUssd ran]
  constructor
  · rintro ⟨response, after, answered, _⟩ unencodable
    obtain ⟨_, raised, _⟩ := handleLeg_raises parsed.quiet parsed.authenticated unencodable
    rw [raised] at answered
    exact absurd answered (by simp)
  · exact handleLeg_logged parsed.quiet parsed.authenticated parsed.wire answers

end

theorem airtelDial_unencodable :
    ∃ ur world, (Adapter.airtel.parse sampleRuntime airtelDial).run
        (perform (sampleEnvironment loneSurrogateBody)) sampleWorld.idle = (.ok ur, world) ∧
      Unencodable sampleRuntime sampleSettings (sampleEnvironment loneSurrogateBody) .airtel
        world ur :=
  ⟨_, _, rfl, rfl, rfl, { action := .CON, message := [0xD800] }, rfl, by decide⟩

/-- The handler answers with a lone surrogate, and the leg leaves no row. -/
theorem airtelDial_not_logged :
    ∃ ur world, (Adapter.airtel.parse sampleRuntime airtelDial).run
        (perform (sampleEnvironment loneSurrogateBody)) sampleWorld.idle = (.ok ur, world) ∧
      ¬ AnswersAndLogs sampleRuntime sampleSettings (sampleEnvironment loneSurrogateBody) .airtel
        world ur (serve sampleRuntime sampleSettings (sampleEnvironment loneSurrogateBody)
          (handleUssd sampleRuntime sampleSettings Adapter.airtel.operator airtelDial)
          sampleWorld) ∧
      (serve sampleRuntime sampleSettings (sampleEnvironment loneSurrogateBody)
          (handleUssd sampleRuntime sampleSettings Adapter.airtel.operator airtelDial)
          sampleWorld).2.logQueue = sampleWorld.logQueue := by
  obtain ⟨ur, world, ran, unencodable⟩ := airtelDial_unencodable
  have parsed := parse_spec ran
  obtain ⟨after, raised, unlogged⟩ :=
    handleLeg_raises parsed.quiet parsed.authenticated unencodable
  refine ⟨ur, world, ran, ?_, ?_⟩
  · rw [serve_handleUssd ran, raised]
    rintro ⟨response, logged, answered, _⟩
    exact absurd answered (by simp)
  · rw [serve_handleUssd ran, raised, unlogged, parsed.frame]
    rfl

theorem leg_logged_airtelDial :
    ∃ ur world, (Adapter.airtel.parse sampleRuntime airtelDial).run
        (perform (sampleEnvironment (lit "CON Karibu"))) sampleWorld.idle = (.ok ur, world) ∧
      AnswersAndLogs sampleRuntime sampleSettings (sampleEnvironment (lit "CON Karibu")) .airtel
        world ur (serve sampleRuntime sampleSettings (sampleEnvironment (lit "CON Karibu"))
          (handleUssd sampleRuntime sampleSettings Adapter.airtel.operator airtelDial)
          sampleWorld) := by
  refine ⟨_, _, rfl, (leg_logged_iff (fun _ => ⟨_, rfl⟩) rfl).2.2 ?_⟩
  rintro ⟨_, _, reply, replied, lone⟩
  exact absurd lone (by rw [← Option.some.inj replied]; decide)

end UssdGateway
