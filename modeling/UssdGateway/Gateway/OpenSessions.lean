import UssdGateway.Gateway.LegLog
import UssdGateway.Library.Transition

/-!
Open sessions and their cache rows. A leg that the gateway answers with an open menu leaves a row
with the trail its handler was sent, unless the leg found no row and was routed by its URL alone.
-/

namespace UssdGateway

open EffectProgram

structure Leg where
  environment : Environment
  adapter : Adapter
  request : Request

inductive GatewayEvent where
  | leg (leg : Leg)
  | rowsLost (kept : ActiveSessionRow → Bool)
  | registryChanged (registry : Registry)
  | elapsed (micros : Nat)

section

variable (runtime : PyRuntime) (settings : Settings)

def Leg.parsed (leg : Leg) (before : World) : Except PyError UnifiedRequest × World :=
  (leg.adapter.parse runtime leg.request).run (perform leg.environment) before.idle

def Leg.served (leg : Leg) (before : World) : Except PyError Response × World :=
  serve runtime settings leg.environment
    (handleUssd runtime settings leg.adapter.operator leg.request) before

def gatewayEvent (world : World) : GatewayEvent → World
  | .leg leg => (leg.served runtime settings world).2
  | .rowsLost kept => { world with sessions := world.sessions.filter kept }
  | .registryChanged registry => { world with registry }
  | .elapsed micros => { world with now := world.now + micros }

def gatewayRuns : StepSystem World GatewayEvent where
  initial _ := True
  step world event := some (gatewayEvent runtime settings world event)

end

section

variable (runtime : PyRuntime) (settings : Settings) (environment : Environment)
  (adapter : Adapter) (ur : UnifiedRequest)

def AnswersCon (before : World) (answered : Except PyError Response × World) : Prop :=
  ∃ message,
    match adapter with
    | .halotel => ∃ pushed, answered.2.pushes = before.pushes ++ pushed ∧
        Halotel.outboundCall settings.halotel ur { action := .CON, message } ∈ pushed
    | _ => ∃ response, answered.1 = .ok response ∧
        adapter.render { action := .CON, message } = .ok response

def CachedAsForwarded (key : SessionKey) (before after : World) : Prop :=
  ∃ call row, after.handlerCalls = before.handlerCalls ++ [call] ∧
    after.sessions.find key = some row ∧ row.ussdString = call.payload.ussdString

def RepliesCon (shortcode : ShortcodeRow) : Prop :=
  ∃ exchange message,
    environment.answer (handlerCall settings shortcode ur) = .ok exchange ∧
    (handlerOutcome runtime exchange).reply = some { action := .CON, message } ∧
    (adapter.isPlainText = true → message.Encodable) ∧
    (adapter.isAsyncOutbound = true → settings.halotel.outboundUrl ≠ [])

end

section

variable (runtime : PyRuntime) (settings : Settings)

/-- An open menu on a START or INPUT leg leaves the session cached. -/
def OpenSessionCached (before : World) : GatewayEvent → Prop
  | .leg leg => ∀ ur parsed, leg.parsed runtime before = (.ok ur, parsed) →
      ur.event.isMenu = true →
      AnswersCon settings leg.adapter ur before (leg.served runtime settings before) →
      CachedAsForwarded (legKey before leg.adapter ur) before
        (leg.served runtime settings before).2
  | _ => True

/-- An INPUT leg without a cache row whose fallback code leads to a handler that goes on. -/
def ContinuesUncached (before : World) : GatewayEvent → Prop
  | .leg leg => ∃ ur parsed shortcode, leg.parsed runtime before = (.ok ur, parsed) ∧
      ur.event = .input ∧
      before.sessions.find (legKey before leg.adapter ur) = none ∧
      before.registry.resolveShortcode leg.adapter.operator
        (leg.adapter.lostCode runtime leg.request) = some shortcode ∧
      shortcode.status = .active ∧
      RepliesCon runtime settings leg.environment leg.adapter ur shortcode
  | _ => False

end

theorem plainText_action {first second : UnifiedReply} {response : Response}
    (firstShown : plainTextReply first = .ok response)
    (secondShown : plainTextReply second = .ok response) : first.action = second.action := by
  have text : ∀ reply, plainTextReply reply = .ok response →
      response.content.text = reply.action.value ++ (lit " " ++ reply.message) := by
    intro reply shown
    simp only [plainTextReply, encodedResponse] at shown
    split at shown
    next =>
      rw [← Except.ok.inj shown]
      exact List.append_assoc _ _ _
    next => exact absurd shown (by simp)
  have same := (text first firstShown).symm.trans (text second secondShown)
  have sameLength : first.action.value.length = second.action.value.length := by
    cases first.action <;> cases second.action <;> rfl
  have values := (List.append_inj same sameLength).1
  revert values
  cases first.action <;> cases second.action <;> decide

theorem trurouteEnvelope_action {first second : UnifiedReply}
    (same : trurouteEnvelope first = trurouteEnvelope second) : first.action = second.action := by
  simp only [trurouteEnvelope, List.append_assoc] at same
  have leaves := List.append_cancel_left same
  have sameLength : (xmlLeaf (lit "type") (trurouteType first.action)).length =
      (xmlLeaf (lit "type") (trurouteType second.action)).length := by
    cases first.action <;> cases second.action <;> decide
  have values := (List.append_inj leaves sameLength).1
  revert values
  cases first.action <;> cases second.action <;> decide

theorem render_action {adapter : Adapter} {first second : UnifiedReply} {response : Response}
    (sync : adapter.isAsyncOutbound = false) (firstShown : adapter.render first = .ok response)
    (secondShown : adapter.render second = .ok response) : first.action = second.action := by
  cases adapter with
  | vodacom =>
      have same : xmlReplyTruroute first = xmlReplyTruroute second :=
        Except.ok.inj (firstShown.trans secondShown.symm)
      exact trurouteEnvelope_action (congrArg (fun shown => shown.content.text) same)
  | airtel => exact plainText_action firstShown secondShown
  | tigo => exact plainText_action firstShown secondShown
  | halotel => exact absurd sync (by decide)

theorem outboundCall_action {config : HalotelConfig} {ur : UnifiedRequest}
    {first second : UnifiedReply}
    (same : Halotel.outboundCall config ur first = Halotel.outboundCall config ur second) :
    first.action = second.action := by
  have types := congrArg OutboundCall.requestType same
  simp only [Halotel.outboundCall] at types
  revert types
  cases first.action <;> cases second.action <;> decide

section

variable {runtime : PyRuntime} {settings : Settings} {environment : Environment}
  {adapter : Adapter} {world : World} {ur : UnifiedRequest}

theorem answersCon_iff_of_shown {reply : UnifiedReply} {response : Response}
    {pushed : List OutboundCall} {after : World}
    (pushes : after.pushes = world.pushes ++ pushed)
    (shown : Shown settings adapter ur reply response pushed) :
    AnswersCon settings adapter ur world (.ok response, after) ↔
      reply.action = .CON ∧
        (adapter.isAsyncOutbound = true → settings.halotel.outboundUrl ≠ []) := by
  by_cases async : adapter.isAsyncOutbound = true
  · cases adapter <;> simp only [Adapter.isAsyncOutbound, Bool.false_eq_true] at async
    simp only [AnswersCon, Shown] at shown ⊢
    constructor
    · rintro ⟨message, calls, called, member⟩
      have same : calls = pushed := List.append_cancel_left (called.symm.trans pushes)
      rw [same, shown] at member
      split at member
      next => exact absurd member List.not_mem_nil
      next configured =>
        exact ⟨(outboundCall_action (List.mem_singleton.1 member)).symm, fun _ => configured⟩
    · rintro ⟨open_, configured⟩
      refine ⟨reply.message, pushed, pushes, ?_⟩
      rw [shown, if_neg (configured rfl), ← open_]
      exact List.mem_singleton.2 rfl
  · have sync : adapter.isAsyncOutbound = false := by simpa using async
    have rendered : adapter.render reply = .ok response := by
      cases adapter <;> first | exact shown.1 | exact absurd sync (by decide)
    have unfolded : AnswersCon settings adapter ur world (.ok response, after) ↔
        ∃ message, ∃ other, (.ok response : Except PyError Response) = .ok other ∧
          adapter.render { action := .CON, message } = .ok other := by
      cases adapter <;> first | exact Iff.rfl | exact absurd sync (by decide)
    rw [unfolded]
    constructor
    · rintro ⟨message, other, same, menu⟩
      rw [← Except.ok.inj same] at menu
      exact ⟨render_action sync rendered menu, fun contrary => absurd contrary async⟩
    · rintro ⟨open_, _⟩
      refine ⟨reply.message, response, rfl, ?_⟩
      rw [← open_]
      exact rendered

theorem answersCon_congr {before : World} {answered : Except PyError Response × World}
    (same : world.pushes = before.pushes) :
    AnswersCon settings adapter ur world answered ↔
      AnswersCon settings adapter ur before answered := by
  simp only [AnswersCon, same]

theorem not_answersCon_of_error {error : PyError} {after : World}
    (sync : adapter.isAsyncOutbound = false) :
    ¬ AnswersCon settings adapter ur world (.error error, after) := by
  rintro ⟨message, shown⟩
  cases adapter with
  | halotel => exact absurd sync (by decide)
  | _ =>
      obtain ⟨response, answered, _⟩ := shown
      exact absurd answered (by simp)

theorem not_answersCon_of_silent {answer : Except PyError Response} {after : World}
    (pushes : after.pushes = world.pushes) :
    ¬ AnswersCon settings .halotel ur world (answer, after) := by
  rintro ⟨message, pushed, calls, member⟩
  have none : pushed = [] := by simpa [pushes] using calls
  rw [none] at member
  exact absurd member List.not_mem_nil

/-! The branches of the pipeline that can answer with an open menu. -/

theorem not_answersCon_of_closing (reply : UnifiedReply) {response : Response}
    {pushed : List OutboundCall} {after : World} (closing : reply.action = .END)
    (pushes : after.pushes = world.pushes ++ pushed)
    (shown : Shown settings adapter ur reply response pushed) :
    ¬ AnswersCon settings adapter ur world (.ok response, after) := by
  rw [answersCon_iff_of_shown pushes shown, closing]
  simp

theorem notConfigured_closes (quiet : world.spawned = [])
    (unresolved : world.registry.resolveShortcode adapter.operator ur.serviceCode = none) :
    ¬ AnswersCon settings adapter ur world (completed runtime settings environment
      ((menuLeg runtime settings adapter ur).run (perform environment) world)) := by
  simp only [menuLeg, Prog.run_bind, run_resolveShortcode, unresolved]
  by_cases async : adapter.isAsyncOutbound = true
  · cases adapter <;> simp only [Adapter.isAsyncOutbound, Bool.false_eq_true] at async
    simp only [Adapter.isAsyncOutbound, if_true]
    rw [run_asyncLeg_none, completed_scheduled _ quiet, BackgroundTask.program,
      run_asyncCannedPush]
    exact not_answersCon_of_closing serviceNotConfigured rfl rfl rfl
  · have sync : adapter.isAsyncOutbound = false := by simpa using async
    obtain ⟨response, rendered⟩ := render_eq_ok adapter serviceNotConfigured
      (fun _ => Str.encodable_lit _)
    simp only [sync, Bool.false_eq_true, if_false]
    rw [run_notConfiguredLeg rendered, completed_of_quiet _ (by simp [quiet])]
    exact not_answersCon_of_closing _ rfl (by simp) (shown_of_sync sync rendered)

theorem inactive_closes {shortcode : ShortcodeRow} (quiet : world.spawned = [])
    (resolved : world.registry.resolveShortcode adapter.operator ur.serviceCode = some shortcode)
    (inactive : shortcode.status ≠ .active) :
    ¬ AnswersCon settings adapter ur world (completed runtime settings environment
      ((menuLeg runtime settings adapter ur).run (perform environment) world)) := by
  simp only [menuLeg, Prog.run_bind, run_resolveShortcode, resolved, inactive, ne_eq,
    not_false_eq_true, if_true]
  by_cases async : adapter.isAsyncOutbound = true
  · cases adapter <;> simp only [Adapter.isAsyncOutbound, Bool.false_eq_true] at async
    rw [run_inactiveLeg_async, completed_scheduled _ quiet, BackgroundTask.program,
      run_asyncCannedPush]
    exact not_answersCon_of_closing (inactiveReply shortcode) rfl rfl rfl
  · have sync : adapter.isAsyncOutbound = false := by simpa using async
    obtain ⟨response, rendered⟩ := render_eq_ok adapter (inactiveReply shortcode)
      (fun _ => statusMessageFor_encodable resolved)
    rw [run_inactiveLeg_sync sync rendered, completed_of_quiet _ (by simp [quiet])]
    exact not_answersCon_of_closing _ rfl (by simp) (shown_of_sync sync rendered)

theorem replyOf_open {outcome : HandlerOutcome} (open_ : (replyOf outcome).action = .CON) :
    outcome.reply = some { action := .CON, message := (replyOf outcome).message } := by
  rcases replied : outcome.reply with _ | reply
  · simp [replyOf, replied, serviceUnavailable] at open_
  · simp only [replyOf, replied, Option.getD_some] at open_ ⊢
    rw [← open_]

theorem active_shows {shortcode : ShortcodeRow} {exchange : HttpExchange}
    (quiet : world.spawned = [])
    (resolved : world.registry.resolveShortcode adapter.operator ur.serviceCode = some shortcode)
    (active : shortcode.status = .active)
    (answered : environment.answer (handlerCall settings shortcode ur) = .ok exchange)
    (encodable : adapter.isPlainText = true →
      (replyOf (handlerOutcome runtime exchange)).message.Encodable) :
    ∃ response pushed after,
      completed runtime settings environment
        ((menuLeg runtime settings adapter ur).run (perform environment) world) =
          (.ok response, after) ∧
      after.pushes = world.pushes ++ pushed ∧
      Shown settings adapter ur (replyOf (handlerOutcome runtime exchange)) response pushed ∧
      after.handlerCalls = world.handlerCalls ++ [handlerCall settings shortcode ur] ∧
      ((replyOf (handlerOutcome runtime exchange)).action = .CON →
        after.sessions = world.sessions) := by
  simp only [menuLeg, Prog.run_bind, run_resolveShortcode, resolved, active, ne_eq,
    not_true_eq_false, if_false]
  by_cases async : adapter.isAsyncOutbound = true
  · cases adapter <;> simp only [Adapter.isAsyncOutbound, Bool.false_eq_true] at async
    simp only [Adapter.isAsyncOutbound, if_true]
    rw [run_asyncLeg_some, completed_scheduled _ quiet, BackgroundTask.program,
      run_asyncForwardThenPush answered]
    refine ⟨_, pushedCalls settings ur (replyOf (handlerOutcome runtime exchange)), _, rfl, rfl,
      rfl, by simp, ?_⟩
    intro open_
    simp [open_]
  · have sync : adapter.isAsyncOutbound = false := by simpa using async
    obtain ⟨response, rendered⟩ := render_eq_ok adapter _ encodable
    simp only [sync, Bool.false_eq_true, if_false]
    rw [run_forwardedLeg answered rendered, completed_of_quiet _ (by simp [quiet])]
    refine ⟨response, [], _, rfl, by simp, shown_of_sync sync rendered, by simp, ?_⟩
    intro open_
    simp [open_]

theorem unanswered_not_answersCon {shortcode : ShortcodeRow} {error : PyError}
    (quiet : world.spawned = [])
    (resolved : world.registry.resolveShortcode adapter.operator ur.serviceCode = some shortcode)
    (active : shortcode.status = .active)
    (raised : environment.answer (handlerCall settings shortcode ur) = .error error) :
    ¬ AnswersCon settings adapter ur world (completed runtime settings environment
      ((menuLeg runtime settings adapter ur).run (perform environment) world)) := by
  have failed : (forward runtime settings shortcode ur).run (perform environment) world =
      (.error error, world.called (handlerCall settings shortcode ur)) := by
    simp [forward, Prog.run_bind, raised]
  simp only [menuLeg, Prog.run_bind, run_resolveShortcode, resolved, active, ne_eq,
    not_true_eq_false, if_false]
  by_cases async : adapter.isAsyncOutbound = true
  · cases adapter <;> simp only [Adapter.isAsyncOutbound, Bool.false_eq_true] at async
    simp only [Adapter.isAsyncOutbound, if_true]
    rw [run_asyncLeg_some, completed_scheduled _ quiet, BackgroundTask.program,
      asyncForwardThenPush]
    simp only [Prog.run_bind, run_guarded, failed, Prog.pure_eq_done, Prog.run_done]
    exact not_answersCon_of_silent rfl
  · have sync : adapter.isAsyncOutbound = false := by simpa using async
    simp only [sync, Bool.false_eq_true, if_false, forwardedLeg, Prog.run_bind, failed]
    exact not_answersCon_of_error sync

theorem unencodable_not_answersCon {shortcode : ShortcodeRow} {exchange : HttpExchange}
    (resolved : world.registry.resolveShortcode adapter.operator ur.serviceCode = some shortcode)
    (active : shortcode.status = .active)
    (answered : environment.answer (handlerCall settings shortcode ur) = .ok exchange)
    (plain : adapter.isPlainText = true)
    (lone : ¬ (replyOf (handlerOutcome runtime exchange)).message.Encodable) :
    ¬ AnswersCon settings adapter ur world (completed runtime settings environment
      ((menuLeg runtime settings adapter ur).run (perform environment) world)) := by
  have sync : adapter.isAsyncOutbound = false := by
    cases adapter <;> first | rfl | exact absurd plain (by decide)
  simp only [menuLeg, Prog.run_bind, run_resolveShortcode, resolved, active, ne_eq,
    not_true_eq_false, if_false, sync, Bool.false_eq_true, forwardedLeg, run_forward _ answered,
    run_raiseOr, render_eq_error plain lone]
  exact not_answersCon_of_error sync

theorem active_answersCon_iff {shortcode : ShortcodeRow} (quiet : world.spawned = [])
    (resolved : world.registry.resolveShortcode adapter.operator ur.serviceCode = some shortcode)
    (active : shortcode.status = .active) :
    AnswersCon settings adapter ur world (completed runtime settings environment
        ((menuLeg runtime settings adapter ur).run (perform environment) world)) ↔
      RepliesCon runtime settings environment adapter ur shortcode := by
  rcases answered : environment.answer (handlerCall settings shortcode ur) with error | exchange
  · refine iff_of_false (unanswered_not_answersCon quiet resolved active answered) ?_
    rintro ⟨exchange, _, replied, _⟩
    rw [answered] at replied
    exact absurd replied (by simp)
  by_cases unencodable : adapter.isPlainText = true ∧
      ¬ (replyOf (handlerOutcome runtime exchange)).message.Encodable
  · refine iff_of_false
      (unencodable_not_answersCon resolved active answered unencodable.1 unencodable.2) ?_
    rintro ⟨other, message, replied, open_, encodable, _⟩
    rw [answered, Except.ok.injEq] at replied
    subst replied
    rw [replyOf, open_] at unencodable
    exact unencodable.2 (encodable unencodable.1)
  · have encodable : adapter.isPlainText = true →
        (replyOf (handlerOutcome runtime exchange)).message.Encodable := by
      intro plain
      by_contra lone
      exact unencodable ⟨plain, lone⟩
    obtain ⟨response, pushed, after, ran, pushes, shown, _⟩ :=
      active_shows quiet resolved active answered encodable
    rw [ran, answersCon_iff_of_shown pushes shown]
    constructor
    · rintro ⟨open_, configured⟩
      exact ⟨exchange, _, answered, replyOf_open open_, encodable, configured⟩
    · rintro ⟨other, message, replied, open_, _, configured⟩
      rw [answered, Except.ok.injEq] at replied
      subst replied
      exact ⟨by rw [replyOf, open_, Option.getD_some], configured⟩

theorem menuLeg_answersCon_iff (quiet : world.spawned = []) :
    AnswersCon settings adapter ur world (completed runtime settings environment
        ((menuLeg runtime settings adapter ur).run (perform environment) world)) ↔
      ∃ shortcode,
        world.registry.resolveShortcode adapter.operator ur.serviceCode = some shortcode ∧
        shortcode.status = .active ∧
        RepliesCon runtime settings environment adapter ur shortcode := by
  rcases resolved : world.registry.resolveShortcode adapter.operator ur.serviceCode with
    _ | shortcode
  · exact iff_of_false (notConfigured_closes quiet resolved) (by simp)
  · by_cases active : shortcode.status = .active
    · rw [active_answersCon_iff quiet resolved active]
      constructor
      · intro replies
        exact ⟨shortcode, rfl, active, replies⟩
      · rintro ⟨other, same, _, replies⟩
        rw [Option.some.inj same]
        exact replies
    · refine iff_of_false (inactive_closes quiet resolved active) ?_
      rintro ⟨other, same, otherActive, _⟩
      rw [← Option.some.inj same] at otherActive
      exact active otherActive

theorem menuLeg_continued {shortcode : ShortcodeRow} (quiet : world.spawned = [])
    (resolved : world.registry.resolveShortcode adapter.operator ur.serviceCode = some shortcode)
    (active : shortcode.status = .active)
    (replies : RepliesCon runtime settings environment adapter ur shortcode) :
    (completed runtime settings environment
        ((menuLeg runtime settings adapter ur).run (perform environment) world)).2.handlerCalls =
      world.handlerCalls ++ [handlerCall settings shortcode ur] ∧
    (completed runtime settings environment
        ((menuLeg runtime settings adapter ur).run (perform environment) world)).2.sessions =
      world.sessions := by
  obtain ⟨exchange, message, answered, open_, encodable, _⟩ := replies
  have reply : replyOf (handlerOutcome runtime exchange) = { action := .CON, message } := by
    rw [replyOf, open_, Option.getD_some]
  obtain ⟨response, pushed, after, ran, _, _, calls, sessions⟩ :=
    active_shows quiet resolved active answered (by rw [reply]; exact encodable)
  rw [ran]
  exact ⟨calls, sessions (by rw [reply])⟩

theorem handleLeg_of_isMenu (authenticated : isAuthFailed adapter ur = false)
    (menu : ur.event.isMenu = true) :
    handleLeg runtime settings adapter ur = menuLeg runtime settings adapter ur := by
  have notAck : ur.event ≠ .deliveryAck := by
    intro ack
    simp [ack, SessionEvent.isMenu] at menu
  simp [handleLeg, authenticated, notAck, not_isTerminal_of_isMenu menu]

theorem handlerCall_ussdString (shortcode : ShortcodeRow) (menu : ur.event.isMenu = true) :
    (handlerCall settings shortcode ur).payload.ussdString = ur.ussdString := by
  have plain : legacySentinel ur.event = none := by
    cases event : ur.event <;> simp_all [SessionEvent.isMenu, legacySentinel]
  simp only [handlerCall, buildHandlerPayload]
  cases shortcode.payloadFormat
  · rfl
  · simp [HandlerPayload.ussdString, plain]

end

section

variable {runtime : PyRuntime} {settings : Settings} {before world : World} {ur : UnifiedRequest}
  {leg : Leg}

theorem Leg.served_of_parsed (parsed : leg.parsed runtime before = (.ok ur, world))
    (menu : ur.event.isMenu = true) :
    leg.served runtime settings before = completed runtime settings leg.environment
      ((menuLeg runtime settings leg.adapter ur).run (perform leg.environment) world) := by
  have spec := parse_spec parsed
  rw [Leg.served, serve_handleUssd parsed, handleLeg_of_isMenu spec.authenticated menu]

theorem ParseCase.cached_or_lost {adapter : Adapter} {lostCode : Str} {sessions : SessionTable}
    (cases : ParseCase adapter lostCode before ur sessions) (menu : ur.event.isMenu = true) :
    (∃ row, sessions.find (legKey before adapter ur) = some row ∧
      row.ussdString = ur.ussdString) ∨
    (ur.event = .input ∧ before.sessions.find (legKey before adapter ur) = none ∧
      ur.serviceCode = lostCode ∧ sessions = before.sessions) := by
  cases cases with
  | opened values _ keyed trail _ written =>
      obtain ⟨row, found, same⟩ :=
        SessionTable.ussdString_upsertActiveSession before.sessions before.now values
      exact Or.inl ⟨row, by rw [written, ← keyed]; exact found, same.trans trail⟩
  | extended prior values _ _ keyed trail written =>
      obtain ⟨row, found, same⟩ :=
        SessionTable.ussdString_upsertActiveSession before.sessions before.now values
      exact Or.inl ⟨row, by rw [written, ← keyed]; exact found, same.trans trail⟩
  | lost event absent _ code unchanged => exact Or.inr ⟨event, absent, code, unchanged⟩
  | observed event _ =>
      rcases event with terminal | ack
      · rw [not_isTerminal_of_isMenu menu] at terminal
        exact absurd terminal (by simp)
      · simp [ack, SessionEvent.isMenu] at menu

theorem ParseCase.of_absent {adapter : Adapter} {lostCode : Str} {sessions : SessionTable}
    (cases : ParseCase adapter lostCode before ur sessions) (input : ur.event = .input)
    (absent : before.sessions.find (legKey before adapter ur) = none) :
    ur.serviceCode = lostCode ∧ sessions = before.sessions := by
  cases cases with
  | opened _ start => exact absurd (input.symm.trans start) (by simp)
  | extended _ _ _ cached => exact absurd (absent.symm.trans cached) (by simp)
  | lost _ _ _ code unchanged => exact ⟨code, unchanged⟩
  | observed event _ => simp [input, SessionEvent.isTerminal] at event

end

theorem openSessionCached_iff (runtime : PyRuntime) (settings : Settings) (before : World)
    (event : GatewayEvent) :
    OpenSessionCached runtime settings before event ↔
      ¬ ContinuesUncached runtime settings before event := by
  cases event with
  | rowsLost kept => exact iff_of_true trivial id
  | registryChanged registry => exact iff_of_true trivial id
  | elapsed micros => exact iff_of_true trivial id
  | leg leg =>
      constructor
      · rintro cached ⟨ur, world, shortcode, parsed, input, absent, resolved, active, replies⟩
        have menu : ur.event.isMenu = true := by rw [input]; rfl
        have spec := parse_spec parsed
        have quiet : world.spawned = [] := ParsedLeg.quiet spec
        have registry : world.registry = before.registry := by rw [spec.frame]; rfl
        obtain ⟨code, unchanged⟩ := spec.cases.of_absent input absent
        rw [← code, ← registry] at resolved
        have pushes : world.pushes = before.pushes := by rw [spec.frame]; rfl
        have answers : AnswersCon settings leg.adapter ur before
            (leg.served runtime settings before) := by
          rw [Leg.served_of_parsed parsed menu, ← answersCon_congr pushes,
            menuLeg_answersCon_iff quiet]
          exact ⟨shortcode, resolved, active, replies⟩
        obtain ⟨_, row, _, found, _⟩ := cached ur world parsed menu answers
        rw [Leg.served_of_parsed parsed menu,
          (menuLeg_continued quiet resolved active replies).2, unchanged] at found
        exact absurd (absent.symm.trans found) (by simp)
      · intro continues ur world parsed menu answers
        have spec := parse_spec parsed
        have quiet : world.spawned = [] := ParsedLeg.quiet spec
        have registry : world.registry = before.registry := by rw [spec.frame]; rfl
        have pushes : world.pushes = before.pushes := by rw [spec.frame]; rfl
        have calls : world.handlerCalls = before.handlerCalls := by rw [spec.frame]; rfl
        rw [Leg.served_of_parsed parsed menu, ← answersCon_congr pushes,
          menuLeg_answersCon_iff quiet] at answers
        obtain ⟨shortcode, resolved, active, replies⟩ := answers
        obtain ⟨called, sessions⟩ := menuLeg_continued quiet resolved active replies
        rw [Leg.served_of_parsed parsed menu]
        rcases spec.cases.cached_or_lost menu with
          ⟨row, found, trail⟩ | ⟨input, absent, code, unchanged⟩
        · refine ⟨_, row, by rw [called, calls], by rw [sessions]; exact found, ?_⟩
          rw [handlerCall_ussdString shortcode menu, trail]
        · rw [code, registry] at resolved
          exact absurd ⟨ur, world, shortcode, parsed, input, absent, resolved, active, replies⟩
            continues

/-- Over every sequential run, whatever rows are lost and shortcodes edited in between: each leg
answered with an open menu leaves its session cached with the trail just forwarded if and only if
no leg continues a session without a row. -/
theorem open_sessions_cached_iff (runtime : PyRuntime) (settings : Settings) (start : World)
    (events : List GatewayEvent) :
    (gatewayRuns runtime settings).Along (OpenSessionCached runtime settings) start events ↔
      (gatewayRuns runtime settings).Along
        (fun before event => ¬ ContinuesUncached runtime settings before event) start events :=
  StepSystem.along_iff (openSessionCached_iff runtime settings) start events

def tigoLeg (fields : List (String × String)) : Leg where
  environment := sampleEnvironment (lit "CON Karibu")
  adapter := .tigo
  request :=
    { partnerSlug := some (lit "glptigo")
      queryParams := fields.map fun field => (lit field.1, lit field.2)
      contentType := none
      body := { isEmpty := true, xml := .error [], json := none, form := [] } }

def tigoOpening : Leg :=
  tigoLeg [("msisdn", "255710000001"), ("sessionid", "T1"), ("new_request", "1"),
    ("short_code", "*149*99#")]

def tigoReply : Leg :=
  tigoLeg [("msisdn", "255710000001"), ("sessionid", "T1"), ("new_request", "0"), ("input", "2")]

theorem tigo_row_lost :
    ¬ (gatewayRuns sampleRuntime sampleSettings).Along
      (OpenSessionCached sampleRuntime sampleSettings) sampleWorld
      [.leg tigoOpening, .rowsLost fun _ => false, .leg tigoReply] := by
  rw [StepSystem.along_iff (openSessionCached_iff sampleRuntime sampleSettings)]
  rintro ⟨_, later⟩
  obtain ⟨_, last⟩ := later _ rfl
  obtain ⟨here, _⟩ := last _ rfl
  refine here ⟨_, _, sampleShortcode 11 3 "glptigo" |>.row (lit "tigo"), rfl, rfl, rfl, ?_, rfl, ?_⟩
  · decide
  · exact ⟨_, lit "Karibu", rfl, rfl, by decide, by decide⟩

end UssdGateway
