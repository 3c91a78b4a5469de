import UssdGateway.Gateway.OpenSessions

/-!
What a START or INPUT leg owes its subscriber: a reply, the handler's or a closing one, and a log
row. It pays exactly when the call to the handler raises nothing `forward` leaves uncaught and the
reply can be brought out.
-/

namespace UssdGateway

open EffectProgram

section

variable (runtime : PyRuntime) (settings : Settings) (environment : Environment)
  (adapter : Adapter) (world : World) (ur : UnifiedRequest)

def Delivered (reply : UnifiedReply) (response : Response) (pushed : List OutboundCall) : Prop :=
  match adapter with
  | .halotel => pushed = [Halotel.outboundCall settings.halotel ur reply]
  | _ => adapter.render reply = .ok response ∧ pushed = []

/-- The subscriber gets the handler's reply or an END, and one row is logged of it. -/
def RepliedAndLogged (result : Except PyError Response × World) : Prop :=
  ∃ response after reply row pushed,
    result = (.ok response, after) ∧
    Delivered settings adapter ur reply response pushed ∧
    (handlerReply runtime settings environment adapter world ur = some reply ∨
      handlerReply runtime settings environment adapter world ur = none ∧ reply.action = .END) ∧
    after.pushes = world.pushes ++ pushed ∧
    after.logQueue = world.logQueue.putNowait row ∧
    row.sessionId = ur.sessionId ∧ row.handlerResponseAction = some reply.action

def HandlerAnswers : Prop :=
  ∀ shortcode, world.registry.resolveShortcode adapter.operator ur.serviceCode = some shortcode →
    shortcode.status = .active →
    ∃ exchange, environment.answer (handlerCall settings shortcode ur) = .ok exchange

def PushConfigured : Prop := adapter.isAsyncOutbound = true → settings.halotel.outboundUrl ≠ []

end

section

variable {runtime : PyRuntime} {settings : Settings} {environment : Environment}
  {adapter : Adapter} {world : World} {ur : UnifiedRequest}

theorem LogQueue.putNowait_ne (queue : LogQueue) (row : LogRow) : queue.putNowait row ≠ queue := by
  intro same
  rw [LogQueue.putNowait] at same
  split at same
  · have counted := congrArg LogQueue.enqueuedTotal same
    simp only at counted
    omega
  · have counted := congrArg LogQueue.droppedTotal same
    simp only at counted
    omega

theorem delivered_of_shown {reply : UnifiedReply} {response : Response}
    {pushed : List OutboundCall} (configured : PushConfigured settings adapter)
    (shown : Shown settings adapter ur reply response pushed) :
    Delivered settings adapter ur reply response pushed := by
  cases adapter with
  | halotel =>
      rw [Shown, if_neg (configured rfl)] at shown
      exact shown
  | vodacom => exact shown
  | airtel => exact shown
  | tigo => exact shown

theorem notConfigured_replied (quiet : world.spawned = [])
    (configured : PushConfigured settings adapter)
    (unresolved : world.registry.resolveShortcode adapter.operator ur.serviceCode = none) :
    RepliedAndLogged runtime settings environment adapter world ur
      (completed runtime settings environment
        ((menuLeg runtime settings adapter ur).run (perform environment) world)) := by
  have silent : handlerReply runtime settings environment adapter world ur = none :=
    handlerReply_of_not_active unresolved (by simp)
  simp only [menuLeg, Prog.run_bind, run_resolveShortcode, unresolved]
  by_cases async : adapter.isAsyncOutbound = true
  · cases adapter <;> simp only [Adapter.isAsyncOutbound, Bool.false_eq_true] at async
    simp only [Adapter.isAsyncOutbound, if_true]
    rw [run_asyncLeg_none, completed_scheduled _ quiet, BackgroundTask.program,
      run_asyncCannedPush]
    exact ⟨_, _, serviceNotConfigured, _, _, rfl, delivered_of_shown configured rfl,
      Or.inr ⟨silent, rfl⟩, rfl, rfl, rfl, rfl⟩
  · have sync : adapter.isAsyncOutbound = false := by simpa using async
    obtain ⟨response, rendered⟩ := render_eq_ok adapter serviceNotConfigured
      (fun _ => Str.encodable_lit _)
    simp only [sync, Bool.false_eq_true, if_false]
    rw [run_notConfiguredLeg rendered, completed_of_quiet _ (by simp [quiet])]
    exact ⟨_, _, serviceNotConfigured, _, [], rfl,
      delivered_of_shown configured (shown_of_sync sync rendered), Or.inr ⟨silent, rfl⟩, by simp,
      rfl, rfl, rfl⟩

theorem inactive_replied {shortcode : ShortcodeRow} (quiet : world.spawned = [])
    (configured : PushConfigured settings adapter)
    (resolved : world.registry.resolveShortcode adapter.operator ur.serviceCode = some shortcode)
    (inactive : shortcode.status ≠ .active) :
    RepliedAndLogged runtime settings environment adapter world ur
      (completed runtime settings environment
        ((menuLeg runtime settings adapter ur).run (perform environment) world)) := by
  have silent : handlerReply runtime settings environment adapter world ur = none :=
    handlerReply_of_not_active resolved (by simpa using inactive)
  simp only [menuLeg, Prog.run_bind, run_resolveShortcode, resolved, inactive, ne_eq,
    not_false_eq_true, if_true]
  by_cases async : adapter.isAsyncOutbound = true
  · cases adapter <;> simp only [Adapter.isAsyncOutbound, Bool.false_eq_true] at async
    rw [run_inactiveLeg_async, completed_scheduled _ quiet, BackgroundTask.program,
      run_asyncCannedPush]
    exact ⟨_, _, inactiveReply shortcode, _, _, rfl, delivered_of_shown configured rfl,
      Or.inr ⟨silent, rfl⟩, rfl, rfl, rfl, rfl⟩
  · have sync : adapter.isAsyncOutbound = false := by simpa using async
    obtain ⟨response, rendered⟩ := render_eq_ok adapter (inactiveReply shortcode)
      (fun _ => statusMessageFor_encodable resolved)
    rw [run_inactiveLeg_sync sync rendered, completed_of_quiet _ (by simp [quiet])]
    exact ⟨_, _, inactiveReply shortcode, _, [], rfl,
      delivered_of_shown configured (shown_of_sync sync rendered), Or.inr ⟨silent, rfl⟩, by simp,
      rfl, rfl, rfl⟩

theorem replyOf_cases (outcome : HandlerOutcome) :
    outcome.reply = some (replyOf outcome) ∨
      outcome.reply = none ∧ (replyOf outcome).action = .END := by
  rcases replied : outcome.reply with _ | reply
  · exact Or.inr ⟨rfl, by rw [replyOf, replied]; rfl⟩
  · exact Or.inl (by rw [replyOf, replied, Option.getD_some])

theorem answered_replied {shortcode : ShortcodeRow} {exchange : HttpExchange}
    (quiet : world.spawned = []) (configured : PushConfigured settings adapter)
    (resolved : world.registry.resolveShortcode adapter.operator ur.serviceCode = some shortcode)
    (active : shortcode.status = .active)
    (answered : environment.answer (handlerCall settings shortcode ur) = .ok exchange)
    (encodable : adapter.isPlainText = true →
      (replyOf (handlerOutcome runtime exchange)).message.Encodable) :
    RepliedAndLogged runtime settings environment adapter world ur
      (completed runtime settings environment
        ((menuLeg runtime settings adapter ur).run (perform environment) world)) := by
  have source := replyOf_cases (handlerOutcome runtime exchange)
  rw [← handlerReply_of_answer resolved active answered] at source
  simp only [menuLeg, Prog.run_bind, run_resolveShortcode, resolved, active, ne_eq,
    not_true_eq_false, if_false]
  by_cases async : adapter.isAsyncOutbound = true
  · cases adapter <;> simp only [Adapter.isAsyncOutbound, Bool.false_eq_true] at async
    simp only [Adapter.isAsyncOutbound, if_true]
    rw [run_asyncLeg_some, completed_scheduled _ quiet, BackgroundTask.program,
      run_asyncForwardThenPush answered]
    exact ⟨_, _, replyOf (handlerOutcome runtime exchange), _, _, rfl,
      delivered_of_shown configured rfl, source, rfl, rfl, rfl, rfl⟩
  · have sync : adapter.isAsyncOutbound = false := by simpa using async
    obtain ⟨response, rendered⟩ := render_eq_ok adapter _ encodable
    simp only [sync, Bool.false_eq_true, if_false]
    rw [run_forwardedLeg answered rendered, completed_of_quiet _ (by simp [quiet])]
    exact ⟨_, _, replyOf (handlerOutcome runtime exchange), _, [], rfl,
      delivered_of_shown configured (shown_of_sync sync rendered), source, by simp, rfl, rfl, rfl⟩

theorem raised_not_replied {shortcode : ShortcodeRow} {error : PyError}
    (quiet : world.spawned = [])
    (resolved : world.registry.resolveShortcode adapter.operator ur.serviceCode = some shortcode)
    (active : shortcode.status = .active)
    (raised : environment.answer (handlerCall settings shortcode ur) = .error error) :
    ¬ RepliedAndLogged runtime settings environment adapter world ur
      (completed runtime settings environment
        ((menuLeg runtime settings adapter ur).run (perform environment) world)) := by
  have failed : (forward runtime settings shortcode ur).run (perform environment) world =
      (.error error, world.called (handlerCall settings shortcode ur)) := by
    simp [forward, Prog.run_bind, raised]
  simp only [menuLeg, Prog.run_bind, run_resolveShortcode, resolved, active, ne_eq,
    not_true_eq_false, if_false]
  rintro ⟨response, after, reply, row, pushed, ran, _, _, _, queue, _⟩
  by_cases async : adapter.isAsyncOutbound = true
  · cases adapter <;> simp only [Adapter.isAsyncOutbound, Bool.false_eq_true] at async
    simp only [Adapter.isAsyncOutbound, if_true] at ran
    rw [run_asyncLeg_some, completed_scheduled _ quiet, BackgroundTask.program,
      asyncForwardThenPush] at ran
    simp only [Prog.run_bind, run_guarded, failed, Prog.pure_eq_done, Prog.run_done,
      Prod.mk.injEq] at ran
    rw [← ran.2] at queue
    exact LogQueue.putNowait_ne _ _ queue.symm
  · have sync : adapter.isAsyncOutbound = false := by simpa using async
    simp only [sync, Bool.false_eq_true, if_false, forwardedLeg, Prog.run_bind, failed] at ran
    exact absurd (congrArg Prod.fst ran) (by simp [completed])

theorem unconfigured_not_replied (quiet : world.spawned = [])
    (unset : settings.halotel.outboundUrl = []) (answers : HandlerAnswers settings environment
      .halotel world ur) :
    ¬ RepliedAndLogged runtime settings environment .halotel world ur
      (completed runtime settings environment
        ((menuLeg runtime settings .halotel ur).run (perform environment) world)) := by
  have nothing : ∀ reply, pushedCalls settings ur reply = [] := fun reply => if_pos unset
  have silent : (completed runtime settings environment
      ((menuLeg runtime settings .halotel ur).run (perform environment) world)).2.pushes =
        world.pushes := by
    simp only [menuLeg, Prog.run_bind, run_resolveShortcode]
    rcases resolved : world.registry.resolveShortcode Adapter.halotel.operator ur.serviceCode with
      _ | shortcode
    · simp only [Adapter.isAsyncOutbound, if_true]
      rw [run_asyncLeg_none, completed_scheduled _ quiet, BackgroundTask.program,
        run_asyncCannedPush]
      simp [nothing]
    · by_cases active : shortcode.status = .active
      · obtain ⟨exchange, answered⟩ := answers shortcode resolved active
        simp only [active, ne_eq, not_true_eq_false, if_false, Adapter.isAsyncOutbound, if_true]
        rw [run_asyncLeg_some, completed_scheduled _ quiet, BackgroundTask.program,
          run_asyncForwardThenPush answered]
        simp [nothing]
      · simp only [active, ne_eq, not_false_eq_true, if_true]
        rw [run_inactiveLeg_async, completed_scheduled _ quiet, BackgroundTask.program,
          run_asyncCannedPush]
        simp [nothing]
  rintro ⟨response, after, reply, row, pushed, ran, delivered, _, pushes, _⟩
  rw [ran] at silent
  have lengths := congrArg List.length (pushes.symm.trans silent)
  rw [List.length_append, delivered, List.length_singleton] at lengths
  omega

theorem unencodable_not_replied (quiet : world.spawned = [])
    (authenticated : isAuthFailed adapter ur = false) (menu : ur.event.isMenu = true)
    (unencodable : Unencodable runtime settings environment adapter world ur) :
    ¬ RepliedAndLogged runtime settings environment adapter world ur
      (completed runtime settings environment
        ((menuLeg runtime settings adapter ur).run (perform environment) world)) := by
  obtain ⟨after, raised, _⟩ := handleLeg_raises quiet authenticated unencodable
  rw [handleLeg_of_isMenu authenticated menu] at raised
  rintro ⟨response, _, _, _, _, ran, _⟩
  exact absurd (congrArg Prod.fst (raised.symm.trans ran)) (by simp)

theorem menuLeg_replied (quiet : world.spawned = []) (menu : ur.event.isMenu = true)
    (answers : HandlerAnswers settings environment adapter world ur)
    (shown : ¬ Unencodable runtime settings environment adapter world ur)
    (configured : PushConfigured settings adapter) :
    RepliedAndLogged runtime settings environment adapter world ur
      (completed runtime settings environment
        ((menuLeg runtime settings adapter ur).run (perform environment) world)) := by
  rcases resolved : world.registry.resolveShortcode adapter.operator ur.serviceCode with
    _ | shortcode
  · exact notConfigured_replied quiet configured resolved
  by_cases active : shortcode.status = .active
  · obtain ⟨exchange, answered⟩ := answers shortcode resolved active
    refine answered_replied quiet configured resolved active answered ?_
    intro plain
    rcases replied : (handlerOutcome runtime exchange).reply with _ | reply
    · rw [replyOf, replied, Option.getD_none]
      exact Str.encodable_lit _
    · by_contra lone
      rw [replyOf, replied, Option.getD_some] at lone
      exact shown ⟨plain, menu, reply,
        (handlerReply_of_answer resolved active answered).trans replied, lone⟩
  · exact inactive_replied quiet configured resolved active

theorem menuLeg_replied_iff (quiet : world.spawned = [])
    (authenticated : isAuthFailed adapter ur = false) (menu : ur.event.isMenu = true) :
    RepliedAndLogged runtime settings environment adapter world ur
        (completed runtime settings environment
          ((menuLeg runtime settings adapter ur).run (perform environment) world)) ↔
      HandlerAnswers settings environment adapter world ur ∧
        ¬ Unencodable runtime settings environment adapter world ur ∧
        PushConfigured settings adapter := by
  constructor
  · intro replied
    have answers : HandlerAnswers settings environment adapter world ur := by
      intro shortcode resolved active
      rcases answered : environment.answer (handlerCall settings shortcode ur) with
        error | exchange
      · exact absurd replied (raised_not_replied quiet resolved active answered)
      · exact ⟨exchange, rfl⟩
    refine ⟨answers, ?_, ?_⟩
    · intro unencodable
      exact unencodable_not_replied quiet authenticated menu unencodable replied
    · intro async unset
      cases adapter <;> simp only [Adapter.isAsyncOutbound, Bool.false_eq_true] at async
      exact unconfigured_not_replied quiet unset answers replied
  · rintro ⟨answers, shown, configured⟩
    exact menuLeg_replied quiet menu answers shown configured

/-- For every operator, shortcode, handler reply and exception of the call: a START or INPUT leg
that parses ends with a reply for the subscriber and one log row if and only if its handler, when
it has an active one, raises nothing but timeouts and `RequestError`s, a plain-text reply has no
lone surrogate, and Halotel's pushes have an address. -/
theorem menu_leg_replied_iff {request : Request} {before : World}
    (ran : (adapter.parse runtime request).run (perform environment) before.idle =
      (.ok ur, world)) (menu : ur.event.isMenu = true) :
    RepliedAndLogged runtime settings environment adapter world ur
        (serve runtime settings environment (handleUssd runtime settings adapter.operator request)
          before) ↔
      HandlerAnswers settings environment adapter world ur ∧
        ¬ Unencodable runtime settings environment adapter world ur ∧
        PushConfigured settings adapter := by
  have parsed := parse_spec ran
  rw [serve_handleUssd ran, handleLeg_of_isMenu parsed.authenticated menu]
  exact menuLeg_replied_iff parsed.quiet parsed.authenticated menu

end

def brokenUrl : Str := lit "https://[::1"

def brokenRegistry : Registry where
  operators := sampleRegistry.operators
  shortcodes := [{ sampleShortcode 10 2 "*149*01#" with handlerUrl := brokenUrl }]
  operatorIdsUnique := sampleRegistry.operatorIdsUnique
  operatorNamesUnique := sampleRegistry.operatorNamesUnique
  codesUnique := by decide
  messagesEncodable := by decide

def brokenEnvironment : Environment where
  answer call :=
    if call.url = brokenUrl then .error (.raised (lit "InvalidURL"))
    else .ok { elapsedMs := 20, result := .response 200 (lit "CON Karibu") }
  push _ := .ok { elapsedMs := 20, result := .response 200 [] }
  locked _ := false

theorem invalid_url_drops_leg :
    ∃ ur world, (Adapter.airtel.parse sampleRuntime airtelDial).run (perform brokenEnvironment)
        { sampleWorld with registry := brokenRegistry }.idle = (.ok ur, world) ∧
      ur.event = .start ∧
      ¬ RepliedAndLogged sampleRuntime sampleSettings brokenEnvironment .airtel world ur
        (serve sampleRuntime sampleSettings brokenEnvironment
          (handleUssd sampleRuntime sampleSettings Adapter.airtel.operator airtelDial)
          { sampleWorld with registry := brokenRegistry }) := by
  refine ⟨_, _, rfl, rfl, ?_⟩
  rintro ⟨_, _, _, _, _, ran, _⟩
  cases congrArg Prod.fst ran

theorem airtelDial_replied :
    ∃ ur world, (Adapter.airtel.parse sampleRuntime airtelDial).run
        (perform (sampleEnvironment (lit "CON Karibu"))) sampleWorld.idle = (.ok ur, world) ∧
      RepliedAndLogged sampleRuntime sampleSettings (sampleEnvironment (lit "CON Karibu")) .airtel
        world ur (serve sampleRuntime sampleSettings (sampleEnvironment (lit "CON Karibu"))
          (handleUssd sampleRuntime sampleSettings Adapter.airtel.operator airtelDial)
          sampleWorld) := by
  refine ⟨_, _, rfl, (menu_leg_replied_iff rfl rfl).2 ⟨fun _ _ _ => ⟨_, rfl⟩, ?_, ?_⟩⟩
  · rintro ⟨_, _, reply, replied, lone⟩
    exact absurd lone (by rw [← Option.some.inj replied]; decide)
  · intro async
    exact absurd async (by decide)

end UssdGateway
