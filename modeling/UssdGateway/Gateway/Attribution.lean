import UssdGateway.Gateway.Service

/-!
The shortcode that each log row is filed under. Legs of a session with a cache row belong to the
shortcode its cached code resolves to.
-/

namespace UssdGateway

open EffectProgram

def newRows (before after : World) : List LogRow :=
  after.logQueue.rows.drop before.logQueue.rows.length

section

variable (runtime : PyRuntime) (settings : Settings)

/-- Every row of a session with a live cache row carries the shortcode that the cached code
resolves to. -/
def Attributed (before : World) : ServiceEvent → Prop
  | .gateway (.leg leg) => ∀ ur parsed cached shortcode,
      leg.parsed runtime before = (.ok ur, parsed) →
      parsed.sessions.find (legKey before leg.adapter ur) = some cached →
      before.registry.resolveShortcode leg.adapter.operator cached.serviceCode = some shortcode →
      ∀ row ∈ newRows before (leg.served runtime settings before).2,
        row.shortcodeId = some shortcode.id
  | .gateway _ => True
  | .sweep environment => ∀ cached ∈ before.sessions.rows, ∀ operatorName shortcode,
      before.registry.operatorName cached.operatorId = some operatorName →
      before.registry.resolveShortcode operatorName cached.serviceCode = some shortcode →
      ∀ row ∈ newRows before (swept runtime settings environment before),
        row.sessionId = cached.sessionId → row.operatorId = cached.operatorId →
        row.shortcodeId = some shortcode.id

/-- No DELIVERY_ACK, no START that dials another code than the cached one, and no idle session of
a shortcode that is not active, unless the cache row itself names the shortcode. -/
def Attributable (before : World) : ServiceEvent → Prop
  | .gateway (.leg leg) => ∀ ur parsed cached shortcode,
      leg.parsed runtime before = (.ok ur, parsed) →
      parsed.sessions.find (legKey before leg.adapter ur) = some cached →
      before.registry.resolveShortcode leg.adapter.operator cached.serviceCode = some shortcode →
      if ur.event = .deliveryAck then cached.shortcodeId = some shortcode.id
      else ur.serviceCode = cached.serviceCode ∧ cached.serviceCode ≠ []
  | .gateway _ => True
  | .sweep environment => ∀ expired ∈ claimedBy settings environment before, ∀ shortcode,
      before.registry.resolveShortcode expired.operatorName expired.serviceCode =
        some shortcode →
      expired.serviceCode ≠ [] ∧ shortcode.status = .active ∨
        expired.shortcodeId = some shortcode.id

end

/-! Programs that log only good rows. -/

structure LogsOnly (registry : Registry) (rows : List LogRow) (good : LogRow → Prop)
    (allowed : BackgroundTask → Prop) (world : World) : Prop where
  routes : world.registry = registry
  written : ∃ new, world.logQueue.rows = rows ++ new ∧ ∀ row ∈ new, good row
  scheduled : ∀ task ∈ world.spawned, allowed task

section

variable (environment : Environment) (registry : Registry) (rows : List LogRow)
  (good : LogRow → Prop) (allowed : BackgroundTask → Prop)

def Logs {α : Type} (program : Program α) (answers : α → Prop) : Prop :=
  Prog.Keeps (perform environment) (LogsOnly registry rows good allowed) program answers

end

section

variable {environment : Environment} {registry : Registry} {rows : List LogRow}
  {good : LogRow → Prop} {allowed : BackgroundTask → Prop}

theorem logs_operatorId (name : Str) :
    Logs environment registry rows good allowed (Program.operatorId name)
      fun id => id = registry.operatorId name := by
  apply Prog.Keeps.call
  intro world inv
  refine ⟨inv, ?_⟩
  intro id answered
  rw [← inv.routes]
  exact (Except.ok.inj answered).symm

theorem logs_resolveShortcode (operatorName code : Str) :
    Logs environment registry rows good allowed (Program.resolveShortcode operatorName code)
      fun resolved => resolved = registry.resolveShortcode operatorName code := by
  apply Prog.Keeps.call
  intro world inv
  refine ⟨inv, ?_⟩
  intro resolved answered
  rw [← inv.routes]
  exact (Except.ok.inj answered).symm

theorem logs_expireActiveSession (key : SessionKey) :
    Logs environment registry rows good allowed (Program.expireActiveSession key)
      fun _ => True := by
  apply Prog.Keeps.call
  intro world inv
  exact ⟨⟨inv.routes, inv.written, inv.scheduled⟩, fun _ _ => trivial⟩

theorem logs_sendToHandler (call : HandlerCall) :
    Logs environment registry rows good allowed (Program.sendToHandler call) fun _ => True := by
  apply Prog.Keeps.call
  intro world inv
  exact ⟨⟨inv.routes, inv.written, inv.scheduled⟩, fun _ _ => trivial⟩

theorem logs_awaitHandler (call : HandlerCall) :
    Logs environment registry rows good allowed (Program.awaitHandler call) fun _ => True := by
  apply Prog.Keeps.call
  intro world inv
  exact ⟨inv, fun _ _ => trivial⟩

theorem logs_pushToOperator (call : OutboundCall) :
    Logs environment registry rows good allowed (Program.pushToOperator call)
      fun _ => True := by
  apply Prog.Keeps.call
  intro world inv
  exact ⟨⟨inv.routes, inv.written, inv.scheduled⟩, fun _ _ => trivial⟩

theorem logs_logLeg {row : LogRow} (accepted : good row.redacted) :
    Logs environment registry rows good allowed (Program.logLeg row) fun _ => True := by
  apply Prog.Keeps.call
  intro world inv
  refine ⟨⟨inv.routes, ?_, inv.scheduled⟩, fun _ _ => trivial⟩
  obtain ⟨new, queued, all⟩ := inv.written
  simp only [perform, World.logged, LogQueue.putNowait]
  split
  · refine ⟨new ++ [row.redacted], by rw [queued, List.append_assoc], ?_⟩
    intro other member
    rcases List.mem_append.1 member with earlier | last
    · exact all other earlier
    · exact List.mem_singleton.1 last ▸ accepted
  · exact ⟨new, queued, all⟩

theorem logs_spawn {task : BackgroundTask} (referenced : Bool) (permitted : allowed task) :
    Logs environment registry rows good allowed (Program.spawn task referenced)
      fun _ => True := by
  apply Prog.Keeps.call
  intro world inv
  refine ⟨⟨inv.routes, inv.written, ?_⟩, fun _ _ => trivial⟩
  intro other member
  rcases List.mem_append.1 member with earlier | last
  · exact inv.scheduled other earlier
  · exact List.mem_singleton.1 last ▸ permitted

theorem logs_pure {α : Type} (value : α) :
    Logs environment registry rows good allowed (pure value) fun _ => True :=
  Prog.Keeps.done trivial

theorem logs_raiseOr {α : Type} (value : Except PyError α) :
    Logs environment registry rows good allowed (raiseOr value) fun _ => True := by
  cases value with
  | ok value => exact Prog.Keeps.done trivial
  | error error => exact Prog.Keeps.raise error

theorem logs_guarded {α : Type} {program : Program α} {answers : α → Prop}
    (logs : Logs environment registry rows good allowed program answers) :
    Logs environment registry rows good allowed (guarded program)
      fun answer => ∀ value ∈ answer, answers value := by
  apply Prog.Keeps.attempt
  · refine Prog.Keeps.bind logs fun value answered => Prog.Keeps.done ?_
    rintro _ ⟨⟩
    exact answered
  · intro _
    exact Prog.Keeps.done (by simp)

theorem logs_forward (runtime : PyRuntime) (settings : Settings) (shortcode : ShortcodeRow)
    (ur : UnifiedRequest) :
    Logs environment registry rows good allowed (forward runtime settings shortcode ur)
      fun _ => True :=
  Prog.Keeps.bind (logs_sendToHandler _) fun _ _ =>
    Prog.Keeps.bind (logs_awaitHandler _) fun _ _ => Prog.Keeps.done trivial

theorem logs_pushOutbound (adapter : Adapter) (runtime : PyRuntime) (settings : Settings)
    (ur : UnifiedRequest) (reply : UnifiedReply) :
    Logs environment registry rows good allowed (adapter.pushOutbound runtime settings ur reply)
      fun _ => True := by
  cases adapter with
  | halotel =>
      simp only [Adapter.pushOutbound, Halotel.pushOutbound]
      split
      · exact Prog.Keeps.done trivial
      · exact Prog.Keeps.bind (logs_pushToOperator _) fun _ _ => Prog.Keeps.done trivial
  | _ => exact Prog.Keeps.raise _

theorem logs_expireOnEnd (action : Action) (key : SessionKey) :
    Logs environment registry rows good allowed (expireOnEnd action key) fun _ => True := by
  cases action with
  | END => exact logs_expireActiveSession key
  | CON => exact Prog.Keeps.done trivial

theorem logsOnly_runBackground {runtime : PyRuntime} {settings : Settings}
    {tasks : List BackgroundTask}
    (each : ∀ task ∈ tasks, Logs environment registry rows good allowed
      (task.program runtime settings) fun _ => True)
    {world : World} (inv : LogsOnly registry rows good allowed world) :
    LogsOnly registry rows good allowed
      (runBackground runtime settings environment tasks world) := by
  induction tasks generalizing world with
  | nil => exact inv
  | cons task rest ih =>
      rw [runBackground]
      exact ih (fun other member => each other (List.mem_cons_of_mem _ member))
        (each task List.mem_cons_self world inv).1

end

def FiledUnder (shortcodeId : Nat) (row : LogRow) : Prop := row.shortcodeId = some shortcodeId

section

variable {environment : Environment} {registry : Registry} {rows : List LogRow}
  {allowed : BackgroundTask → Prop} {runtime : PyRuntime} {settings : Settings}
  {adapter : Adapter} {ur : UnifiedRequest} {shortcode : ShortcodeRow}

theorem logs_notifyTerminalEvent (ack : UnifiedReply) :
    Logs environment registry rows (FiledUnder shortcode.id) allowed
      (notifyTerminalEvent runtime settings shortcode ur ack) fun _ => True := by
  refine Prog.Keeps.bind (logs_guarded (logs_forward runtime settings shortcode ur)) ?_
  intro answered _
  rcases answered with _ | outcome
  · exact logs_pure _
  · exact Prog.Keeps.bind (logs_guarded (logs_logLeg rfl)) fun _ _ => logs_pure _

theorem logs_asyncForwardThenPush :
    Logs environment registry rows (FiledUnder shortcode.id) allowed
      (asyncForwardThenPush runtime settings adapter ur shortcode) fun _ => True := by
  refine Prog.Keeps.bind (logs_guarded (logs_forward runtime settings shortcode ur)) ?_
  intro answered _
  rcases answered with _ | outcome
  · exact logs_pure _
  · refine Prog.Keeps.bind (logs_guarded (logs_pushOutbound _ _ _ _ _)) fun _ _ => ?_
    refine Prog.Keeps.bind (logs_guarded (logs_expireOnEnd _ _)) fun _ _ => ?_
    exact logs_logLeg rfl

theorem logs_asyncCannedPush {shortcodeId : Nat} (operatorKey : Str) (reply : UnifiedReply)
    (errorClass : Str) (operatorId : Nat) (operatorName : Option Str) :
    Logs environment registry rows (FiledUnder shortcodeId) allowed
      (asyncCannedPush runtime settings adapter ur operatorKey reply errorClass (some shortcodeId)
        (some operatorId) operatorName) fun _ => True := by
  refine Prog.Keeps.bind (logs_pure operatorId) fun _ _ => ?_
  refine Prog.Keeps.bind (logs_guarded (logs_pushOutbound _ _ _ _ _)) fun _ _ => ?_
  refine Prog.Keeps.bind (logs_guarded (logs_expireActiveSession _)) fun _ _ => ?_
  exact logs_logLeg rfl

def TaskLogs (runtime : PyRuntime) (settings : Settings) (environment : Environment)
    (registry : Registry) (rows : List LogRow) (good : LogRow → Prop)
    (task : BackgroundTask) : Prop :=
  Logs environment registry rows good (fun _ => True) (task.program runtime settings)
    fun _ => True

theorem logs_inactiveLeg :
    Logs environment registry rows (FiledUnder shortcode.id)
      (TaskLogs runtime settings environment registry rows (FiledUnder shortcode.id))
      (inactiveLeg adapter ur shortcode) fun _ => True := by
  rw [inactiveLeg]
  split
  · refine Prog.Keeps.bind (logs_raiseOr _) fun _ _ => ?_
    exact Prog.Keeps.bind (logs_spawn _ (logs_asyncCannedPush _ _ _ _ _)) fun _ _ =>
      logs_pure _
  · refine Prog.Keeps.bind (logs_raiseOr _) fun _ _ => ?_
    refine Prog.Keeps.bind (logs_expireActiveSession _) fun _ _ => ?_
    exact Prog.Keeps.bind (logs_logLeg rfl) fun _ _ => logs_pure _

theorem logs_menuLeg
    (resolved : registry.resolveShortcode adapter.operator ur.serviceCode = some shortcode) :
    Logs environment registry rows (FiledUnder shortcode.id)
      (TaskLogs runtime settings environment registry rows (FiledUnder shortcode.id))
      (menuLeg runtime settings adapter ur) fun _ => True := by
  refine Prog.Keeps.bind (logs_resolveShortcode _ _) ?_
  intro found same
  rw [same, resolved]
  dsimp only
  split
  · exact logs_inactiveLeg
  · split
    · refine Prog.Keeps.bind (logs_raiseOr _) fun _ _ => ?_
      exact Prog.Keeps.bind (logs_spawn _ logs_asyncForwardThenPush) fun _ _ => logs_pure _
    · refine Prog.Keeps.bind (logs_forward _ _ _ _) fun _ _ => ?_
      refine Prog.Keeps.bind (logs_raiseOr _) fun _ _ => ?_
      refine Prog.Keeps.bind (logs_expireOnEnd _ _) fun _ _ => ?_
      exact Prog.Keeps.bind (logs_logLeg rfl) fun _ _ => logs_pure _

theorem logs_notifyOrLog (operatorId : Nat) :
    Logs environment registry rows (FiledUnder shortcode.id)
      (TaskLogs runtime settings environment registry rows (FiledUnder shortcode.id))
      (notifyOrLog adapter ur (some shortcode) operatorId) fun _ => True := by
  simp only [notifyOrLog]
  split
  next notified _ =>
    cases notified
    exact logs_spawn _ (logs_notifyTerminalEvent _)
  next => exact logs_logLeg rfl

theorem logs_terminalLeg (coded : ur.serviceCode ≠ [])
    (resolved : registry.resolveShortcode adapter.operator ur.serviceCode = some shortcode) :
    Logs environment registry rows (FiledUnder shortcode.id)
      (TaskLogs runtime settings environment registry rows (FiledUnder shortcode.id))
      (terminalLeg adapter ur) fun _ => True := by
  have found : Logs environment registry rows (FiledUnder shortcode.id)
      (TaskLogs runtime settings environment registry rows (FiledUnder shortcode.id))
      (terminalShortcode adapter ur) fun answer => answer = some shortcode := by
    rw [terminalShortcode, if_neg coded, ← resolved]
    exact logs_resolveShortcode _ _
  refine Prog.Keeps.bind found ?_
  rintro _ rfl
  refine Prog.Keeps.bind (logs_pure shortcode.operatorId) fun operatorId _ => ?_
  refine Prog.Keeps.bind (logs_expireActiveSession _) fun _ _ => ?_
  refine Prog.Keeps.bind (logs_raiseOr _) fun _ _ => ?_
  exact Prog.Keeps.bind (logs_notifyOrLog _) fun _ _ => logs_pure _

theorem logs_deliveryAckLeg {shortcodeId : Nat} (known : ur.shortcodeId = some shortcodeId) :
    Logs environment registry rows (FiledUnder shortcodeId)
      (TaskLogs runtime settings environment registry rows (FiledUnder shortcodeId))
      (deliveryAckLeg adapter ur) fun _ => True := by
  refine Prog.Keeps.bind (logs_operatorId _) fun _ _ => ?_
  refine Prog.Keeps.bind (logs_raiseOr _) fun _ _ => ?_
  exact Prog.Keeps.bind (logs_logLeg known) fun _ _ => logs_pure _

def Registry.expiredTarget (registry : Registry) (expired : ExpiredSession) :
    Option ShortcodeRow :=
  if expired.serviceCode = [] then none
  else registry.resolveShortcode expired.operatorName expired.serviceCode

theorem logs_expiredShortcode {good : LogRow → Prop} (expired : ExpiredSession) :
    Logs environment registry rows good allowed (expiredShortcode expired)
      fun answer => ∀ target ∈ answer, target = registry.expiredTarget expired := by
  rw [expiredShortcode, Registry.expiredTarget]
  split
  · exact Prog.Keeps.done (by simp)
  · exact logs_guarded (logs_resolveShortcode _ _)

theorem logs_notifySessionExpired {good : LogRow → Prop} {expired : ExpiredSession}
    (notified : ∀ shortcode outcome, registry.expiredTarget expired = some shortcode →
      good (expiredRow runtime expired (some (shortcode, outcome)) none).redacted)
    (skipped : ∀ reason, terminalNotifySkipReason (registry.expiredTarget expired) ≠ none →
      good (expiredRow runtime expired none reason).redacted) :
    Logs environment registry rows good allowed (notifySessionExpired runtime settings expired)
      fun _ => True := by
  refine Prog.Keeps.bind (logs_expiredShortcode expired) ?_
  intro answer found
  rcases answer with _ | target
  · exact logs_pure _
  · have isTarget := found target rfl
    dsimp only
    split
    next shortcode _ =>
      refine Prog.Keeps.bind (logs_guarded (logs_forward _ _ _ _)) ?_
      intro outcome _
      rcases outcome with _ | outcome
      · exact logs_pure _
      · exact Prog.Keeps.bind (logs_guarded (logs_logLeg (notified _ outcome isTarget.symm)))
          fun _ _ => logs_pure _
    next target _ _ unmatched =>
      refine Prog.Keeps.bind (logs_guarded (logs_logLeg (skipped _ ?_))) fun _ _ => logs_pure _
      rw [← isTarget]
      intro reasonless
      rcases target with _ | shortcode
      · cases reasonless
      · exact unmatched shortcode rfl reasonless

end

section

variable {runtime : PyRuntime} {settings : Settings} {environment : Environment}
  {before world : World} {ur : UnifiedRequest} {adapter : Adapter}

theorem newRows_good {registry : Registry} {good : LogRow → Prop}
    {allowed : BackgroundTask → Prop} {after : World}
    (logs : LogsOnly registry before.logQueue.rows good allowed after) :
    ∀ row ∈ newRows before after, good row := by
  obtain ⟨new, queued, all⟩ := logs.written
  rw [newRows, queued, List.drop_left]
  exact all

theorem completed_good {good : LogRow → Prop} {program : Program Response}
    (start : LogsOnly before.registry before.logQueue.rows good
      (TaskLogs runtime settings environment before.registry before.logQueue.rows good) world)
    (logs : Logs environment before.registry before.logQueue.rows good
      (TaskLogs runtime settings environment before.registry before.logQueue.rows good) program
      fun _ => True) :
    ∀ row ∈ newRows before (completed runtime settings environment
      (program.run (perform environment) world)).2, good row := by
  have answered := (logs world start).1
  have idle : LogsOnly before.registry before.logQueue.rows good (fun _ => True)
      (program.run (perform environment) world).2.idle :=
    ⟨answered.routes, answered.written, fun _ _ => trivial⟩
  exact newRows_good (logsOnly_runBackground answered.scheduled idle)

theorem ParsedLeg.logsOnly {lostCode : Str} {good : LogRow → Prop}
    {allowed : BackgroundTask → Prop} (parsed : ParsedLeg adapter lostCode before.idle ur world) :
    LogsOnly before.registry before.logQueue.rows good allowed world := by
  refine ⟨by rw [parsed.frame]; rfl, ⟨[], ?_, by simp⟩, by simp [parsed.quiet]⟩
  rw [parsed.frame, List.append_nil]
  rfl

theorem deliveryAck_shortcodeId {request : Request} {cached : ActiveSessionRow}
    (ran : (adapter.parse runtime request).run (perform environment) before = (.ok ur, world))
    (ack : ur.event = .deliveryAck)
    (found : world.sessions.find (legKey before adapter ur) = some cached) :
    ur.shortcodeId = cached.shortcodeId := by
  obtain ⟨part, same, sessionPart⟩ := exists_sessionPart ran
  rw [same] at ran
  cases sessionPart with
  | vodacom _ wire =>
      obtain ⟨_, here | ⟨_, terminal⟩⟩ := vodacom_leg ran
      · rw [← here, ack] at wire
        simp [SessionEvent.isTerminal] at wire
      · rw [ack] at terminal
        cases terminal
  | airtel =>
      have event := (airtel_leg ran).2
      simp [ack] at event
  | tigo =>
      have event := (tigo_leg ran).2
      rw [ack] at event
      split at event <;> cases event
  | halotel =>
      have here := (halotel_leg ran).2
      rw [ack] at here
      subst here
      simp only [Halotel.sessionPart, Prog.run_bind, run_operatorId, run_getActiveSession,
        Prog.pure_eq_done, Prog.run_done, Prod.mk.injEq, Except.ok.injEq] at ran
      obtain ⟨rfl, rfl⟩ := ran
      simp only [legKey] at found
      simp only [SessionTable.getActiveSession, found, Option.map_some, Option.bind_some]

theorem leg_attributed {request : Request} {cached : ActiveSessionRow} {shortcode : ShortcodeRow}
    (ran : (adapter.parse runtime request).run (perform environment) before.idle = (.ok ur, world))
    (found : world.sessions.find (legKey before.idle adapter ur) = some cached)
    (resolved : before.registry.resolveShortcode adapter.operator cached.serviceCode =
      some shortcode)
    (attributable : if ur.event = .deliveryAck then cached.shortcodeId = some shortcode.id
      else ur.serviceCode = cached.serviceCode ∧ cached.serviceCode ≠ []) :
    ∀ row ∈ newRows before (serve runtime settings environment
      (handleUssd runtime settings adapter.operator request) before).2,
      row.shortcodeId = some shortcode.id := by
  have spec := parse_spec ran
  have start : LogsOnly before.registry before.logQueue.rows (FiledUnder shortcode.id)
      (TaskLogs runtime settings environment before.registry before.logQueue.rows
        (FiledUnder shortcode.id)) world := spec.logsOnly
  rw [serve_handleUssd ran]
  by_cases ack : ur.event = .deliveryAck
  · rw [if_pos ack] at attributable
    have known := (deliveryAck_shortcodeId ran ack found).trans attributable
    have leg : handleLeg runtime settings adapter ur = deliveryAckLeg adapter ur := by
      simp [handleLeg, spec.authenticated, ack]
    rw [leg]
    exact completed_good start (logs_deliveryAckLeg known)
  · rw [if_neg ack] at attributable
    obtain ⟨code, coded⟩ := attributable
    rw [← code] at resolved coded
    by_cases terminal : ur.event.isTerminal = true
    · have leg : handleLeg runtime settings adapter ur = terminalLeg adapter ur := by
        simp [handleLeg, spec.authenticated, ack, terminal]
      rw [leg]
      exact completed_good start (logs_terminalLeg coded resolved)
    · have leg : handleLeg runtime settings adapter ur = menuLeg runtime settings adapter ur := by
        simp [handleLeg, spec.authenticated, ack, terminal]
      rw [leg]
      exact completed_good start (logs_menuLeg resolved)

end

section

variable {runtime : PyRuntime} {settings : Settings} {environment : Environment} {before : World}

def FiledByCode (before : World) (row : LogRow) : Prop :=
  ∀ cached ∈ before.sessions.rows, ∀ operatorName shortcode,
    before.registry.operatorName cached.operatorId = some operatorName →
    before.registry.resolveShortcode operatorName cached.serviceCode = some shortcode →
    row.sessionId = cached.sessionId → row.operatorId = cached.operatorId →
    row.shortcodeId = some shortcode.id

theorem filedByCode_of_expired {cached : ActiveSessionRow} {operatorName : Str} {row : LogRow}
    (member : cached ∈ before.sessions.rows)
    (named : before.registry.operatorName cached.operatorId = some operatorName)
    (session : row.sessionId = cached.sessionId) (operator : row.operatorId = cached.operatorId)
    (filed : ∀ shortcode,
      before.registry.resolveShortcode operatorName cached.serviceCode = some shortcode →
      row.shortcodeId = some shortcode.id) : FiledByCode before row := by
  intro other inside otherName shortcode otherNamed resolved sameSession sameOperator
  have same : other = cached := by
    apply before.sessions.eq_of_key inside member
    rw [ActiveSessionRow.key, ActiveSessionRow.key, ← sameSession, ← sameOperator, session,
      operator]
  subst same
  have sameName : otherName = operatorName := Option.some.inj (otherNamed.symm.trans named)
  rw [sameName] at resolved
  exact filed shortcode resolved

theorem expired_attributed {expired : ExpiredSession}
    (claimed : expired ∈ claimedBy settings environment before)
    (attributable : ∀ shortcode,
      before.registry.resolveShortcode expired.operatorName expired.serviceCode =
        some shortcode →
      expired.serviceCode ≠ [] ∧ shortcode.status = .active ∨
        expired.shortcodeId = some shortcode.id)
    (rows : List LogRow) (allowed : BackgroundTask → Prop) :
    Logs environment before.registry rows (FiledByCode before) allowed
      (notifySessionExpired runtime settings expired) fun _ => True := by
  obtain ⟨cached, member, operatorName, named, _, rfl⟩ :=
    mem_victims (victims_of_mem_claimedBy claimed)
  apply logs_notifySessionExpired
  · intro shortcode outcome target
    refine filedByCode_of_expired member named rfl rfl ?_
    intro other resolved
    rw [Registry.expiredTarget] at target
    split at target
    next => cases target
    next =>
      have same : other = shortcode := Option.some.inj (resolved.symm.trans target)
      rw [same]
      rfl
  · intro reason skipped
    refine filedByCode_of_expired member named rfl rfl ?_
    intro shortcode resolved
    rcases attributable shortcode resolved with ⟨coded, active⟩ | known
    · have target : before.registry.expiredTarget (cached.expired operatorName) =
          some shortcode := by
        rw [Registry.expiredTarget, if_neg coded]
        exact resolved
      rw [target, terminalNotifySkipReason, if_pos active] at skipped
      exact absurd rfl skipped
    · exact known

theorem sweep_attributed
    (attributable : Attributable runtime settings before (.sweep environment)) :
    ∀ row ∈ newRows before (swept runtime settings environment before),
      FiledByCode before row := by
  have start : LogsOnly before.registry before.logQueue.rows (FiledByCode before) (fun _ => True)
      ((expireIdleSessionsOnce settings).run (perform environment) before.idle).2.idle := by
    rw [run_expireIdleSessionsOnce]
    exact ⟨rfl, ⟨[], (List.append_nil _).symm, by simp⟩, by simp⟩
  refine newRows_good (logsOnly_runBackground ?_ start)
  intro task member
  rw [run_expireIdleSessionsOnce] at member
  have scheduled : task ∈ (claimedBy settings environment before).map
      BackgroundTask.notifySessionExpired := member
  obtain ⟨expired, claimed, rfl⟩ := List.mem_map.1 scheduled
  exact expired_attributed claimed (attributable expired claimed) _ _

theorem attributed_of_attributable {event : ServiceEvent}
    (attributable : Attributable runtime settings before event) :
    Attributed runtime settings before event := by
  cases event with
  | gateway event =>
      cases event with
      | leg leg =>
          intro ur parsed cached shortcode ran found resolved
          exact leg_attributed ran found resolved
            (attributable ur parsed cached shortcode ran found resolved)
      | _ => trivial
  | sweep environment =>
      intro cached member operatorName shortcode named resolved row logged session operator
      exact sweep_attributed attributable row logged cached member operatorName shortcode named
        resolved session operator

/-- In every run of legs, table changes and sweeper ticks whose steps all meet the condition, every
log row of a session with a live cache row carries the shortcode of the cached code. -/
theorem runs_attributed {world : World} {events : List ServiceEvent}
    (attributable : (serviceRuns runtime settings).Along (Attributable runtime settings) world
      events) :
    (serviceRuns runtime settings).Along (Attributed runtime settings) world events :=
  StepSystem.along_mono (fun _ _ => attributed_of_attributable) attributable

end

def halotelRegistry : Registry where
  operators := sampleRegistry.operators
  shortcodes := [sampleShortcode 12 4 "*149*01#"]
  operatorIdsUnique := sampleRegistry.operatorIdsUnique
  operatorNamesUnique := sampleRegistry.operatorNamesUnique
  codesUnique := by decide
  messagesEncodable := by decide

def soapLeaf (name text : String) : Element := .node (Halotel.tempuriTag name) (some (lit text)) []

def insertMo (requestType msg : String) : Request where
  partnerSlug := none
  queryParams := []
  contentType := some (lit "text/xml")
  body :=
    { isEmpty := false
      xml := .ok (.node (Halotel.soapTag "Envelope") none
        [.node (Halotel.soapTag "Body") none
          [.node (Halotel.tempuriTag "InsertMO") none
            [soapLeaf "msisdn" "255620000001", soapLeaf "msg" msg,
              soapLeaf "transactionid" "T1", soapLeaf "requestType" requestType]]])
      json := none
      form := [] }

def halotelLeg (requestType msg : String) : ServiceEvent :=
  .gateway (.leg ⟨sampleEnvironment (lit "CON Karibu"), .halotel, insertMo requestType msg⟩)

def halotelWorld : World := { sampleWorld with registry := halotelRegistry }

/-- The START leg is filed under the shortcode, the acknowledgement under none. -/
theorem delivery_ack_unattributed :
    ¬ (serviceRuns sampleRuntime sampleSettings).Along (Attributed sampleRuntime sampleSettings)
      halotelWorld [halotelLeg "100" "*149*01#", halotelLeg "103" ""] := by
  intro along
  have later := ((StepSystem.along_cons rfl).1 along).2
  have filed := ((StepSystem.along_cons rfl).1 later).1 _ _ _ _ rfl rfl rfl _ List.mem_cons_self
  cases filed

theorem halotel_menu_attributed :
    (serviceRuns sampleRuntime sampleSettings).Along (Attributed sampleRuntime sampleSettings)
      halotelWorld [halotelLeg "100" "*149*01#", halotelLeg "101" "1"] := by
  apply runs_attributed
  refine (StepSystem.along_cons rfl).2 ⟨?_, (StepSystem.along_cons rfl).2 ⟨?_, trivial⟩⟩
  · intro ur parsed cached shortcode ran found resolved
    cases ran
    cases found
    exact ⟨rfl, by decide⟩
  · intro ur parsed cached shortcode ran found resolved
    cases ran
    cases found
    exact ⟨rfl, by decide⟩

end UssdGateway
