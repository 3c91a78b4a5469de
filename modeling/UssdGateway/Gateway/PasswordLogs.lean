import UssdGateway.Gateway.Attribution
import UssdGateway.Gateway.SessionRows
import UssdGateway.Library.TwoRuns

/-!
Two runs of Halotel legs that differ in nothing but the passwords, and the log rows of both. The
password column is redacted; what a handler makes of the raw payload in its body is not.
-/

namespace UssdGateway

open EffectProgram Prog

inductive FieldsTwins : Halotel.Fields → Halotel.Fields → Prop where
  | of (fields : Halotel.Fields) {pass other : Str} (named : pass ≠ []) (otherNamed : other ≠ []) :
      FieldsTwins { fields with pass } { fields with pass := other }

def RequestTwins (first second : Request) : Prop :=
  match Halotel.parseSoap first.body, Halotel.parseSoap second.body with
  | .ok fields, .ok others => FieldsTwins fields others
  | .error error, .error other => error = other
  | _, _ => False

structure UnifiedTwins (first second : UnifiedRequest) : Prop where
  same : { first with rawPayload := [] } = { second with rawPayload := [] }
  raw : ∃ fields others, FieldsTwins fields others ∧
    first.rawPayload = Halotel.rawPayload fields ∧ second.rawPayload = Halotel.rawPayload others

theorem UnifiedTwins.exists_ur {first second : UnifiedRequest}
    (twins : UnifiedTwins first second) :
    ∃ (ur : UnifiedRequest) (fields others : Halotel.Fields), FieldsTwins fields others ∧
      first = { ur with rawPayload := Halotel.rawPayload fields } ∧
      second = { ur with rawPayload := Halotel.rawPayload others } := by
  obtain ⟨same, fields, others, twins, raw, otherRaw⟩ := twins
  refine ⟨first, fields, others, twins, by rw [← raw], ?_⟩
  have shape := congrArg (fun ur => { ur with rawPayload := second.rawPayload }) same
  rw [← otherRaw]
  exact shape.symm

def AcksAlike (environment : Environment) : Prop :=
  ∀ first second : OutboundCall, { first with pass := [] } = { second with pass := [] } →
    environment.push first = environment.push second

/-- Halotel legs that differ in the password, their handlers and their operator the same. -/
structure LegTwins (first second : Leg) : Prop where
  halotel : first.adapter = .halotel
  alsoHalotel : second.adapter = .halotel
  shared : first.environment = second.environment
  acks : AcksAlike first.environment
  requests : RequestTwins first.request second.request

def EventTwins : ServiceEvent → ServiceEvent → Prop
  | .gateway (.leg first), .gateway (.leg second) => LegTwins first second
  | first, second => first = second

structure TwinEvent where
  first : ServiceEvent
  second : ServiceEvent
  twins : EventTwins first second

structure OutcomesAlike (event : SessionEvent) (first second : HandlerOutcome) : Prop where
  statusCode : first.statusCode = second.statusCode
  elapsedMs : first.elapsedMs = second.elapsedMs
  errorClass : first.errorClass = second.errorClass
  errorDetail : first.errorDetail = second.errorDetail
  reply : event.isMenu = true → first.reply = second.reply
  rawResponsePayload : event.isMenu = false →
    first.rawResponsePayload = second.rawResponsePayload

section

variable (runtime : PyRuntime) (settings : Settings)

def RepliesAlike (environment : Environment) (shortcode : ShortcodeRow)
    (first second : UnifiedRequest) : Prop :=
  BothAnswer (fun exchange other => OutcomesAlike first.event (handlerOutcome runtime exchange)
      (handlerOutcome runtime other))
    (environment.answer (handlerCall settings shortcode first))
    (environment.answer (handlerCall settings shortcode second))

def CallsHandler (registry : Registry) (ur : UnifiedRequest) (shortcode : ShortcodeRow) : Prop :=
  registry.resolveShortcode Adapter.halotel.operator ur.serviceCode = some shortcode ∧
    shortcode.status = .active ∧
    (ur.event.isMenu = true ∨ ur.event.isTerminal = true ∧ ur.serviceCode ≠ [])

def twinRuns : StepSystem (World × World) TwinEvent where
  initial worlds := worlds.1 = worlds.2
  step worlds event := some (serviceEvent runtime settings worlds.1 event.first,
    serviceEvent runtime settings worlds.2 event.second)

def AnsweredAlike (worlds : World × World) (event : TwinEvent) : Prop :=
  match event.first, event.second with
  | .gateway (.leg first), .gateway (.leg second) =>
      ∀ ur parsed other otherParsed shortcode, first.parsed runtime worlds.1 = (.ok ur, parsed) →
        second.parsed runtime worlds.2 = (.ok other, otherParsed) →
        CallsHandler worlds.1.registry ur shortcode →
        RepliesAlike runtime settings first.environment shortcode ur other
  | _, _ => True

def LoggedAlike (worlds : World × World) (event : TwinEvent) : Prop :=
  (serviceEvent runtime settings worlds.1 event.first).logQueue =
    (serviceEvent runtime settings worlds.2 event.second).logQueue

end

/-! Worlds that only calls and pushes tell apart. -/

structure SameLogs (first second : World) : Prop where
  registry : first.registry = second.registry
  sessions : first.sessions = second.sessions
  now : first.now = second.now
  logQueue : first.logQueue = second.logQueue

/-- A relation that keeps to what the two worlds have in common and to what they have scheduled. -/
structure LogRelation (rel : World → World → Prop) : Prop where
  same : ∀ first second, rel first second → SameLogs first second
  step : ∀ first second one two, rel first second → SameLogs one two →
    one.registry = first.registry → one.spawned = first.spawned →
    two.spawned = second.spawned → rel one two

theorem sameLogs_relation : LogRelation SameLogs :=
  ⟨fun _ _ same => same, fun _ _ _ _ _ same _ _ _ => same⟩

def GatewayOp.isShared : GatewayOp → Bool
  | spawn _ _ => false
  | _ => true

theorem shared_callOps : CallOps fun op : GatewayOp => op.isShared = true where
  operatorId _ := rfl
  prefixes _ _ := rfl
  read _ := rfl
  write _ := rfl
  resolve _ _ := rfl
  expire _ := rfl
  send _ := rfl
  await _ := rfl
  push _ := rfl
  log _ := rfl

section

variable {environment : Environment} {rel : World → World → Prop} (relation : LogRelation rel)

include relation

theorem alike_shared (op : GatewayOp) (first second : World) (shared : op.isShared = true)
    (related : rel first second) :
    (perform environment op first).1 = (perform environment op second).1 ∧
      rel (perform environment op first).2 (perform environment op second).2 := by
  have same := relation.same _ _ related
  rcases first with ⟨registry, sessions, now, logQueue, calls, pushes, spawned⟩
  rcases second with ⟨registry', sessions', now', logQueue', calls', pushes', spawned'⟩
  obtain ⟨rfl, rfl, rfl, rfl⟩ := same
  cases op with
  | spawn => cases shared
  | claimExpiredSessions idleSecs maxAgeSecs limit perOp =>
      simp only [perform]
      rcases claimExpiredSessions registry sessions now idleSecs maxAgeSecs limit perOp
        environment.locked with _ | ⟨claimed, left⟩
      · exact ⟨rfl, relation.step _ _ _ _ related ⟨rfl, rfl, rfl, rfl⟩ rfl rfl rfl⟩
      · exact ⟨rfl, relation.step _ _ _ _ related ⟨rfl, rfl, rfl, rfl⟩ rfl rfl rfl⟩
  | _ => exact ⟨rfl, relation.step _ _ _ _ related ⟨rfl, rfl, rfl, rfl⟩ rfl rfl rfl⟩

theorem alike_of_uses {α : Type} {program : Program α}
    (uses : program.Uses fun op : GatewayOp => op.isShared = true) :
    InStep (perform environment) rel program program Eq :=
  uses.alike (alike_shared relation)

theorem alike_call {op : GatewayOp} (shared : op.isShared = true) :
    InStep (perform environment) rel (Prog.call (S := gatewayOps) op)
      (Prog.call (S := gatewayOps) op) Eq :=
  alike_of_uses relation (uses_call shared)

theorem alike_logLeg {row other : LogRow} (redacted : row.redacted = other.redacted) :
    InStep (perform environment) rel (Program.logLeg row) (Program.logLeg other) Eq := by
  refine InStep.call ?_
  intro first second related
  refine ⟨relation.step _ _ _ _ related ?_ rfl rfl rfl, rfl⟩
  have same := relation.same _ _ related
  refine ⟨same.registry, same.sessions, same.now, ?_⟩
  change first.logQueue.putNowait row.redacted = second.logQueue.putNowait other.redacted
  rw [same.logQueue, redacted]

theorem alike_sendToHandler (call other : HandlerCall) :
    InStep (perform environment) rel (Program.sendToHandler call) (Program.sendToHandler other)
      Eq := by
  refine InStep.call ?_
  intro first second related
  have same := relation.same _ _ related
  exact ⟨relation.step _ _ _ _ related
    ⟨same.registry, same.sessions, same.now, same.logQueue⟩ rfl rfl rfl, rfl⟩

omit relation in
theorem alike_awaitHandler {call other : HandlerCall} {alike : HttpExchange → HttpExchange → Prop}
    (answered : BothAnswer alike (environment.answer call) (environment.answer other)) :
    InStep (perform environment) rel (Program.awaitHandler call) (Program.awaitHandler other)
      alike := by
  refine InStep.call ?_
  intro first second related
  exact ⟨related, answered⟩

theorem alike_pushToOperator {call other : OutboundCall}
    (answered : environment.push call = environment.push other) :
    InStep (perform environment) rel (Program.pushToOperator call) (Program.pushToOperator other)
      Eq := by
  refine InStep.call ?_
  intro first second related
  have same := relation.same _ _ related
  refine ⟨relation.step _ _ _ _ related
    ⟨same.registry, same.sessions, same.now, same.logQueue⟩ rfl rfl rfl, ?_⟩
  change BothAnswer Eq (environment.push call) (environment.push other)
  rw [answered]
  rcases environment.push other with error | exchange
  · trivial
  · rfl

omit relation in
theorem alike_guarded {α β : Type} {program : Program α} {other : Program β}
    {same : α → β → Prop} (before : InStep (perform environment) rel program other same) :
    InStep (perform environment) rel (guarded program) (guarded other) (Option.Rel same) :=
  InStep.attempt (before.bind fun _ _ related => InStep.done (.some related))
    fun _ _ => InStep.done .none

end

section

variable {runtime : PyRuntime} {settings : Settings} {environment : Environment}
  {rel : World → World → Prop} (relation : LogRelation rel)

include relation

theorem alike_sessionPart {fields others : Halotel.Fields} (twins : FieldsTwins fields others)
    (event : SessionEvent) :
    InStep (perform environment) rel (Halotel.sessionPart fields event)
      (Halotel.sessionPart others event) UnifiedTwins := by
  obtain ⟨fields, named, otherNamed⟩ := twins
  have twins : FieldsTwins { fields with pass := _ } { fields with pass := _ } :=
    .of fields named otherNamed
  simp only [Halotel.sessionPart]
  refine (alike_call relation rfl).bind_same fun operatorId => ?_
  cases event with
  | start =>
      refine (alike_of_uses relation
        (uses_openSession shared_callOps.toParseOps _ _ _ _ _)).bind_same fun route => ?_
      exact InStep.done ⟨rfl, _, _, twins, rfl, rfl⟩
  | input =>
      refine (alike_call relation rfl).bind_same fun prior => ?_
      cases prior with
      | none => exact InStep.done ⟨rfl, _, _, twins, rfl, rfl⟩
      | some prior =>
          refine (alike_of_uses relation
            (uses_extendSession shared_callOps.toParseOps _ _ _ _ _ _)).bind_same fun trail => ?_
          exact InStep.done ⟨rfl, _, _, twins, rfl, rfl⟩
  | _ =>
      refine (alike_call relation rfl).bind_same fun prior => ?_
      exact InStep.done ⟨rfl, _, _, twins, rfl, rfl⟩

theorem alike_parse {first second : Request} (twins : RequestTwins first second) :
    InStep (perform environment) rel (Halotel.parse runtime first) (Halotel.parse runtime second)
      UnifiedTwins := by
  simp only [Halotel.parse]
  rcases one : Halotel.parseSoap first.body with error | fields <;>
    rcases two : Halotel.parseSoap second.body with error' | others <;>
    rw [RequestTwins, one, two] at twins
  · exact InStep.raise _ _
  · cases twins
  · cases twins
  · obtain ⟨fields, named, otherNamed⟩ := id twins
    simp only [raiseOr, Prog.pure_eq_done, Prog.done_bind]
    rcases Halotel.eventOf fields.requesttype with _ | event
    · exact InStep.raise _ _
    · dsimp only
      split
      · exact InStep.raise _ _
      · exact alike_sessionPart relation (.of fields named otherNamed) event

omit relation in
theorem eq_of_rel {α : Type} {first second : Option α} (related : Option.Rel Eq first second) :
    first = second := by
  cases related with
  | some same => rw [same]
  | none => rfl

theorem alike_forward {shortcode : ShortcodeRow} {first second : UnifiedRequest}
    (replies : RepliesAlike runtime settings environment shortcode first second) :
    InStep (perform environment) rel (forward runtime settings shortcode first)
      (forward runtime settings shortcode second) (OutcomesAlike first.event) := by
  refine (alike_sendToHandler relation _ _).bind_same fun _ => ?_
  exact (alike_awaitHandler replies).bind fun _ _ alike => InStep.done alike

theorem alike_pushOutbound {first second : UnifiedRequest} (twins : UnifiedTwins first second)
    (acks : AcksAlike environment) (reply : UnifiedReply) :
    InStep (perform environment) rel
      (Adapter.halotel.pushOutbound runtime settings first reply)
      (Adapter.halotel.pushOutbound runtime settings second reply) Eq := by
  have calls : { Halotel.outboundCall settings.halotel first reply with pass := [] } =
      { Halotel.outboundCall settings.halotel second reply with pass := [] } := by
    obtain ⟨ur, fields, others, ⟨fields, named, otherNamed⟩, rfl, rfl⟩ := twins.exists_ur
    rfl
  simp only [Adapter.pushOutbound, Halotel.pushOutbound]
  split
  · exact InStep.done rfl
  · refine (alike_pushToOperator relation (acks _ _ calls)).bind_same fun exchange => ?_
    exact InStep.done rfl

omit relation in
theorem redactPayload_twins {fields others : Halotel.Fields} (twins : FieldsTwins fields others) :
    redactPayload (Halotel.rawPayload fields) = redactPayload (Halotel.rawPayload others) := by
  obtain ⟨fields, named, otherNamed⟩ := twins
  have sensitive : isSensitiveKey (lit "pass") = true := by decide
  simp [redactPayload, Halotel.rawPayload, sensitive, PayloadValue.truthy, named, otherNamed]

omit relation in
theorem redacted_twins {first second : UnifiedRequest} (twins : UnifiedTwins first second)
    {row other : LogRow} (raw : row.rawRequestPayload = some first.rawPayload)
    (otherRaw : other.rawRequestPayload = some second.rawPayload)
    (rest : { row with rawRequestPayload := none } = { other with rawRequestPayload := none }) :
    row.redacted = other.redacted := by
  obtain ⟨_, fields, others, same, one, two⟩ := twins
  have column : payloadColumn row.rawRequestPayload = payloadColumn other.rawRequestPayload := by
    rw [raw, otherRaw, one, two]
    simp only [payloadColumn]
    rw [if_neg (by simp [Halotel.rawPayload]), if_neg (by simp [Halotel.rawPayload]),
      redactPayload_twins same]
  rw [LogRow.redacted, LogRow.redacted, ← column]
  exact congrArg (fun plain : LogRow =>
    { plain with
      rawRequestPayload := payloadColumn row.rawRequestPayload
      rawResponsePayload := payloadColumn plain.rawResponsePayload }) rest

theorem alike_notifyTerminalEvent {first second : UnifiedRequest}
    (twins : UnifiedTwins first second) {shortcode : ShortcodeRow}
    (terminal : first.event.isMenu = false)
    (replies : RepliesAlike runtime settings environment shortcode first second)
    (ack : UnifiedReply) :
    InStep (perform environment) rel (notifyTerminalEvent runtime settings shortcode first ack)
      (notifyTerminalEvent runtime settings shortcode second ack) Eq := by
  refine (alike_guarded (alike_forward relation replies)).bind fun answered other alike => ?_
  cases alike with
  | none => exact InStep.done rfl
  | @some outcome other alike =>
      refine (alike_guarded (alike_logLeg relation ?_)).bind fun _ _ _ => InStep.done rfl
      refine redacted_twins twins rfl rfl ?_
      obtain ⟨ur, fields, others, _, rfl, rfl⟩ := twins.exists_ur
      simp only [handledRow, legRow, alike.statusCode, alike.elapsedMs, alike.errorClass,
        alike.errorDetail, alike.rawResponsePayload terminal]

theorem alike_asyncForwardThenPush {first second : UnifiedRequest}
    (twins : UnifiedTwins first second) (acks : AcksAlike environment) {shortcode : ShortcodeRow}
    (menu : first.event.isMenu = true)
    (replies : RepliesAlike runtime settings environment shortcode first second) :
    InStep (perform environment) rel
      (asyncForwardThenPush runtime settings .halotel first shortcode)
      (asyncForwardThenPush runtime settings .halotel second shortcode) Eq := by
  refine (alike_guarded (alike_forward relation replies)).bind fun answered other alike => ?_
  cases alike with
  | none => exact InStep.done rfl
  | @some outcome other alike =>
      have reply : replyOf other = replyOf outcome := by
        rw [replyOf, replyOf, alike.reply menu]
      have session : second.sessionId = first.sessionId := by
        obtain ⟨ur, fields, others, _, rfl, rfl⟩ := twins.exists_ur
        rfl
      simp only [reply, session]
      refine (alike_guarded (alike_pushOutbound relation twins acks _)).bind fun _ _ pushed => ?_
      rw [eq_of_rel pushed]
      refine (alike_guarded (alike_of_uses relation
        (uses_expireOnEnd shared_callOps.toServeOps _ _))).bind fun _ _ _ => ?_
      refine alike_logLeg relation (redacted_twins twins rfl rfl ?_)
      obtain ⟨ur, fields, others, _, rfl, rfl⟩ := twins.exists_ur
      simp only [pushedRow, handledRow, legRow, alike.statusCode, alike.elapsedMs,
        alike.errorClass, alike.errorDetail]

theorem alike_asyncCannedPush {first second : UnifiedRequest}
    (twins : UnifiedTwins first second) (acks : AcksAlike environment) (operatorKey : Str)
    (reply : UnifiedReply) (errorClass : Str) (shortcodeId operatorId : Option Nat)
    (operatorName : Option Str) :
    InStep (perform environment) rel
      (asyncCannedPush runtime settings .halotel first operatorKey reply errorClass shortcodeId
        operatorId operatorName)
      (asyncCannedPush runtime settings .halotel second operatorKey reply errorClass shortcodeId
        operatorId operatorName) Eq := by
  have session : second.sessionId = first.sessionId := by
    obtain ⟨ur, fields, others, _, rfl, rfl⟩ := twins.exists_ur
    rfl
  simp only [asyncCannedPush, session]
  cases operatorId
  all_goals
    refine InStep.bind_same ?_ fun opId => ?_
    · first | exact InStep.done rfl | exact alike_call relation rfl
    refine (alike_guarded (alike_pushOutbound relation twins acks _)).bind fun _ _ pushed => ?_
    rw [eq_of_rel pushed]
    refine (alike_guarded (alike_of_uses relation
      (uses_expireActiveSession shared_callOps.toServeOps _))).bind fun _ _ _ => ?_
    refine alike_logLeg relation (redacted_twins twins rfl rfl ?_)
    obtain ⟨ur, fields, others, ⟨_, _, _⟩, rfl, rfl⟩ := twins.exists_ur
    rfl

omit relation

def TasksAlike (runtime : PyRuntime) (settings : Settings) (environment : Environment)
    (task other : BackgroundTask) : Prop :=
  InStep (perform environment) SameLogs (task.program runtime settings)
    (other.program runtime settings) Eq

structure Scheduled (runtime : PyRuntime) (settings : Settings) (environment : Environment)
    (tables : Registry) (first second : World) : Prop extends SameLogs first second where
  known : first.registry = tables
  tasks : List.Forall₂ (TasksAlike runtime settings environment) first.spawned second.spawned

theorem scheduled_relation (tables : Registry) :
    LogRelation (Scheduled runtime settings environment tables) where
  same _ _ scheduled := scheduled.toSameLogs
  step first second one two scheduled same registry spawned spawned' :=
    { same with
      known := registry.trans scheduled.known
      tasks := by rw [spawned, spawned']; exact scheduled.tasks }

theorem alike_spawn {tables : Registry} {task other : BackgroundTask} (referenced : Bool)
    (alike : TasksAlike runtime settings environment task other) :
    InStep (perform environment) (Scheduled runtime settings environment tables)
      (Program.spawn task referenced) (Program.spawn other referenced) Eq := by
  refine InStep.call ?_
  intro first second scheduled
  refine ⟨?_, rfl⟩
  exact { scheduled with
    registry := scheduled.registry
    sessions := scheduled.sessions
    now := scheduled.now
    logQueue := scheduled.logQueue
    known := scheduled.known
    tasks := List.rel_append scheduled.tasks (.cons alike .nil) }

theorem alike_resolveShortcode (tables : Registry) (operatorName code : Str) :
    InStep (perform environment) (Scheduled runtime settings environment tables)
      (Program.resolveShortcode operatorName code) (Program.resolveShortcode operatorName code)
      fun found other => found = other ∧ found = tables.resolveShortcode operatorName code := by
  refine InStep.call ?_
  intro first second scheduled
  refine ⟨scheduled, ?_⟩
  have same := scheduled.registry
  have known := scheduled.known
  change first.registry.resolveShortcode operatorName code =
      second.registry.resolveShortcode operatorName code ∧
    first.registry.resolveShortcode operatorName code =
      tables.resolveShortcode operatorName code
  rw [← same, known]
  exact ⟨rfl, rfl⟩

section

variable {first second : UnifiedRequest} (twins : UnifiedTwins first second) {tables : Registry}

include twins

theorem alike_deliveryAckLeg :
    InStep (perform environment) (Scheduled runtime settings environment tables)
      (deliveryAckLeg .halotel first) (deliveryAckLeg .halotel second) Eq := by
  have relation := @scheduled_relation runtime settings environment tables
  refine (alike_call relation rfl).bind_same fun operatorId => ?_
  refine (alike_of_uses relation (uses_raiseOr _)).bind_same fun response => ?_
  refine (alike_logLeg relation (redacted_twins twins rfl rfl ?_)).bind_same fun _ =>
    InStep.done rfl
  obtain ⟨ur, fields, others, _, rfl, rfl⟩ := twins.exists_ur
  rfl

omit twins in
theorem tasksAlike_canned (twins : UnifiedTwins first second) (acks : AcksAlike environment)
    (operatorKey : Str) (reply : UnifiedReply) (errorClass : Str)
    (shortcodeId operatorId : Option Nat) (operatorName : Option Str) :
    TasksAlike runtime settings environment
      (.asyncCannedPush .halotel first operatorKey reply errorClass shortcodeId operatorId
        operatorName)
      (.asyncCannedPush .halotel second operatorKey reply errorClass shortcodeId operatorId
        operatorName) := by
  rw [TasksAlike, BackgroundTask.program, BackgroundTask.program]
  exact alike_asyncCannedPush sameLogs_relation twins acks _ _ _ _ _ _

variable (replies : ∀ shortcode, CallsHandler tables first shortcode →
  RepliesAlike runtime settings environment shortcode first second)

include replies

theorem alike_terminalLeg (terminal : first.event.isTerminal = true) :
    InStep (perform environment) (Scheduled runtime settings environment tables)
      (terminalLeg .halotel first) (terminalLeg .halotel second) Eq := by
  have relation := @scheduled_relation runtime settings environment tables
  have open' : first.event.isMenu = false := by
    rcases event : first.event <;> simp_all [SessionEvent.isMenu, SessionEvent.isTerminal]
  have same : second.serviceCode = first.serviceCode ∧ second.sessionId = first.sessionId := by
    obtain ⟨ur, fields, others, _, rfl, rfl⟩ := twins.exists_ur
    exact ⟨rfl, rfl⟩
  have looked : InStep (perform environment) (Scheduled runtime settings environment tables)
      (terminalShortcode .halotel first) (terminalShortcode .halotel second)
      fun found other => found = other ∧ ∀ shortcode, found = some shortcode →
        shortcode.status = .active → CallsHandler tables first shortcode := by
    rw [terminalShortcode, terminalShortcode, same.1]
    split
    · refine InStep.done ⟨rfl, ?_⟩
      rintro shortcode ⟨⟩
    next coded =>
      refine (alike_resolveShortcode tables _ _).mono ?_
      rintro found other ⟨same, resolved⟩
      refine ⟨same, ?_⟩
      rintro shortcode rfl active
      exact ⟨resolved.symm, active, Or.inr ⟨terminal, coded⟩⟩
  refine looked.bind ?_
  rintro resolved _ ⟨rfl, called⟩
  refine (alike_of_uses relation
    (uses_terminalOperatorId shared_callOps.toServeOps _ _)).bind_same fun operatorId => ?_
  rw [same.2]
  refine (alike_of_uses relation
    (uses_expireActiveSession shared_callOps.toServeOps _)).bind_same fun _ => ?_
  refine (alike_of_uses relation (uses_raiseOr _)).bind_same fun response => ?_
  refine InStep.bind_same ?_ fun _ => InStep.done rfl
  simp only [notifyOrLog]
  split
  next shortcode notified =>
    refine alike_spawn true ?_
    rw [TasksAlike, BackgroundTask.program, BackgroundTask.program]
    refine alike_notifyTerminalEvent sameLogs_relation twins open' (replies shortcode ?_) _
    apply called shortcode rfl
    by_contra inactive
    rw [terminalNotifySkipReason, if_neg inactive] at notified
    cases notified
  next =>
    refine alike_logLeg relation (redacted_twins twins rfl rfl ?_)
    obtain ⟨ur, fields, others, _, rfl, rfl⟩ := twins.exists_ur
    rfl

theorem alike_menuLeg (acks : AcksAlike environment) (menu : first.event.isMenu = true) :
    InStep (perform environment) (Scheduled runtime settings environment tables)
      (menuLeg runtime settings .halotel first) (menuLeg runtime settings .halotel second) Eq := by
  have relation := @scheduled_relation runtime settings environment tables
  have code : second.serviceCode = first.serviceCode := by
    obtain ⟨ur, fields, others, _, rfl, rfl⟩ := twins.exists_ur
    rfl
  simp only [menuLeg, code]
  refine (alike_resolveShortcode tables _ _).bind ?_
  rintro found _ ⟨rfl, resolved⟩
  rcases found with _ | shortcode
  · refine (alike_of_uses relation (uses_raiseOr _)).bind_same fun response => ?_
    refine (alike_spawn _ ?_).bind_same fun _ => InStep.done rfl
    exact tasksAlike_canned twins acks _ _ _ _ _ _
  · dsimp only
    split
    · refine (alike_of_uses relation (uses_raiseOr _)).bind_same fun response => ?_
      refine (alike_spawn _ ?_).bind_same fun _ => InStep.done rfl
      exact tasksAlike_canned twins acks _ _ _ _ _ _
    next active =>
      refine (alike_of_uses relation (uses_raiseOr _)).bind_same fun response => ?_
      refine (alike_spawn _ ?_).bind_same fun _ => InStep.done rfl
      rw [TasksAlike, BackgroundTask.program, BackgroundTask.program]
      exact alike_asyncForwardThenPush sameLogs_relation twins acks menu
        (replies shortcode ⟨resolved.symm, not_not.1 active, Or.inl menu⟩)

theorem alike_handleLeg (acks : AcksAlike environment)
    (plain : isAuthFailed .halotel first = false) (alsoPlain : isAuthFailed .halotel second = false)
    (wire : first.event ≠ .systemSessionTermination) :
    InStep (perform environment) (Scheduled runtime settings environment tables)
      (handleLeg runtime settings .halotel first) (handleLeg runtime settings .halotel second)
      Eq := by
  have event : second.event = first.event := by
    obtain ⟨ur, fields, others, _, rfl, rfl⟩ := twins.exists_ur
    rfl
  simp only [handleLeg, plain, alsoPlain, event]
  split
  · exact alike_deliveryAckLeg twins
  next unacked =>
    split
    next terminal => exact alike_terminalLeg twins replies terminal
    next open' =>
      refine alike_menuLeg twins replies acks ?_
      rcases here : first.event <;>
        simp_all [SessionEvent.isMenu, SessionEvent.isTerminal]

end

/-! Events. -/

theorem tasksAlike_self (task : BackgroundTask) :
    TasksAlike runtime settings environment task task := by
  have alike : InStep (perform environment) SameLogs (task.program runtime settings)
      (task.program runtime settings) Eq :=
    alike_of_uses sameLogs_relation
      (uses_background shared_callOps.toServeOps runtime settings task)
  exact alike

theorem sameLogs_runBackground {tasks others : List BackgroundTask}
    (alike : List.Forall₂ (TasksAlike runtime settings environment) tasks others)
    {first second : World} (same : SameLogs first second) :
    SameLogs (runBackground runtime settings environment tasks first)
      (runBackground runtime settings environment others second) := by
  induction alike generalizing first second with
  | nil => exact same
  | cons here _ ih => exact ih (InStep.kept here same)

theorem SameLogs.idle {first second : World} (same : SameLogs first second) :
    SameLogs first.idle second.idle :=
  ⟨same.registry, same.sessions, same.now, same.logQueue⟩

theorem sameLogs_swept {first second : World} (same : SameLogs first second) :
    SameLogs (swept runtime settings environment first)
      (swept runtime settings environment second) := by
  have claimed : claimedBy settings environment second.idle =
      claimedBy settings environment first.idle := by
    rw [claimedBy, claimedBy, same.idle.registry, same.idle.sessions, same.idle.now]
  simp only [swept]
  rw [run_expireIdleSessionsOnce, run_expireIdleSessionsOnce, claimed]
  refine sameLogs_runBackground (List.forall₂_same.2 fun task _ => tasksAlike_self task) ?_
  refine ⟨same.registry, ?_, same.now, same.logQueue⟩
  change first.sessions.filter _ = second.sessions.filter _
  rw [same.sessions]

theorem LegTwins.parsed {first second : Leg} (twins : LegTwins first second)
    {world other : World} (same : SameLogs world other) :
    SameLogs (first.parsed runtime world).2 (second.parsed runtime other).2 ∧
      BothAnswer UnifiedTwins (first.parsed runtime world).1 (second.parsed runtime other).1 := by
  obtain ⟨environment, adapter, request⟩ := first
  obtain ⟨environment', adapter', request'⟩ := second
  obtain ⟨halotel, alsoHalotel, shared, _, requests⟩ := twins
  subst halotel alsoHalotel shared
  have parses := @alike_parse runtime environment SameLogs sameLogs_relation _ _ requests
  exact ⟨parses.kept same.idle, parses.answered same.idle⟩

theorem LegTwins.served {first second : Leg} (twins : LegTwins first second)
    {world other : World} (same : SameLogs world other)
    (replies : ∀ ur parsed ur' parsed' shortcode, first.parsed runtime world = (.ok ur, parsed) →
      second.parsed runtime other = (.ok ur', parsed') →
      CallsHandler world.registry ur shortcode →
      RepliesAlike runtime settings first.environment shortcode ur ur') :
    SameLogs (first.served runtime settings world).2 (second.served runtime settings other).2 := by
  obtain ⟨kept, answered⟩ := @LegTwins.parsed runtime _ _ twins _ _ same
  rcases one : first.parsed runtime world with ⟨error | ur, parsed⟩ <;>
    rcases two : second.parsed runtime other with ⟨error' | ur', parsed'⟩ <;>
    rw [one, two] at kept answered
  · rw [served_refused one, served_refused two]
    exact same.idle
  · cases answered
  · cases answered
  · obtain ⟨environment, adapter, request⟩ := first
    obtain ⟨environment', adapter', request'⟩ := second
    obtain ⟨halotel, alsoHalotel, shared, acks, _⟩ := twins
    subst halotel alsoHalotel shared
    have spec := parse_spec one
    have otherSpec := parse_spec two
    have tables : parsed.registry = world.registry := by
      rw [spec.frame]
      rfl
    have scheduled : Scheduled runtime settings environment parsed.registry parsed parsed' :=
      { kept with
        known := rfl
        tasks := by
          rw [spec.quiet, otherSpec.quiet]
          exact .nil }
    have legs := alike_handleLeg answered
      (fun shortcode called => replies ur parsed ur' parsed' shortcode one two (tables ▸ called))
      acks spec.authenticated otherSpec.authenticated spec.wire
    have done := legs.kept scheduled
    rw [Leg.served, Leg.served, serve_handleUssd one, serve_handleUssd two]
    exact sameLogs_runBackground done.tasks done.toSameLogs.idle

theorem sameLogs_event {worlds : World × World} (event : TwinEvent)
    (same : SameLogs worlds.1 worlds.2)
    (answered : AnsweredAlike runtime settings worlds event) :
    SameLogs (serviceEvent runtime settings worlds.1 event.first)
      (serviceEvent runtime settings worlds.2 event.second) := by
  obtain ⟨first, second, twins⟩ := event
  rcases first with (first | lost | registry | micros) | environment <;>
    rcases second with (second | _ | _ | _) | _
  case gateway.leg.gateway.leg =>
    exact LegTwins.served twins same answered
  case gateway.rowsLost.gateway.rowsLost =>
    cases twins
    refine ⟨same.registry, ?_, same.now, same.logQueue⟩
    change worlds.1.sessions.filter lost = worlds.2.sessions.filter lost
    rw [same.sessions]
  case gateway.registryChanged.gateway.registryChanged =>
    cases twins
    exact ⟨rfl, same.sessions, same.now, same.logQueue⟩
  case gateway.elapsed.gateway.elapsed =>
    cases twins
    exact ⟨same.registry, same.sessions, congrArg (· + micros) same.now, same.logQueue⟩
  case sweep.sweep =>
    cases twins
    exact sameLogs_swept same
  all_goals cases twins

theorem repliesAlike_of_legacy {shortcode : ShortcodeRow} {first second : UnifiedRequest}
    (twins : UnifiedTwins first second) (legacy : shortcode.payloadFormat = .legacy) :
    RepliesAlike runtime settings environment shortcode first second := by
  obtain ⟨ur, fields, others, _, rfl, rfl⟩ := twins.exists_ur
  simp only [RepliesAlike, handlerCall, buildHandlerPayload, legacy]
  generalize environment.answer _ = answered
  rcases answered with error | exchange
  · trivial
  · exact ⟨rfl, rfl, rfl, rfl, fun _ => rfl, fun _ => rfl⟩

theorem answeredAlike_of_legacy {worlds : World × World} (event : TwinEvent)
    (same : SameLogs worlds.1 worlds.2)
    (legacy : ∀ code shortcode,
      worlds.1.registry.resolveShortcode Adapter.halotel.operator code = some shortcode →
      shortcode.payloadFormat = .legacy) :
    AnsweredAlike runtime settings worlds event := by
  obtain ⟨first, second, twins⟩ := event
  rcases first with (first | _ | _ | _) | _ <;> rcases second with (second | _ | _ | _) | _
  case gateway.leg.gateway.leg =>
    intro ur parsed other otherParsed shortcode one two called
    have answered := (@LegTwins.parsed runtime _ _ twins _ _ same).2
    rw [one, two] at answered
    exact repliesAlike_of_legacy answered (legacy _ _ called.1)
  all_goals trivial

end

/-- In two runs of Halotel legs from the same tables that differ in nothing but the passwords, where
the handlers that the legs reach reply alike to both, every log row is the same. -/
theorem rows_same_for_any_password (runtime : PyRuntime) (settings : Settings)
    {worlds : World × World} (initial : (twinRuns runtime settings).initial worlds)
    {events : List TwinEvent}
    (answered : (twinRuns runtime settings).Along (AnsweredAlike runtime settings) worlds events) :
    (twinRuns runtime settings).Along (LoggedAlike runtime settings) worlds events := by
  have same : SameLogs worlds.1 worlds.2 := by
    have equal : worlds.1 = worlds.2 := initial
    rw [equal]
    exact ⟨rfl, rfl, rfl, rfl⟩
  clear initial
  induction events generalizing worlds with
  | nil => trivial
  | cons event rest ih =>
      have after := sameLogs_event event same answered.1
      refine ⟨after.logQueue, fun reached stepped => ?_⟩
      obtain rfl := Option.some.inj stepped
      exact ih (answered.2 _ rfl) after

def echoedPass : HandlerPayload → Str
  | .gateway _ _ _ _ _ _ rawPayload => rawPayload.getText (lit "pass")
  | .legacy _ _ _ _ _ => []

def echoEnvironment : Environment where
  answer call := .ok ⟨20, .response 200 (lit "CON " ++ echoedPass call.payload)⟩
  push _ := .ok ⟨30, .response 200 (lit "<errorCode>0</errorCode>")⟩
  locked _ := false

def passRequest (pass : String) : Request where
  partnerSlug := none
  queryParams := []
  contentType := some (lit "text/xml")
  body :=
    { isEmpty := false
      xml := .ok (.node (Halotel.soapTag "Envelope") none
        [.node (Halotel.soapTag "Body") none
          [.node (Halotel.tempuriTag "InsertMO") none
            [soapLeaf "pass" pass, soapLeaf "msisdn" "255620000001", soapLeaf "msg" "*149*01#",
              soapLeaf "transactionid" "T1", soapLeaf "requestType" "100"]]])
      json := none
      form := [] }

def passFields : Halotel.Fields where
  user := []
  pass := []
  msisdn := lit "255620000001"
  msg := lit "*149*01#"
  sessionid := []
  transactionid := lit "T1"
  requesttype := lit "100"
  ussdgwId := []
  imsi := []

def passTwins : TwinEvent where
  first := legEvent ⟨echoEnvironment, .halotel, passRequest "first"⟩
  second := legEvent ⟨echoEnvironment, .halotel, passRequest "second"⟩
  twins := LegTwins.mk rfl rfl rfl (fun _ _ _ => rfl) <|
    @FieldsTwins.of passFields (lit "first") (lit "second") (by decide) (by decide)

def legacyHalotel : Registry where
  operators := sampleRegistry.operators
  shortcodes := [{ sampleShortcode 12 4 "*149*01#" with payloadFormat := .legacy }]
  operatorIdsUnique := sampleRegistry.operatorIdsUnique
  operatorNamesUnique := sampleRegistry.operatorNamesUnique
  codesUnique := by decide
  messagesEncodable := by decide

def legacyWorld : World := { sampleWorld with registry := legacyHalotel }

theorem legacy_rows_same :
    (twinRuns sampleRuntime sampleSettings).Along (LoggedAlike sampleRuntime sampleSettings)
      (legacyWorld, legacyWorld) [passTwins] := by
  refine @rows_same_for_any_password sampleRuntime sampleSettings (legacyWorld, legacyWorld) rfl
    _ ?_
  refine (StepSystem.along_cons rfl).2 ⟨answeredAlike_of_legacy _ ⟨rfl, rfl, rfl, rfl⟩ ?_, trivial⟩
  intro code shortcode resolved
  obtain ⟨record, member, rfl, _⟩ := Registry.resolveShortcode_spec resolved
  rw [List.mem_singleton.1 member]
  rfl

theorem password_echoed_to_log :
    (twinRuns sampleRuntime sampleSettings).initial (halotelWorld, halotelWorld) ∧
      ¬ (twinRuns sampleRuntime sampleSettings).Along (LoggedAlike sampleRuntime sampleSettings)
        (halotelWorld, halotelWorld) [passTwins] := by
  refine ⟨rfl, ?_⟩
  intro along
  have rows := congrArg (fun queue : LogQueue => queue.rows.map LogRow.handlerResponseText) along.1
  exact absurd rows (by decide)

end UssdGateway
