import UssdGateway.Gateway.OperationsUsed
import UssdGateway.Gateway.ParsingRuns
import UssdGateway.Library.Courses
import UssdGateway.Library.EffectTraces

/-!
The event loop of a worker, and what becomes of the coroutines that legs and sweeps schedule. The
loop's queue refers to a task that is ready to run. A suspended task is referred to by the future it
waits on, and where nothing else refers to that future the two may be collected at any time.
-/

namespace UssdGateway

open EffectProgram

/-- An `asyncio.Task` of a background coroutine, with the operations it performed. `loose` while it
waits on a future that nothing else refers to. -/
structure AsyncTask where
  coroutine : BackgroundTask
  program : Program Unit
  performed : List (Prog.Performed gatewayOps PyError)
  loose : Bool
  collected : Bool

/-- The calls that a coroutine awaits on the network. The executor refers to those it awaits on a
thread. -/
def GatewayOp.suspends : GatewayOp → Bool
  | .sendToHandler _ | .awaitHandler _ | .pushToOperator _ => true
  | _ => false

def AsyncTask.atCall (task : AsyncTask) : Bool :=
  match task.program with
  | .perform op _ => op.suspends
  | _ => false

/-- The coroutines of a worker. Those that the server and the lifespan await are never collected;
`backgroundTasks` is the set `_BACKGROUND_TASKS`, by task number. -/
structure EventLoop where
  world : World
  awaited : List (Program Unit)
  tasks : List AsyncTask
  backgroundTasks : List Nat

inductive CoroutineEvent where
  | arrives (adapter : Adapter) (request : Request)
  | ticks
  | runs (number : Nat) (handler : Prog.Handler gatewayOps PyError World)
  | works (number : Nat) (handler : Prog.Handler gatewayOps PyError World)
  | suspends (number : Nat)
  | collects (number : Nat)
  | changes (world : World)

section

variable (runtime : PyRuntime) (settings : Settings)

namespace EventLoop

variable (loop : EventLoop)

/-- `asyncio.create_task`, and the reference that `_spawn_background` keeps. -/
def created (coroutine : BackgroundTask) (referenced : Bool) : EventLoop :=
  { loop with
    tasks := loop.tasks ++
      [{ coroutine, program := coroutine.program runtime settings, performed := []
         loose := false, collected := false }]
    backgroundTasks :=
      if referenced then loop.backgroundTasks ++ [loop.tasks.length] else loop.backgroundTasks }

def performs (handler : Prog.Handler gatewayOps PyError World) :
    (op : GatewayOp) → Except PyError op.Answer × EventLoop
  | .spawn coroutine referenced => (.ok (), loop.created runtime settings coroutine referenced)
  | op => ((handler op loop.world).1, { loop with world := (handler op loop.world).2 })

/-- A task that is through drops its own reference: `add_done_callback`. -/
def worked (number : Nat) (task : AsyncTask) : EventLoop :=
  { loop with
    tasks := loop.tasks.set number task
    backgroundTasks :=
      if task.program.isEnded then loop.backgroundTasks.filter (· ≠ number)
      else loop.backgroundTasks }

def awaits (program : Program Unit) : EventLoop :=
  { loop with awaited := loop.awaited ++ [program] }

def step : CoroutineEvent → Option EventLoop
  | .arrives adapter request =>
      some (loop.awaits
        (handleUssd runtime settings adapter.operator request >>= fun _ => pure ()))
  | .ticks => some (loop.awaits (expireIdleSessionsOnce settings >>= fun _ => pure ()))
  | .runs number handler =>
      (loop.awaited[number]?).bind fun program =>
        match program with
        | .perform op next =>
            let answered := loop.performs runtime settings handler op
            some { answered.2 with awaited := answered.2.awaited.set number (next answered.1) }
        | _ => none
  | .works number handler =>
      (loop.tasks[number]?).bind fun task =>
        if task.collected then none
        else
          match task.program with
          | .perform op next =>
              let answered := loop.performs runtime settings handler op
              some (answered.2.worked number
                { task with
                  program := next answered.1
                  performed := task.performed ++ [⟨op, answered.1⟩]
                  loose := false })
          | _ => none
  | .suspends number =>
      (loop.tasks[number]?).bind fun task =>
        if task.atCall ∧ task.collected = false then
          some { loop with tasks := loop.tasks.set number { task with loose := true } }
        else none
  | .collects number =>
      (loop.tasks[number]?).bind fun task =>
        if number ∈ loop.backgroundTasks ∨ task.program.isEnded ∨ task.loose = false then none
        else some { loop with tasks := loop.tasks.set number { task with collected := true } }
  | .changes world => some { loop with world }

def Holds (number : Nat) (coroutine : BackgroundTask) : Prop :=
  ∃ task, loop.tasks[number]? = some task ∧ task.coroutine = coroutine ∧
    task.collected = false ∧
      (task.program.isEnded ∨ task.loose = false ∨ number ∈ loop.backgroundTasks)

def Scheduled (number : Nat) (coroutine : BackgroundTask) : Prop :=
  ∃ task, loop.tasks[number]? = some task ∧ task.coroutine = coroutine

def Runnable (number : Nat) : Prop :=
  ∃ task, loop.tasks[number]? = some task ∧ task.collected = false ∧ task.program.isEnded = false

end EventLoop

def eventLoops : StepSystem EventLoop CoroutineEvent where
  initial loop := loop.awaited = [] ∧ loop.tasks = [] ∧ loop.backgroundTasks = []
  step loop event := loop.step runtime settings event

end

def LogsSession (sessionId : Str) : GatewayOp → Prop
  | .logLeg row => row.sessionId = sessionId
  | _ => False

def SendsTo (settings : Settings) (shortcode : ShortcodeRow) (ur : UnifiedRequest) :
    GatewayOp → Prop
  | .sendToHandler call => call = handlerCall settings shortcode ur
  | _ => False

def PushesReply (settings : Settings) (ur : UnifiedRequest) (replies : UnifiedReply → Prop) :
    GatewayOp → Prop
  | .pushToOperator call =>
      ∃ reply, replies reply ∧ call = Halotel.outboundCall settings.halotel ur reply
  | _ => False

def canPush (settings : Settings) (adapter : Adapter) : Bool :=
  adapter.isAsyncOutbound && settings.halotel.outboundUrl ≠ []

def BackgroundTask.Owes (settings : Settings) (wanted : GatewayOp → Prop) : BackgroundTask → Prop
  | .notifyTerminalEvent shortcode ur _ =>
      wanted = SendsTo settings shortcode ur ∨ wanted = LogsSession ur.sessionId
  | .asyncForwardThenPush adapter ur shortcode =>
      wanted = SendsTo settings shortcode ur ∨
        (canPush settings adapter ∧ wanted = PushesReply settings ur fun _ => True) ∨
          wanted = LogsSession ur.sessionId
  | .asyncCannedPush adapter ur _ reply _ _ _ _ =>
      (canPush settings adapter ∧ wanted = PushesReply settings ur fun other => other = reply) ∨
        wanted = LogsSession ur.sessionId
  | .notifySessionExpired expired => wanted = LogsSession expired.sessionId

def EventLoop.Completed (runtime : PyRuntime) (settings : Settings) (loop : EventLoop)
    (number : Nat) (coroutine : BackgroundTask) : Prop :=
  ∃ task, loop.tasks[number]? = some task ∧ task.coroutine = coroutine ∧ task.program.isEnded ∧
    Prog.Leaves (coroutine.program runtime settings) task.performed task.program ∧
    ((∀ step ∈ task.performed, Prog.Succeeded step) →
      ∀ wanted, coroutine.Owes settings wanted → ∃ step ∈ task.performed, wanted step.1)

def CoroutineEvent.Works (number : Nat) : CoroutineEvent → Prop
  | .works other _ => other = number
  | _ => False

def FairlyRun {runtime : PyRuntime} {settings : Settings}
    (course : (eventLoops runtime settings).Course) : Prop :=
  ∀ number start, (∀ time, start ≤ time → (course.state time).Runnable number) →
    ∃ time, start ≤ time ∧ (course.event time).Works number

/-- No background leg is lost: whatever is collected and when, each is referred to until it is
through, and it gets through. -/
def LegsKept {runtime : PyRuntime} {settings : Settings}
    (course : (eventLoops runtime settings).Course) : Prop :=
  ∀ time number coroutine, (course.state time).Scheduled number coroutine →
    (∀ later, time ≤ later → (course.state later).Holds number coroutine) ∧
      (FairlyRun course → ∃ later, time ≤ later ∧
        (course.state later).Completed runtime settings number coroutine)

/-- The leg is acknowledged at once; its menu is fetched and pushed in the background. -/
def Adapter.answersLater (request : Request) : Adapter → Bool
  | halotel =>
      match Halotel.parseSoap request.body with
      | .ok fields => fields.transactionid ≠ [] &&
          (Halotel.eventOf fields.requesttype = some .start ||
            Halotel.eventOf fields.requesttype = some .input)
      | .error _ => false
  | _ => false

def CoroutineEvent.Serves (served : Adapter → Request → Prop) : CoroutineEvent → Prop
  | .arrives adapter request => served adapter request
  | _ => True

section

variable (runtime : PyRuntime) (settings : Settings)

theorem guarded_yields {α : Type} (program : Program α) :
    (guarded program).Yields fun _ => True := by
  induction program with
  | done value => trivial
  | raise error => trivial
  | perform op next ih => exact fun value => ih _

theorem guarded_yields_some {α : Type} {program : Program α} {answers : α → Prop}
    (yields : program.Yields answers) :
    (guarded program).Yields fun found => ∃ value, found = some value :=
  (yields.bind fun value _ => Prog.yields_done ⟨value, rfl⟩).attempt

theorem guarded_does {α : Type} {program : Program α} {wanted : GatewayOp → Prop}
    (does : Prog.Does wanted program) : Prog.Does wanted (guarded program) :=
  does.before.attempt

theorem forward_yields (shortcode : ShortcodeRow) (ur : UnifiedRequest) :
    (forward runtime settings shortcode ur).Yields fun _ => True :=
  (Prog.yields_call (S := gatewayOps) _).bind fun _ _ =>
    (Prog.yields_call (S := gatewayOps) _).bind fun _ _ => trivial

theorem forward_does (shortcode : ShortcodeRow) (ur : UnifiedRequest) :
    Prog.Does (SendsTo settings shortcode ur) (forward runtime settings shortcode ur) := by
  have sends : Prog.Does (SendsTo settings shortcode ur)
      (Program.sendToHandler (handlerCall settings shortcode ur)) :=
    Prog.does_call (show SendsTo settings shortcode ur (.sendToHandler _) from rfl)
  exact sends.before

theorem pushOutbound_does {adapter : Adapter} (pushes : canPush settings adapter)
    (ur : UnifiedRequest) (reply : UnifiedReply) {replies : UnifiedReply → Prop}
    (wanted : replies reply) :
    Prog.Does (PushesReply settings ur replies)
      (adapter.pushOutbound runtime settings ur reply) := by
  cases adapter with
  | halotel =>
      simp only [canPush, Adapter.isAsyncOutbound, Bool.true_and, decide_eq_true_eq] at pushes
      simp only [Adapter.pushOutbound, Halotel.pushOutbound, if_neg pushes]
      have pushed : Prog.Does (PushesReply settings ur replies)
          (Program.pushToOperator (Halotel.outboundCall settings.halotel ur reply)) :=
        Prog.does_call (show PushesReply settings ur replies (.pushToOperator _) from
          ⟨reply, wanted, rfl⟩)
      exact pushed.before
  | _ => simp [canPush, Adapter.isAsyncOutbound] at pushes

theorem logLeg_does {sessionId : Str} {row : LogRow} (same : row.sessionId = sessionId) :
    Prog.Does (LogsSession sessionId) (Program.logLeg row) :=
  Prog.does_call (show LogsSession sessionId (.logLeg row) from same)

theorem coroutine_does {coroutine : BackgroundTask} {wanted : GatewayOp → Prop}
    (owes : coroutine.Owes settings wanted) :
    Prog.Does wanted (coroutine.program runtime settings) := by
  cases coroutine with
  | notifyTerminalEvent shortcode ur ack =>
      rcases owes with rfl | rfl
      · exact (guarded_does (forward_does runtime settings shortcode ur)).before
      · refine Prog.Does.after (guarded_yields_some (forward_yields runtime settings _ _)) ?_
        rintro _ ⟨outcome, rfl⟩
        exact (guarded_does (logLeg_does rfl)).before
  | asyncForwardThenPush adapter ur shortcode =>
      rcases owes with rfl | ⟨pushes, rfl⟩ | rfl
      · exact (guarded_does (forward_does runtime settings shortcode ur)).before
      · refine Prog.Does.after (guarded_yields_some (forward_yields runtime settings _ _)) ?_
        rintro _ ⟨outcome, rfl⟩
        exact (guarded_does (pushOutbound_does runtime settings pushes ur _ trivial)).before
      · refine Prog.Does.after (guarded_yields_some (forward_yields runtime settings _ _)) ?_
        rintro _ ⟨outcome, rfl⟩
        refine Prog.Does.after (guarded_yields _) fun pushed _ => ?_
        exact Prog.Does.after (guarded_yields _) fun _ _ => logLeg_does rfl
  | asyncCannedPush adapter ur operatorKey reply errorClass shortcodeId operatorId operatorName =>
      have tail : ∀ opId : Nat, Prog.Does wanted (do
          let pushed ← guarded (adapter.pushOutbound runtime settings ur reply)
          let _ ← guarded (Program.expireActiveSession (ur.sessionId, opId))
          Program.logLeg (cannedRow ur opId (operatorName.getD operatorKey) shortcodeId reply
            errorClass (pushed.getD pushException))) := by
        intro opId
        rcases owes with ⟨pushes, rfl⟩ | rfl
        · refine (guarded_does ?_).before
          exact pushOutbound_does runtime settings pushes ur reply rfl
        · refine Prog.Does.after (guarded_yields _) fun pushed _ => ?_
          exact Prog.Does.after (guarded_yields _) fun _ _ => logLeg_does rfl
      cases operatorId with
      | some id => exact tail id
      | none =>
          exact Prog.Does.after (Prog.yields_call (S := gatewayOps) (.operatorId operatorKey))
            fun opId _ => tail opId
  | notifySessionExpired expired =>
      have found : Prog.Yields (fun found => ∃ resolved, found = some resolved)
          (expiredShortcode expired) := by
        rw [expiredShortcode]
        split
        · exact ⟨none, rfl⟩
        · exact guarded_yields_some (Prog.yields_call (S := gatewayOps) _)
      obtain rfl : wanted = LogsSession expired.sessionId := owes
      refine Prog.Does.after found ?_
      rintro _ ⟨resolved, rfl⟩
      dsimp only
      split
      · refine Prog.Does.after (guarded_yields_some (forward_yields runtime settings _ _)) ?_
        rintro _ ⟨outcome, rfl⟩
        exact (guarded_does (logLeg_does rfl)).before
      · exact (guarded_does (logLeg_does rfl)).before

end

/-! The tasks of a loop whose legs keep their references. -/

def Referenced : GatewayOp → Prop
  | .spawn _ referenced => referenced = true
  | _ => True

theorem callOps_referenced : CallOps Referenced where
  operatorId _ := trivial
  prefixes _ _ := trivial
  read _ := trivial
  write _ := trivial
  resolve _ _ := trivial
  expire _ := trivial
  send _ := trivial
  await _ := trivial
  push _ := trivial
  log _ := trivial

section

variable {runtime : PyRuntime} {settings : Settings}

theorem halotel_answers (request : Request) :
    (Halotel.parse runtime request).Answers fun ur =>
      ur.event = .deliveryAck ∨ ur.event.isTerminal ∨ Adapter.halotel.answersLater request := by
  simp only [Halotel.parse, Adapter.answersLater]
  rcases Halotel.parseSoap request.body with error | fields
  · trivial
  · simp only [raiseOr, Prog.pure_eq_done, Prog.done_bind]
    rcases known : Halotel.eventOf fields.requesttype with _ | event
    · trivial
    · by_cases anonymous : fields.transactionid = []
      · simp only [if_pos anonymous]
        trivial
      · simp only [if_neg anonymous]
        cases event with
        | start => exact Prog.answers_of_all fun _ => .inr (.inr (by simp [anonymous]))
        | input => exact Prog.answers_of_all fun _ => .inr (.inr (by simp [anonymous]))
        | deliveryAck =>
            refine Prog.Answers.bind (Prog.answers_of_all fun _ => trivial) fun operatorId _ => ?_
            refine Prog.Answers.bind (Prog.answers_of_all fun _ => trivial) fun prior _ => ?_
            exact .inl rfl
        | systemSessionTermination => exact absurd rfl (halotel_eventOf known)
        | userCancelledSession | providerSessionTermination =>
            refine Prog.Answers.bind (Prog.answers_of_all fun _ => trivial) fun operatorId _ => ?_
            refine Prog.Answers.bind (Prog.answers_of_all fun _ => trivial) fun prior _ => ?_
            exact .inr (.inl rfl)

theorem leg_referenced {adapter : Adapter} {request : Request}
    (now : adapter.answersLater request = false) :
    (handleUssd runtime settings adapter.operator request).Uses Referenced := by
  have known : Adapter.ofKey adapter.operator = some adapter := by cases adapter <;> decide
  rw [handleUssd, known]
  have parsed : (adapter.parse runtime request).Answers fun ur =>
      ur.event = .deliveryAck ∨ ur.event.isTerminal ∨ ¬ adapter.isAsyncOutbound := by
    cases adapter with
    | halotel =>
        have answers := @halotel_answers runtime request
        simpa [now, Adapter.parse, Adapter.isAsyncOutbound] using answers
    | _ => exact Prog.answers_of_all fun _ => .inr (.inr (by simp [Adapter.isAsyncOutbound]))
  refine (uses_parse callOps_referenced.toParseOps runtime adapter request).bind_answers parsed ?_
  intro ur event
  refine uses_handleLeg callOps_referenced.toServeOps runtime settings adapter ur (fun _ => rfl) ?_
  intro unacked goesOn asynchronous
  rcases event with acked | ended | synchronous
  · exact absurd acked unacked
  · exact absurd ended goesOn
  · exact absurd asynchronous synchronous

namespace EventLoop

structure Sound (runtime : PyRuntime) (settings : Settings) (loop : EventLoop) : Prop where
  awaited : ∀ program ∈ loop.awaited, program.Uses Referenced
  held : ∀ number task, loop.tasks[number]? = some task →
    task.collected = false ∧ (task.program.isEnded ∨ number ∈ loop.backgroundTasks)
  quiet : ∀ task ∈ loop.tasks, task.program.Uses Referenced
  leaves : ∀ task ∈ loop.tasks,
    Prog.Leaves (task.coroutine.program runtime settings) task.performed task.program

variable {loop after : EventLoop}

theorem Sound.created (sound : loop.Sound runtime settings) (coroutine : BackgroundTask) :
    (loop.created runtime settings coroutine true).Sound runtime settings where
  awaited := sound.awaited
  held := by
    intro number task found
    simp only [EventLoop.created, if_true, List.getElem?_append] at found ⊢
    split at found
    · obtain ⟨uncollected, held⟩ := sound.held number task found
      exact ⟨uncollected, held.imp_right fun member => List.mem_append_left _ member⟩
    next past =>
      rw [List.getElem?_singleton] at found
      split at found
      next first =>
        obtain rfl := Option.some.inj found
        refine ⟨rfl, .inr (List.mem_append_right _ ?_)⟩
        rw [List.mem_singleton]
        omega
      next => cases found
  quiet := by
    intro task member
    rcases List.mem_append.1 member with old | new
    · exact sound.quiet task old
    · rw [List.mem_singleton.1 new]
      exact uses_background callOps_referenced.toServeOps runtime settings coroutine
  leaves := by
    intro task member
    rcases List.mem_append.1 member with old | new
    · exact sound.leaves task old
    · rw [List.mem_singleton.1 new]
      exact .nil _

theorem performs_frame (loop : EventLoop) (handler : Prog.Handler gatewayOps PyError World)
    (op : GatewayOp) :
    (loop.performs runtime settings handler op).2.awaited = loop.awaited ∧
      loop.tasks <+: (loop.performs runtime settings handler op).2.tasks := by
  cases op with
  | spawn coroutine referenced => exact ⟨rfl, List.prefix_append _ _⟩
  | _ => exact ⟨rfl, List.prefix_refl _⟩

theorem performs_getElem? {number : Nat} {task : AsyncTask}
    (found : loop.tasks[number]? = some task) (handler : Prog.Handler gatewayOps PyError World)
    (op : GatewayOp) :
    (loop.performs runtime settings handler op).2.tasks[number]? = some task := by
  obtain ⟨added, extended⟩ := (@performs_frame runtime settings loop handler op).2
  rw [← extended, List.getElem?_append_left (List.getElem?_eq_some_iff.1 found).1]
  exact found

theorem Sound.performs (sound : loop.Sound runtime settings)
    (handler : Prog.Handler gatewayOps PyError World) {op : GatewayOp}
    (referenced : Referenced op) :
    (loop.performs runtime settings handler op).2.Sound runtime settings := by
  cases op with
  | spawn coroutine kept =>
      obtain rfl : kept = true := referenced
      exact sound.created coroutine
  | _ => exact ⟨sound.awaited, sound.held, sound.quiet, sound.leaves⟩

theorem Sound.worked (sound : loop.Sound runtime settings) {number : Nat} {task : AsyncTask}
    (same : ∃ before, loop.tasks[number]? = some before ∧ before.program.isEnded = false)
    (uncollected : task.collected = false) (quiet : task.program.Uses Referenced)
    (leaves : Prog.Leaves (task.coroutine.program runtime settings) task.performed task.program) :
    (loop.worked number task).Sound runtime settings where
  awaited := sound.awaited
  held := by
    intro other found member
    simp only [EventLoop.worked, List.getElem?_set] at member ⊢
    obtain ⟨before, here, running⟩ := same
    split at member
    next self =>
      subst self
      split at member
      · obtain rfl := Option.some.inj member
        refine ⟨uncollected, ?_⟩
        rcases ended : task.program.isEnded with _ | _
        · right
          rw [if_neg Bool.false_ne_true]
          exact (sound.held number before here).2.resolve_left (by simp [running])
        · exact .inl rfl
      · cases member
    next apart =>
      obtain ⟨fresh, held⟩ := sound.held other found member
      refine ⟨fresh, held.imp_right fun kept => ?_⟩
      split
      · exact List.mem_filter.2 ⟨kept, by simpa using Ne.symm apart⟩
      · exact kept
  quiet := by
    intro other member
    rcases List.mem_or_eq_of_mem_set member with old | rfl
    · exact sound.quiet other old
    · exact quiet
  leaves := by
    intro other member
    rcases List.mem_or_eq_of_mem_set member with old | rfl
    · exact sound.leaves other old
    · exact leaves

theorem Sound.awaits (sound : loop.Sound runtime settings) {program : Program Unit}
    (uses : program.Uses Referenced) : (loop.awaits program).Sound runtime settings :=
  { sound with
    awaited := by
      intro other member
      rcases List.mem_append.1 member with old | new
      · exact sound.awaited other old
      · rw [List.mem_singleton.1 new]
        exact uses }

theorem Sound.suspended (sound : loop.Sound runtime settings) {number : Nat} {task : AsyncTask}
    (found : loop.tasks[number]? = some task) :
    Sound runtime settings { loop with
      tasks := loop.tasks.set number { task with loose := true } } where
  awaited := sound.awaited
  held := by
    intro other current member
    simp only [List.getElem?_set] at member
    split at member
    next self =>
      subst self
      split at member
      · obtain rfl := Option.some.inj member
        exact sound.held number task found
      · cases member
    next => exact sound.held other current member
  quiet := by
    intro other member
    rcases List.mem_or_eq_of_mem_set member with old | rfl
    · exact sound.quiet other old
    · exact sound.quiet task (List.mem_of_getElem? found)
  leaves := by
    intro other member
    rcases List.mem_or_eq_of_mem_set member with old | rfl
    · exact sound.leaves other old
    · exact sound.leaves task (List.mem_of_getElem? found)

theorem not_held {number : Nat} {task : AsyncTask}
    (unheld : ¬ (number ∈ loop.backgroundTasks ∨ task.program.isEnded ∨ task.loose = false)) :
    ¬ (task.program.isEnded ∨ number ∈ loop.backgroundTasks) := by
  rintro (ended | member)
  · exact unheld (.inr (.inl ended))
  · exact unheld (.inl member)

theorem Sound.step (sound : loop.Sound runtime settings) {event : CoroutineEvent}
    (serves : event.Serves fun adapter request => adapter.answersLater request = false)
    (stepped : (eventLoops runtime settings).step loop event = some after) :
    after.Sound runtime settings := by
  cases event with
  | arrives adapter request =>
      obtain rfl := Option.some.inj stepped
      exact sound.awaits ((leg_referenced serves).bind fun _ => Prog.uses_done _)
  | ticks =>
      obtain rfl := Option.some.inj stepped
      refine sound.awaits (Prog.Uses.bind ?_ fun _ => Prog.uses_done _)
      exact uses_expireIdleSessionsOnce settings (fun _ _ _ _ => trivial) fun _ => rfl
  | runs number handler =>
      obtain ⟨program, found, stepped⟩ := Option.bind_eq_some_iff.1 stepped
      rcases program with value | error | ⟨op, next⟩
      · cases stepped
      · cases stepped
      · obtain rfl := Option.some.inj stepped
        have uses := sound.awaited _ (List.mem_of_getElem? found)
        obtain ⟨referenced, later⟩ := Prog.uses_perform_iff.1 uses
        have kept := sound.performs handler referenced
        refine { kept with awaited := ?_ }
        intro other member
        rcases List.mem_or_eq_of_mem_set member with old | rfl
        · exact kept.awaited other old
        · exact later _
  | works number handler =>
      obtain ⟨task, found, stepped⟩ := Option.bind_eq_some_iff.1 stepped
      split at stepped
      · cases stepped
      split at stepped
      next uncollected _ op next running =>
        obtain rfl := Option.some.inj stepped
        have uses := sound.quiet task (List.mem_of_getElem? found)
        have leaves := sound.leaves task (List.mem_of_getElem? found)
        rw [running] at uses leaves
        obtain ⟨referenced, later⟩ := Prog.uses_perform_iff.1 uses
        refine (sound.performs handler referenced).worked ⟨task, ?_, by simp [running]⟩ ?_ ?_ ?_
        · exact performs_getElem? found handler op
        · simpa using uncollected
        · exact later _
        · exact leaves.snoc _
      · cases stepped
  | suspends number =>
      obtain ⟨task, found, stepped⟩ := Option.bind_eq_some_iff.1 stepped
      split at stepped
      next =>
        obtain rfl := Option.some.inj stepped
        exact sound.suspended found
      next => cases stepped
  | collects number =>
      obtain ⟨task, found, stepped⟩ := Option.bind_eq_some_iff.1 stepped
      split at stepped
      · cases stepped
      next unheld => exact absurd (sound.held number task found).2 (not_held unheld)
  | changes world =>
      obtain rfl := Option.some.inj stepped
      exact ⟨sound.awaited, sound.held, sound.quiet, sound.leaves⟩

theorem Sound.moves (sound : loop.Sound runtime settings) {event : CoroutineEvent} {number : Nat}
    {task : AsyncTask} (found : loop.tasks[number]? = some task)
    (stepped : (eventLoops runtime settings).step loop event = some after) :
    (¬ event.Works number ∧ ∃ loose, after.tasks[number]? = some { task with loose }) ∨
      (event.Works number ∧ ∃ op next answer, task.program = .perform op next ∧
        after.tasks[number]? = some { task with
          program := next answer, performed := task.performed ++ [⟨op, answer⟩]
          loose := false }) := by
  cases event with
  | arrives adapter request =>
      obtain rfl := Option.some.inj stepped
      exact .inl ⟨id, task.loose, found⟩
  | ticks =>
      obtain rfl := Option.some.inj stepped
      exact .inl ⟨id, task.loose, found⟩
  | runs other handler =>
      obtain ⟨program, _, stepped⟩ := Option.bind_eq_some_iff.1 stepped
      rcases program with value | error | ⟨op, next⟩
      · cases stepped
      · cases stepped
      · obtain rfl := Option.some.inj stepped
        exact .inl ⟨id, task.loose, performs_getElem? found handler op⟩
  | works other handler =>
      obtain ⟨running, here, stepped⟩ := Option.bind_eq_some_iff.1 stepped
      split at stepped
      · cases stepped
      split at stepped
      next op next program =>
        obtain rfl := Option.some.inj stepped
        have stays := @performs_getElem? runtime settings loop number task found handler op
        by_cases same : other = number
        · subst same
          obtain rfl : running = task := Option.some.inj (here.symm.trans found)
          refine .inr ⟨rfl, op, next, (loop.performs runtime settings handler op).1, program, ?_⟩
          exact List.getElem?_set_self (List.getElem?_eq_some_iff.1 stays).1
        · exact .inl ⟨same, task.loose, (List.getElem?_set_ne same).trans stays⟩
      · cases stepped
  | suspends other =>
      obtain ⟨waiting, here, stepped⟩ := Option.bind_eq_some_iff.1 stepped
      split at stepped
      next =>
        obtain rfl := Option.some.inj stepped
        by_cases same : other = number
        · subst same
          obtain rfl : waiting = task := Option.some.inj (here.symm.trans found)
          exact .inl ⟨id, true, List.getElem?_set_self (List.getElem?_eq_some_iff.1 found).1⟩
        · exact .inl ⟨id, task.loose, (List.getElem?_set_ne same).trans found⟩
      next => cases stepped
  | collects other =>
      obtain ⟨victim, here, stepped⟩ := Option.bind_eq_some_iff.1 stepped
      split at stepped
      · cases stepped
      next unheld => exact absurd (sound.held other victim here).2 (not_held unheld)
  | changes world =>
      obtain rfl := Option.some.inj stepped
      exact .inl ⟨id, task.loose, found⟩

theorem Sound.scheduled (sound : loop.Sound runtime settings) {event : CoroutineEvent}
    {number : Nat} {coroutine : BackgroundTask} (scheduled : loop.Scheduled number coroutine)
    (stepped : (eventLoops runtime settings).step loop event = some after) :
    after.Scheduled number coroutine := by
  obtain ⟨task, found, rfl⟩ := scheduled
  rcases sound.moves found stepped with ⟨_, loose, stays⟩ | ⟨_, op, next, answer, _, moved⟩
  · exact ⟨_, stays, rfl⟩
  · exact ⟨_, moved, rfl⟩

theorem Sound.holds (sound : loop.Sound runtime settings) {number : Nat}
    {coroutine : BackgroundTask} (scheduled : loop.Scheduled number coroutine) :
    loop.Holds number coroutine := by
  obtain ⟨task, found, same⟩ := scheduled
  obtain ⟨uncollected, held⟩ := sound.held number task found
  exact ⟨task, found, same, uncollected, held.imp_right .inr⟩

theorem Sound.completed (sound : loop.Sound runtime settings) {number : Nat} {task : AsyncTask}
    (found : loop.tasks[number]? = some task) (ended : task.program.isEnded) :
    loop.Completed runtime settings number task.coroutine := by
  have leaves := sound.leaves task (List.mem_of_getElem? found)
  refine ⟨task, found, rfl, ended, leaves, ?_⟩
  intro succeeded wanted owes
  exact leaves.does ended succeeded (coroutine_does runtime settings owes)

end EventLoop

theorem legsKept_of_sound {course : (eventLoops runtime settings).Course}
    (sound : ∀ time, (course.state time).Sound runtime settings) : LegsKept course := by
  intro time number coroutine scheduled
  have remains : ∀ later, time ≤ later → (course.state later).Scheduled number coroutine := by
    intro later after
    exact course.always (fun loop => loop.Scheduled number coroutine) scheduled
      (fun now here => (sound now).scheduled here (course.steps now)) after
  refine ⟨fun later after => (sound later).holds (remains later after), ?_⟩
  intro fair
  obtain ⟨task, found, rfl⟩ := scheduled
  rcases ended : task.program.isEnded with _ | _
  · -- The program left shrinks each time the task is run, and stays as it is between.
    have reached := course.eventually Prog.continues_wellFounded
      (fun program loop => ∃ now, loop.tasks[number]? = some now ∧
        now.coroutine = task.coroutine ∧ now.program = program ∧ program.isEnded = false)
      (fun loop => ∃ now, loop.tasks[number]? = some now ∧
        now.coroutine = task.coroutine ∧ now.program.isEnded)
      (CoroutineEvent.Works number) ?_ ?_ ⟨task, found, rfl, rfl, ended⟩
    · obtain ⟨later, after, now, here, same, through⟩ := reached
      exact ⟨later, after, same ▸ (sound later).completed here through⟩
    · rintro now program ⟨current, here, same, rfl, running⟩
      rcases (sound now).moves here (course.steps now) with
        ⟨idle, loose, stays⟩ | ⟨_, op, next, answer, performing, moved⟩
      · exact .inr (.inl ⟨idle, _, stays, same, rfl, running⟩)
      · rcases through : (next answer).isEnded with _ | _
        · exact .inr (.inr ⟨next answer, ⟨op, next, answer, performing, rfl⟩,
            _, moved, same, rfl, through⟩)
        · exact .inl ⟨_, moved, same, through⟩
    · intro start waits
      refine fair number start fun now later => ?_
      obtain ⟨program, current, here, _, rfl, running⟩ := waits now later
      exact ⟨current, here, ((sound now).held number current here).1, running⟩
  · exact ⟨time, le_refl time, (sound time).completed found ended⟩

end

end UssdGateway
