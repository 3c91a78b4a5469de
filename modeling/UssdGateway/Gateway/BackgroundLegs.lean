import UssdGateway.Gateway.Attribution
import UssdGateway.Gateway.BackgroundTasks

/-!
Which legs can be lost: those that are answered later, and only those.
-/

namespace UssdGateway

open EffectProgram

section

variable (runtime : PyRuntime) (settings : Settings)

theorem openSession_yields (sessionid : Str) (operatorId : Nat) (msisdn : Option Str)
    (fallback dialed : Str) :
    (openSession sessionid operatorId msisdn fallback dialed).Yields fun _ => True := by
  have looked : (lookupShortcodeByDialPrefix operatorId dialed).Yields fun _ => True := by
    simp only [lookupShortcodeByDialPrefix]
    split
    · exact Prog.yields_done trivial
    · exact (Prog.yields_call (S := gatewayOps) _).bind fun _ _ => Prog.yields_done trivial
  exact looked.bind fun _ _ =>
    (Prog.yields_call (S := gatewayOps) _).bind fun _ _ => Prog.yields_done trivial

theorem halotel_yields {request : Request} (later : Adapter.halotel.answersLater request) :
    (Halotel.parse runtime request).Yields fun ur =>
      isAuthFailed .halotel ur = false ∧ (ur.event = .start ∨ ur.event = .input) := by
  simp only [Halotel.parse]
  rcases decoded : Halotel.parseSoap request.body with error | fields
  · simp [Adapter.answersLater, decoded] at later
  · simp only [Adapter.answersLater, decoded, Bool.and_eq_true, decide_eq_true_eq,
      Bool.or_eq_true] at later
    simp only [raiseOr, Prog.pure_eq_done, Prog.done_bind]
    rcases later with ⟨named, start | input⟩
    · simp only [start, if_neg named, Halotel.sessionPart]
      refine (Prog.yields_call (S := gatewayOps) _).bind fun operatorId _ => ?_
      refine (openSession_yields _ _ _ _ _).bind fun routed _ => Prog.yields_done ?_
      exact ⟨halotel_isAuthFailed rfl, .inl rfl⟩
    · simp only [input, if_neg named, Halotel.sessionPart]
      refine (Prog.yields_call (S := gatewayOps) _).bind fun operatorId _ => ?_
      refine (Prog.yields_call (S := gatewayOps) _).bind fun prior _ => ?_
      cases prior with
      | none => exact Prog.yields_done ⟨halotel_isAuthFailed rfl, .inr rfl⟩
      | some prior =>
          have extended : (extendSession prior fields.transactionid operatorId
              (textOr fields.msisdn prior.msisdn) prior.serviceCode fields.msg).Yields
                fun _ => True :=
            (Prog.yields_call (S := gatewayOps) _).bind fun _ _ => Prog.yields_done trivial
          exact extended.bind fun _ _ => Prog.yields_done ⟨halotel_isAuthFailed rfl, .inr rfl⟩

def Answerable (op : GatewayOp) (value : op.Answer) : Prop :=
  ∃ environment world, (perform environment op world).1 = .ok value

/-- A menu is fetched in a task to which nothing refers. -/
def ForwardsLoose (op : GatewayOp) : Prop :=
  ∃ adapter ur shortcode, op = .spawn (.asyncForwardThenPush adapter ur shortcode) false

theorem parseOps_answerable : ParseOps fun op => ∃ value, Answerable op value where
  operatorId _ := ⟨_, sampleEnvironment [], sampleWorld, rfl⟩
  prefixes _ _ := ⟨_, sampleEnvironment [], sampleWorld, rfl⟩
  read _ := ⟨_, sampleEnvironment [], sampleWorld, rfl⟩
  write _ := ⟨_, sampleEnvironment [], sampleWorld, rfl⟩

def halotelCode (code : Str) : Registry where
  operators := sampleRegistry.operators
  shortcodes := [{ sampleShortcode 10 4 "" with code }]
  operatorIdsUnique := sampleRegistry.operatorIdsUnique
  operatorNamesUnique := sampleRegistry.operatorNamesUnique
  codesUnique := List.nodup_singleton _
  messagesEncodable := by simp [sampleShortcode]

theorem answerable_active (code : Str) :
    ∃ shortcode : ShortcodeRow, shortcode.status = .active ∧
      Answerable (.resolveShortcode (lit "halotel") code) (some shortcode) := by
  have resolved : (halotelCode code).resolveShortcode (lit "halotel") code =
      some ({ sampleShortcode 10 4 "" with code }.row (lit "halotel")) := by
    have named : sampleRegistry.operatorName 4 = some (lit "halotel") := by decide
    have same : (halotelCode code).operatorName 4 = some (lit "halotel") := named
    have only : (halotelCode code).shortcodes = [{ sampleShortcode 10 4 "" with code }] := rfl
    simp [Registry.resolveShortcode, only, sampleShortcode, same]
  exact ⟨_, rfl, sampleEnvironment [], { sampleWorld with registry := halotelCode code },
    congrArg Except.ok resolved⟩

theorem halotel_menuLeg_may (ur : UnifiedRequest) :
    (menuLeg runtime settings .halotel ur).May Answerable ForwardsLoose := by
  obtain ⟨shortcode, active, answerable⟩ := answerable_active ur.serviceCode
  refine Prog.May.answered (S := gatewayOps) answerable ?_
  simp only [active, ne_eq, not_true_eq_false, if_false]
  have forwards : (Program.spawn (.asyncForwardThenPush .halotel ur shortcode) false).May
      Answerable ForwardsLoose := Prog.may_call (S := gatewayOps) ⟨_, _, _, rfl⟩
  exact forwards.before

theorem leg_forwardsLoose {adapter : Adapter} {request : Request}
    (later : adapter.answersLater request) :
    (handleUssd runtime settings adapter.operator request).May Answerable ForwardsLoose := by
  cases adapter with
  | halotel =>
      rw [handleUssd, show Adapter.ofKey Adapter.halotel.operator = some .halotel from by decide]
      refine Prog.May.after (uses_parse parseOps_answerable runtime .halotel request)
        (halotel_yields runtime later) ?_
      rintro ur ⟨authenticated, event⟩
      rw [handleLeg]
      split
      next failed _ => simp [authenticated] at failed
      next =>
        have menu : ur.event ≠ .deliveryAck ∧ ¬ ur.event.isTerminal := by
          rcases event with event | event <;> simp [event, SessionEvent.isTerminal]
        rw [if_neg menu.1, if_neg menu.2]
        exact halotel_menuLeg_may runtime settings ur
  | _ => simp [Adapter.answersLater] at later

end

section

variable {runtime : PyRuntime} {settings : Settings}

namespace EventLoop

def Numbered (loop : EventLoop) : Prop :=
  ∀ number ∈ loop.backgroundTasks, number < loop.tasks.length

variable {loop : EventLoop} {handler : Prog.Handler gatewayOps PyError World}

theorem Numbered.performs (numbered : loop.Numbered) (op : GatewayOp) :
    (loop.performs runtime settings handler op).2.Numbered := by
  cases op with
  | spawn coroutine referenced =>
      intro number member
      simp only [EventLoop.performs, EventLoop.created, List.length_append,
        List.length_singleton] at member ⊢
      split at member
      · rcases List.mem_append.1 member with old | new
        · exact Nat.lt_succ_of_lt (numbered number old)
        · rw [List.mem_singleton.1 new]
          omega
      · exact Nat.lt_succ_of_lt (numbered number member)
  | _ => exact numbered

theorem Numbered.created_unheld (numbered : loop.Numbered) (adapter : Adapter)
    (ur : UnifiedRequest) (shortcode : ShortcodeRow) :
    ∃ after, (eventLoops runtime settings).step (loop.created runtime settings
        (.asyncForwardThenPush adapter ur shortcode) false) (.suspends loop.tasks.length) =
          some after ∧
      ∃ task coroutine, after.Scheduled task coroutine ∧ ¬ after.Holds task coroutine := by
  let coroutine : BackgroundTask := .asyncForwardThenPush adapter ur shortcode
  let made : AsyncTask :=
    { coroutine, program := coroutine.program runtime settings, performed := []
      loose := false, collected := false }
  have found : (loop.created runtime settings coroutine false).tasks[loop.tasks.length]? =
      some made := List.getElem?_concat_length
  let after : EventLoop := { loop.created runtime settings coroutine false with
    tasks := (loop.created runtime settings coroutine false).tasks.set loop.tasks.length
      { made with loose := true } }
  have waits : after.tasks[loop.tasks.length]? = some { made with loose := true } :=
    List.getElem?_set_self (List.getElem?_eq_some_iff.1 found).1
  refine ⟨after, ?_, loop.tasks.length, coroutine, ⟨_, waits, rfl⟩, ?_⟩
  · simp only [eventLoops, EventLoop.step]
    rw [found, Option.bind_some]
    rfl
  · rintro ⟨task, same, _, _, ended | tight | held⟩
    · obtain rfl := Option.some.inj (waits.symm.trans same)
      cases ended
    · obtain rfl := Option.some.inj (waits.symm.trans same)
      cases tight
    · exact absurd (numbered _ held) (lt_irrefl _)

theorem performs_ok {op : GatewayOp} {value : op.Answer}
    (answered : (handler op loop.world).1 = .ok value) :
    (loop.performs runtime settings handler op).1 = .ok value := by
  cases op with
  | spawn coroutine referenced => rfl
  | _ => exact answered

end EventLoop

theorem exists_unheld {program : Program Unit} (may : program.May Answerable ForwardsLoose)
    {loop : EventLoop} {number : Nat} (found : loop.awaited[number]? = some program)
    (numbered : loop.Numbered) :
    ∃ events after, (eventLoops runtime settings).run loop events = some after ∧
      (∀ event ∈ events, event.Serves fun _ _ => False) ∧
      ∃ task coroutine, after.Scheduled task coroutine ∧ ¬ after.Holds task coroutine := by
  induction program generalizing loop with
  | done value => exact may.elim
  | raise error => exact may.elim
  | perform op next ih =>
      rcases may with here | ⟨value, ⟨environment, world, answered⟩, later⟩
      · obtain ⟨adapter, ur, shortcode, rfl⟩ := here
        let moved : EventLoop := { loop with awaited := loop.awaited.set number (next (.ok ())) }
        have numberedMoved : moved.Numbered := numbered
        obtain ⟨after, suspended, unheld⟩ :=
          @EventLoop.Numbered.created_unheld runtime settings _ numberedMoved adapter ur shortcode
        let handler := perform (sampleEnvironment [])
        have stepped : (eventLoops runtime settings).step loop (.runs number handler) =
            some (moved.created runtime settings (.asyncForwardThenPush adapter ur shortcode)
              false) := by
          simp only [eventLoops, EventLoop.step, found, Option.bind_some]
          rfl
        refine ⟨[.runs number handler, .suspends loop.tasks.length], after, ?_, ?_, unheld⟩
        · rw [StepSystem.run, stepped, Option.bind_some, StepSystem.run]
          exact (congrArg (Option.bind · _) suspended).trans rfl
        · simp [CoroutineEvent.Serves]
      · -- the tables change so that the operation is answered this way
        let changed : EventLoop := { loop with world }
        let handler := perform environment
        let moved : EventLoop := { (changed.performs runtime settings handler op).2 with
          awaited := loop.awaited.set number (next (.ok value)) }
        have answer : (changed.performs runtime settings handler op).1 = .ok value :=
          EventLoop.performs_ok answered
        have stepped : (eventLoops runtime settings).step changed (.runs number handler) =
            some moved := by
          have same : changed.awaited[number]? = some (.perform op next) := found
          simp only [eventLoops, EventLoop.step, same, Option.bind_some, answer,
            (EventLoop.performs_frame changed handler op).1]
          rfl
        have numberedChanged : changed.Numbered := numbered
        have here : moved.awaited[number]? = some (next (.ok value)) :=
          List.getElem?_set_self (List.getElem?_eq_some_iff.1 found).1
        obtain ⟨events, after, ran, serves, unheld⟩ :=
          @ih _ later moved here (numberedChanged.performs op)
        refine ⟨.changes world :: .runs number handler :: events, after, ?_, ?_, unheld⟩
        · rw [StepSystem.run]
          refine Eq.trans (b := (eventLoops runtime settings).run changed
            (.runs number handler :: events)) rfl ?_
          rw [StepSystem.run, stepped]
          exact ran
        · simpa [CoroutineEvent.Serves] using serves

/-- Exactly the legs that are answered later can be lost. -/
theorem legs_kept_iff (runtime : PyRuntime) (settings : Settings)
    (served : Adapter → Request → Prop) :
    (∀ course : (eventLoops runtime settings).Course,
        (∀ time, (course.event time).Serves served) → LegsKept course) ↔
      ∀ adapter request, served adapter request → adapter.answersLater request = false := by
  constructor
  · intro kept adapter request leg
    rw [← Bool.not_eq_true]
    intro later
    let start : EventLoop :=
      { world := sampleWorld, awaited := [], tasks := [], backgroundTasks := [] }
    let arrived : EventLoop := start.awaits
      (handleUssd runtime settings adapter.operator request >>= fun _ => pure ())
    have numbered : arrived.Numbered := fun _ member => absurd member List.not_mem_nil
    obtain ⟨events, after, ran, serves, task, coroutine, scheduled, unheld⟩ :=
      @exists_unheld runtime settings _ (leg_forwardsLoose runtime settings later).before
        arrived 0 rfl numbered
    obtain ⟨course, reached, among⟩ := @StepSystem.exists_course _ _ (eventLoops runtime settings)
      start after (.arrives adapter request :: events) (.changes after.world)
      ⟨rfl, rfl, rfl⟩ ran rfl
    refine unheld ?_
    rw [← reached] at scheduled ⊢
    refine (kept course ?_ _ task coroutine scheduled).1 _ le_rfl
    intro time
    rcases List.mem_cons.1 (among time) with rests | happened
    · rw [rests]
      trivial
    · rcases List.mem_cons.1 happened with arrives | happened
      · rw [arrives]
        exact leg
      · have quiet := serves _ happened
        cases event : course.event time with
        | arrives =>
            rw [event] at quiet
            exact quiet.elim
        | _ => trivial
  · intro now course serves
    apply legsKept_of_sound
    intro time
    refine course.always (EventLoop.Sound runtime settings) ?_ ?_ (Nat.zero_le time)
    · obtain ⟨awaited, tasks, _⟩ := course.starts
      refine ⟨?_, ?_, ?_, ?_⟩ <;> simp [awaited, tasks]
    · intro time sound
      refine sound.step ?_ (course.steps time)
      have leg := serves time
      cases event : course.event time with
      | arrives adapter request =>
          rw [event] at leg
          exact now adapter request leg
      | _ => trivial

end

def halotelLoop : EventLoop where
  world := halotelWorld
  awaited := []
  tasks := []
  backgroundTasks := []

def collectedDial : List CoroutineEvent :=
  .arrives .halotel (insertMo "100" "*149*01#") ::
    List.replicate 5 (.runs 0 (perform (sampleEnvironment (lit "CON Karibu")))) ++
      [.works 0 (perform (sampleEnvironment (lit "CON Karibu"))), .suspends 0, .collects 0]

theorem collected_dial_lost :
    (∃ loop, (eventLoops sampleRuntime sampleSettings).run halotelLoop collectedDial = some loop ∧
      loop.tasks.map AsyncTask.collected = [true] ∧ loop.world.handlerCalls.length = 1 ∧
      loop.world.pushes = [] ∧ loop.world.logQueue.rows = []) ∧
    ¬ ∀ course : (eventLoops sampleRuntime sampleSettings).Course, LegsKept course := by
  have ended : ((eventLoops sampleRuntime sampleSettings).run halotelLoop collectedDial).map
      (fun loop => (loop.tasks.map AsyncTask.collected, loop.world.handlerCalls.length,
        loop.world.pushes, loop.world.logQueue.rows)) = some ([true], 1, [], []) := by
    decide +kernel
  obtain ⟨loop, ran, shown⟩ := Option.map_eq_some_iff.1 ended
  simp only [Prod.mk.injEq] at shown
  refine ⟨⟨loop, ran, shown⟩, ?_⟩
  intro kept
  obtain ⟨course, reached, _⟩ := StepSystem.exists_course
    (show (eventLoops sampleRuntime sampleSettings).initial halotelLoop from ⟨rfl, rfl, rfl⟩) ran
    (show (eventLoops sampleRuntime sampleSettings).step loop (.changes loop.world) = some loop
      from rfl)
  obtain ⟨task, tasks, collected⟩ : ∃ task, loop.tasks[0]? = some task ∧ task.collected = true := by
    rcases tasks : loop.tasks with _ | ⟨task, rest⟩
    · simp [tasks] at shown
    · rw [tasks] at shown
      exact ⟨task, rfl, (List.cons.inj shown.1).1⟩
  obtain ⟨held, found, _, uncollected, _⟩ :=
    (kept course _ 0 task.coroutine ⟨task, reached ▸ tasks, rfl⟩).1 _ le_rfl
  rw [reached, tasks, Option.some.injEq] at found
  subst found
  rw [collected] at uncollected
  cases uncollected

end UssdGateway
