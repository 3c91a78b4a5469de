import UssdGateway.Gateway.OperationsUsed
import UssdGateway.Gateway.World
import UssdGateway.Library.Transition
import Mathlib.Logic.Function.Basic

/-!
Legs, background tasks and sweeps side by side, one operation at a time, and the notifications by
which a handler learns that a session is over.
-/

namespace UssdGateway

open EffectProgram

/-- A session: the key of its cache row, and the number of sessions opened under it before. -/
abbrev Session := SessionKey × Nat

inductive SessionMark where
  | opened (session : Session)
  | ended (session : Option Session)
  | notified (session : Option Session)
deriving DecidableEq

def BackgroundTask.endedKey : BackgroundTask → Option SessionKey
  | .notifyTerminalEvent shortcode ur _ => some (ur.sessionId, shortcode.operatorId)
  | .notifySessionExpired expired => some expired.key
  | .asyncForwardThenPush _ _ _ => none
  | .asyncCannedPush _ _ _ _ _ _ _ _ => none

theorem BackgroundTask.isSome_endedKey (task : BackgroundTask) :
    task.endedKey.isSome = task.notifies := by
  cases task <;> rfl

inductive ThreadJob where
  | leg
  | background (task : BackgroundTask)
  | sweep
deriving DecidableEq

def ThreadJob.notifies : ThreadJob → Bool
  | .background task => task.notifies
  | _ => false

structure Thread where
  job : ThreadJob
  program : Program Unit
  session : Option Session
  owed : List Session

/-- The database and the threads of all workers. `current` numbers the session of each cached row
and `opened` counts the sessions of each key. -/
structure SessionRace where
  world : World
  threads : Nat → Option Thread
  started : Nat
  current : SessionKey → Option Nat
  opened : SessionKey → Nat
  history : List SessionMark

inductive RaceEvent where
  | arrives (adapter : Adapter) (request : Request)
  | ticks
  | runs (thread : Nat) (environment : Environment)
  | registryChanged (registry : Registry)
  | elapsed (micros : Nat)

def schedulesNotification {α : Type} : Program α → Bool
  | .perform (.spawn task _) _ => task.notifies
  | _ => false

section

variable (runtime : PyRuntime) (settings : Settings)

def repliesEnd : Except PyError HttpExchange → Bool
  | .ok exchange => decide
      ((handlerOutcome runtime exchange).reply.map UnifiedReply.action = some .END)
  | .error _ => false

namespace SessionRace

variable (race : SessionRace) (number : Nat)

def withThread (thread : Thread) : SessionRace :=
  { race with threads := Function.update race.threads number (some thread) }

def marked (mark : SessionMark) : SessionRace := { race with history := race.history ++ [mark] }

def start (thread : Thread) : SessionRace :=
  { race.withThread race.started thread with started := race.started + 1 }

def upserted (thread : Thread) (key : SessionKey) : SessionRace :=
  match race.current key, thread.session with
  | some session, _ => race.withThread number { thread with session := some (key, session) }
  | none, some session =>
      { race with current := Function.update race.current key (some session.2) }.withThread number
        thread
  | none, none =>
      ({ race with
        current := Function.update race.current key (some (race.opened key))
        opened := Function.update race.opened key (race.opened key + 1) }.marked
          (.opened (key, race.opened key))).withThread number
            { thread with session := some (key, race.opened key) }

def closed (thread : Thread) (key : SessionKey) : SessionRace :=
  { race with current := Function.update race.current key none }.withThread number
    { thread with
      owed := if schedulesNotification thread.program then thread.session.toList else thread.owed }

def spawned (thread : Thread) (task : BackgroundTask) : SessionRace :=
  (race.withThread number
    { thread with owed := thread.owed.filter fun session => task.endedKey ≠ some session.1 }).start
      { job := .background task, program := task.program runtime settings
        session := thread.session
        owed := (thread.owed.find? fun session => task.endedKey = some session.1).toList }

def claimed (thread : Thread) (expired : List ExpiredSession) : SessionRace :=
  let keys := expired.map ExpiredSession.key
  { race with current := fun key => if key ∈ keys then none else race.current key }.withThread
    number { thread with owed := keys.map fun key => (key, (race.current key).getD 0) }

def noted (thread : Thread) : (op : GatewayOp) → Except PyError op.Answer → SessionRace
  | .getActiveSession key, .ok (some _) => race.withThread number
      { thread with session := (race.current key).map fun session => (key, session) }
  | .upsertActiveSession values, _ => race.upserted number thread values.key
  | .expireActiveSession key, _ => race.closed number thread key
  | .claimExpiredSessions _ _ _ _, .ok expired => race.claimed number thread expired
  | .sendToHandler _, _ =>
      if thread.job.notifies then
        (race.marked (.notified thread.owed.head?)).withThread number { thread with owed := [] }
      else race.withThread number thread
  | .awaitHandler _, answer =>
      if !thread.job.notifies && repliesEnd runtime answer then
        (race.marked (.ended thread.session)).withThread number thread
      else race.withThread number thread
  | .spawn task _, _ => race.spawned runtime settings number thread task
  | _, _ => race.withThread number thread

def step : RaceEvent → Option SessionRace
  | .arrives adapter request =>
      some (race.start
        { job := .leg
          program := handleUssd runtime settings adapter.operator request >>= fun _ => pure ()
          session := none, owed := [] })
  | .ticks =>
      some (race.start
        { job := .sweep, program := expireIdleSessionsOnce settings >>= fun _ => pure ()
          session := none, owed := [] })
  | .runs number environment =>
      (race.threads number).bind fun thread =>
        match thread.program with
        | .perform op next =>
            let answered := perform environment op race.world
            some ({ race with world := answered.2 }.noted runtime settings number
              { thread with program := next answered.1 } op answered.1)
        | _ => none
  | .registryChanged registry => some { race with world := { race.world with registry } }
  | .elapsed micros =>
      some { race with world := { race.world with now := race.world.now + micros } }

end SessionRace

def SessionRace.isOwed (race : SessionRace) (session : Session) : Bool :=
  (List.range race.started).any fun number =>
    (race.threads number).any fun thread => decide (session ∈ thread.owed)

/-- What an operation relies on, in the order in which the operations of the workers come: a leg
that has read its row writes it back while it is cached; a leg that goes on to notify deletes the
row that it has read; no row that is deleted so, or idle when a sweep comes, is of a session that
the handler has ended; and no handler ends a session whose end it has still to be told of. -/
def SessionRace.Careful (race : SessionRace) (thread : Thread) (environment : Environment) :
    (op : GatewayOp) → (Except PyError op.Answer → Program Unit) → Prop
  | .upsertActiveSession values, _ =>
      thread.session.isSome → (race.current values.key).isSome
  | .expireActiveSession key, next => schedulesNotification (next (.ok ())) →
      ∃ session ∈ race.current key, thread.session = some (key, session) ∧
        .ended (some (key, session)) ∉ race.history
  | .claimExpiredSessions idleSecs maxAgeSecs _ perOp, _ =>
      ∀ row ∈ race.world.sessions.rows,
        ∀ operatorName ∈ race.world.registry.operatorName row.operatorId,
          isVictim race.world.now idleSecs maxAgeSecs perOp operatorName row →
          ∀ session ∈ race.current row.key, .ended (some (row.key, session)) ∉ race.history
  | .awaitHandler call, _ =>
      thread.job.notifies = false → repliesEnd runtime (environment.answer call) →
        ∀ session ∈ thread.session, race.isOwed session = false
  | _, _ => True

instance (race : SessionRace) (thread : Thread) (environment : Environment) (op : GatewayOp)
    (next : Except PyError op.Answer → Program Unit) :
    Decidable (race.Careful runtime thread environment op next) := by
  cases op <;> dsimp only [SessionRace.Careful] <;> infer_instance

def SessionRace.CarefulStep (race : SessionRace) : RaceEvent → Prop
  | .runs number environment =>
      match race.threads number with
      | some thread =>
          match thread.program with
          | .perform op next => race.Careful runtime thread environment op next
          | _ => True
      | none => True
  | _ => True

instance (race : SessionRace) (event : RaceEvent) :
    Decidable (race.CarefulStep runtime event) := by
  cases event <;> dsimp only [SessionRace.CarefulStep] <;> try infer_instance
  split
  · split <;> infer_instance
  · infer_instance

def sessionRaces : StepSystem SessionRace RaceEvent where
  initial race := race.world.sessions = KeyedTable.empty ∧ (∀ number, race.threads number = none) ∧
    (∀ key, race.current key = none) ∧ (∀ key, race.opened key = 0) ∧ race.history = []
  step race event := race.step runtime settings event

end

/-- Every notification is of a session that was opened, and follows neither another one nor an END
reply to that session. -/
structure NotifiedOnce (history : List SessionMark) : Prop where
  apart : history.Pairwise fun earlier later => ∀ session, later = .notified session →
    earlier ≠ .notified session ∧ earlier ≠ .ended session
  opened : ∀ session, .notified session ∈ history →
    ∃ known, session = some known ∧ .opened known ∈ history

def owedAfter (notifies schedules : Bool) (owed : List SessionKey) :
    (op : GatewayOp) → Except PyError op.Answer → List SessionKey
  | .spawn task _, _ => owed.filter fun key => task.endedKey ≠ some key
  | .sendToHandler _, _ => if notifies then [] else owed
  | .expireActiveSession key, _ => if schedules then [key] else owed
  | .claimExpiredSessions _ _ _ _, .ok expired => expired.map ExpiredSession.key
  | _, _ => owed

def Covered (notifies : Bool) (owed : List SessionKey) : GatewayOp → Prop
  | .spawn task _ => ∀ key, task.endedKey = some key → key ∈ owed
  | .sendToHandler _ => notifies → owed.length = 1
  | _ => True

def Possible : (op : GatewayOp) → Except PyError op.Answer → Prop
  | .claimExpiredSessions _ _ _ _, .ok expired => (expired.map ExpiredSession.key).Nodup
  | _, _ => True

def Honours {α : Type} (notifies : Bool) : Program α → List SessionKey → Prop
  | .done _, _ => True
  | .raise _, _ => True
  | .perform op next, owed => Covered notifies owed op ∧ ∀ answer, Possible op answer →
      Honours notifies (next answer)
        (owedAfter notifies (schedulesNotification (next answer)) owed op answer)

def Silent : GatewayOp → Prop
  | .spawn _ _ | .sendToHandler _ | .expireActiveSession _ | .claimExpiredSessions _ _ _ _ => False
  | _ => True

def Neutral (notifies : Bool) : GatewayOp → Prop
  | .spawn task _ => task.notifies = false
  | .sendToHandler _ => notifies = false
  | .claimExpiredSessions _ _ _ _ => False
  | _ => True

section

variable {α β : Type} {notifies : Bool} {owed : List SessionKey}

theorem endedKey_eq_none {task : BackgroundTask} (quiet : task.notifies = false) :
    task.endedKey = none := by
  rw [← BackgroundTask.isSome_endedKey, Option.isSome_eq_false_iff, Option.isNone_iff_eq_none]
    at quiet
  exact quiet

theorem schedules_of_uses {program : Program α} (uses : program.Uses (Neutral notifies)) :
    schedulesNotification program = false := by
  cases program with
  | done value => rfl
  | raise error => rfl
  | perform op next =>
      have quiet := (Prog.uses_perform_iff.1 uses).1
      cases op with
      | spawn task referenced => exact quiet
      | _ => rfl

theorem owedAfter_of_neutral {op : GatewayOp} (neutral : Neutral notifies op)
    (answer : Except PyError op.Answer) : owedAfter notifies false owed op answer = owed := by
  cases op with
  | spawn task referenced => simp [owedAfter, endedKey_eq_none neutral]
  | sendToHandler call =>
      have quiet : notifies = false := neutral
      simp [owedAfter, quiet]
  | claimExpiredSessions idleSecs maxAgeSecs limit perOp => exact neutral.elim
  | _ => rfl

theorem covered_of_neutral {op : GatewayOp} (neutral : Neutral notifies op) :
    Covered notifies owed op := by
  cases op with
  | spawn task referenced =>
      intro key ended
      rw [endedKey_eq_none neutral] at ended
      cases ended
  | sendToHandler call =>
      intro sends
      exact absurd (sends.symm.trans neutral) Bool.noConfusion
  | _ => trivial

theorem honours_of_uses {program : Program α} (uses : program.Uses (Neutral notifies)) :
    Honours notifies program owed := by
  induction program with
  | done value => trivial
  | raise error => trivial
  | perform op next ih =>
      obtain ⟨neutral, later⟩ := Prog.uses_perform_iff.1 uses
      refine ⟨covered_of_neutral neutral, ?_⟩
      intro answer _
      rw [schedules_of_uses (later answer), owedAfter_of_neutral neutral]
      exact ih answer (later answer)

theorem owedAfter_of_silent {op : GatewayOp} (silent : Silent op) (schedules : Bool)
    (answer : Except PyError op.Answer) : owedAfter notifies schedules owed op answer = owed := by
  cases op with
  | spawn | sendToHandler | expireActiveSession | claimExpiredSessions => exact silent.elim
  | _ => rfl

theorem covered_of_silent {op : GatewayOp} (silent : Silent op) : Covered notifies owed op := by
  cases op with
  | spawn | sendToHandler => exact silent.elim
  | _ => trivial

theorem honours_call (op : GatewayOp) {rest : op.Answer → Program β}
    (covered : Covered notifies owed op)
    (later : ∀ value, Possible op (.ok value) → Honours notifies (rest value)
      (owedAfter notifies (schedulesNotification (rest value)) owed op (.ok value))) :
    Honours notifies (Prog.call (S := gatewayOps) op >>= rest) owed := by
  refine ⟨covered, ?_⟩
  rintro (error | value) possible
  · trivial
  · exact later value possible

theorem Honours.bind {program : Program α} {rest : α → Program β} (uses : program.Uses Silent)
    (later : ∀ value, Honours notifies (rest value) owed) :
    Honours notifies (program >>= rest) owed := by
  induction program with
  | done value => exact later value
  | raise error => trivial
  | perform op next ih =>
      obtain ⟨silent, silentLater⟩ := Prog.uses_perform_iff.1 uses
      rw [Prog.perform_bind]
      refine ⟨covered_of_silent silent, ?_⟩
      intro answer _
      rw [owedAfter_of_silent silent]
      exact ih answer (silentLater answer)

theorem schedules_map (program : Program α) (value : β) :
    schedulesNotification (program >>= fun _ => Prog.done value) =
      schedulesNotification program := by
  cases program with
  | done value => rfl
  | raise error => rfl
  | perform op next => cases op <;> rfl

theorem Honours.map {program : Program α} (honours : Honours notifies program owed) (value : β) :
    Honours notifies (program >>= fun _ => Prog.done value) owed := by
  induction program generalizing owed with
  | done value => trivial
  | raise error => trivial
  | perform op next ih =>
      rw [Prog.perform_bind]
      refine ⟨honours.1, ?_⟩
      intro answer possible
      rw [schedules_map]
      exact ih answer (honours.2 answer possible)

end

/-! The programs of the threads. -/

section

variable (runtime : PyRuntime) (settings : Settings) (adapter : Adapter) (ur : UnifiedRequest)

theorem parseOps_silent : ParseOps Silent where
  operatorId _ := trivial
  prefixes _ _ := trivial
  read _ := trivial
  write _ := trivial

theorem legOps_neutral : LegOps (Neutral false) where
  operatorId _ := trivial
  prefixes _ _ := trivial
  read _ := trivial
  write _ := trivial
  resolve _ _ := trivial
  expire _ := trivial
  send _ := rfl
  await _ := trivial
  push _ := trivial
  log _ := trivial
  schedule _ _ quiet := quiet

theorem honours_terminalEnd (resolved : Option ShortcodeRow) (operatorId : Nat)
    (same : ∀ shortcode, resolved = some shortcode → operatorId = shortcode.operatorId) :
    Honours false (do
      Program.expireActiveSession (ur.sessionId, operatorId)
      let response ← raiseOr (adapter.render terminalAck)
      notifyOrLog adapter ur resolved operatorId
      pure response) [] := by
  refine honours_call (.expireActiveSession _) trivial fun _ _ => ?_
  rcases adapter.render terminalAck with error | response
  · trivial
  refine Honours.map ?_ response
  rcases skipped : terminalNotifySkipReason resolved with _ | reason
  · rcases resolved with _ | shortcode
    · cases skipped
    · simp only [notifyOrLog, skipped]
      refine ⟨?_, fun answer _ => ?_⟩
      · rintro key ⟨⟩
        rw [same shortcode rfl]
        exact List.mem_singleton_self _
      · cases answer <;> trivial
  · apply honours_of_uses
    rcases resolved with _ | shortcode <;>
    · simp only [notifyOrLog, skipped]
      exact uses_logLeg legOps_neutral.toServeOps _

theorem honours_terminalLeg : Honours false (terminalLeg adapter ur) [] := by
  refine Honours.bind ?_ fun resolved => ?_
  · rw [terminalShortcode]
    split
    · exact Prog.uses_done _
    · exact Prog.uses_call trivial
  · cases resolved with
    | some shortcode =>
        refine honours_terminalEnd adapter ur _ shortcode.operatorId ?_
        rintro _ ⟨⟩
        rfl
    | none =>
        refine Honours.bind (Prog.uses_call trivial) fun operatorId => ?_
        refine honours_terminalEnd adapter ur _ operatorId ?_
        rintro _ ⟨⟩

theorem honours_handleLeg : Honours false (handleLeg runtime settings adapter ur) [] := by
  rw [handleLeg]
  split
  · exact honours_of_uses (uses_authFailedLeg legOps_neutral.toServeOps adapter ur _)
  · split
    · exact honours_of_uses (uses_deliveryAckLeg legOps_neutral.toServeOps adapter ur)
    · split
      · exact honours_terminalLeg adapter ur
      · exact honours_of_uses (uses_menuLeg legOps_neutral.toServeOps runtime settings adapter ur
          fun _ => legOps_neutral.schedule)

theorem honours_handleUssd (operatorKey : Str) (request : Request) :
    Honours false (handleUssd runtime settings operatorKey request) [] := by
  rw [handleUssd]
  split
  · trivial
  next adapter _ =>
    exact Honours.bind (uses_parse parseOps_silent runtime adapter request) fun ur =>
      honours_handleLeg runtime settings adapter ur

theorem honours_spawnEach (claimed : List ExpiredSession)
    (once : (claimed.map ExpiredSession.key).Nodup) :
    Honours false (spawnEach claimed) (claimed.map ExpiredSession.key) := by
  induction claimed with
  | nil => trivial
  | cons expired rest ih =>
      rw [List.map_cons, List.nodup_cons] at once
      refine honours_call (.spawn _ _) ?_ fun _ _ => ?_
      · rintro key ⟨⟩
        exact List.mem_cons_self
      · have left : owedAfter false (schedulesNotification (spawnEach rest))
            ((expired :: rest).map ExpiredSession.key)
            (.spawn (.notifySessionExpired expired) true) (.ok ()) =
              rest.map ExpiredSession.key := by
          simp only [owedAfter, BackgroundTask.endedKey, List.map_cons]
          rw [List.filter_cons_of_neg (by simp), List.filter_eq_self]
          intro key member
          have apart : expired.key ≠ key := fun same => once.1 (same ▸ member)
          simpa using apart
        exact left ▸ ih once.2

theorem honours_expireIdleSessionsOnce :
    Honours false (expireIdleSessionsOnce settings) [] := by
  refine honours_call (.claimExpiredSessions _ _ _ _) trivial fun claimed once => ?_
  exact (honours_spawnEach claimed once).map claimed.length

theorem honours_notify {α : Type} (shortcode : ShortcodeRow) (key : SessionKey)
    (rest : Option HandlerOutcome → Program α)
    (quiet : ∀ answered, (rest answered).Uses (Neutral true)) :
    Honours true (guarded (forward runtime settings shortcode ur) >>= rest) [key] := by
  refine ⟨fun _ => rfl, ?_⟩
  intro answer _
  apply honours_of_uses
  refine Prog.Uses.bind (Prog.Uses.attempt (Prog.Uses.bind (Prog.Uses.bind ?_ fun _ => ?_) fun _ =>
    Prog.uses_done _) fun _ => Prog.uses_done _) quiet
  · cases answer with
    | ok _ => exact Prog.uses_done _
    | error error => exact Prog.uses_raise _
  · exact (Prog.uses_call trivial).bind fun _ => Prog.uses_done _

theorem honours_background (task : BackgroundTask) :
    Honours task.notifies (task.program runtime settings) task.endedKey.toList := by
  have logs : ∀ row, (guarded (Program.logLeg row) >>= fun _ => pure ()).Uses (Neutral true) :=
    fun row => (uses_guarded (Prog.uses_call trivial)).bind fun _ => Prog.uses_done _
  cases task with
  | notifyTerminalEvent shortcode ur ack =>
      refine honours_notify runtime settings ur shortcode _ _ ?_
      rintro (_ | outcome)
      · exact Prog.uses_done _
      · exact logs _
  | notifySessionExpired expired =>
      refine Honours.bind ?_ fun found => ?_
      · rw [expiredShortcode]
        split
        · exact Prog.uses_done _
        · exact uses_guarded (Prog.uses_call trivial)
      · rcases found with _ | resolved
        · trivial
        dsimp only
        split
        next shortcode _ =>
          refine honours_notify runtime settings _ shortcode _ _ ?_
          rintro (_ | outcome)
          · exact Prog.uses_done _
          · exact logs _
        next => exact honours_of_uses (logs _)
  | asyncForwardThenPush adapter ur shortcode =>
      exact honours_of_uses (uses_background legOps_neutral.toServeOps runtime settings _)
  | asyncCannedPush adapter ur operatorKey reply errorClass shortcodeId operatorId operatorName =>
      exact honours_of_uses (uses_background legOps_neutral.toServeOps runtime settings _)

end

/-! What holds between the steps. -/

theorem notifiedOnce_append {history : List SessionMark} {mark : SessionMark}
    (once : NotifiedOnce history)
    (last : ∀ session, mark = .notified session → .notified session ∉ history ∧
      .ended session ∉ history ∧ ∃ known, session = some known ∧ .opened known ∈ history) :
    NotifiedOnce (history ++ [mark]) := by
  constructor
  · rw [List.pairwise_append]
    refine ⟨once.apart, List.pairwise_singleton _ _, ?_⟩
    intro earlier member later final session same
    rw [List.mem_singleton] at final
    obtain ⟨unreported, unended, _⟩ := last session (final.symm.trans same)
    exact ⟨fun equal => unreported (equal ▸ member), fun equal => unended (equal ▸ member)⟩
  · intro session member
    rcases List.mem_append.1 member with before | final
    · obtain ⟨known, same, opened⟩ := once.opened session before
      exact ⟨known, same, List.mem_append_left _ opened⟩
    · obtain ⟨_, _, known, same, opened⟩ := last session (List.mem_singleton.1 final).symm
      exact ⟨known, same, List.mem_append_left _ opened⟩

@[simp] theorem threads_withThread_self (race : SessionRace) (number : Nat) (thread : Thread) :
    (race.withThread number thread).threads number = some thread := Function.update_self _ _ _

theorem threads_withThread_of_ne {race : SessionRace} {number other : Nat} {thread : Thread}
    (apart : other ≠ number) :
    (race.withThread number thread).threads other = race.threads other :=
  Function.update_of_ne apart _ _

structure SessionRace.Owes (race : SessionRace) (number : Nat) (session : Session) : Prop where
  uncached : race.current session.1 ≠ some session.2
  alone : ∀ other thread, other ≠ number → race.threads other = some thread →
    session ∉ thread.owed
  unreported : .notified (some session) ∉ race.history
  unended : .ended (some session) ∉ race.history
  opened : .opened session ∈ race.history

def Thread.Sound (thread : Thread) : Prop :=
  Honours thread.job.notifies thread.program (thread.owed.map Prod.fst)

structure SessionRace.Sound (race : SessionRace) : Prop where
  unstarted : ∀ number, race.started ≤ number → race.threads number = none
  threads : ∀ number thread, race.threads number = some thread → thread.Sound
  owed : ∀ number thread, race.threads number = some thread →
    ∀ session ∈ thread.owed, race.Owes number session
  cached : ∀ key, (race.world.sessions.find key).isSome = (race.current key).isSome
  numbered : ∀ key number, race.opened key ≤ number → .opened (key, number) ∉ race.history
  current : ∀ key number, race.current key = some number →
    .opened (key, number) ∈ race.history ∧ .notified (some (key, number)) ∉ race.history
  once : NotifiedOnce race.history

namespace SessionRace.Sound

variable {race : SessionRace} {number : Nat} {thread : Thread}

theorem number_lt (sound : race.Sound) (running : race.threads number = some thread) :
    number < race.started := by
  by_contra late
  rw [sound.unstarted number (Nat.le_of_not_lt late)] at running
  cases running

theorem not_owed (sound : race.Sound) {session : Session} (settled : race.isOwed session = false)
    (running : race.threads number = some thread) : session ∉ thread.owed := by
  have here := List.any_eq_false.1 settled number (List.mem_range.2 (sound.number_lt running))
  simpa [running] using here

theorem withThread (sound : race.Sound) (started : number < race.started) (kept : thread.Sound)
    (owed : ∀ session ∈ thread.owed, race.Owes number session) :
    (race.withThread number thread).Sound where
  unstarted other late := by
    have apart : other ≠ number := by
      have : race.started ≤ other := late
      omega
    rw [threads_withThread_of_ne apart]
    exact sound.unstarted other late
  threads other found running := by
    by_cases same : other = number
    · subst same
      rw [threads_withThread_self, Option.some.injEq] at running
      exact running ▸ kept
    · rw [threads_withThread_of_ne same] at running
      exact sound.threads other found running
  owed other found running session member := by
    by_cases same : other = number
    · subst same
      rw [threads_withThread_self, Option.some.injEq] at running
      subst running
      obtain ⟨uncached, alone, unreported, unended, opened⟩ := owed session member
      refine ⟨uncached, ?_, unreported, unended, opened⟩
      intro third other apart running
      rw [threads_withThread_of_ne apart] at running
      exact alone third other apart running
    · rw [threads_withThread_of_ne same] at running
      obtain ⟨uncached, alone, unreported, unended, opened⟩ :=
        sound.owed other found running session member
      refine ⟨uncached, ?_, unreported, unended, opened⟩
      intro third another apart runs
      by_cases again : third = number
      · subst again
        rw [threads_withThread_self, Option.some.injEq] at runs
        subst runs
        intro shared
        exact (owed session shared).alone other found same running member
      · rw [threads_withThread_of_ne again] at runs
        exact alone third another apart runs
  cached := sound.cached
  numbered := sound.numbered
  current := sound.current
  once := sound.once

theorem starts (sound : race.Sound) (kept : thread.Sound)
    (owed : ∀ session ∈ thread.owed, race.Owes race.started session) :
    (race.start thread).Sound := by
  have later : { race with started := race.started + 1 }.Sound :=
    { sound with
      unstarted := fun other late => sound.unstarted other (Nat.le_of_lt late)
      owed := fun number thread running session member =>
        { sound.owed number thread running session member with } }
  exact later.withThread (Nat.lt_succ_self _) kept fun session member =>
    { owed session member with }

theorem recached (sound : race.Sound) {world : World} {current : SessionKey → Option Nat}
    (cached : ∀ key, (world.sessions.find key).isSome = (current key).isSome)
    (fewer : ∀ key number, current key = some number → race.current key = some number) :
    { race with world, current }.Sound :=
  { sound with
    cached
    owed := fun number thread running session member =>
      let owes := sound.owed number thread running session member
      { owes with uncached := fun found => owes.uncached (fewer _ _ found) }
    current := fun key number found => sound.current key number (fewer key number found) }

theorem mem_marked {mark other : SessionMark} :
    other ∈ (race.marked mark).history ↔ other ∈ race.history ∨ other = mark := by
  rw [SessionRace.marked, List.mem_append, List.mem_singleton]

theorem marked (sound : race.Sound) {mark : SessionMark}
    (opens : ∀ session, mark = .opened session → session.2 < race.opened session.1)
    (ends : ∀ session, mark = .ended (some session) →
      ∀ other owing, race.threads other = some owing → session ∉ owing.owed)
    (reports : ∀ reported, mark = .notified reported → ∃ session, reported = some session ∧
      race.current session.1 ≠ some session.2 ∧
      (∀ other owing, race.threads other = some owing → session ∉ owing.owed) ∧
      .notified (some session) ∉ race.history ∧ .ended (some session) ∉ race.history ∧
      .opened session ∈ race.history) : (race.marked mark).Sound where
  unstarted := sound.unstarted
  threads := sound.threads
  owed number thread running session member := by
    have owes := sound.owed number thread running session member
    refine ⟨owes.uncached, owes.alone, ?_, ?_, mem_marked.2 (Or.inl owes.opened)⟩
    · rw [mem_marked]
      rintro (before | last)
      · exact owes.unreported before
      · obtain ⟨known, same, _, unowed, _⟩ := reports _ last.symm
        cases same
        exact unowed number thread running member
    · rw [mem_marked]
      rintro (before | last)
      · exact owes.unended before
      · exact ends session last.symm number thread running member
  cached := sound.cached
  numbered key number late := by
    rw [mem_marked]
    rintro (before | last)
    · exact sound.numbered key number late before
    · exact absurd (opens _ last.symm) (Nat.not_lt.2 late)
  current key number found := by
    obtain ⟨opened, unreported⟩ := sound.current key number found
    refine ⟨mem_marked.2 (Or.inl opened), ?_⟩
    rw [mem_marked]
    rintro (before | last)
    · exact unreported before
    · obtain ⟨known, same, uncached, _⟩ := reports _ last.symm
      cases same
      exact uncached found
  once := by
    refine notifiedOnce_append sound.once ?_
    intro reported same
    obtain ⟨session, rfl, _, _, unreported, unended, opened⟩ := reports reported same
    exact ⟨unreported, unended, session, rfl, opened⟩

theorem caches (sound : race.Sound) {world : World} (session : Session)
    (cached : ∀ key, (world.sessions.find key).isSome =
      if key = session.1 then true else (race.current key).isSome)
    (opened : .opened session ∈ race.history)
    (unowed : ∀ other owing, race.threads other = some owing → session ∉ owing.owed)
    (unreported : .notified (some session) ∉ race.history) :
    { race with
      world
      current := Function.update race.current session.1 (some session.2) }.Sound :=
  { sound with
    owed := by
      intro number thread running owed member
      have owes := sound.owed number thread running owed member
      refine { owes with uncached := ?_ }
      simp only [Function.update_apply]
      split
      next same =>
        intro equal
        have this : owed = session := Prod.ext same (Option.some.inj equal).symm
        exact unowed number thread running (this ▸ member)
      next => exact owes.uncached
    cached := by
      intro key
      refine (cached key).trans ?_
      simp only [Function.update_apply]
      split <;> rfl
    current := by
      intro key number found
      simp only [Function.update_apply] at found
      split at found
      next same =>
        subst same
        cases found
        exact ⟨opened, unreported⟩
      next => exact sound.current key number found }

theorem opens (sound : race.Sound) {world : World} {key : SessionKey}
    (cached : ∀ other, (world.sessions.find other).isSome =
      if other = key then true else (race.current other).isSome) :
    ({ race with
      world
      current := Function.update race.current key (some (race.opened key))
      opened := Function.update race.opened key (race.opened key + 1) }.marked
        (.opened (key, race.opened key))).Sound := by
  have unopened := sound.numbered key (race.opened key) le_rfl
  have counted : { race with
      opened := Function.update race.opened key (race.opened key + 1) }.Sound := by
    refine { sound with
      numbered := ?_
      owed := fun number thread running session member =>
        { sound.owed number thread running session member with } }
    intro other number late
    refine sound.numbered other number (Nat.le_trans ?_ late)
    simp only [Function.update_apply]
    split
    next same => rw [same]; omega
    next => exact le_rfl
  have opened : ({ race with
      opened := Function.update race.opened key (race.opened key + 1) }.marked
        (.opened (key, race.opened key))).Sound := by
    refine counted.marked ?_ ?_ ?_
    · rintro session ⟨⟩
      simp
    · rintro _ ⟨⟩
    · rintro _ ⟨⟩
  refine opened.caches (key, race.opened key) cached (mem_marked.2 (Or.inr rfl)) ?_ ?_
  · intro number owing running member
    exact unopened (sound.owed number owing running _ member).opened
  · rw [mem_marked]
    rintro (reported | impossible)
    · obtain ⟨known, same, opened⟩ := sound.once.opened _ reported
      cases same
      exact unopened opened
    · cases impossible

theorem ends (sound : race.Sound) {session : Option Session}
    (unowed : ∀ other owing, race.threads other = some owing → ∀ owed ∈ owing.owed,
      session ≠ some owed) : (race.marked (.ended session)).Sound := by
  refine sound.marked ?_ ?_ ?_
  · rintro _ ⟨⟩
  · rintro known ⟨⟩ other owing running member
    exact unowed other owing running known member rfl
  · rintro _ ⟨⟩

theorem movesOn (sound : race.Sound) (running : race.threads number = some thread) {world : World}
    (cached : ∀ key, (world.sessions.find key).isSome = (race.world.sessions.find key).isSome)
    {program : Program Unit} {session : Option Session}
    (kept : Honours thread.job.notifies program (thread.owed.map Prod.fst)) :
    ({ race with world }.withThread number { thread with program, session }).Sound := by
  have moved : { race with world }.Sound :=
    sound.recached (fun key => (cached key).trans (sound.cached key)) fun _ _ found => found
  exact moved.withThread (sound.number_lt running) kept fun session member =>
    { sound.owed number thread running session member with }

section

variable {runtime : PyRuntime} {settings : Settings} {environment : Environment}

theorem upserted (sound : race.Sound) (running : race.threads number = some thread)
    {values : SessionUpsert} {program : Program Unit}
    (kept : Honours thread.job.notifies program (thread.owed.map Prod.fst))
    (careful : thread.session.isSome → (race.current values.key).isSome) :
    ({ race with world := race.world.upserted values }.upserted number
      { thread with program } values.key).Sound := by
  have found : ∀ key, ((race.world.upserted values).sessions.find key).isSome =
      if key = values.key then true else (race.world.sessions.find key).isSome := by
    intro key
    split
    next same => rw [same, World.upserted, SessionTable.find_upsertActiveSession_self]; rfl
    next apart => rw [World.upserted, SessionTable.find_upsertActiveSession_of_ne _ _ _ apart]
  rcases current : race.current values.key with _ | session
  · rcases owner : thread.session with _ | session
    · simp only [SessionRace.upserted, current]
      have opened := sound.opens fun key => (found key).trans (by rw [sound.cached])
      exact opened.withThread (sound.number_lt running) kept fun session member =>
        { opened.owed number thread running session member with }
    · rw [owner, current] at careful
      cases careful rfl
  · simp only [SessionRace.upserted, current]
    refine sound.movesOn running ?_ kept
    intro key
    rw [found]
    split
    next same => rw [same, sound.cached, current]; rfl
    next => rfl

theorem closed (sound : race.Sound) (running : race.threads number = some thread)
    {key : SessionKey} {program : Program Unit}
    (kept : Honours thread.job.notifies program
      (if schedulesNotification program then [key] else thread.owed.map Prod.fst))
    (careful : schedulesNotification program → ∃ session ∈ race.current key,
      thread.session = some (key, session) ∧ .ended (some (key, session)) ∉ race.history) :
    ({ race with world := race.world.expired key }.closed number { thread with program }
      key).Sound := by
  have deleted : { race with
      world := race.world.expired key
      current := Function.update race.current key none }.Sound := by
    refine sound.recached ?_ ?_
    · intro other
      rw [World.expired_sessions, SessionTable.expireActiveSession, KeyedTable.find_erase,
        Function.update_apply]
      split
      next => rfl
      next => exact sound.cached other
    · intro other session found
      rw [Function.update_apply] at found
      split at found
      next => cases found
      next => exact found
  rcases schedules : schedulesNotification program
  · rw [schedules] at kept
    simp only [SessionRace.closed, schedules]
    exact deleted.withThread (sound.number_lt running) kept fun session member =>
      { deleted.owed number thread running session member with }
  · rw [schedules] at kept careful
    obtain ⟨session, cached, read, unended⟩ := careful rfl
    simp only [SessionRace.closed, schedules, read]
    refine deleted.withThread (sound.number_lt running) kept fun owed member => ?_
    have same : owed = (key, session) := by simpa using member
    subst same
    obtain ⟨opened, unreported⟩ := sound.current key session cached
    refine ⟨?_, ?_, unreported, unended, opened⟩
    · simp
    · intro other owing _ runs owes
      exact (sound.owed other owing runs _ owes).uncached cached

theorem claimed (sound : race.Sound) (running : race.threads number = some thread)
    {world : World} {expired : List ExpiredSession} {program : Program Unit}
    (kept : Honours thread.job.notifies program (expired.map ExpiredSession.key))
    (taken : ∀ key, world.sessions.find key =
      if key ∈ expired.map ExpiredSession.key then none else race.world.sessions.find key)
    (present : ∀ key ∈ expired.map ExpiredSession.key, (race.world.sessions.find key).isSome)
    (unended : ∀ key ∈ expired.map ExpiredSession.key, ∀ session,
      race.current key = some session → .ended (some (key, session)) ∉ race.history) :
    ({ race with world }.claimed number { thread with program } expired).Sound := by
  have deleted : { race with
      world
      current := fun key =>
        if key ∈ expired.map ExpiredSession.key then none else race.current key }.Sound := by
    refine sound.recached ?_ ?_
    · intro key
      rw [taken]
      split
      next => rfl
      next => exact sound.cached key
    · intro key session found
      split at found
      next => cases found
      next => exact found
  refine deleted.withThread (sound.number_lt running) ?_ ?_
  · simpa [Thread.Sound, Function.comp_def] using kept
  · intro session member
    obtain ⟨key, claimed, rfl⟩ := List.mem_map.1 member
    have cached := present key claimed
    rw [sound.cached] at cached
    obtain ⟨session, current⟩ := Option.isSome_iff_exists.1 cached
    obtain ⟨opened, unreported⟩ := sound.current key session current
    simp only [current, Option.getD_some]
    refine ⟨?_, ?_, unreported, unended key claimed session current, opened⟩
    · simp only [claimed, if_true, ne_eq, reduceCtorEq, not_false_iff]
    · intro other owing _ runs owes
      exact (sound.owed other owing runs _ owes).uncached current

theorem map_handedOver {owed : List Session} {ended : Option SessionKey}
    (covered : ∀ key, ended = some key → key ∈ owed.map Prod.fst) :
    (owed.find? fun session => ended = some session.1).toList.map Prod.fst = ended.toList := by
  cases ended with
  | none => simp
  | some key =>
      obtain ⟨session, member, same⟩ := List.mem_map.1 (covered key rfl)
      rcases found : owed.find? (fun session => some key = some session.1) with _ | handed
      · rw [List.find?_eq_none] at found
        exact absurd (by simp [same]) (found session member)
      · have handedKey : key = handed.1 := by simpa using List.find?_some found
        rw [found, handedKey]
        rfl

theorem spawned (sound : race.Sound) (running : race.threads number = some thread)
    {task : BackgroundTask} {world : World} {program : Program Unit}
    (same : world.sessions = race.world.sessions)
    (covered : ∀ key, task.endedKey = some key → key ∈ thread.owed.map Prod.fst)
    (kept : Honours thread.job.notifies program
      ((thread.owed.map Prod.fst).filter fun key => task.endedKey ≠ some key)) :
    ({ race with world }.spawned runtime settings number { thread with program } task).Sound := by
  have moved : { race with world }.Sound :=
    sound.recached (fun key => same ▸ sound.cached key) fun _ _ found => found
  have started := sound.number_lt running
  have left : ({ race with world }.withThread number { thread with
      program
      owed := thread.owed.filter fun session => task.endedKey ≠ some session.1 }).Sound := by
    refine moved.withThread started ?_ fun session member => ?_
    · rw [List.filter_map] at kept
      exact kept
    · exact { moved.owed number thread running session (List.mem_of_mem_filter member) with }
  refine left.starts ?_ fun session member => ?_
  · rw [Thread.Sound, map_handedOver covered]
    exact honours_background runtime settings task
  · have found := Option.mem_toList.1 member
    have owes := sound.owed number thread running session (List.mem_of_find?_eq_some found)
    refine { owes with alone := ?_ }
    intro other owing _ runs
    by_cases here : other = number
    · subst here
      rw [threads_withThread_self, Option.some.injEq] at runs
      subst runs
      intro stays
      have apart := List.of_mem_filter stays
      have handed := List.find?_some found
      rw [decide_eq_true_eq] at apart handed
      exact apart handed
    · rw [threads_withThread_of_ne here] at runs
      exact owes.alone other owing here runs

theorem key_mem_victims {registry : Registry} {table : SessionTable} {now limit : Nat}
    {idleSecs maxAgeSecs : Int} {perOp : List (Str × Int)} {locked : SessionKey → Bool}
    {key : SessionKey}
    (claimed : key ∈ (victims registry table now idleSecs maxAgeSecs limit perOp locked).map
      ExpiredSession.key) :
    ∃ row ∈ table.rows, ∃ operatorName, registry.operatorName row.operatorId = some operatorName ∧
      isVictim now idleSecs maxAgeSecs perOp operatorName row = true ∧ key = row.key := by
  obtain ⟨expired, member, rfl⟩ := List.mem_map.1 claimed
  obtain ⟨row, present, operatorName, named, victim, rfl⟩ := mem_victims member
  exact ⟨row, present, operatorName, named, victim, rfl⟩

theorem sent (sound : race.Sound) (running : race.threads number = some thread)
    {world : World} {program : Program Unit} (same : world.sessions = race.world.sessions)
    (covered : thread.job.notifies → (thread.owed.map Prod.fst).length = 1)
    (kept : Honours thread.job.notifies program
      (if thread.job.notifies then [] else thread.owed.map Prod.fst)) :
    (if thread.job.notifies then
        ({ race with world }.marked (.notified thread.owed.head?)).withThread number
          { thread with program, owed := [] }
      else { race with world }.withThread number { thread with program }).Sound := by
  split
  next job =>
    rw [if_pos job] at kept
    rw [List.length_map, List.length_eq_one_iff] at covered
    obtain ⟨session, owed⟩ := covered job
    have owes := sound.owed number thread running session (by simp [owed])
    have moved : { race with world }.Sound :=
      sound.recached (fun key => same ▸ sound.cached key) fun _ _ found => found
    have paid : ({ race with world }.withThread number { thread with program, owed := [] }).Sound :=
      moved.withThread (sound.number_lt running) kept fun _ none => absurd none List.not_mem_nil
    have unowed : ∀ other owing, ({ race with world }.withThread number
        { thread with program, owed := [] }).threads other = some owing →
          session ∉ owing.owed := by
      intro other owing runs
      by_cases here : other = number
      · subst here
        rw [threads_withThread_self, Option.some.injEq] at runs
        subst runs
        exact List.not_mem_nil
      · rw [threads_withThread_of_ne here] at runs
        exact owes.alone other owing here runs
    rw [owed]
    refine paid.marked ?_ ?_ ?_
    · rintro _ ⟨⟩
    · rintro _ ⟨⟩
    · rintro reported ⟨⟩
      exact ⟨session, rfl, owes.uncached, unowed, owes.unreported, owes.unended, owes.opened⟩
  next job =>
    rw [if_neg job] at kept
    exact sound.movesOn running (fun key => by rw [same]) kept

theorem answered (sound : race.Sound) (running : race.threads number = some thread)
    {answer : Except PyError HttpExchange} {program : Program Unit}
    (kept : Honours thread.job.notifies program (thread.owed.map Prod.fst))
    (careful : thread.job.notifies = false → repliesEnd runtime answer →
      ∀ session ∈ thread.session, race.isOwed session = false) :
    (if !thread.job.notifies && repliesEnd runtime answer then
        (race.marked (.ended thread.session)).withThread number { thread with program }
      else race.withThread number { thread with program }).Sound := by
  split
  next ends =>
    rw [Bool.and_eq_true, Bool.not_eq_true'] at ends
    have settled := careful ends.1 ends.2
    have unowed : ∀ other owing, race.threads other = some owing → ∀ owed ∈ owing.owed,
        thread.session ≠ some owed := fun other owing runs owed member same =>
      sound.not_owed (settled owed same) runs member
    exact (sound.ends unowed).movesOn running (fun _ => rfl) kept
  next => exact sound.movesOn running (fun _ => rfl) kept

theorem runs (sound : race.Sound) (running : race.threads number = some thread) {op : GatewayOp}
    {next : Except PyError op.Answer → Program Unit} (program : thread.program = .perform op next)
    (careful : race.Careful runtime thread environment op next) :
    ({ race with world := (perform environment op race.world).2 }.noted runtime settings number
      { thread with program := next (perform environment op race.world).1 } op
      (perform environment op race.world).1).Sound := by
  have honours := sound.threads number thread running
  rw [Thread.Sound, program] at honours
  obtain ⟨covered, later⟩ := honours
  cases op with
  | getActiveSession key =>
      have kept := later (.ok (SessionTable.getActiveSession race.world.sessions race.world.now
        key)) trivial
      simp only [perform, SessionRace.noted]
      rcases read : SessionTable.getActiveSession race.world.sessions race.world.now key
      · rw [read] at kept
        exact sound.movesOn running (fun _ => rfl) kept
      · rw [read] at kept
        exact sound.movesOn running (fun _ => rfl) kept
  | upsertActiveSession values => exact sound.upserted running (later _ trivial) careful
  | expireActiveSession key => exact sound.closed running (later _ trivial) careful
  | claimExpiredSessions idleSecs maxAgeSecs limit perOp =>
      simp only [perform]
      split
      next claimed sessions returned =>
        obtain ⟨rfl, rfl⟩ := claimExpiredSessions_eq_some returned
        refine sound.claimed running (later (.ok _) (victims_once ..))
          (fun key => SessionTable.find_without ..) ?_ ?_
        · intro key claimed
          obtain ⟨row, member, _, _, _, rfl⟩ := key_mem_victims claimed
          have found := (KeyedTable.find_eq_some_iff _ _ _).2 ⟨member, rfl⟩
          exact Option.isSome_iff_exists.2 ⟨row, found⟩
        · intro key claimed session current
          obtain ⟨row, member, operatorName, named, victim, rfl⟩ := key_mem_victims claimed
          exact careful row member operatorName named victim session current
      next => exact sound.movesOn running (fun _ => rfl) (later (.error _) trivial)
  | sendToHandler call => exact sound.sent running rfl covered (later _ trivial)
  | awaitHandler call => exact sound.answered running (later _ trivial) careful
  | spawn task referenced => exact sound.spawned running rfl covered (later _ trivial)
  | operatorId | resolveShortcode | longestRegistered | logLeg | pushToOperator =>
      refine sound.movesOn running ?_ (later _ trivial)
      exact fun _ => rfl

end

end SessionRace.Sound

section

variable {runtime : PyRuntime} {settings : Settings} {race after : SessionRace}

theorem sound_initial (initial : (sessionRaces runtime settings).initial race) : race.Sound := by
  obtain ⟨sessions, threads, current, opened, history⟩ := initial
  constructor
  case unstarted => exact fun number _ => threads number
  case threads =>
    intro number thread running
    rw [threads] at running
    cases running
  case owed =>
    intro number thread running
    rw [threads] at running
    cases running
  case cached =>
    intro key
    rw [sessions, current]
    rfl
  case numbered =>
    intro key number _
    rw [history]
    exact List.not_mem_nil
  case current =>
    intro key number found
    rw [current] at found
    cases found
  case once =>
    rw [history]
    exact ⟨List.Pairwise.nil, fun _ member => absurd member List.not_mem_nil⟩

theorem sound_step {event : RaceEvent} (sound : race.Sound)
    (careful : race.CarefulStep runtime event)
    (stepped : (sessionRaces runtime settings).step race event = some after) : after.Sound := by
  cases event with
  | arrives adapter request =>
      cases stepped
      exact sound.starts ((honours_handleUssd runtime settings _ request).map ())
        fun _ none => absurd none List.not_mem_nil
  | ticks =>
      cases stepped
      exact sound.starts ((honours_expireIdleSessionsOnce settings).map ())
        fun _ none => absurd none List.not_mem_nil
  | runs number environment =>
      obtain ⟨thread, running, moved⟩ := Option.bind_eq_some_iff.1 stepped
      rcases program : thread.program with _ | _ | ⟨op, next⟩
      · simp [program] at moved
      · simp [program] at moved
      · simp only [program, Option.some.injEq] at moved
        simp only [SessionRace.CarefulStep, running, program] at careful
        exact moved ▸ sound.runs running program careful
  | registryChanged registry =>
      cases stepped
      exact sound.recached sound.cached fun _ _ found => found
  | elapsed micros =>
      cases stepped
      exact sound.recached sound.cached fun _ _ found => found

/-- While every step is careful, a handler learns at most once of the end of a session, and never
after its own END. -/
theorem notified_once (reached : (sessionRaces runtime settings).ReachableBy
    (SessionRace.CarefulStep runtime) race) : NotifiedOnce race.history :=
  (reached.invariant (fun _ initial => sound_initial initial) fun _ _ _ sound careful stepped =>
    sound_step sound careful stepped).once

end

def vodacomRegistry : Registry where
  operators := sampleRegistry.operators
  shortcodes := [sampleShortcode 12 1 "*149*02#"]
  operatorIdsUnique := sampleRegistry.operatorIdsUnique
  operatorNamesUnique := sampleRegistry.operatorNamesUnique
  codesUnique := by decide
  messagesEncodable := by decide

def vodacomLeg (trurouteType msg : Str) : Request where
  partnerSlug := none
  queryParams :=
    [(lit "msisdn", lit "255750000001"), (lit "sessionid", lit "V1"), (lit "type", trurouteType),
      (lit "msg", msg)]
  contentType := none
  body := { isEmpty := true, xml := .error [], json := none, form := [] }

def idleGateway : SessionRace where
  world := { sampleWorld with registry := vodacomRegistry }
  threads _ := none
  started := 0
  current _ := none
  opened _ := 0
  history := []

theorem idleGateway_initial :
    (sessionRaces sampleRuntime sampleSettings).initial idleGateway :=
  ⟨rfl, fun _ => rfl, fun _ => rfl, fun _ => rfl, rfl⟩

def dialArrives : RaceEvent := .arrives .vodacom (vodacomLeg (lit "1") (lit "*149*02#"))

def cancelArrives : RaceEvent := .arrives .vodacom (vodacomLeg (lit "3") [])

def operations (thread count : Nat) : List RaceEvent :=
  List.replicate count (.runs thread (sampleEnvironment (lit "CON Karibu")))

def cancelledRun : List RaceEvent :=
  dialArrives :: operations 0 7 ++ cancelArrives :: operations 1 5 ++ operations 2 3

def sampleSession : Session := ((lit "V1", 1), 0)

theorem cancelled_session_notified_once :
    ∃ race, (sessionRaces sampleRuntime sampleSettings).run idleGateway cancelledRun = some race ∧
      race.history = [.opened sampleSession, .notified (some sampleSession)] ∧
      NotifiedOnce race.history := by
  have ended : ((sessionRaces sampleRuntime sampleSettings).run idleGateway cancelledRun).map
      SessionRace.history = some [.opened sampleSession, .notified (some sampleSession)] := by
    decide +kernel
  obtain ⟨race, ran, history⟩ := Option.map_eq_some_iff.1 ended
  have careful : (sessionRaces sampleRuntime sampleSettings).Along
      (SessionRace.CarefulStep sampleRuntime) idleGateway cancelledRun := by decide +kernel
  exact ⟨race, ran, history, notified_once (.along (.start idleGateway_initial) careful ran)⟩

def cancelledTwice : List RaceEvent :=
  dialArrives :: operations 0 7 ++ [cancelArrives, cancelArrives] ++ operations 1 2 ++
    operations 2 2 ++ operations 1 3 ++ operations 2 3 ++ operations 3 1 ++ operations 4 1

theorem cancelled_session_notified_twice :
    ∃ race, (sessionRaces sampleRuntime sampleSettings).Reachable race ∧
      ¬ NotifiedOnce race.history := by
  have ended : ((sessionRaces sampleRuntime sampleSettings).run idleGateway cancelledTwice).map
      SessionRace.history = some [.opened sampleSession, .notified (some sampleSession),
        .notified (some sampleSession)] := by decide +kernel
  obtain ⟨race, ran, history⟩ := Option.map_eq_some_iff.1 ended
  refine ⟨race, .run (.start idleGateway_initial) ran, ?_⟩
  rw [history]
  intro once
  have apart := (List.pairwise_cons.1 (List.pairwise_cons.1 once.apart).2).1
  exact (apart _ (List.mem_singleton_self _) (some sampleSession) rfl).1 rfl

end UssdGateway
