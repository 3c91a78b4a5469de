import UssdGateway.Gateway.LogWriter
import Mathlib.Data.List.ReduceOption

/-!
The thread of one log writer, at any timing: each row that its queue accepts is flushed once, in
order, and the loop ends at the sentinel.
-/

namespace UssdGateway

open StepSystem

/-- Where the thread stands in `_writer_loop`. -/
inductive LoopPhase (Row : Type) where
  | waiting
  | collecting (batch : List Row) (stopping : Bool)
  | flushing (batch : List Row) (stopping : Bool)
  | stopped

namespace LoopPhase

variable {Row : Type}

def leave : List Row → Bool → LoopPhase Row
  | [], true => stopped
  | [], false => waiting
  | row :: rest, stopping => flushing (row :: rest) stopping

def collect (batchMax : Nat) (batch : List Row) (stopping : Bool) : LoopPhase Row :=
  if batch.length < batchMax then collecting batch stopping else leave batch stopping

def batch : LoopPhase Row → List Row
  | collecting batch _ | flushing batch _ => batch
  | waiting | stopped => []

def stopping : LoopPhase Row → Bool
  | collecting _ stopping | flushing _ stopping => stopping
  | waiting => false
  | stopped => true

@[simp] theorem batch_leave (rows : List Row) (stop : Bool) : (leave rows stop).batch = rows := by
  rcases rows with _ | ⟨row, rest⟩
  · cases stop <;> rfl
  · rfl

@[simp] theorem stopping_leave (rows : List Row) (stop : Bool) :
    (leave rows stop).stopping = stop := by
  rcases rows with _ | ⟨row, rest⟩
  · cases stop <;> rfl
  · rfl

@[simp] theorem batch_collect (batchMax : Nat) (rows : List Row) (stop : Bool) :
    (collect batchMax rows stop).batch = rows := by
  rw [collect]
  split
  · rfl
  · exact batch_leave rows stop

@[simp] theorem stopping_collect (batchMax : Nat) (rows : List Row) (stop : Bool) :
    (collect batchMax rows stop).stopping = stop := by
  rw [collect]
  split
  · rfl
  · exact stopping_leave rows stop

def Fits (batchMax : Nat) : LoopPhase Row → Prop
  | collecting batch _ => batch.length < batchMax
  | flushing batch _ => batch ≠ [] ∧ batch.length ≤ batchMax
  | waiting | stopped => True

theorem fits_leave {batchMax : Nat} {rows : List Row} (room : rows.length ≤ batchMax)
    (stop : Bool) : (leave rows stop).Fits batchMax := by
  rcases rows with _ | ⟨row, rest⟩
  · cases stop <;> trivial
  · exact ⟨List.cons_ne_nil _ _, room⟩

theorem fits_collect {batchMax : Nat} {rows : List Row} (room : rows.length ≤ batchMax)
    (stop : Bool) : (collect batchMax rows stop).Fits batchMax := by
  rw [collect]
  split
  next short => exact short
  next => exact fits_leave room stop

def rank : LoopPhase Row → Nat
  | collecting _ _ => 2
  | flushing _ _ => 1
  | waiting | stopped => 0

theorem rank_leave (rows : List Row) (stop : Bool) : (leave rows stop).rank ≤ 1 := by
  rcases rows with _ | ⟨row, rest⟩
  · cases stop <;> exact Nat.zero_le _
  · exact Nat.le_refl _

theorem rank_collect (batchMax : Nat) (rows : List Row) (stop : Bool) :
    (collect batchMax rows stop).rank ≤ 2 := by
  rw [collect]
  split
  · exact Nat.le_refl _
  · exact (rank_leave rows stop).trans (by decide)

end LoopPhase

/-- A row is any tuple; the sentinel is `none`. `accepted` and `flushed` record what the queue took
and what `_flush_batch` was called with, and whether it succeeded. -/
structure WriterLoop (Row : Type) where
  queue : List (Option Row)
  phase : LoopPhase Row
  table : List Row
  accepted : List (Option Row)
  flushed : List (List Row × Bool)

/-- The thread's own events leave the clock open: `empty` is a `queue.Empty`, and `expired` finds
the deadline passed. -/
inductive LoopEvent (Row : Type) where
  | putNowait (item : Option Row)
  | get
  | grow
  | empty
  | expired
  | flushBatch (succeeds : Bool)
deriving DecidableEq

def LoopEvent.IsThread {Row : Type} : LoopEvent Row → Prop
  | putNowait _ => False
  | _ => True

namespace WriterLoop

variable {Row : Type}

def start : WriterLoop Row where
  queue := []
  phase := .waiting
  table := []
  accepted := []
  flushed := []

def batches (loop : WriterLoop Row) : List (List Row) := loop.flushed.map Prod.fst

def step (config : WriterConfig) (loop : WriterLoop Row) : LoopEvent Row → Option (WriterLoop Row)
  | .putNowait item =>
      -- `queue.Full`: the row is dropped.
      if loop.queue.length < config.queueSize then
        some { loop with queue := loop.queue ++ [item], accepted := loop.accepted ++ [item] }
      else some loop
  | .get =>
      match loop.phase, loop.queue with
      | .waiting, item :: rest =>
          some { loop with
            queue := rest
            phase := .collect config.batchMax item.toList item.isNone }
      | _, _ => none
  | .grow =>
      match loop.phase, loop.queue with
      | .collecting batch stopping, some row :: rest =>
          some { loop with
            queue := rest
            phase := .collect config.batchMax (batch ++ [row]) stopping }
      | .collecting batch _, none :: rest =>
          some { loop with queue := rest, phase := .leave batch true }
      | _, _ => none
  | .empty =>
      match loop.phase, loop.queue with
      | .collecting batch stopping, [] => some { loop with phase := .leave batch stopping }
      | _, _ => none
  | .expired =>
      match loop.phase with
      | .collecting batch stopping => some { loop with phase := .leave batch stopping }
      | _ => none
  | .flushBatch succeeds =>
      match loop.phase with
      | .flushing batch stopping =>
          -- A failure is logged, and the batch dropped.
          some { loop with
            phase := .leave [] stopping
            table := if succeeds then loop.table ++ batch else loop.table
            flushed := loop.flushed ++ [(batch, succeeds)] }
      | _ => none

def system (config : WriterConfig) : StepSystem (WriterLoop Row) (LoopEvent Row) where
  initial loop := loop = start
  step := step config

def kept (loop : WriterLoop Row) : List Row :=
  ((loop.flushed.filter Prod.snd).map Prod.fst).flatten

structure Inv (config : WriterConfig) (loop : WriterLoop Row) : Prop where
  order : ∃ taken, loop.accepted = taken ++ loop.queue ∧
    taken.reduceOption = loop.batches.flatten ++ loop.phase.batch ∧
    (loop.phase.stopping = true ↔ none ∈ taken)
  sizes : ∀ batch ∈ loop.batches, batch ≠ [] ∧ batch.length ≤ config.batchMax
  fits : loop.phase.Fits config.batchMax
  table : loop.table = loop.kept

section

variable {config : WriterConfig} {loop after : WriterLoop Row} {phase : LoopPhase Row}

theorem Inv.put (inv : Inv config loop) (item : Option Row) :
    Inv config { loop with
      queue := loop.queue ++ [item], accepted := loop.accepted ++ [item] } := by
  obtain ⟨taken, whole, handled, seen⟩ := inv.order
  exact ⟨⟨taken, by rw [whole, List.append_assoc], handled, seen⟩, inv.sizes, inv.fits, inv.table⟩

theorem Inv.take (inv : Inv config loop) {item : Option Row} {rest : List (Option Row)}
    (queue : loop.queue = item :: rest) (fits : phase.Fits config.batchMax)
    (batch : phase.batch = loop.phase.batch ++ item.toList)
    (stopping : phase.stopping = (loop.phase.stopping || item.isNone)) :
    Inv config { loop with queue := rest, phase } := by
  obtain ⟨taken, whole, handled, seen⟩ := inv.order
  refine ⟨⟨taken ++ [item], ?_, ?_, ?_⟩, inv.sizes, fits, inv.table⟩
  · rw [whole, queue, List.append_assoc]
    rfl
  · change (taken ++ [item]).reduceOption = loop.batches.flatten ++ phase.batch
    rw [List.reduceOption_append, handled, batch, List.append_assoc]
    cases item <;> rfl
  · change phase.stopping = true ↔ none ∈ taken ++ [item]
    rw [stopping, Bool.or_eq_true, seen, List.mem_append, List.mem_singleton]
    cases item <;> simp

theorem Inv.turn (inv : Inv config loop) (fits : phase.Fits config.batchMax)
    (batch : phase.batch = loop.phase.batch) (stopping : phase.stopping = loop.phase.stopping) :
    Inv config { loop with phase } := by
  obtain ⟨taken, whole, handled, seen⟩ := inv.order
  refine ⟨⟨taken, whole, ?_, ?_⟩, inv.sizes, fits, inv.table⟩
  · exact handled.trans (congrArg (loop.batches.flatten ++ ·) batch.symm)
  · exact (Bool.eq_iff_iff.1 stopping).trans seen

theorem Inv.flush (inv : Inv config loop) {batch : List Row} {stopping : Bool}
    (holding : loop.phase = .flushing batch stopping) (succeeds : Bool) :
    Inv config { loop with
      phase := .leave [] stopping
      table := if succeeds then loop.table ++ batch else loop.table
      flushed := loop.flushed ++ [(batch, succeeds)] } := by
  obtain ⟨taken, whole, handled, seen⟩ := inv.order
  have fits := inv.fits
  have table := inv.table
  rw [holding] at handled seen fits
  refine ⟨⟨taken, whole, ?_, ?_⟩, ?_, LoopPhase.fits_leave (Nat.zero_le _) _, ?_⟩
  · rw [handled, LoopPhase.batch_leave, List.append_nil]
    simp [batches, LoopPhase.batch]
  · rw [LoopPhase.stopping_leave]
    exact seen
  · intro other member
    simp only [batches, List.map_append, List.mem_append, List.map_cons, List.map_nil,
      List.mem_singleton] at member
    rcases member with earlier | rfl
    · exact inv.sizes other earlier
    · exact fits
  · rw [kept] at table
    simp only [kept, List.filter_append, List.map_append, List.flatten_append]
    cases succeeds <;> simpa using table

theorem step_flushBatch (config : WriterConfig) {batch : List Row} {stopping : Bool}
    (flushing : loop.phase = .flushing batch stopping) (succeeds : Bool) :
    step config loop (.flushBatch succeeds) = some { loop with
      phase := .leave [] stopping
      table := if succeeds then loop.table ++ batch else loop.table
      flushed := loop.flushed ++ [(batch, succeeds)] } := by
  simp only [step, flushing]

theorem Inv.room (inv : Inv config loop) {batch : List Row} {stopping : Bool}
    (collecting : loop.phase = .collecting batch stopping) :
    batch.length < config.batchMax := by
  have fits := inv.fits
  rwa [collecting] at fits

theorem Inv.step (inv : Inv config loop) {event : LoopEvent Row}
    (stepped : step config loop event = some after) : Inv config after := by
  cases event with
  | putNowait item =>
      simp only [WriterLoop.step] at stepped
      split at stepped
      · cases stepped
        exact inv.put item
      · cases stepped
        exact inv
  | get =>
      simp only [WriterLoop.step] at stepped
      split at stepped
      next item rest waiting queue =>
        cases stepped
        have one : item.toList.length ≤ 1 := by cases item <;> simp
        refine inv.take queue (LoopPhase.fits_collect (one.trans config.batchMax_pos) _) ?_ ?_
        · rw [LoopPhase.batch_collect, waiting]
          rfl
        · rw [LoopPhase.stopping_collect, waiting]
          rfl
      next => cases stepped
  | grow =>
      simp only [WriterLoop.step] at stepped
      split at stepped
      next batch stopping row rest collecting queue =>
        cases stepped
        have room : (batch ++ [row]).length ≤ config.batchMax := by
          have below := inv.room collecting
          rw [List.length_append, List.length_singleton]
          omega
        refine inv.take queue (LoopPhase.fits_collect room _) ?_ ?_
        · rw [LoopPhase.batch_collect, collecting]
          rfl
        · rw [LoopPhase.stopping_collect, collecting]
          simp [LoopPhase.stopping]
      next batch stopping rest collecting queue =>
        cases stepped
        refine inv.take queue (LoopPhase.fits_leave (inv.room collecting).le _) ?_ ?_
        · rw [LoopPhase.batch_leave, collecting]
          simp [LoopPhase.batch]
        · rw [LoopPhase.stopping_leave]
          simp
      next => cases stepped
  | empty =>
      simp only [WriterLoop.step] at stepped
      split at stepped
      next batch stopping collecting queue =>
        cases stepped
        refine inv.turn (LoopPhase.fits_leave (inv.room collecting).le _) ?_ ?_
        · rw [LoopPhase.batch_leave, collecting]
          rfl
        · rw [LoopPhase.stopping_leave, collecting]
          rfl
      next => cases stepped
  | expired =>
      simp only [WriterLoop.step] at stepped
      split at stepped
      next batch stopping collecting =>
        cases stepped
        refine inv.turn (LoopPhase.fits_leave (inv.room collecting).le _) ?_ ?_
        · rw [LoopPhase.batch_leave, collecting]
          rfl
        · rw [LoopPhase.stopping_leave, collecting]
          rfl
      next => cases stepped
  | flushBatch succeeds =>
      simp only [WriterLoop.step] at stepped
      split at stepped
      next batch stopping flushing =>
        cases stepped
        exact inv.flush flushing succeeds
      next => cases stepped

theorem reachable_step (reached : (system config).Reachable loop) {event : LoopEvent Row}
    (stepped : step config loop event = some after) : (system config).Reachable after :=
  .next reached trivial stepped

theorem inv_of_reachable (reached : (system config).Reachable loop) : Inv config loop := by
  refine reached.invariant ?_ fun _ _ _ inv stepped => inv.step stepped
  rintro _ rfl
  refine ⟨⟨[], rfl, rfl, ?_⟩, ?_, trivial, rfl⟩
  · simp [start, LoopPhase.stopping]
  · intro batch member
    cases member

/-! The end of the loop. -/

def measure (loop : WriterLoop Row) : Nat := 3 * loop.queue.length + loop.phase.rank

theorem step_measure {event : LoopEvent Row} (thread : event.IsThread)
    (stepped : step config loop event = some after) :
    after.accepted = loop.accepted ∧ after.measure < loop.measure := by
  cases event with
  | putNowait item => exact thread.elim
  | get =>
      simp only [step] at stepped
      split at stepped
      next item rest waiting queue =>
        cases stepped
        have bound := LoopPhase.rank_collect config.batchMax item.toList item.isNone
        refine ⟨rfl, ?_⟩
        simp only [measure, waiting, queue, List.length_cons]
        omega
      next => cases stepped
  | grow =>
      simp only [step] at stepped
      split at stepped
      next batch stopping row rest collecting queue =>
        cases stepped
        have bound := LoopPhase.rank_collect config.batchMax (batch ++ [row]) stopping
        refine ⟨rfl, ?_⟩
        simp only [measure, collecting, queue, List.length_cons]
        omega
      next batch stopping rest collecting queue =>
        cases stepped
        have bound := LoopPhase.rank_leave batch true
        refine ⟨rfl, ?_⟩
        simp only [measure, collecting, queue, List.length_cons]
        omega
      next => cases stepped
  | empty =>
      simp only [step] at stepped
      split at stepped
      next batch stopping collecting queue =>
        cases stepped
        have bound := LoopPhase.rank_leave batch stopping
        refine ⟨rfl, ?_⟩
        simp only [measure, collecting, queue]
        exact Nat.add_lt_add_left (Nat.lt_succ_of_le bound) _
      next => cases stepped
  | expired =>
      simp only [step] at stepped
      split at stepped
      next batch stopping collecting =>
        cases stepped
        have bound := LoopPhase.rank_leave batch stopping
        refine ⟨rfl, ?_⟩
        simp only [measure, collecting]
        exact Nat.add_lt_add_left (Nat.lt_succ_of_le bound) _
      next => cases stepped
  | flushBatch succeeds =>
      simp only [step] at stepped
      split at stepped
      next batch stopping flushing =>
        cases stepped
        refine ⟨rfl, ?_⟩
        simp only [measure, flushing]
        cases stopping <;> exact Nat.lt_succ_self _
      next => cases stepped

theorem exists_thread_step (inv : Inv config loop) (sentinel : none ∈ loop.accepted)
    (running : loop.phase ≠ .stopped) :
    ∃ event after, event.IsThread ∧ step config loop event = some after := by
  rcases phase : loop.phase with _ | ⟨batch, stopping⟩ | ⟨batch, stopping⟩ | _
  · obtain ⟨taken, whole, _, seen⟩ := inv.order
    rcases queue : loop.queue with _ | ⟨item, rest⟩
    · rw [whole, queue, List.append_nil, ← seen, phase] at sentinel
      cases sentinel
    · refine ⟨.get, { loop with
        queue := rest, phase := .collect config.batchMax item.toList item.isNone }, trivial, ?_⟩
      simp only [step, phase, queue]
  · refine ⟨.expired, { loop with phase := .leave batch stopping }, trivial, ?_⟩
    simp only [step, phase]
  · exact ⟨.flushBatch true, _, trivial, step_flushBatch config phase true⟩
  · exact absurd phase running

theorem reduceOption_closed (rows : List Row) :
    (rows.map some ++ [none]).reduceOption = rows := by
  simp [List.reduceOption]

theorem batches_of_stopped (inv : Inv config loop) {rows : List Row}
    (whole : loop.accepted = rows.map some ++ [none]) (stopped : loop.phase = .stopped) :
    loop.batches.flatten = rows := by
  obtain ⟨taken, split, handled, seen⟩ := inv.order
  rw [stopped] at handled seen
  have sentinel : none ∈ taken := seen.1 rfl
  rw [whole] at split
  rcases List.eq_nil_or_concat loop.queue with empty | ⟨front, last, queue⟩
  · rw [empty, List.append_nil] at split
    rw [← split, reduceOption_closed] at handled
    simpa [LoopPhase.batch] using handled.symm
  · -- The sentinel is the last item, so the queue is empty once it is taken.
    rw [queue, List.concat_eq_append, ← List.append_assoc] at split
    have before : rows.map some = taken ++ front := (List.append_inj' split rfl).1
    have inside : none ∈ rows.map some := before ▸ List.mem_append_left _ sentinel
    simp at inside

/-- In any state: the batches so far are the first accepted rows, in order and each once, and
`table` lacks exactly the rows of those whose flush failed. -/
structure FlushesInOrder (config : WriterConfig) (loop : WriterLoop Row) : Prop where
  inOrder : loop.batches.flatten <+: loop.accepted.reduceOption
  sizes : ∀ batch ∈ loop.batches, batch ≠ [] ∧ batch.length ≤ config.batchMax
  losses : loop.table = loop.kept

def Drained (rows : List Row) (loop : WriterLoop Row) : Prop :=
  loop.phase = .stopped ∧ loop.batches.flatten = rows

/-- At any timing and with any failures: the batches are the accepted rows in order, each once, and
once the sentinel is behind the last row the loop ends with all of them. -/
theorem flushed_in_order_once (config : WriterConfig) {loop : WriterLoop Row}
    (reached : (system config).Reachable loop) :
    FlushesInOrder config loop ∧
      ∀ rows, loop.accepted = rows.map some ++ [none] →
        Inevitable (system config) LoopEvent.IsThread (Drained rows) loop := by
  have inv := inv_of_reachable reached
  constructor
  · obtain ⟨taken, whole, handled, _⟩ := inv.order
    refine ⟨?_, inv.sizes, inv.table⟩
    rw [whole, List.reduceOption_append, handled, List.append_assoc]
    exact List.prefix_append _ _
  · intro rows whole
    have kept : Inv config loop ∧ loop.accepted = rows.map some ++ [none] := ⟨inv, whole⟩
    refine @inevitable_of_measure _ _ _ _ _ (fun loop =>
      Inv config loop ∧ loop.accepted = rows.map some ++ [none]) measure ?_ ?_ loop kept
    · rintro state event after ⟨inv, whole⟩ thread stepped
      obtain ⟨same, lower⟩ := step_measure thread stepped
      exact ⟨⟨inv.step stepped, same.trans whole⟩, lower⟩
    · rintro state ⟨inv, whole⟩ running
      have sentinel : none ∈ state.accepted := by rw [whole]; simp
      refine exists_thread_step inv sentinel ?_
      intro stopped
      exact running ⟨stopped, batches_of_stopped inv whole stopped⟩

end

def pairsOfRows : WriterConfig where
  queueSize := 20000
  batchMax := 2
  batchLatency := 250000
  queueSize_pos := defaultConfig.queueSize_pos
  batchMax_pos := by decide
  batchLatency_pos := defaultConfig.batchLatency_pos

/-- The first of two batches fails. -/
theorem three_rows_flushed : ∃ loop : WriterLoop Nat,
    (system pairsOfRows).run start [.putNowait (some 1), .putNowait (some 2), .get,
      .putNowait (some 3), .grow, .putNowait none, .flushBatch false] = some loop ∧
      loop.flushed = [([1, 2], false)] ∧ FlushesInOrder pairsOfRows loop ∧
        Inevitable (system pairsOfRows) LoopEvent.IsThread (Drained [1, 2, 3]) loop := by
  refine ⟨_, rfl, rfl, ?_⟩
  have flushed := flushed_in_order_once pairsOfRows (Reachable.run (.start rfl)
    (rfl : (system pairsOfRows).run (start : WriterLoop Nat) [.putNowait (some 1),
      .putNowait (some 2), .get, .putNowait (some 3), .grow, .putNowait none,
      .flushBatch false] = some _))
  exact ⟨flushed.1, flushed.2 [1, 2, 3] rfl⟩

end WriterLoop

/-! The threads of the clocked writer are such loops. -/

def WriterPhase.loopPhase (batchMax : Nat) : WriterPhase → LoopPhase LegValues
  | waiting => .waiting
  | collecting batch _ stopping => .collect batchMax batch stopping
  | inserting written remaining stopping =>
      .flushing (written.map (fun leg => leg.toLegValues) ++ remaining) stopping
  | stopped => .stopped

theorem WriterPhase.loopPhase_next (batchMax : Nat) (stopping : Bool) :
    (WriterPhase.next stopping).loopPhase batchMax = .leave [] stopping := by
  cases stopping <;> rfl

theorem WriterPhase.loopPhase_flushed (batchMax : Nat) (batch : List LegValues)
    (stopping : Bool) :
    (WriterPhase.flushed batch stopping).loopPhase batchMax = .leave batch stopping := by
  rw [flushed]
  rcases batch with _ | ⟨row, rest⟩
  · exact loopPhase_next batchMax stopping
  · rfl

section

variable {config : WriterConfig} {workload : Workload} {worker : Nat}

/-- The worker's queue and thread are those of a loop that got there. -/
def FollowsLoop (config : WriterConfig) (worker : Nat) (state : WriterState) : Prop :=
  ∃ loop : WriterLoop LegValues, (WriterLoop.system config).Reachable loop ∧
    loop.queue = state.queues worker ∧
    loop.phase = (state.phases worker).loopPhase config.batchMax

theorem FollowsLoop.putNowait {state : WriterState} (follows : FollowsLoop config worker state)
    (other : Nat) (item : Option LegValues) :
    FollowsLoop config worker (state.putNowait config other item) := by
  obtain ⟨loop, reached, queue, phase⟩ := follows
  rw [WriterState.putNowait]
  split
  next room =>
    by_cases same : worker = other
    · subst same
      have stepped : WriterLoop.step config loop (.putNowait item) = some _ :=
        if_pos (queue ▸ room)
      refine ⟨_, WriterLoop.reachable_step reached stepped, ?_, phase⟩
      simp only [WriterState.setQueue, Function.update_self, queue]
    · refine ⟨loop, reached, ?_, phase⟩
      simp only [WriterState.setQueue, Function.update_of_ne same, queue]
  next => exact ⟨loop, reached, queue, phase⟩

theorem FollowsLoop.moved {state after : WriterState} (follows : FollowsLoop config worker state)
    {other : Nat} {rest : List (Option LegValues)} {phase : WriterPhase}
    (queues : after.queues = Function.update state.queues other rest)
    (phases : after.phases = Function.update state.phases other phase)
    (own : ∀ loop : WriterLoop LegValues, (WriterLoop.system config).Reachable loop →
      loop.queue = state.queues other →
      loop.phase = (state.phases other).loopPhase config.batchMax →
      ∃ next : WriterLoop LegValues, (WriterLoop.system config).Reachable next ∧
        next.queue = rest ∧ next.phase = phase.loopPhase config.batchMax) :
    FollowsLoop config worker after := by
  obtain ⟨loop, reached, queue, stands⟩ := follows
  by_cases same : worker = other
  · subst same
    obtain ⟨next, reached, queue, phase⟩ := own loop reached queue stands
    exact ⟨next, reached, by rw [queues, Function.update_self, queue],
      by rw [phases, Function.update_self, phase]⟩
  · exact ⟨loop, reached, by rw [queues, Function.update_of_ne same, queue],
      by rw [phases, Function.update_of_ne same, stands]⟩

section

variable {state after : WriterState} {other : Nat}

theorem FollowsLoop.completes (follows : FollowsLoop config worker state)
    (moved : writerTransition config state .complete = some after) :
    FollowsLoop config worker after := by
  simp only [writerTransition] at moved
  split at moved
  · cases moved
  next completion rest _ =>
    split at moved
    · cases moved
      have waiting : FollowsLoop config worker { state with pending := rest } := follows
      rw [WriterState.logLeg]
      split
      · exact waiting
      · exact waiting.putNowait _ _
    · cases moved

theorem FollowsLoop.gets (follows : FollowsLoop config worker state)
    (moved : writerTransition config state (.get other) = some after) :
    FollowsLoop config worker after := by
  simp only [writerTransition] at moved
  split at moved
  next item rest open_ waiting queued =>
    cases moved
    refine follows.moved rfl rfl ?_
    intro loop reached queue phase
    rw [waiting] at phase
    rw [queued] at queue
    have stepped : WriterLoop.step config loop .get = some { loop with
        queue := rest, phase := .collect config.batchMax item.toList item.isNone } := by
      simp only [WriterLoop.step, phase, queue, WriterPhase.loopPhase]
    exact ⟨_, WriterLoop.reachable_step reached stepped, rfl, rfl⟩
  next => cases moved

theorem FollowsLoop.grows (follows : FollowsLoop config worker state)
    (moved : writerTransition config state (.grow other) = some after) :
    FollowsLoop config worker after := by
  simp only [writerTransition] at moved
  split at moved
  next batch deadline stopping item rest open_ collecting queued =>
    split at moved
    next room =>
      cases moved
      refine follows.moved rfl rfl ?_
      intro loop reached queue phase
      rw [collecting, WriterPhase.loopPhase, LoopPhase.collect, if_pos room.1] at phase
      rw [queued] at queue
      rcases item with _ | row
      · have stepped : WriterLoop.step config loop .grow = some { loop with
            queue := rest, phase := .leave batch true } := by
          simp only [WriterLoop.step, phase, queue]
        exact ⟨_, WriterLoop.reachable_step reached stepped, rfl,
          (WriterPhase.loopPhase_flushed _ _ _).symm⟩
      · have stepped : WriterLoop.step config loop .grow = some { loop with
            queue := rest, phase := .collect config.batchMax (batch ++ [row]) stopping } := by
          simp only [WriterLoop.step, phase, queue]
        exact ⟨_, WriterLoop.reachable_step reached stepped, rfl, rfl⟩
    next => cases moved
  next => cases moved

theorem FollowsLoop.flushes (follows : FollowsLoop config worker state)
    (moved : writerTransition config state (.flush other) = some after) :
    FollowsLoop config worker after := by
  simp only [writerTransition] at moved
  split at moved
  next batch deadline stopping collecting =>
    split at moved
    next =>
      cases moved
      refine follows.moved (Function.update_eq_self _ _).symm rfl ?_
      intro loop reached queue phase
      rw [collecting, WriterPhase.loopPhase] at phase
      rw [WriterPhase.loopPhase_flushed]
      by_cases room : batch.length < config.batchMax
      · rw [LoopPhase.collect, if_pos room] at phase
        have stepped : WriterLoop.step config loop .expired = some { loop with
            phase := .leave batch stopping } := by
          simp only [WriterLoop.step, phase]
        exact ⟨_, WriterLoop.reachable_step reached stepped, queue, rfl⟩
      · rw [LoopPhase.collect, if_neg room] at phase
        exact ⟨loop, reached, queue, phase⟩
    next => cases moved
  next => cases moved

theorem FollowsLoop.insertsRow (follows : FollowsLoop config worker state)
    (moved : writerTransition config state (.insertRow other) = some after) :
    FollowsLoop config worker after := by
  simp only [writerTransition] at moved
  split at moved
  next written row remaining stopping inserting =>
    cases moved
    refine follows.moved (Function.update_eq_self _ _).symm rfl ?_
    intro loop reached queue phase
    refine ⟨loop, reached, queue, phase.trans ?_⟩
    rw [inserting]
    simp only [WriterPhase.loopPhase, List.map_append, List.append_assoc]
    rfl
  next => cases moved

theorem FollowsLoop.finishes (follows : FollowsLoop config worker state)
    {written : List LegRecord} {remaining : List LegValues} {stopping : Bool}
    (inserting : state.phases other = .inserting written remaining stopping) (flushed : Bool)
    (queues : after.queues = state.queues)
    (phases : after.phases = Function.update state.phases other (WriterPhase.next stopping)) :
    FollowsLoop config worker after := by
  refine follows.moved (queues.trans (Function.update_eq_self _ _).symm) phases ?_
  intro loop reached queue phase
  rw [inserting] at phase
  rw [WriterPhase.loopPhase_next]
  exact ⟨_, WriterLoop.reachable_step reached
    (WriterLoop.step_flushBatch config phase flushed), queue, rfl⟩

theorem FollowsLoop.transition (follows : FollowsLoop config worker state) {event : WriterEvent}
    (moved : writerTransition config state event = some after) :
    FollowsLoop config worker after := by
  cases event with
  | complete => exact follows.completes moved
  | get other => exact follows.gets moved
  | grow other => exact follows.grows moved
  | flush other => exact follows.flushes moved
  | insertRow other => exact follows.insertsRow moved
  | commit other =>
      simp only [writerTransition] at moved
      split at moved
      next written stopping inserting =>
        cases moved
        exact follows.finishes inserting true rfl rfl
      next => cases moved
  | fail other =>
      simp only [writerTransition] at moved
      split at moved
      next written remaining stopping inserting =>
        cases moved
        exact follows.finishes inserting false rfl rfl
      next => cases moved
  | closeLogWriter other =>
      simp only [writerTransition] at moved
      split at moved
      · cases moved
      · cases moved
        exact follows.putNowait other none
  | abandon other =>
      cases moved
      exact follows
  | insertDirect index =>
      obtain ⟨row, _, rfl⟩ := Option.map_eq_some_iff.1 moved
      exact follows
  | failDirect index =>
      obtain ⟨row, _, rfl⟩ := Option.map_eq_some_iff.1 moved
      exact follows

end

/-- In every run of the workers, whatever the clock, each thread is a loop of its own. -/
theorem writer_follows_loop {state : WriterState}
    (reached : (writer config workload).Reachable state) (worker : Nat) :
    FollowsLoop config worker state := by
  refine @Reachable.invariant _ _ _ (FollowsLoop config worker) ?_ ?_ state reached
  · rintro _ ⟨instant, rfl⟩
    exact ⟨.start, .start rfl, rfl, rfl⟩
  · intro before event next follows stepped
    simp only [writer] at stepped
    split at stepped
    · cases stepped
    · have later : FollowsLoop config worker { before with now := event.1 } := follows
      exact later.transition stepped

end

end UssdGateway
