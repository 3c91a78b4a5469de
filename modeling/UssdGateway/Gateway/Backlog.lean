import UssdGateway.Gateway.LogWriter
import Mathlib.Algebra.Order.Ring.Int

/-!
Runs of the log writer with a backlog: every leg waits on its queue until the last one is finished,
and the rows are then inserted one by one, a fixed time apart.
-/

namespace UssdGateway

open StepSystem

def stamped (id : Nat) (now gap : Int) : List Completion → List LegRecord
  | [] => []
  | completion :: rest =>
      { toLegValues := completion.values, id, ts := now + gap } ::
        stamped (id + 1) (now + gap) gap rest

section

variable {id : Nat} {now gap : Int} {completions : List Completion}

theorem stamped_values :
    (stamped id now gap completions).map (fun leg => leg.toLegValues) =
      completions.map Completion.values := by
  induction completions generalizing id now with
  | nil => rfl
  | cons completion rest ih => simp only [stamped, List.map_cons, ih]

theorem stamped_after (forward : 0 ≤ gap) {leg : LegRecord}
    (member : leg ∈ stamped id now gap completions) : now + gap ≤ leg.ts := by
  induction completions generalizing id now with
  | nil => cases member
  | cons completion rest ih =>
      rcases List.mem_cons.1 member with rfl | later
      · exact Int.le_refl _
      · have bound := ih later
        omega

theorem stamped_before (forward : 0 ≤ gap) {leg : LegRecord}
    (member : leg ∈ stamped id now gap completions) :
    leg.ts ≤ now + gap * completions.length := by
  induction completions generalizing id now with
  | nil => cases member
  | cons completion rest ih =>
      have size : gap * (completion :: rest).length = gap + gap * rest.length := by
        rw [List.length_cons, Int.natCast_succ, Int.mul_add, Int.mul_one, Int.add_comm]
      rw [size]
      rcases List.mem_cons.1 member with rfl | later
      · have more : 0 ≤ gap * rest.length := Int.mul_nonneg forward (Int.natCast_nonneg _)
        simp only
        omega
      · have bound := ih later
        omega

theorem stamped_apart (forward : 0 ≤ gap) :
    (stamped id now gap completions).Pairwise fun earlier later => earlier.ts + gap ≤ later.ts := by
  induction completions generalizing id now with
  | nil => exact List.Pairwise.nil
  | cons completion rest ih =>
      refine List.Pairwise.cons ?_ ih
      intro later member
      exact stamped_after forward member

end

/-- All queues open and all threads waiting, with the completions in `queued` on the queues. -/
structure WriterState.Backlogged (state : WriterState) (queued : List Completion) : Prop where
  closed : ∀ worker, state.closed worker = false
  waiting : ∀ worker, state.phases worker = .waiting
  queues : ∀ worker, state.queues worker =
    (queued.filter fun completion => completion.worker = worker).map fun completion =>
      some completion.values

section

variable {config : WriterConfig} {workload : Workload}

theorem step_of_transition {state after : WriterState} {instant : Int} {event : WriterEvent}
    (later : state.now ≤ instant)
    (moved : writerTransition config { state with now := instant } event = some after) :
    (writer config workload).step state (instant, event) = some after := by
  simp only [writer, if_neg (Int.not_lt.2 later)]
  exact moved

theorem complete_backlogged {state : WriterState} {queued : List Completion}
    {completion : Completion} {rest : List Completion}
    (reached : (writer config workload).Reachable state) (backlogged : state.Backlogged queued)
    (pending : state.pending = completion :: rest) (later : state.now ≤ completion.instant)
    (room : queued.length < config.queueSize) :
    ∃ after, (writer config workload).Reachable after ∧
      after.Backlogged (queued ++ [completion]) ∧ after.pending = rest ∧
      after.now = completion.instant ∧ after.nextId = state.nextId ∧
      after.persisted = state.persisted := by
  have short : (state.queues completion.worker).length < config.queueSize := by
    rw [backlogged.queues, List.length_map]
    have bound := List.length_filter_le (fun other => decide (other.worker = completion.worker))
      queued
    omega
  have moved : writerTransition config { state with now := completion.instant } .complete =
      some ({ state with now := completion.instant, pending := rest }.setQueue completion.worker
        (state.queues completion.worker ++ [some completion.values])) := by
    simp only [writerTransition, pending, if_true, WriterState.logLeg, backlogged.closed,
      Bool.false_eq_true, if_false, WriterState.putNowait, short]
  refine ⟨_, .next reached trivial (step_of_transition later moved),
    ⟨backlogged.closed, backlogged.waiting, ?_⟩, rfl, rfl, rfl, rfl⟩
  intro worker
  simp only [WriterState.setQueue, List.filter_append, List.map_append]
  by_cases same : worker = completion.worker
  · subst same
    simp [backlogged.queues]
  · have other : ¬ completion.worker = worker := fun equal => same equal.symm
    simp [Function.update_of_ne same, backlogged.queues, other]

theorem all_backlogged {completions queued : List Completion} {state : WriterState}
    (reached : (writer config workload).Reachable state) (backlogged : state.Backlogged queued)
    (pending : state.pending = completions)
    (ordered : completions.Pairwise fun earlier later => earlier.instant ≤ later.instant)
    (ahead : ∀ completion ∈ completions, state.now ≤ completion.instant)
    (room : queued.length + completions.length ≤ config.queueSize) :
    ∃ after, (writer config workload).Reachable after ∧
      after.Backlogged (queued ++ completions) ∧ after.nextId = state.nextId ∧
      after.persisted = state.persisted := by
  induction completions generalizing queued state with
  | nil => exact ⟨state, reached, by simpa using backlogged, rfl, rfl⟩
  | cons completion rest ih =>
      rw [List.length_cons] at room
      obtain ⟨middle, middleReached, middleBacklogged, middlePending, middleNow, middleId,
        middleRows⟩ := complete_backlogged reached backlogged pending
          (ahead completion List.mem_cons_self) (by omega)
      rw [List.pairwise_cons] at ordered
      obtain ⟨after, afterReached, afterBacklogged, afterId, afterRows⟩ :=
        ih middleReached middleBacklogged middlePending ordered.2
          (by rw [middleNow]; exact ordered.1)
          (by rw [List.length_append, List.length_singleton]; omega)
      refine ⟨after, afterReached, ?_, afterId.trans middleId, afterRows.trans middleRows⟩
      rwa [List.append_assoc] at afterBacklogged

section

variable {state : WriterState} {worker : Nat} {row : LegValues}

theorem get_transition {rest : List (Option LegValues)} (closed : state.closed worker = false)
    (phase : state.phases worker = .waiting) (queue : state.queues worker = some row :: rest) :
    writerTransition config state (.get worker) =
      some ((state.setQueue worker rest).setPhase worker
        (.collecting [row] (state.now + config.batchLatency) false)) := by
  simp only [writerTransition, closed, phase, queue]
  rfl

theorem flush_transition {batch : List LegValues} {deadline : Int} {stopping : Bool}
    (phase : state.phases worker = .collecting batch deadline stopping)
    (due : config.batchMax ≤ batch.length ∨ deadline ≤ state.now) :
    writerTransition config state (.flush worker) =
      some (state.setPhase worker (.flushed batch stopping)) := by
  simp only [writerTransition, phase, due, if_true]

theorem insertRow_transition {written : List LegRecord} {remaining : List LegValues}
    {stopping : Bool}
    (phase : state.phases worker = .inserting written (row :: remaining) stopping) :
    writerTransition config state (.insertRow worker) =
      some ({ state with nextId := state.nextId + 1 }.setPhase worker
        (.inserting (written ++ [state.stamp row]) remaining stopping)) := by
  simp only [writerTransition, phase]

theorem commit_transition {written : List LegRecord} {stopping : Bool}
    (phase : state.phases worker = .inserting written [] stopping) :
    writerTransition config state (.commit worker) =
      some ({ state with persisted := state.persisted ++ written }.setPhase worker
        (.next stopping)) := by
  simp only [writerTransition, phase]

end

theorem drain_backlogged {state : WriterState} {completion : Completion} {rest : List Completion}
    (reached : (writer config workload).Reachable state)
    (backlogged : state.Backlogged (completion :: rest)) (one : config.batchMax = 1)
    {instant : Int} (later : state.now ≤ instant) :
    ∃ after, (writer config workload).Reachable after ∧ after.Backlogged rest ∧
      after.now = instant ∧ after.nextId = state.nextId + 1 ∧
      after.persisted = state.persisted ++
        [{ toLegValues := completion.values, id := state.nextId, ts := instant }] := by
  have queue : state.queues completion.worker = some completion.values ::
      (rest.filter fun other => other.worker = completion.worker).map fun other =>
        some other.values := by
    simp [backlogged.queues]
  have taken := ReachableBy.next reached trivial (step_of_transition later
    (get_transition (backlogged.closed _) (backlogged.waiting _) queue))
  have flushed := ReachableBy.next taken trivial (step_of_transition (Int.le_refl _)
    (flush_transition (Function.update_self _ _ _) (Or.inl (by rw [one]; rfl))))
  have inserted := ReachableBy.next flushed trivial (step_of_transition (Int.le_refl _)
    (insertRow_transition (Function.update_self _ _ _)))
  have committed := ReachableBy.next inserted trivial (step_of_transition (Int.le_refl _)
    (commit_transition (Function.update_self _ _ _)))
  refine ⟨_, committed, ⟨backlogged.closed, ?_, ?_⟩, rfl, rfl, rfl⟩
  · intro worker
    by_cases same : worker = completion.worker
    · subst same
      simp [WriterState.setPhase, WriterPhase.next]
    · simp [WriterState.setPhase, WriterState.setQueue, Function.update_of_ne same,
        backlogged.waiting]
  · intro worker
    by_cases same : worker = completion.worker
    · subst same
      simp [WriterState.setPhase, WriterState.setQueue]
    · have other : ¬ completion.worker = worker := fun equal => same equal.symm
      simp [WriterState.setPhase, WriterState.setQueue, Function.update_of_ne same,
        backlogged.queues, other]

theorem all_drained {queued : List Completion} {state : WriterState}
    (reached : (writer config workload).Reachable state) (backlogged : state.Backlogged queued)
    (one : config.batchMax = 1) {gap : Int} (forward : 0 ≤ gap) :
    ∃ after, (writer config workload).Reachable after ∧
      after.persisted = state.persisted ++ stamped state.nextId state.now gap queued := by
  induction queued generalizing state with
  | nil => exact ⟨state, reached, by simp [stamped]⟩
  | cons completion rest ih =>
      have later : state.now ≤ state.now + gap := by omega
      obtain ⟨middle, middleReached, middleBacklogged, middleNow, middleId, middleRows⟩ :=
        drain_backlogged reached backlogged one later
      obtain ⟨after, afterReached, afterRows⟩ := ih middleReached middleBacklogged
      refine ⟨after, afterReached, ?_⟩
      rw [afterRows, middleRows, middleNow, middleId, stamped, List.append_assoc]
      rfl

theorem start_backlogged (workload : Workload) (instant : Int) :
    (workload.start instant).Backlogged [] :=
  ⟨fun _ => rfl, fun _ => rfl, fun _ => rfl⟩

theorem exists_stamped (workload : Workload) {gap : Int} (forward : 0 ≤ gap) :
    ∃ (config : WriterConfig) (state : WriterState) (now : Int),
      (writer config workload).Reachable state ∧
      state.persisted = stamped 1 now gap workload.completions := by
  let config : WriterConfig :=
    { queueSize := workload.completions.length + 1, batchMax := 1, batchLatency := 1,
      queueSize_pos := Nat.succ_pos _, batchMax_pos := Nat.one_pos
      batchLatency_pos := Int.one_pos }
  obtain ⟨instant, ahead⟩ : ∃ instant : Int, ∀ completion ∈ workload.completions,
      instant ≤ completion.instant := by
    rcases found : workload.completions with _ | ⟨first, rest⟩
    · exact ⟨0, fun completion member => nomatch member⟩
    · have ordered := workload.ordered
      rw [found, List.pairwise_cons] at ordered
      refine ⟨first.instant, ?_⟩
      intro completion member
      rcases List.mem_cons.1 member with rfl | later
      · exact Int.le_refl _
      · exact ordered.1 completion later
  obtain ⟨middle, middleReached, backlogged, middleId, middleRows⟩ :=
    all_backlogged (.start ⟨instant, rfl⟩ : (writer config workload).Reachable _)
      (start_backlogged workload instant)
      rfl workload.ordered ahead (by simp [config, Workload.start])
  obtain ⟨after, afterReached, afterRows⟩ := all_drained middleReached backlogged rfl forward
  refine ⟨config, after, middle.now, afterReached, ?_⟩
  rw [afterRows, middleRows, middleId]
  rfl

end

end UssdGateway
