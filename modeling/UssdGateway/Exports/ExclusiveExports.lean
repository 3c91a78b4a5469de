import UssdGateway.Exports.ExportRuns

/-!
Who processes an export, and what its row goes through. The retention sweep selects its rows first
and updates them one after the other, without looking at them again.
-/

namespace UssdGateway

open Worker

/-- A sweep's rows that are left, and whether the file of the first is gone. -/
structure RetentionSweep where
  unlinked : Bool
  ids : List Nat

structure SweptWorld extends ExportWorld where
  sweeping : Nat → RetentionSweep

inductive SweptEvent where
  | exports (event : ExportEvent)
  | selected (worker : Nat) (ids : List Nat)
  | unlinked (worker : Nat)
  | expired (worker : Nat)
  -- the update failed
  | skipped (worker : Nat)

def noSweep : RetentionSweep where
  unlinked := false
  ids := []

def ExportJob.Overdue (setup : ExportSetup) (now : Nat) (job : ExportJob) : Prop :=
  job.status = .ready ∧ ∃ completedAt ∈ job.completedAt, completedAt + setup.retention < now

instance (setup : ExportSetup) (now : Nat) (job : ExportJob) : Decidable (job.Overdue setup now) :=
  inferInstanceAs (Decidable (_ ∧ _))

namespace SweptWorld

variable (setup : ExportSetup) (world : SweptWorld)

def withSweep (worker : Nat) (sweep : RetentionSweep) : SweptWorld :=
  { world with sweeping := Function.update world.sweeping worker sweep }

def step : SweptEvent → Option SweptWorld
  | .exports (.unlinked _) => none
  | .exports (.expired _) => none
  | .exports (.crashed worker) =>
      (world.toExportWorld.step setup (.crashed worker)).map fun next =>
        { toExportWorld := next, sweeping := Function.update world.sweeping worker noSweep }
  | .exports event =>
      (world.toExportWorld.step setup event).map fun next =>
        { toExportWorld := next, sweeping := world.sweeping }
  | .selected worker ids =>
      if (world.sweeping worker).ids = [] ∧
          (∀ id ∈ ids, ∃ job ∈ world.jobs id, job.Overdue setup world.now) then
        some (world.withSweep worker ⟨false, ids⟩)
      else none
  | .unlinked worker =>
      match world.sweeping worker with
      | ⟨false, id :: rest⟩ =>
          some ({ world with toExportWorld := world.toExportWorld.withFile id none }.withSweep
            worker ⟨true, id :: rest⟩)
      | _ => none
  | .expired worker =>
      match world.sweeping worker with
      | ⟨true, id :: rest⟩ =>
          some ({ world with
            toExportWorld := world.toExportWorld.withJob id fun job =>
              { job with status := .expired } }.withSweep worker ⟨false, rest⟩)
      | _ => none
  | .skipped worker =>
      match world.sweeping worker with
      | ⟨true, _ :: rest⟩ => some (world.withSweep worker ⟨false, rest⟩)
      | _ => none

end SweptWorld

def sweptRuns (setup : ExportSetup) : StepSystem SweptWorld SweptEvent where
  initial world := (∀ worker, world.workers worker = { shutdown := false, task := none }) ∧
    ∀ worker, world.sweeping worker = noSweep
  step := SweptWorld.step setup

namespace ExportWorld

def Processes (world : ExportWorld) (worker id : Nat) : Prop :=
  ∃ task, (world.workers worker).task = some task ∧ task.id = id

def statusOf (world : ExportWorld) (id : Nat) : Option ExportStatus :=
  (world.jobs id).map ExportJob.status

end ExportWorld

/-- A reaper tick requeues no row whose worker is still at it. -/
def ReapsTheDead (setup : ExportSetup) (world : SweptWorld) : SweptEvent → Prop
  | .exports .reaped => ∀ id job, world.jobs id = some job → job.Stale setup world.now →
      ∀ worker, ¬ world.Processes worker id
  | _ => True

def ExportWorld.Settled (world : ExportWorld) (id : Nat) : Prop :=
  world.statusOf id = some .ready ∨ world.statusOf id = some .expired

inductive RowMove (before after : ExportWorld) : Prop where
  | still (rows : ∀ id, after.statusOf id = before.statusOf id)
      (holders : ∀ worker id, after.Processes worker id → before.Processes worker id)
  | queued (id : Nat) (free : before.statusOf id = none)
      (rows : ∀ other, other ≠ id → after.statusOf other = before.statusOf other)
      (holders : ∀ worker id, after.Processes worker id → before.Processes worker id)
  | claimed (worker id : Nat) (waiting : before.statusOf id = some .queued)
      (row : after.statusOf id = some .running)
      (rows : ∀ other, other ≠ id → after.statusOf other = before.statusOf other)
      (holders : ∀ other held, after.Processes other held →
        (other = worker ∧ held = id) ∨ before.Processes other held)
  | released (worker id : Nat) (held : before.Processes worker id)
      (rows : ∀ other, other ≠ id → after.statusOf other = before.statusOf other)
      (holders : ∀ other held, after.Processes other held →
        other ≠ worker ∧ before.Processes other held)
  | requeued (rows : ∀ id, after.statusOf id = before.statusOf id ∨
        (before.statusOf id = some .running ∧ ∀ worker, ¬ before.Processes worker id))
      (holders : ∀ worker id, after.Processes worker id → before.Processes worker id)
  | expired (id : Nat) (settled : before.Settled id) (row : after.statusOf id = some .expired)
      (rows : ∀ other, other ≠ id → after.statusOf other = before.statusOf other)
      (holders : ∀ worker id, after.Processes worker id → before.Processes worker id)

namespace ExportWorld

variable {setup : ExportSetup} {world after : ExportWorld} {worker id : Nat}

theorem statusOf_withTask (task : Option ExportTask) (id : Nat) :
    (world.withTask worker task).statusOf id = world.statusOf id := rfl

theorem statusOf_withJob_of_ne {update : ExportJob → ExportJob} {other : Nat}
    (apart : other ≠ id) : (world.withJob id update).statusOf other = world.statusOf other := by
  rw [statusOf, statusOf, withJob_of_ne apart]

theorem processes_withTask {task : Option ExportTask} {other held : Nat}
    (processes : (world.withTask worker task).Processes other held) :
    (other = worker ∧ ∃ mine ∈ task, mine.id = held) ∨
      (other ≠ worker ∧ world.Processes other held) := by
  obtain ⟨found, running, same⟩ := processes
  rw [withTask_task] at running
  split at running
  next mine => exact Or.inl ⟨mine, found, running, same⟩
  next apart => exact Or.inr ⟨apart, found, running, same⟩

theorem rowMove_withTask {task next : ExportTask} {changed : ExportWorld}
    (running : (world.workers worker).task = some task) (jobs : changed.jobs = world.jobs)
    (workers : changed.workers = world.workers) (same : next.id = task.id) :
    RowMove world (changed.withTask worker (some next)) := by
  refine .still (fun id => congrArg (Option.map ExportJob.status) (congrFun jobs id)) ?_
  intro other held processes
  rcases processes_withTask processes with ⟨rfl, mine, isNext, rfl⟩ | ⟨_, found, inHand, rfl⟩
  · rw [← Option.some.inj isNext]
    exact ⟨task, running, same.symm⟩
  · exact ⟨found, by rwa [← workers], rfl⟩

theorem rowMove_finish {task : ExportTask} {update : ExportJob → ExportJob}
    (running : (world.workers worker).task = some task) :
    RowMove world ((world.withJob task.id update).withTask worker none) := by
  refine .released worker task.id ⟨task, running, rfl⟩ (fun _ => statusOf_withJob_of_ne) ?_
  intro other held processes
  rcases processes_withTask processes with ⟨_, _, none, _⟩ | found
  · cases none
  · exact found

theorem rowMove_task {task : ExportTask} {event : TaskEvent}
    (running : (world.workers worker).task = some task)
    (stepped : world.taskStep setup worker task event = some after) : RowMove world after := by
  cases event with
  | opened =>
      rw [taskStep] at stepped
      split at stepped
      next => cases stepped
      next =>
        cases stepped
        exact rowMove_withTask running rfl rfl rfl
  | fetched order tables =>
      obtain ⟨_, moved⟩ := Option.ite_none_right_eq_some.1 stepped
      cases moved
      exact rowMove_withTask running rfl rfl rfl
  | flushed count =>
      obtain ⟨_, moved⟩ := Option.ite_none_right_eq_some.1 stepped
      cases moved
      exact rowMove_withTask running rfl rfl rfl
  | stopped =>
      obtain ⟨_, moved⟩ := Option.ite_none_right_eq_some.1 stepped
      cases moved
      exact rowMove_withTask running rfl rfl rfl
  | finalized =>
      obtain ⟨_, stepped⟩ := Option.ite_none_right_eq_some.1 stepped
      obtain ⟨text, _, rfl⟩ := Option.map_eq_some_iff.1 stepped
      exact rowMove_finish running
  | failed =>
      cases stepped
      exact rowMove_finish running

theorem rowMove_step {event : ExportEvent}
    (careful : event = .reaped → ∀ id job, world.jobs id = some job → job.Stale setup world.now →
      ∀ worker, ¬ world.Processes worker id)
    (attended : ∀ id, event ≠ .expired id) (stepped : world.step setup event = some after) :
    RowMove world after := by
  cases event with
  | enqueued id granularity claims screen =>
      obtain ⟨free, moved⟩ := Option.ite_none_right_eq_some.1 stepped
      cases moved
      refine .queued id ?_ ?_ fun _ _ held => held
      · rw [statusOf, Option.isNone_iff_eq_none.1 free, Option.map_none]
      · exact fun other apart =>
          congrArg (Option.map ExportJob.status) (Function.update_of_ne apart _ _)
  | claimed worker id =>
      obtain ⟨job, found, stepped⟩ := Option.bind_eq_some_iff.1 stepped
      obtain ⟨⟨waiting, _⟩, moved⟩ := Option.ite_none_right_eq_some.1 stepped
      cases moved
      refine .claimed worker id ?_ ?_ (fun _ => statusOf_withJob_of_ne) ?_
      · rw [statusOf, found, Option.map_some, waiting]
      · rw [statusOf_withTask, statusOf, withJob_self, found]
        rfl
      · intro other held processes
        rcases processes_withTask processes with ⟨mine, task, isTask, rfl⟩ | ⟨_, before⟩
        · rw [← Option.some.inj isTask]
          exact Or.inl ⟨mine, rfl⟩
        · exact Or.inr before
  | task worker event =>
      obtain ⟨task, running, stepped⟩ := Option.bind_eq_some_iff.1 stepped
      exact rowMove_task running stepped
  | crashed worker =>
      cases stepped
      refine .still (fun _ => rfl) ?_
      rintro other held ⟨task, running, same⟩
      by_cases mine : other = worker
      · subst mine
        simp at running
      · exact ⟨task, by simpa [Function.update_of_ne mine] using running, same⟩
  | signalled worker =>
      cases stepped
      refine .still (fun _ => rfl) ?_
      rintro other held ⟨task, running, same⟩
      by_cases mine : other = worker
      · subst mine
        exact ⟨task, by simpa using running, same⟩
      · exact ⟨task, by simpa [Function.update_of_ne mine] using running, same⟩
  | reaped =>
      cases stepped
      refine .requeued ?_ fun _ _ held => held
      intro id
      rcases found : world.jobs id with _ | job
      · exact Or.inl (by simp [statusOf, found])
      by_cases stale : job.Stale setup world.now
      · exact Or.inr ⟨by simp [statusOf, found, stale.1], careful rfl id job found stale⟩
      · exact Or.inl (by simp [statusOf, found, ExportJob.reaped, stale])
  | unlinked id =>
      obtain ⟨job, _, stepped⟩ := Option.bind_eq_some_iff.1 stepped
      obtain ⟨_, moved⟩ := Option.ite_none_right_eq_some.1 stepped
      cases moved
      exact .still (fun _ => rfl) fun _ _ held => held
  | expired id => exact absurd rfl (attended id)
  | elapsed micros =>
      cases stepped
      exact .still (fun _ => rfl) fun _ _ held => held

end ExportWorld

/-! What every run keeps. -/

structure Exclusive (world : SweptWorld) : Prop where
  running : ∀ worker id, world.Processes worker id → world.statusOf id = some .running
  alone : ∀ first second id, world.Processes first id → world.Processes second id → first = second
  chosen : ∀ worker, ∀ id ∈ (world.sweeping worker).ids, world.Settled id

section

variable {setup : ExportSetup} {world after : SweptWorld}

theorem Exclusive.settled_ne (exclusive : Exclusive world) {worker id held : Nat}
    (settled : world.Settled id) (processes : world.Processes worker held) : held ≠ id := by
  rintro rfl
  have running := exclusive.running worker held processes
  rcases settled with ready | expired
  · rw [running] at ready
    cases ready
  · rw [running] at expired
    cases expired

theorem Exclusive.keeps_settled (exclusive : Exclusive world)
    (move : RowMove world.toExportWorld after.toExportWorld) {id : Nat}
    (settled : world.Settled id) : after.Settled id := by
  have still : after.statusOf id = world.statusOf id → after.Settled id := by
    intro same
    rw [ExportWorld.Settled, same]
    exact settled
  have apart : ∀ {status : ExportStatus} {other : Nat}, world.statusOf other = some status →
      status ≠ .ready → status ≠ .expired → id ≠ other := by
    rintro status _ found notReady notExpired rfl
    rcases settled with ready | expired
    · exact notReady (Option.some.inj (found.symm.trans ready))
    · exact notExpired (Option.some.inj (found.symm.trans expired))
  cases move with
  | still rows => exact still (rows id)
  | queued other free rows =>
      refine still (rows id ?_)
      rintro rfl
      rcases settled with ready | expired
      · rw [free] at ready
        cases ready
      · rw [free] at expired
        cases expired
  | claimed worker other waiting row rows =>
      exact still (rows id (apart waiting (by decide) (by decide)))
  | released worker other held rows =>
      exact still (rows id (exclusive.settled_ne settled held).symm)
  | requeued rows =>
      rcases rows id with same | ⟨running, _⟩
      · exact still same
      · exact absurd rfl (apart running (by decide) (by decide))
  | expired other _ row rows =>
      by_cases same : id = other
      · subst same
        exact Or.inr row
      · exact still (rows id same)

theorem Exclusive.keeps_running (exclusive : Exclusive world)
    (move : RowMove world.toExportWorld after.toExportWorld) {worker id : Nat}
    (processes : after.Processes worker id) : after.statusOf id = some .running := by
  have still : world.Processes worker id → after.statusOf id = world.statusOf id →
      after.statusOf id = some .running :=
    fun held same => same.trans (exclusive.running worker id held)
  have apart : ∀ {other : Nat}, world.Processes worker id →
      world.statusOf other ≠ some .running → id ≠ other := by
    rintro _ held notRunning rfl
    exact notRunning (exclusive.running worker id held)
  cases move with
  | still rows holders => exact still (holders worker id processes) (rows id)
  | queued other free rows holders =>
      have held := holders worker id processes
      exact still held (rows id (apart held (by rw [free]; decide)))
  | claimed claimant other waiting row rows holders =>
      rcases holders worker id processes with ⟨_, rfl⟩ | held
      · exact row
      · exact still held (rows id (apart held (by rw [waiting]; decide)))
  | released claimant other mine rows holders =>
      obtain ⟨notMine, held⟩ := holders worker id processes
      refine still held (rows id ?_)
      rintro rfl
      exact notMine (exclusive.alone worker claimant id held mine)
  | requeued rows holders =>
      have held := holders worker id processes
      rcases rows id with same | ⟨_, dead⟩
      · exact still held same
      · exact absurd held (dead worker)
  | expired other settled row rows holders =>
      have held := holders worker id processes
      exact still held (rows id (exclusive.settled_ne settled held))

theorem Exclusive.keeps_alone (exclusive : Exclusive world)
    (move : RowMove world.toExportWorld after.toExportWorld) {first second id : Nat}
    (one : after.Processes first id) (two : after.Processes second id) : first = second := by
  cases move with
  | still rows holders | queued _ _ _ holders | requeued _ holders | expired _ _ _ _ holders =>
      exact exclusive.alone first second id (holders first id one) (holders second id two)
  | released _ _ _ _ holders =>
      exact exclusive.alone first second id (holders first id one).2 (holders second id two).2
  | claimed worker other waiting row rows holders =>
      have unheld : ∀ worker, ¬ world.Processes worker other := by
        intro worker held
        rw [exclusive.running worker other held] at waiting
        cases waiting
      rcases holders first id one with ⟨rfl, rfl⟩ | oneHeld
      · rcases holders second id two with ⟨rfl, _⟩ | twoHeld
        · rfl
        · exact absurd twoHeld (unheld second)
      · rcases holders second id two with ⟨rfl, rfl⟩ | twoHeld
        · exact absurd oneHeld (unheld first)
        · exact exclusive.alone first second id oneHeld twoHeld

theorem sweeping_withSweep {world : SweptWorld} {worker other id : Nat} {sweep : RetentionSweep}
    (member : id ∈ ((world.withSweep worker sweep).sweeping other).ids) :
    id ∈ sweep.ids ∨ id ∈ (world.sweeping other).ids := by
  by_cases same : other = worker
  · subst same
    exact Or.inl (by simpa [SweptWorld.withSweep] using member)
  · exact Or.inr (by simpa [SweptWorld.withSweep, Function.update_of_ne same] using member)

/-- Every job that is swept was so before, or is through. -/
def SweepsOn (world after : SweptWorld) : Prop :=
  ∀ worker, ∀ id ∈ (after.sweeping worker).ids,
    world.Settled id ∨ ∃ other, id ∈ (world.sweeping other).ids

theorem sweepsOn_of_within {base : SweptWorld} {worker : Nat} {sweep : RetentionSweep}
    (same : base.sweeping = world.sweeping)
    (within : ∀ id ∈ sweep.ids, id ∈ (world.sweeping worker).ids) :
    SweepsOn world (base.withSweep worker sweep) := by
  intro other id member
  rcases sweeping_withSweep member with left | before
  · exact Or.inr ⟨worker, within id left⟩
  · exact Or.inr ⟨other, same ▸ before⟩

theorem exports_cases {event : ExportEvent}
    (careful : ReapsTheDead setup world (.exports event))
    (stepped : world.step setup (.exports event) = some after) :
    RowMove world.toExportWorld after.toExportWorld ∧ SweepsOn world after := by
  have moved : ∀ next : ExportWorld, world.toExportWorld.step setup event = some next →
      (∀ id, event ≠ .expired id) → RowMove world.toExportWorld next := by
    intro next ran attended
    refine ExportWorld.rowMove_step ?_ attended ran
    rintro rfl
    exact careful
  cases event with
  | unlinked id => cases stepped
  | expired id => cases stepped
  | crashed worker =>
      simp only [SweptWorld.step, Option.map_eq_some_iff] at stepped
      obtain ⟨next, ran, rfl⟩ := stepped
      refine ⟨moved next ran fun _ => by simp, ?_⟩
      intro other id member
      by_cases same : other = worker
      · subst same
        simp [noSweep] at member
      · exact Or.inr ⟨other, by simpa [Function.update_of_ne same] using member⟩
  | enqueued | claimed | task | signalled | reaped | elapsed =>
      simp only [SweptWorld.step, Option.map_eq_some_iff] at stepped
      obtain ⟨next, ran, rfl⟩ := stepped
      exact ⟨moved next ran fun _ => by simp, fun worker id member => Or.inr ⟨worker, member⟩⟩

theorem Exclusive.expires (exclusive : Exclusive world) {worker : Nat}
    (stepped : world.step setup (.expired worker) = some after) :
    RowMove world.toExportWorld after.toExportWorld ∧ SweepsOn world after := by
  simp only [SweptWorld.step] at stepped
  split at stepped
  next id rest sweep =>
    cases stepped
    have settled := exclusive.chosen worker id (by rw [sweep]; exact List.mem_cons_self)
    have known : ∃ job, world.jobs id = some job := by
      rcases settled with found | found <;>
      · obtain ⟨job, known, _⟩ := Option.map_eq_some_iff.1 found
        exact ⟨job, known⟩
    obtain ⟨job, found⟩ := known
    refine ⟨.expired id settled ?_ (fun _ => ExportWorld.statusOf_withJob_of_ne)
      fun _ _ held => held, sweepsOn_of_within rfl fun _ left => ?_⟩
    · simp [ExportWorld.statusOf, SweptWorld.withSweep, found]
    · rw [sweep]
      exact List.mem_cons_of_mem _ left
  next => cases stepped

theorem Exclusive.step_cases (exclusive : Exclusive world) {event : SweptEvent}
    (careful : ReapsTheDead setup world event)
    (stepped : world.step setup event = some after) :
    RowMove world.toExportWorld after.toExportWorld ∧ SweepsOn world after := by
  cases event with
  | exports event => exact exports_cases careful stepped
  | selected worker ids =>
      obtain ⟨⟨_, overdue⟩, moved⟩ := Option.ite_none_right_eq_some.1 stepped
      cases moved
      refine ⟨.still (fun _ => rfl) fun _ _ held => held, ?_⟩
      intro other id member
      rcases sweeping_withSweep member with chosen | before
      · obtain ⟨job, found, ready, _⟩ := overdue id chosen
        refine Or.inl (Or.inl ?_)
        rw [ExportWorld.statusOf, found, Option.map_some, ready]
      · exact Or.inr ⟨other, before⟩
  | unlinked worker =>
      simp only [SweptWorld.step] at stepped
      split at stepped
      next id rest sweep =>
        cases stepped
        refine ⟨.still (fun _ => rfl) fun _ _ held => held,
          sweepsOn_of_within rfl fun _ left => ?_⟩
        rw [sweep]
        exact left
      next => cases stepped
  | expired worker => exact exclusive.expires stepped
  | skipped worker =>
      simp only [SweptWorld.step] at stepped
      split at stepped
      next id rest sweep =>
        cases stepped
        refine ⟨.still (fun _ => rfl) fun _ _ held => held,
          sweepsOn_of_within rfl fun _ left => ?_⟩
        rw [sweep]
        exact List.mem_cons_of_mem _ left
      next => cases stepped

theorem Exclusive.step (exclusive : Exclusive world) {event : SweptEvent}
    (careful : ReapsTheDead setup world event)
    (stepped : world.step setup event = some after) : Exclusive after := by
  obtain ⟨move, sweeps⟩ := exclusive.step_cases careful stepped
  refine ⟨fun worker id => exclusive.keeps_running move,
    fun first second id => exclusive.keeps_alone move, ?_⟩
  intro worker id member
  rcases sweeps worker id member with settled | ⟨other, before⟩
  · exact exclusive.keeps_settled move settled
  · exact exclusive.keeps_settled move (exclusive.chosen other id before)

theorem exclusive_of_reachable
    (reached : (sweptRuns setup).ReachableBy (ReapsTheDead setup) world) : Exclusive world := by
  refine reached.invariant ?_ fun _ _ _ kept careful stepped => kept.step careful stepped
  rintro start ⟨idle, calm⟩
  have nobody : ∀ worker id, ¬ start.Processes worker id := by
    rintro worker id ⟨task, running, _⟩
    rw [idle worker] at running
    cases running
  refine ⟨fun worker id held => absurd held (nobody worker id),
    fun first _ id held => absurd held (nobody first id), ?_⟩
  intro worker id member
  rw [calm worker] at member
  exact absurd member List.not_mem_nil

/-- Where no reaper tick requeues the row of a worker that is still at it, an export is in the hands
of one worker at most, and a ready one stays ready or expires, whatever follows. -/
theorem exports_exclusive_and_final
    (reached : (sweptRuns setup).ReachableBy (ReapsTheDead setup) world) :
    (∀ first second id, world.Processes first id → world.Processes second id → first = second) ∧
      ∀ events after, (sweptRuns setup).Along (ReapsTheDead setup) world events →
        (sweptRuns setup).run world events = some after → ∀ id, world.statusOf id = some .ready →
          after.statusOf id = some .ready ∨ after.statusOf id = some .expired := by
  refine ⟨(exclusive_of_reachable reached).alone, ?_⟩
  intro events after careful ran id ready
  have stays : ∀ {before : SweptWorld} {rest : List SweptEvent}, Exclusive before →
      before.Settled id → (sweptRuns setup).Along (ReapsTheDead setup) before rest →
      (sweptRuns setup).run before rest = some after → after.Settled id := by
    intro before rest
    induction rest generalizing before with
    | nil =>
        intro _ settled _ ran
        rw [← Option.some.inj ran]
        exact settled
    | cons event rest ih =>
        intro exclusive settled careful ran
        obtain ⟨next, stepped, ran⟩ := Option.bind_eq_some_iff.1 ran
        exact ih (exclusive.step careful.1 stepped)
          (exclusive.keeps_settled (exclusive.step_cases careful.1 stepped).1 settled)
          (careful.2 next stepped) ran
  exact stays (exclusive_of_reachable reached) (Or.inl ready) careful ran

end

def noLegs : ExportSetup where
  pg := plainDates
  texts := { timestamp := fun _ => "2026-10-21 00:00:00+00", seconds := fun _ => "0" }
  legs := []
  chunk := 10000
  reapAfter := 600000000
  retention := 43200000000

def noLegsTables : ReportTables :=
  { exportTables with legs := [], operatorKnown := by decide }

def idleSwept : SweptWorld where
  toExportWorld := idleWorkers
  sweeping _ := noSweep

theorem idleSwept_initial : (sweptRuns noLegs).initial idleSwept :=
  ⟨fun _ => rfl, fun _ => rfl⟩

def taken : List SweptEvent :=
  [.exports (.enqueued 1 .legs openClaims (exportFilter "any")), .exports (.claimed 1 1),
    .exports (.task 1 .opened)]

def reapedAndTaken : List SweptEvent :=
  [.exports (.elapsed 600000001), .exports .reaped, .exports (.claimed 2 1)]

def ended : List SweptEvent :=
  [.exports (.task 1 (.fetched [] noLegsTables)),
    .exports (.task 1 (.flushed (headerLine .legs).length)), .exports (.task 1 .finalized)]

theorem export_shared_then_failed :
    ∃ shared ready failed : SweptWorld,
      (sweptRuns noLegs).Reachable shared ∧ shared.Processes 1 1 ∧ shared.Processes 2 1 ∧
      (sweptRuns noLegs).run shared ended = some ready ∧ ready.statusOf 1 = some .ready ∧
      (sweptRuns noLegs).run ready [.exports (.task 2 .failed)] = some failed ∧
      failed.statusOf 1 = some .failed := by
  have evaluated : (((sweptRuns noLegs).run idleSwept (taken ++ reapedAndTaken)).any fun shared =>
      decide ((shared.workers 1).task.map ExportTask.id = some 1) &&
      decide ((shared.workers 2).task.map ExportTask.id = some 1) &&
      ((sweptRuns noLegs).run shared ended).any fun ready =>
        decide (ready.statusOf 1 = some .ready) &&
        ((sweptRuns noLegs).run ready [.exports (.task 2 .failed)]).any fun failed =>
          decide (failed.statusOf 1 = some .failed)) = true := by
    decide +kernel
  simp only [Option.any_eq_true, Bool.and_eq_true, decide_eq_true_eq] at evaluated
  obtain ⟨shared, ran, ⟨first, second⟩, ready, endedRun, isReady, failed, failedRun, isFailed⟩ :=
    evaluated
  exact ⟨shared, ready, failed, .run (.start idleSwept_initial) ran, Option.map_eq_some_iff.1 first,
    Option.map_eq_some_iff.1 second, endedRun, isReady, failedRun, isFailed⟩

theorem export_ended_in_time :
    ∃ world, (sweptRuns noLegs).ReachableBy (ReapsTheDead noLegs) world ∧
      world.statusOf 1 = some .ready ∧
      ∀ first second id, world.Processes first id → world.Processes second id →
        first = second := by
  have evaluated : ((sweptRuns noLegs).run idleSwept (taken ++ ended)).any (fun world =>
      decide (world.statusOf 1 = some .ready)) = true := by
    decide +kernel
  simp only [Option.any_eq_true, decide_eq_true_eq] at evaluated
  obtain ⟨world, ran, ready⟩ := evaluated
  have reached : (sweptRuns noLegs).ReachableBy (ReapsTheDead noLegs) world := by
    refine .along (.start idleSwept_initial) ?_ ran
    simp [taken, ended, StepSystem.Along, ReapsTheDead]
  exact ⟨world, reached, ready, (exports_exclusive_and_final reached).1⟩

end UssdGateway
