import Mathlib.Algebra.GroupWithZero.Nat
import Mathlib.Logic.Function.Basic
import UssdGateway.Exports.ExportFiles
import UssdGateway.Library.Transition

/-!
Runs of export workers over one job table and one directory of files. A worker writes its file as
it reads the chunks, and may be stopped, crash or lose its job to another one on the way.
-/

namespace UssdGateway

open Paging Worker

inductive ExportStatus where
  | queued
  | running
  | ready
  | failed
  | expired
deriving DecidableEq, Repr

/-- A row of `portal_exports`. Its filters are stamped from the claims and the screen. -/
structure ExportJob where
  granularity : Granularity
  claims : SessionClaims
  screen : ReportFilters
  status : ExportStatus
  startedAt : Option Nat
  completedAt : Option Nat
  rowCount : Option Nat
  fileSizeBytes : Option Nat
deriving DecidableEq

def ExportJob.filters (job : ExportJob) : ExportFilters := actionCreateExport job.claims job.screen

structure ExportSetup where
  pg : PgDates
  texts : CsvTexts
  legs : List LegRecord
  chunk : Nat
  reapAfter : Nat
  retention : Nat

structure ExportLine where
  subject : ExportSubject
  values : List (Option String)

def ExportLine.text (line : ExportLine) : List Char := csvLine line.values

structure ExportTask where
  id : Nat
  job : ExportJob
  opened : Bool
  position : Nat
  pending : List Char
  offset : Nat
  total : Nat
  left : Bool
  lines : List ExportLine

structure ExportWorker where
  shutdown : Bool
  task : Option ExportTask

/-- `export_<id>.csv` is the file of its id. -/
structure ExportWorld where
  jobs : Nat → Option ExportJob
  files : Nat → Option (List Char)
  workers : Nat → ExportWorker
  now : Nat

inductive TaskEvent where
  | opened
  | fetched (order : List ExportSubject) (tables : ReportTables)
  | flushed (count : Nat)
  | stopped
  | finalized
  | failed

inductive ExportEvent where
  | enqueued (id : Nat) (granularity : Granularity) (claims : SessionClaims)
      (screen : ReportFilters)
  | claimed (worker id : Nat)
  | task (worker : Nat) (event : TaskEvent)
  | crashed (worker : Nat)
  | signalled (worker : Nat)
  | reaped
  | unlinked (id : Nat)
  | expired (id : Nat)
  | elapsed (micros : Nat)

/-- A write at an offset of a file. A hole before it reads as zeros. -/
def writeAt (text : List Char) (position : Nat) (data : List Char) : List Char :=
  text.take position ++ List.replicate (position - text.length) (Char.ofNat 0) ++ data ++
    text.drop (position + data.length)

def startTask (id : Nat) (job : ExportJob) : ExportTask where
  id := id
  job := job
  opened := false
  position := 0
  pending := headerLine job.granularity
  offset := 0
  total := 0
  left := false
  lines := []

def ExportJob.Stale (setup : ExportSetup) (now : Nat) (job : ExportJob) : Prop :=
  job.status = .running ∧ ∃ startedAt ∈ job.startedAt, startedAt + setup.reapAfter < now

instance (setup : ExportSetup) (now : Nat) (job : ExportJob) : Decidable (job.Stale setup now) :=
  inferInstanceAs (Decidable (_ ∧ _))

/-- `reapZombies` on one row. -/
def ExportJob.reaped (setup : ExportSetup) (now : Nat) (job : ExportJob) : ExportJob :=
  if job.Stale setup now then { job with status := .queued, startedAt := none } else job

namespace ExportWorld

variable (setup : ExportSetup) (world : ExportWorld) (worker : Nat)

def withTask (task : Option ExportTask) : ExportWorld :=
  { world with
    workers := Function.update world.workers worker { world.workers worker with task } }

def withJob (id : Nat) (update : ExportJob → ExportJob) : ExportWorld :=
  { world with jobs := Function.update world.jobs id ((world.jobs id).map update) }

def withFile (id : Nat) (text : Option (List Char)) : ExportWorld :=
  { world with files := Function.update world.files id text }

def fetched (task : ExportTask) (order : List ExportSubject) (tables : ReportTables) :
    ExportTask :=
  let rows := page setup.chunk task.offset order
  let lines := rows.map fun subject =>
    { subject, values := exportValues setup.texts tables subject : ExportLine }
  { task with
    pending := task.pending ++ lines.flatMap ExportLine.text
    offset := task.offset + setup.chunk
    total := task.total + rows.length
    left := rows.isEmpty || decide (rows.length < setup.chunk)
    lines := task.lines ++ lines }

def taskStep (task : ExportTask) : TaskEvent → Option ExportWorld
  | .opened =>
      if task.opened then none
      else some ((world.withFile task.id (some [])).withTask worker
        (some { task with opened := true }))
  | .fetched order tables =>
      if task.left = false ∧ (world.workers worker).shutdown = false ∧
          QueryOrder setup.pg task.job.filters setup.legs task.job.granularity order ∧
          tables.legs = setup.legs then
        some (world.withTask worker (some (fetched setup task order tables)))
      else none
  | .flushed count =>
      if task.opened ∧ 0 < count ∧ count ≤ task.pending.length then
        some ((world.withFile task.id ((world.files task.id).map fun text =>
          writeAt text task.position (task.pending.take count))).withTask worker
            (some { task with
              position := task.position + count, pending := task.pending.drop count }))
      else none
  | .stopped =>
      if task.left = false ∧ (world.workers worker).shutdown then
        some (world.withTask worker (some { task with left := true }))
      else none
  | .finalized =>
      if task.left ∧ task.opened ∧ task.pending = [] then
        (world.files task.id).map fun text =>
          (world.withJob task.id fun job =>
            { job with
              status := .ready, completedAt := some world.now, rowCount := some task.total
              fileSizeBytes := some (text.map Char.utf8Size).sum }).withTask worker none
      else none
  | .failed =>
      some ((world.withJob task.id fun job =>
        { job with status := .failed, completedAt := some world.now }).withTask worker none)

def step : ExportEvent → Option ExportWorld
  | .enqueued id granularity claims screen =>
      if (world.jobs id).isNone then
        some { world with jobs := Function.update world.jobs id (some
          { granularity, claims, screen, status := .queued, startedAt := none
            completedAt := none, rowCount := none, fileSizeBytes := none }) }
      else none
  | .claimed worker id =>
      (world.jobs id).bind fun job =>
        if job.status = .queued ∧ (world.workers worker).task.isNone ∧
            (world.workers worker).shutdown = false then
          some ((world.withJob id fun job =>
            { job with status := .running, startedAt := some world.now }).withTask worker
              (some (startTask id job)))
        else none
  | .task worker event =>
      (world.workers worker).task.bind fun task => world.taskStep setup worker task event
  -- the container starts again
  | .crashed worker =>
      some { world with
        workers := Function.update world.workers worker { shutdown := false, task := none } }
  | .signalled worker =>
      some { world with
        workers := Function.update world.workers worker
          { world.workers worker with shutdown := true } }
  | .reaped =>
      some { world with jobs := fun id => (world.jobs id).map (ExportJob.reaped setup world.now) }
  | .unlinked id =>
      (world.jobs id).bind fun job =>
        if job.status = .ready ∧
            (∃ completedAt ∈ job.completedAt, completedAt + setup.retention < world.now) then
          some (world.withFile id none)
        else none
  | .expired id =>
      (world.jobs id).bind fun job =>
        if job.status = .ready ∧ (world.files id).isNone then
          some (world.withJob id fun job => { job with status := .expired })
        else none
  | .elapsed micros => some { world with now := world.now + micros }

end ExportWorld

section

variable (setup : ExportSetup)

def ExportJob.rows (job : ExportJob) : List ExportSubject :=
  requested setup.pg job.claims job.screen setup.legs job.granularity

def CompleteFile (world : ExportWorld) (id : Nat) (job : ExportJob) : Prop :=
  ∃ lines : List ExportLine,
    (lines.map ExportLine.subject).Perm (job.rows setup) ∧
    (∀ line ∈ lines, ∃ tables : ReportTables, tables.legs = setup.legs ∧
      line.values = exportValues setup.texts tables line.subject) ∧
    world.files id = some (headerLine job.granularity ++ lines.flatMap ExportLine.text) ∧
    job.rowCount = some lines.length

def ReadyComplete (world : ExportWorld) : Prop :=
  ∀ id job, world.jobs id = some job → job.status = .ready → CompleteFile setup world id job

/-- Runs from any table of jobs whose ready files are complete, with no worker at work. -/
def exportRuns : StepSystem ExportWorld ExportEvent where
  initial world :=
    (∀ worker, world.workers worker = { shutdown := false, task := none }) ∧
      ReadyComplete setup world
  step world event := world.step setup event

/-- A chunk continues the rows before it, and a stopped loop has read them all. -/
def CarefulTask (task : ExportTask) : TaskEvent → Prop
  | .fetched order _ =>
      0 < setup.chunk ∧ task.lines.map ExportLine.subject = order.take task.offset
  | .stopped => (task.job.rows setup).length ≤ task.offset
  | _ => True

/-- A requeued job has no worker, and no ready file is unlinked. -/
def CarefulStep (world : ExportWorld) : ExportEvent → Prop
  | .task worker event => ∀ task, (world.workers worker).task = some task →
      CarefulTask setup task event
  | .reaped => ∀ id job, world.jobs id = some job → job.Stale setup world.now →
      ∀ worker task, (world.workers worker).task = some task → task.id ≠ id
  | .unlinked _ => False
  | _ => True

end

namespace ExportWorld

variable {world : ExportWorld} {worker id other : Nat} {task : Option ExportTask}
  {update : ExportJob → ExportJob} {text : Option (List Char)}

@[simp] theorem withTask_task : ((world.withTask worker task).workers other).task =
    if other = worker then task else (world.workers other).task := by
  by_cases same : other = worker
  · subst same
    simp [withTask]
  · simp [withTask, same]

@[simp] theorem withTask_jobs : (world.withTask worker task).jobs = world.jobs := rfl
@[simp] theorem withTask_files : (world.withTask worker task).files = world.files := rfl

@[simp] theorem withJob_self :
    (world.withJob id update).jobs id = (world.jobs id).map update := Function.update_self ..

theorem withJob_of_ne (apart : other ≠ id) :
    (world.withJob id update).jobs other = world.jobs other := Function.update_of_ne apart ..

@[simp] theorem withFile_self : (world.withFile id text).files id = text :=
  Function.update_self ..

theorem withFile_of_ne (apart : other ≠ id) :
    (world.withFile id text).files other = world.files other := Function.update_of_ne apart ..

end ExportWorld

theorem writeAt_end (text data : List Char) : writeAt text text.length data = text ++ data := by
  simp [writeAt]

section

variable {setup : ExportSetup} {world after : ExportWorld} {worker id : Nat} {task : ExportTask}

def ExportTask.text (task : ExportTask) : List Char :=
  headerLine task.job.granularity ++ task.lines.flatMap ExportLine.text

structure TaskSound (setup : ExportSetup) (file : Option (List Char)) (task : ExportTask) :
    Prop where
  shown : ∀ line ∈ task.lines, ∃ tables : ReportTables, tables.legs = setup.legs ∧
    line.values = exportValues setup.texts tables line.subject
  read : ∃ order : List ExportSubject, order.Perm (task.job.rows setup) ∧
    task.lines.map ExportLine.subject = order.take task.offset
  whole : task.left = true → (task.lines.map ExportLine.subject).Perm (task.job.rows setup)
  counted : task.total = task.lines.length
  unopened : task.opened = false → task.position = 0 ∧ task.pending = task.text
  written : task.opened = true → ∃ text, file = some text ∧ task.position = text.length ∧
    text ++ task.pending = task.text

theorem taskSound_start (file : Option (List Char)) (id : Nat) (job : ExportJob) :
    TaskSound setup file (startTask id job) where
  shown := fun _ member => absurd member List.not_mem_nil
  read := ⟨job.rows setup, List.Perm.refl _, rfl⟩
  whole := fun left => nomatch left
  counted := rfl
  unopened := fun _ => ⟨rfl, (List.append_nil _).symm⟩
  written := fun opened => nomatch opened

theorem TaskSound.opening {file : Option (List Char)} (sound : TaskSound setup file task)
    (unopened : task.opened = false) :
    TaskSound setup (some []) { task with opened := true } where
  shown := sound.shown
  read := sound.read
  whole := sound.whole
  counted := sound.counted
  unopened := fun opened => nomatch opened
  written := fun _ => ⟨[], rfl, (sound.unopened unopened).1, (sound.unopened unopened).2⟩

theorem TaskSound.fetch {file : Option (List Char)} (sound : TaskSound setup file task)
    {order : List ExportSubject} {tables : ReportTables}
    (ordered : QueryOrder setup.pg task.job.filters setup.legs task.job.granularity order)
    (same : tables.legs = setup.legs) (positive : 0 < setup.chunk)
    (continues : task.lines.map ExportLine.subject = order.take task.offset) :
    TaskSound setup file (ExportWorld.fetched setup task order tables) := by
  have all : order.Perm (task.job.rows setup) := by
    have rows := selected_eq_requested setup.pg task.job.claims task.job.screen setup.legs
      task.job.granularity
    exact ordered.1.trans (List.Perm.of_eq rows)
  have longer : (ExportWorld.fetched setup task order tables).lines.map ExportLine.subject =
      order.take (task.offset + setup.chunk) := by
    rw [← take_append_page, ← continues]
    simp [ExportWorld.fetched, Function.comp_def]
  have text : (ExportWorld.fetched setup task order tables).text =
      task.text ++ ((page setup.chunk task.offset order).map fun subject =>
        { subject, values := exportValues setup.texts tables subject : ExportLine }).flatMap
          ExportLine.text := by
    simp [ExportTask.text, ExportWorld.fetched, List.append_assoc]
  constructor
  · intro line member
    rcases List.mem_append.1 member with earlier | added
    · exact sound.shown line earlier
    · obtain ⟨subject, _, rfl⟩ := List.mem_map.1 added
      exact ⟨tables, same, rfl⟩
  · exact ⟨order, all, longer⟩
  · intro left
    have short : (page setup.chunk task.offset order).length < setup.chunk := by
      simp only [ExportWorld.fetched, Bool.or_eq_true, List.isEmpty_iff,
        decide_eq_true_eq] at left
      rcases left with none | short
      · rw [none]
        exact positive
      · exact short
    rw [longer, take_eq_self_of_page short]
    exact all
  · simp [ExportWorld.fetched, sound.counted]
  · intro unopened
    obtain ⟨start, pending⟩ := sound.unopened unopened
    refine ⟨start, ?_⟩
    rw [text, ← pending]
    rfl
  · intro opened
    obtain ⟨text_, found, position, joined⟩ := sound.written opened
    refine ⟨text_, found, position, ?_⟩
    rw [text, ← joined, List.append_assoc]
    rfl

theorem TaskSound.flush {file : Option (List Char)} (sound : TaskSound setup file task)
    (opened : task.opened = true) {count : Nat} (enough : count ≤ task.pending.length) :
    TaskSound setup
      (file.map fun text => writeAt text task.position (task.pending.take count))
      { task with position := task.position + count, pending := task.pending.drop count } where
  shown := sound.shown
  read := sound.read
  whole := sound.whole
  counted := sound.counted
  unopened := fun unopened => nomatch opened.symm.trans unopened
  written := by
    intro _
    obtain ⟨text, found, position, joined⟩ := sound.written opened
    refine ⟨text ++ task.pending.take count, ?_, ?_, ?_⟩
    · rw [found, position, Option.map_some, writeAt_end]
    · simp [position, enough]
    · rw [List.append_assoc, List.take_append_drop]
      exact joined

theorem TaskSound.stop {file : Option (List Char)} (sound : TaskSound setup file task)
    (all : (task.job.rows setup).length ≤ task.offset) :
    TaskSound setup file { task with left := true } where
  shown := sound.shown
  read := sound.read
  whole := by
    intro _
    obtain ⟨order, rows, lines⟩ := sound.read
    have short : order.length ≤ task.offset := by
      rw [rows.length_eq]
      exact all
    simp only
    rw [lines, List.take_of_length_le short]
    exact rows
  counted := sound.counted
  unopened := sound.unopened
  written := sound.written

/-! What holds of all of them. -/

def Owned (world : ExportWorld) (task : ExportTask) : Prop :=
  ∃ job, world.jobs task.id = some job ∧ job.status = .running ∧
    job.granularity = task.job.granularity ∧ job.claims = task.job.claims ∧
    job.screen = task.job.screen

structure RunSound (setup : ExportSetup) (world : ExportWorld) : Prop where
  ready : ReadyComplete setup world
  owned : ∀ worker task, (world.workers worker).task = some task →
    Owned world task ∧ TaskSound setup (world.files task.id) task
  alone : ∀ first second firstTask secondTask,
    (world.workers first).task = some firstTask → (world.workers second).task = some secondTask →
    firstTask.id = secondTask.id → first = second

structure StepsOn (setup : ExportSetup) (world after : ExportWorld) (worker id : Nat) : Prop where
  jobs : ∀ other, other ≠ id → after.jobs other = world.jobs other
  files : ∀ other, other ≠ id → after.files other = world.files other
  tasks : ∀ other task, (after.workers other).task = some task →
    ((world.workers other).task = some task ∧ task.id ≠ id) ∨
      (other = worker ∧ task.id = id ∧ Owned after task ∧ TaskSound setup (after.files id) task)
  ready : ∀ job, after.jobs id = some job → job.status = .ready →
    CompleteFile setup after id job

theorem RunSound.stepsOn (sound : RunSound setup world)
    (steps : StepsOn setup world after worker id) : RunSound setup after := by
  constructor
  · intro other job found ready
    by_cases same : other = id
    · subst same
      exact steps.ready job found ready
    · rw [steps.jobs other same] at found
      obtain ⟨lines, all, shown, file, counted⟩ := sound.ready other job found ready
      exact ⟨lines, all, shown, (steps.files other same).trans file, counted⟩
  · intro other task running
    rcases steps.tasks other task running with ⟨before, apart⟩ | ⟨_, same, owned, taskSound⟩
    · obtain ⟨⟨job, found, rest⟩, taskSound⟩ := sound.owned other task before
      refine ⟨⟨job, (steps.jobs task.id apart).trans found, rest⟩, ?_⟩
      rw [steps.files task.id apart]
      exact taskSound
    · exact ⟨owned, same ▸ taskSound⟩
  · intro first second firstTask secondTask firstRuns secondRuns same
    rcases steps.tasks first firstTask firstRuns with
      ⟨firstBefore, firstApart⟩ | ⟨firstIs, firstId, _⟩
    · rcases steps.tasks second secondTask secondRuns with ⟨secondBefore, _⟩ | ⟨_, secondId, _⟩
      · exact sound.alone first second firstTask secondTask firstBefore secondBefore same
      · exact absurd (same.trans secondId) firstApart
    · rcases steps.tasks second secondTask secondRuns with ⟨_, secondApart⟩ | ⟨secondIs, _, _⟩
      · exact absurd (same.symm.trans firstId) secondApart
      · exact firstIs.trans secondIs.symm

theorem RunSound.taskStep (sound : RunSound setup world)
    (running : (world.workers worker).task = some task) {changed : ExportWorld}
    (workers : changed.workers = world.workers)
    (jobs : ∀ other, other ≠ task.id → changed.jobs other = world.jobs other)
    (files : ∀ other, other ≠ task.id → changed.files other = world.files other)
    {next : Option ExportTask}
    (own : ∀ later, next = some later → later.id = task.id ∧ Owned changed later ∧
      TaskSound setup (changed.files task.id) later)
    (ready : ∀ job, changed.jobs task.id = some job → job.status = .ready →
      CompleteFile setup changed task.id job) :
    RunSound setup (changed.withTask worker next) := by
  refine @RunSound.stepsOn setup world _ worker task.id sound ⟨jobs, files, ?_, ready⟩
  intro other later found
  by_cases same : other = worker
  · subst same
    rw [ExportWorld.withTask_task, if_pos rfl] at found
    exact .inr ⟨rfl, own later found⟩
  · rw [ExportWorld.withTask_task, if_neg same, workers] at found
    refine .inl ⟨found, fun shared => same ?_⟩
    exact sound.alone other worker later task found running shared

theorem RunSound.not_ready (sound : RunSound setup world)
    (running : (world.workers worker).task = some task) {job : ExportJob}
    (found : world.jobs task.id = some job) : job.status ≠ .ready := by
  obtain ⟨⟨owned, ownedFound, status, _⟩, _⟩ := sound.owned worker task running
  rw [found] at ownedFound
  rw [Option.some.inj ownedFound, status]
  decide

theorem RunSound.writes (sound : RunSound setup world)
    (running : (world.workers worker).task = some task) {text : Option (List Char)}
    {next : ExportTask} (sameId : next.id = task.id) (sameJob : next.job = task.job)
    (taskSound : TaskSound setup text next) :
    RunSound setup ((world.withFile task.id text).withTask worker (some next)) := by
  have sameWorkers : (world.withFile task.id text).workers = world.workers := rfl
  apply sound.taskStep running sameWorkers (fun _ _ => rfl)
    (fun _ => ExportWorld.withFile_of_ne)
  · intro later same
    cases same
    obtain ⟨⟨job, found, rest⟩, _⟩ := sound.owned worker task running
    rw [ExportWorld.withFile_self]
    exact ⟨sameId, ⟨job, (congrArg world.jobs sameId).trans found, sameJob ▸ rest⟩, taskSound⟩
  · intro job found ready
    exact absurd ready (sound.not_ready running found)

theorem RunSound.moves (sound : RunSound setup world)
    (running : (world.workers worker).task = some task) {next : ExportTask}
    (sameId : next.id = task.id) (sameJob : next.job = task.job)
    (taskSound : TaskSound setup (world.files task.id) next) :
    RunSound setup (world.withTask worker (some next)) := by
  have same : world.withFile task.id (world.files task.id) = world := by
    rw [ExportWorld.withFile, Function.update_eq_self]
  have written := sound.writes running sameId sameJob taskSound
  rw [same] at written
  exact written

theorem RunSound.finish (sound : RunSound setup world)
    (running : (world.workers worker).task = some task) {update : ExportJob → ExportJob}
    (ready : ∀ job, world.jobs task.id = some job → (update job).status = .ready →
      CompleteFile setup (world.withJob task.id update) task.id (update job)) :
    RunSound setup ((world.withJob task.id update).withTask worker none) := by
  have sameWorkers : (world.withJob task.id update).workers = world.workers := rfl
  refine sound.taskStep running sameWorkers (fun _ => ExportWorld.withJob_of_ne)
    (fun _ _ => rfl) (fun _ none => nomatch none) ?_
  intro job found isReady
  rw [ExportWorld.withJob_self] at found
  obtain ⟨before, beforeFound, rfl⟩ := Option.map_eq_some_iff.1 found
  exact ready before beforeFound isReady

theorem RunSound.ofTask (sound : RunSound setup world)
    (running : (world.workers worker).task = some task) {event : TaskEvent}
    (careful : CarefulTask setup task event)
    (stepped : world.taskStep setup worker task event = some after) : RunSound setup after := by
  have taskSound := (sound.owned worker task running).2
  cases event with
  | opened =>
      rw [ExportWorld.taskStep] at stepped
      split at stepped
      next => cases stepped
      next unopened =>
        cases stepped
        have opening := taskSound.opening (by simpa using unopened)
        exact sound.writes running rfl rfl opening
  | fetched order tables =>
      rw [ExportWorld.taskStep] at stepped
      split at stepped
      next guard =>
        obtain ⟨_, _, ordered, same⟩ := guard
        cases stepped
        exact sound.moves running rfl rfl (taskSound.fetch ordered same careful.1 careful.2)
      next => cases stepped
  | flushed count =>
      rw [ExportWorld.taskStep] at stepped
      split at stepped
      next guard =>
        obtain ⟨opened, _, enough⟩ := guard
        cases stepped
        exact sound.writes running rfl rfl (taskSound.flush opened enough)
      next => cases stepped
  | stopped =>
      rw [ExportWorld.taskStep] at stepped
      split at stepped
      next =>
        cases stepped
        exact sound.moves running rfl rfl (taskSound.stop careful)
      next => cases stepped
  | finalized =>
      rw [ExportWorld.taskStep] at stepped
      split at stepped
      next guard =>
        obtain ⟨left, opened, flushed⟩ := guard
        obtain ⟨text, _, rfl⟩ := Option.map_eq_some_iff.1 stepped
        apply sound.finish running
        intro job found _
        obtain ⟨⟨owned, ownedFound, _, granularity, claims, screen⟩, taskSound⟩ :=
          sound.owned worker task running
        rw [found] at ownedFound
        cases ownedFound
        obtain ⟨whole, wholeFound, _, joined⟩ := taskSound.written opened
        rw [flushed, List.append_nil] at joined
        refine ⟨task.lines, ?_, taskSound.shown, ?_, ?_⟩
        · rw [ExportJob.rows, claims, screen, granularity]
          exact taskSound.whole left
        · rw [granularity, ← ExportTask.text, ← joined]
          exact wholeFound
        · rw [taskSound.counted]
      next => cases stepped
  | failed =>
      cases stepped
      exact sound.finish running fun _ _ isReady => nomatch isReady

theorem RunSound.unowned (sound : RunSound setup world)
    (idle : ∀ job, world.jobs id = some job → job.status ≠ .running) {other : Nat}
    {task : ExportTask} (running : (world.workers other).task = some task) : task.id ≠ id := by
  rintro rfl
  obtain ⟨⟨job, found, status, _⟩, _⟩ := sound.owned other task running
  exact idle job found status

theorem RunSound.claim (sound : RunSound setup world) {job : ExportJob}
    (found : world.jobs id = some job) (queued : job.status = .queued) :
    RunSound setup ((world.withJob id fun job =>
      { job with status := .running, startedAt := some world.now }).withTask worker
        (some (startTask id job))) := by
  have idle : ∀ other, world.jobs id = some other → other.status ≠ .running := by
    intro other same
    rw [found] at same
    rw [← Option.some.inj same, queued]
    decide
  refine @RunSound.stepsOn setup world _ worker id sound ⟨?_, fun _ _ => rfl, ?_, ?_⟩
  · exact fun _ => ExportWorld.withJob_of_ne
  · intro other task running
    rw [ExportWorld.withTask_task] at running
    split at running
    next same =>
      cases running
      refine .inr ⟨same, rfl, ⟨{ job with status := .running, startedAt := some world.now }, ?_,
        rfl, rfl, rfl, rfl⟩, taskSound_start _ id job⟩
      rw [ExportWorld.withTask_jobs, startTask, ExportWorld.withJob_self, found, Option.map_some]
    next => exact .inl ⟨running, sound.unowned idle running⟩
  · intro other ready isReady
    rw [ExportWorld.withTask_jobs, ExportWorld.withJob_self, found] at ready
    cases ready
    cases isReady

theorem RunSound.fewer (sound : RunSound setup world) (jobs : after.jobs = world.jobs)
    (files : after.files = world.files)
    (tasks : ∀ other task, (after.workers other).task = some task →
      (world.workers other).task = some task) : RunSound setup after := by
  constructor
  · intro other job found ready
    rw [jobs] at found
    obtain ⟨lines, all, shown, file, counted⟩ := sound.ready other job found ready
    exact ⟨lines, all, shown, files ▸ file, counted⟩
  · intro other task running
    obtain ⟨⟨job, found, rest⟩, taskSound⟩ := sound.owned other task (tasks other task running)
    exact ⟨⟨job, jobs ▸ found, rest⟩, files ▸ taskSound⟩
  · intro first second firstTask secondTask firstRuns secondRuns
    exact sound.alone first second firstTask secondTask (tasks first firstTask firstRuns)
      (tasks second secondTask secondRuns)

theorem RunSound.reap (sound : RunSound setup world)
    (careful : CarefulStep setup world .reaped) :
    RunSound setup
      { world with jobs := fun id => (world.jobs id).map (ExportJob.reaped setup world.now) } := by
  constructor
  · intro other job found ready
    obtain ⟨before, beforeFound, rfl⟩ := Option.map_eq_some_iff.1 found
    rw [ExportJob.reaped] at ready ⊢
    split at ready
    next => cases ready
    next fresh =>
      rw [if_neg fresh]
      exact sound.ready other before beforeFound ready
  · intro other task running
    obtain ⟨⟨job, found, rest⟩, taskSound⟩ := sound.owned other task running
    have fresh : ¬ job.Stale setup world.now := fun stale =>
      careful task.id job found stale other task running rfl
    refine ⟨⟨job, ?_, rest⟩, taskSound⟩
    simp only [found, Option.map_some, ExportJob.reaped, if_neg fresh]
  · exact sound.alone

theorem RunSound.step (sound : RunSound setup world) {event : ExportEvent}
    (careful : CarefulStep setup world event)
    (stepped : world.step setup event = some after) : RunSound setup after := by
  cases event with
  | enqueued id granularity claims screen =>
      rw [ExportWorld.step] at stepped
      split at stepped
      next free =>
        cases stepped
        rw [Option.isNone_iff_eq_none] at free
        have idle : ∀ job, world.jobs id = some job → job.status ≠ .running := by
          intro job found
          rw [free] at found
          cases found
        refine @RunSound.stepsOn setup world _ 0 id sound ⟨?_, fun _ _ => rfl, ?_, ?_⟩
        · exact fun other apart => Function.update_of_ne apart _ _
        · exact fun other task running => .inl ⟨running, sound.unowned idle running⟩
        · intro job found ready
          simp only [Function.update_self, Option.some.injEq] at found
          subst found
          cases ready
      next => cases stepped
  | claimed worker id =>
      obtain ⟨job, found, stepped⟩ := Option.bind_eq_some_iff.1 stepped
      split at stepped
      next guard =>
        cases stepped
        exact sound.claim found guard.1
      next => cases stepped
  | task worker event =>
      obtain ⟨task, running, stepped⟩ := Option.bind_eq_some_iff.1 stepped
      exact sound.ofTask running (careful task running) stepped
  | crashed worker =>
      cases stepped
      refine sound.fewer rfl rfl ?_
      intro other task running
      by_cases same : other = worker
      · subst same
        simp at running
      · simpa [Function.update_of_ne same] using running
  | signalled worker =>
      cases stepped
      refine sound.fewer rfl rfl ?_
      intro other task running
      by_cases same : other = worker
      · subst same
        simpa using running
      · simpa [Function.update_of_ne same] using running
  | reaped =>
      cases stepped
      exact sound.reap careful
  | unlinked id => exact careful.elim
  | expired id =>
      obtain ⟨job, found, stepped⟩ := Option.bind_eq_some_iff.1 stepped
      split at stepped
      next guard =>
        cases stepped
        have idle : ∀ other, world.jobs id = some other → other.status ≠ .running := by
          intro other same
          rw [found] at same
          rw [← Option.some.inj same, guard.1]
          decide
        refine @RunSound.stepsOn setup world _ 0 id sound ⟨?_, fun _ _ => rfl, ?_, ?_⟩
        · exact fun _ => ExportWorld.withJob_of_ne
        · exact fun other task running => .inl ⟨running, sound.unowned idle running⟩
        · intro other ready isReady
          rw [ExportWorld.withJob_self, found] at ready
          cases ready
          cases isReady
      next => cases stepped
  | elapsed micros =>
      cases stepped
      exact sound.fewer rfl rfl fun _ _ running => running

end

/-- Where every step is careful, every ready export is complete. -/
theorem ready_exports_complete {setup : ExportSetup} {world : ExportWorld}
    (reached : (exportRuns setup).ReachableBy (CarefulStep setup) world) :
    ReadyComplete setup world := by
  have sound : RunSound setup world := by
    refine reached.invariant ?_ fun _ _ _ kept careful stepped => kept.step careful stepped
    rintro start ⟨idle, ready⟩
    have none : ∀ worker task, (start.workers worker).task ≠ some task := by
      intro worker task running
      rw [idle worker] at running
      cases running
    exact ⟨ready, fun worker task running => absurd running (none worker task),
      fun first _ firstTask _ running => absurd running (none first firstTask)⟩
  exact sound.ready

def twoLegs : ExportSetup where
  pg := plainDates
  texts := { timestamp := fun _ => "2026-10-21 00:00:00+00", seconds := fun _ => "0" }
  legs := [exportLeg 1 0 none, exportLeg 2 30 none]
  chunk := 1
  reapAfter := 600000000
  retention := 43200000000

def twoLegsTables : ReportTables :=
  { exportTables with legs := twoLegs.legs, operatorKnown := by decide }

def newestLegs : List ExportSubject := [.leg (exportLeg 2 30 none), .leg (exportLeg 1 0 none)]

def idleWorkers : ExportWorld where
  jobs _ := none
  files _ := none
  workers _ := { shutdown := false, task := none }
  now := 0

theorem idleWorkers_initial : (exportRuns twoLegs).initial idleWorkers :=
  ⟨fun _ => rfl, fun _ _ found => nomatch found⟩

def stoppedRun : List ExportEvent :=
  [.enqueued 1 .legs openClaims (exportFilter "any"), .claimed 1 1, .task 1 .opened,
    .task 1 (.fetched newestLegs twoLegsTables), .signalled 1, .task 1 .stopped,
    .task 1 (.flushed 222), .task 1 .finalized]

def stoppedJob : ExportJob where
  granularity := .legs
  claims := openClaims
  screen := exportFilter "any"
  status := .ready
  startedAt := some 0
  completedAt := some 0
  rowCount := some 1
  fileSizeBytes := some 222

theorem stopped_export_incomplete :
    ∃ world, (exportRuns twoLegs).Reachable world ∧ ¬ ReadyComplete twoLegs world := by
  have ended : (((exportRuns twoLegs).run idleWorkers stoppedRun).bind fun world =>
      world.jobs 1) = some stoppedJob := by decide +kernel
  obtain ⟨world, ran, found⟩ := Option.bind_eq_some_iff.1 ended
  refine ⟨world, .run (.start idleWorkers_initial) ran, ?_⟩
  intro complete
  obtain ⟨lines, all, _, _, counted⟩ := complete 1 stoppedJob found rfl
  have one : lines.length = 1 := (Option.some.inj counted).symm
  have two : (stoppedJob.rows twoLegs).length = 2 := by decide +kernel
  have same := all.length_eq
  rw [List.length_map, one, two] at same
  exact absurd same (by decide)

def finishedRun : List ExportEvent :=
  [.enqueued 1 .legs openClaims (exportFilter "any"), .claimed 1 1, .task 1 .opened,
    .task 1 (.fetched newestLegs twoLegsTables), .task 1 (.fetched newestLegs twoLegsTables),
    .task 1 (.fetched newestLegs twoLegsTables), .task 1 (.flushed 295), .task 1 .finalized]

theorem careful_fetch (count : Nat) {events : List ExportEvent} {world : ExportWorld}
    (ran : (exportRuns twoLegs).run idleWorkers events = some world)
    (read : (((exportRuns twoLegs).run idleWorkers events).bind fun world =>
      (world.workers 1).task.map fun task =>
        (task.lines.map ExportLine.subject, task.offset)) = some (newestLegs.take count, count)) :
    CarefulStep twoLegs world (.task 1 (.fetched newestLegs twoLegsTables)) := by
  intro task running
  rw [ran, Option.bind_some, running, Option.map_some, Option.some.injEq, Prod.mk.injEq] at read
  refine ⟨by decide, ?_⟩
  rw [read.1, read.2]

theorem finished_export_complete :
    ∃ world job, (exportRuns twoLegs).run idleWorkers finishedRun = some world ∧
      world.jobs 1 = some job ∧ job.status = .ready ∧ ReadyComplete twoLegs world := by
  have ended : (((exportRuns twoLegs).run idleWorkers finishedRun).bind fun world =>
      (world.jobs 1).map ExportJob.status) = some .ready := by decide +kernel
  obtain ⟨world, ran, found⟩ := Option.bind_eq_some_iff.1 ended
  obtain ⟨job, jobFound, ready⟩ := Option.map_eq_some_iff.1 found
  refine ⟨world, job, ran, jobFound, ready, ready_exports_complete ?_⟩
  refine StepSystem.ReachableBy.along (.start idleWorkers_initial) ?_ ran
  refine ⟨trivial, fun _ queued => ⟨trivial, fun _ begun => ⟨fun _ _ => trivial, ?_⟩⟩⟩
  intro third opened
  have ran : (exportRuns twoLegs).run idleWorkers (finishedRun.take 3) = some third := by
    simp only [finishedRun, List.take_succ_cons, List.take_zero, StepSystem.run, queued, begun,
      opened, Option.bind_some]
  refine ⟨careful_fetch 0 ran (by decide +kernel), ?_⟩
  intro fourth first
  have ran : (exportRuns twoLegs).run idleWorkers (finishedRun.take 4) = some fourth := by
    simp only [finishedRun, List.take_succ_cons, List.take_zero, StepSystem.run, queued, begun,
      opened, first, Option.bind_some]
  refine ⟨careful_fetch 1 ran (by decide +kernel), ?_⟩
  intro fifth second
  have ran : (exportRuns twoLegs).run idleWorkers (finishedRun.take 5) = some fifth := by
    simp only [finishedRun, List.take_succ_cons, List.take_zero, StepSystem.run, queued, begun,
      opened, first, second, Option.bind_some]
  refine ⟨careful_fetch 2 ran (by decide +kernel), ?_⟩
  exact fun _ _ => ⟨fun _ _ => trivial, fun _ _ => ⟨fun _ _ => trivial, fun _ _ => trivial⟩⟩

end UssdGateway
