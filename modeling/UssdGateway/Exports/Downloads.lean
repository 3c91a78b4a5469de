import UssdGateway.Exports.ExclusiveExports
import UssdGateway.Library.JsText

/-!
Downloads while workers and retention sweeps are at work: `GET /api/exports/:id/download` looks the
row up, then the size of the file, then opens it, and sends what it reads bit by bit.
-/

namespace UssdGateway

open Worker

inductive DownloadAnswer where
  | unauthorized
  | badId
  | notFound
  | notReady (status : ExportStatus)
  | missing
  | thrown
  | broken
  | served (contentLength : Nat) (body : List Char)

/-- How far a request has come. What a reader holds open it can read on when the name is gone. -/
inductive DownloadPhase where
  | found (row : ExportJob)
  | measured (row : ExportJob) (size : Nat)
  | streaming (row : ExportJob) (size : Nat) (held sent : List Char)
  | answered (answer : DownloadAnswer)

structure Download where
  session : Option SessionClaims
  idStr : String
  phase : DownloadPhase

structure DownloadWorld extends SweptWorld where
  downloads : Nat → Option Download

inductive DownloadEvent where
  | exports (event : SweptEvent)
  | requested (request : Nat) (session : Option SessionClaims) (idStr : String)
  | measured (request : Nat)
  | opened (request : Nat)
  | read (request count : Nat)
  | closed (request : Nat)
  | broke (request : Nat)

def exportId (idStr : String) : Nat := ((JsText.parseInt idStr).getD 0).toNat

def byteSize (text : List Char) : Nat := (text.map Char.utf8Size).sum

def getExportForUser (world : ExportWorld) (exportId : Int) (userId : Nat) : Option ExportJob :=
  if exportId < 0 then none
  else (world.jobs exportId.toNat).filter fun row => decide (row.claims.sub = userId)

def beginDownload (world : ExportWorld) (session : Option SessionClaims) (idStr : String) :
    DownloadPhase :=
  match session with
  | none => .answered .unauthorized
  | some claims =>
      match JsText.parseInt idStr with
      | none => .answered .badId
      | some id =>
          if id < -9223372036854775808 ∨ 9223372036854775807 < id then .answered .thrown
          else
            match getExportForUser world id claims.sub with
            | none => .answered .notFound
            | some row =>
                if row.status = .ready then .found row else .answered (.notReady row.status)

namespace DownloadWorld

variable (setup : ExportSetup) (world : DownloadWorld)

def inPhase (request : Nat) (download : Download) (phase : DownloadPhase) : DownloadWorld :=
  { world with
    downloads := Function.update world.downloads request (some { download with phase }) }

def step : DownloadEvent → Option DownloadWorld
  | .exports event =>
      (world.toSweptWorld.step setup event).map fun next =>
        { toSweptWorld := next, downloads := world.downloads }
  | .requested request session idStr =>
      if (world.downloads request).isNone then
        let phase := beginDownload world.toExportWorld session idStr
        some { world with
          downloads := Function.update world.downloads request (some { session, idStr, phase }) }
      else none
  | .measured request =>
      (world.downloads request).bind fun download =>
        match download.phase with
        | .found row =>
            some (world.inPhase request download
              (match world.files (exportId download.idStr) with
                | some text => .measured row (byteSize text)
                | none => .answered .missing))
        | _ => none
  | .opened request =>
      (world.downloads request).bind fun download =>
        match download.phase with
        | .measured row size =>
            some (world.inPhase request download
              (match world.files (exportId download.idStr) with
                | some text => .streaming row size text []
                | none => .answered .broken))
        | _ => none
  | .read request count =>
      (world.downloads request).bind fun download =>
        match download.phase with
        | .streaming row size held sent =>
            let text := (world.files (exportId download.idStr)).getD held
            some (world.inPhase request download
              (.streaming row size held (sent ++ (text.drop sent.length).take count)))
        | _ => none
  | .closed request =>
      (world.downloads request).bind fun download =>
        match download.phase with
        | .streaming _ size held sent =>
            if ((world.files (exportId download.idStr)).getD held).length ≤ sent.length then
              some (world.inPhase request download (.answered (.served size sent)))
            else none
        | _ => none
  | .broke request =>
      (world.downloads request).map fun download =>
        match download.phase with
        | .answered _ => world
        | _ => world.inPhase request download (.answered .broken)

end DownloadWorld

/-- Runs from any table of exports whose ready files are complete, before any work and request. -/
def downloadRuns (setup : ExportSetup) : StepSystem DownloadWorld DownloadEvent where
  initial world := (sweptRuns setup).initial world.toSweptWorld ∧
    ReadyComplete setup world.toExportWorld ∧ ∀ request, world.downloads request = none
  step := DownloadWorld.step setup

/-- The workers take care. The sweeps may do what they do. -/
def CarefulDownload (setup : ExportSetup) (world : DownloadWorld) : DownloadEvent → Prop
  | .exports (.exports event) => CarefulStep setup world.toExportWorld event
  | _ => True

def ExportText (setup : ExportSetup) (job : ExportJob) (text : List Char) : Prop :=
  ∃ lines : List ExportLine,
    (lines.map ExportLine.subject).Perm (job.rows setup) ∧
    (∀ line ∈ lines, ∃ tables : ReportTables, tables.legs = setup.legs ∧
      line.values = exportValues setup.texts tables line.subject) ∧
    text = headerLine job.granularity ++ lines.flatMap ExportLine.text ∧
    job.rowCount = some lines.length

/-! A sweep seen as if it took nothing away: the ready exports that it picked are put back. -/

structure SavedExport where
  job : ExportJob
  text : Option (List Char)

abbrev SavedExports := Nat → Option SavedExport

def ExportWorld.restored (world : ExportWorld) (saved : SavedExports) : ExportWorld :=
  { world with
    jobs := fun id => (saved id).elim (world.jobs id) fun export' => some export'.job
    files := fun id => (saved id).elim (world.files id) SavedExport.text }

/-- All that a sweep does to an export is to remove the file and to mark the row. -/
structure Saves (saved : SavedExports) (world : ExportWorld) : Prop where
  ready : ∀ id export', saved id = some export' → export'.job.status = .ready
  row : ∀ id export', saved id = some export' →
    world.jobs id = some export'.job ∨
      world.jobs id = some { export'.job with status := .expired }
  text : ∀ id export', saved id = some export' →
    world.files id = none ∨ world.files id = export'.text

namespace ExportWorld

variable {world after : ExportWorld} {saved : SavedExports} {worker id : Nat}

theorem restored_jobs (free : saved id = none) :
    (world.restored saved).jobs id = world.jobs id := by
  simp only [restored, free, Option.elim_none]

theorem restored_files (free : saved id = none) :
    (world.restored saved).files id = world.files id := by
  simp only [restored, free, Option.elim_none]

theorem restored_withTask (task : Option ExportTask) :
    (world.withTask worker task).restored saved = (world.restored saved).withTask worker task := rfl

theorem restored_withJob (free : saved id = none) (update : ExportJob → ExportJob) :
    (world.withJob id update).restored saved = (world.restored saved).withJob id update := by
  have jobs : (fun other => (saved other).elim ((world.withJob id update).jobs other)
      fun export' => some export'.job) = ((world.restored saved).withJob id update).jobs := by
    funext other
    by_cases same : other = id
    · subst same
      rw [free, withJob_self, withJob_self, restored_jobs free]
      rfl
    · rw [withJob_of_ne same, withJob_of_ne same]
      rfl
  rw [restored, jobs]
  rfl

theorem restored_withFile (free : saved id = none) (text : Option (List Char)) :
    (world.withFile id text).restored saved = (world.restored saved).withFile id text := by
  have files : (fun other => (saved other).elim ((world.withFile id text).files other)
      SavedExport.text) = ((world.restored saved).withFile id text).files := by
    funext other
    by_cases same : other = id
    · subst same
      rw [free, withFile_self, withFile_self]
      rfl
    · rw [withFile_of_ne same, withFile_of_ne same]
      rfl
  rw [restored, files]
  rfl

theorem restored_unlinked (kept : saved id ≠ none) (text : Option (List Char)) :
    (world.withFile id text).restored saved = world.restored saved := by
  obtain ⟨export', kept⟩ := Option.ne_none_iff_exists'.1 kept
  simp only [restored, withFile]
  congr 1
  funext other
  by_cases same : other = id
  · subst same
    rw [kept, Option.elim_some, Option.elim_some]
  · rw [Function.update_of_ne same]

theorem restored_expired (kept : saved id ≠ none) (update : ExportJob → ExportJob) :
    (world.withJob id update).restored saved = world.restored saved := by
  obtain ⟨export', kept⟩ := Option.ne_none_iff_exists'.1 kept
  simp only [restored, withJob]
  congr 1
  funext other
  by_cases same : other = id
  · subst same
    rw [kept, Option.elim_some, Option.elim_some]
  · rw [Function.update_of_ne same]

end ExportWorld

section

variable {setup : ExportSetup} {world after : ExportWorld} {saved : SavedExports} {id : Nat}

theorem Saves.unlinked (saves : Saves saved world) (id : Nat) :
    Saves saved (world.withFile id none) where
  ready := saves.ready
  row := saves.row
  text := fun other export' kept => by
    by_cases same : other = id
    · subst same
      exact .inl ExportWorld.withFile_self
    · rw [ExportWorld.withFile_of_ne same]
      exact saves.text other export' kept

theorem Saves.expired (saves : Saves saved world) (id : Nat) :
    Saves saved (world.withJob id fun job => { job with status := .expired }) where
  ready := saves.ready
  row := fun other export' kept => by
    by_cases same : other = id
    · subst same
      rw [ExportWorld.withJob_self]
      rcases saves.row other export' kept with row | row <;>
      · rw [row]
        exact .inr rfl
    · rw [ExportWorld.withJob_of_ne same]
      exact saves.row other export' kept
  text := saves.text

theorem Saves.free (saves : Saves saved world) {status : ExportStatus}
    (found : world.statusOf id = some status) (unready : status ≠ .ready)
    (unexpired : status ≠ .expired) : saved id = none := by
  rcases kept : saved id with _ | export'
  · rfl
  · rcases saves.row id export' kept with row | row
    · rw [ExportWorld.statusOf, row, Option.map_some, saves.ready id export' kept] at found
      exact absurd (Option.some.inj found).symm unready
    · rw [ExportWorld.statusOf, row] at found
      exact absurd (Option.some.inj found).symm unexpired

theorem Saves.same (saves : Saves saved world)
    (jobs : ∀ id, saved id ≠ none → after.jobs id = world.jobs id)
    (files : ∀ id, saved id ≠ none → after.files id = world.files id) : Saves saved after where
  ready := saves.ready
  row := fun id export' kept => by
    rw [jobs id (by rw [kept]; exact Option.some_ne_none _)]
    exact saves.row id export' kept
  text := fun id export' kept => by
    rw [files id (by rw [kept]; exact Option.some_ne_none _)]
    exact saves.text id export' kept

theorem Saves.withJob (saves : Saves saved world) (free : saved id = none)
    (update : ExportJob → ExportJob) : Saves saved (world.withJob id update) :=
  saves.same (fun _ kept => ExportWorld.withJob_of_ne fun same => kept (same ▸ free))
    fun _ _ => rfl

theorem Saves.withFile (saves : Saves saved world) (free : saved id = none)
    (text : Option (List Char)) : Saves saved (world.withFile id text) :=
  saves.same (fun _ _ => rfl)
    fun _ kept => ExportWorld.withFile_of_ne fun same => kept (same ▸ free)

theorem Saves.withTask (saves : Saves saved world) (worker : Nat) (task : Option ExportTask) :
    Saves saved (world.withTask worker task) :=
  saves.same (fun _ _ => rfl) fun _ _ => rfl

theorem Saves.file (saves : Saves saved world) {text : List Char}
    (found : world.files id = some text) : (world.restored saved).files id = some text := by
  rcases kept : saved id with _ | export'
  · rw [ExportWorld.restored_files kept, found]
  · rcases saves.text id export' kept with gone | same
    · rw [found] at gone
      cases gone
    · simp only [ExportWorld.restored, kept, Option.elim_some, ← same, found]

theorem Saves.reads (saves : Saves saved world) {held : List Char}
    (found : (world.restored saved).files id = some held) :
    (world.files id).getD held = held := by
  rcases file : world.files id with _ | text
  · rfl
  · exact Option.some.inj ((saves.file file).symm.trans found)

theorem Saves.task (saves : Saves saved world) {worker : Nat} {task : ExportTask}
    {event : TaskEvent} (free : saved task.id = none)
    (stepped : world.taskStep setup worker task event = some after) :
    (world.restored saved).taskStep setup worker task event = some (after.restored saved) ∧
      Saves saved after := by
  cases event with
  | opened =>
      rw [ExportWorld.taskStep] at stepped ⊢
      split at stepped
      next => cases stepped
      next unopened =>
        cases stepped
        rw [if_neg unopened, ExportWorld.restored_withTask, ExportWorld.restored_withFile free]
        exact ⟨rfl, (saves.withFile free _).withTask worker _⟩
  | fetched order tables =>
      obtain ⟨guard, moved⟩ := Option.ite_none_right_eq_some.1 stepped
      cases moved
      exact ⟨if_pos guard, saves.withTask worker _⟩
  | flushed count =>
      obtain ⟨guard, moved⟩ := Option.ite_none_right_eq_some.1 stepped
      cases moved
      rw [ExportWorld.restored_withTask, ExportWorld.restored_withFile free,
        ← ExportWorld.restored_files free]
      exact ⟨if_pos guard, (saves.withFile free _).withTask worker _⟩
  | stopped =>
      obtain ⟨guard, moved⟩ := Option.ite_none_right_eq_some.1 stepped
      cases moved
      exact ⟨if_pos guard, saves.withTask worker _⟩
  | finalized =>
      obtain ⟨guard, moved⟩ := Option.ite_none_right_eq_some.1 stepped
      obtain ⟨text, found, rfl⟩ := Option.map_eq_some_iff.1 moved
      refine ⟨?_, (saves.withJob free _).withTask worker _⟩
      rw [ExportWorld.taskStep, if_pos guard, ExportWorld.restored_files free, found,
        ExportWorld.restored_withTask, ExportWorld.restored_withJob free]
      rfl
  | failed =>
      cases stepped
      rw [ExportWorld.restored_withTask, ExportWorld.restored_withJob free]
      exact ⟨rfl, (saves.withJob free _).withTask worker _⟩

theorem Saves.enqueues (saves : Saves saved world) {granularity : Granularity}
    {claims : SessionClaims} {screen : ReportFilters}
    (stepped : world.step setup (.enqueued id granularity claims screen) = some after) :
    (world.restored saved).step setup (.enqueued id granularity claims screen) =
        some (after.restored saved) ∧ Saves saved after := by
  obtain ⟨vacant, moved⟩ := Option.ite_none_right_eq_some.1 stepped
  cases moved
  have free : saved id = none := by
    rcases kept : saved id with _ | export'
    · rfl
    · rw [Option.isNone_iff_eq_none] at vacant
      rcases saves.row id export' kept with row | row <;>
      · rw [vacant] at row
        cases row
  refine ⟨?_, saves.same (fun other kept => ?_) fun _ _ => rfl⟩
  · rw [ExportWorld.step, ExportWorld.restored_jobs free, if_pos vacant]
    refine congrArg some ?_
    simp only [ExportWorld.restored]
    congr 1
    funext other
    by_cases same : other = id
    · subst same
      simp [free]
    · simp only [Function.update_of_ne same]
  · refine Function.update_of_ne (fun same => kept ?_) _ _
    rw [same, free]

theorem Saves.claims (saves : Saves saved world) {worker : Nat}
    (stepped : world.step setup (.claimed worker id) = some after) :
    (world.restored saved).step setup (.claimed worker id) = some (after.restored saved) ∧
      Saves saved after := by
  obtain ⟨job, found, stepped⟩ := Option.bind_eq_some_iff.1 stepped
  obtain ⟨guard, moved⟩ := Option.ite_none_right_eq_some.1 stepped
  cases moved
  have free : saved id = none := by
    refine saves.free (show world.statusOf id = some .queued from ?_) (by decide) (by decide)
    rw [ExportWorld.statusOf, found, Option.map_some, guard.1]
  refine ⟨?_, (saves.withJob free _).withTask worker _⟩
  rw [ExportWorld.step, ExportWorld.restored_jobs free, found, Option.bind_some,
    ExportWorld.restored_withTask, ExportWorld.restored_withJob free]
  exact if_pos guard

theorem Saves.works (saves : Saves saved world) {worker : Nat} {event : TaskEvent}
    (running : ∀ worker id, world.Processes worker id → world.statusOf id = some .running)
    (stepped : world.step setup (.task worker event) = some after) :
    (world.restored saved).step setup (.task worker event) = some (after.restored saved) ∧
      Saves saved after := by
  obtain ⟨task, inHand, stepped⟩ := Option.bind_eq_some_iff.1 stepped
  have free : saved task.id = none :=
    saves.free (running worker task.id ⟨task, inHand, rfl⟩) (by decide) (by decide)
  obtain ⟨same, kept⟩ := saves.task free stepped
  refine ⟨?_, kept⟩
  have restored : ((world.restored saved).workers worker).task = some task := inHand
  rw [ExportWorld.step, restored]
  exact same

theorem ExportJob.reaped_settled {job : ExportJob} {now : Nat}
    (settled : job.status = .ready ∨ job.status = .expired) : job.reaped setup now = job := by
  rw [ExportJob.reaped, if_neg]
  rintro ⟨running, _⟩
  rw [running] at settled
  rcases settled with same | same <;> cases same

theorem Saves.reaps (saves : Saves saved world) (stepped : world.step setup .reaped = some after) :
    (world.restored saved).step setup .reaped = some (after.restored saved) ∧
      Saves saved after := by
  cases stepped
  refine ⟨?_, saves.same (fun id kept => ?_) fun _ _ => rfl⟩
  · rw [ExportWorld.step]
    refine congrArg some ?_
    simp only [ExportWorld.restored]
    congr 1
    funext id
    rcases kept : saved id with _ | export'
    · rfl
    · simp only [Option.elim_some, Option.map_some,
        ExportJob.reaped_settled (.inl (saves.ready id _ kept))]
  · obtain ⟨export', kept⟩ := Option.ne_none_iff_exists'.1 kept
    show (world.jobs id).map (ExportJob.reaped setup world.now) = world.jobs id
    rcases saves.row id export' kept with row | row
    · rw [row, Option.map_some, ExportJob.reaped_settled (.inl (saves.ready id _ kept))]
    · rw [row, Option.map_some, ExportJob.reaped_settled (.inr rfl)]

/-- The workers do not see the difference. -/
theorem Saves.step (saves : Saves saved world) {event : ExportEvent}
    (running : ∀ worker id, world.Processes worker id → world.statusOf id = some .running)
    (attended : ∀ id, event ≠ .unlinked id ∧ event ≠ .expired id)
    (stepped : world.step setup event = some after) :
    (world.restored saved).step setup event = some (after.restored saved) ∧
      Saves saved after := by
  cases event with
  | enqueued id granularity claims screen => exact saves.enqueues stepped
  | claimed worker id => exact saves.claims stepped
  | task worker event => exact saves.works running stepped
  | reaped => exact saves.reaps stepped
  | unlinked id => exact absurd rfl (attended id).1
  | expired id => exact absurd rfl (attended id).2
  | crashed worker | signalled worker | elapsed micros =>
      cases stepped
      exact ⟨rfl, saves.same (fun _ _ => rfl) fun _ _ => rfl⟩

theorem RunSound.task_keeps_ready (sound : RunSound setup world) {worker : Nat} {event : TaskEvent}
    (stepped : world.step setup (.task worker event) = some after) {job : ExportJob}
    (found : world.jobs id = some job) (ready : job.status = .ready) :
    after.jobs id = some job ∧ after.files id = world.files id := by
  obtain ⟨task, inHand, stepped⟩ := Option.bind_eq_some_iff.1 stepped
  have apart : id ≠ task.id := by
    rintro rfl
    exact sound.not_ready inHand found ready
  cases event with
  | opened =>
      rw [ExportWorld.taskStep] at stepped
      split at stepped
      next => cases stepped
      next =>
        cases stepped
        exact ⟨found, ExportWorld.withFile_of_ne apart⟩
  | fetched order tables =>
      obtain ⟨_, moved⟩ := Option.ite_none_right_eq_some.1 stepped
      cases moved
      exact ⟨found, rfl⟩
  | flushed count =>
      obtain ⟨_, moved⟩ := Option.ite_none_right_eq_some.1 stepped
      cases moved
      exact ⟨found, ExportWorld.withFile_of_ne apart⟩
  | stopped =>
      obtain ⟨_, moved⟩ := Option.ite_none_right_eq_some.1 stepped
      cases moved
      exact ⟨found, rfl⟩
  | finalized =>
      obtain ⟨_, moved⟩ := Option.ite_none_right_eq_some.1 stepped
      obtain ⟨text, _, rfl⟩ := Option.map_eq_some_iff.1 moved
      exact ⟨(ExportWorld.withJob_of_ne apart).trans found, rfl⟩
  | failed =>
      cases stepped
      exact ⟨(ExportWorld.withJob_of_ne apart).trans found, rfl⟩

theorem RunSound.keeps_ready (sound : RunSound setup world) {event : ExportEvent}
    (careful : CarefulStep setup world event) (attended : ∀ id, event ≠ .expired id)
    (stepped : world.step setup event = some after) {job : ExportJob}
    (found : world.jobs id = some job) (ready : job.status = .ready) :
    after.jobs id = some job ∧ after.files id = world.files id := by
  cases event with
  | enqueued other granularity claims screen =>
      obtain ⟨vacant, moved⟩ := Option.ite_none_right_eq_some.1 stepped
      cases moved
      rw [Option.isNone_iff_eq_none] at vacant
      have apart : id ≠ other := by
        rintro rfl
        rw [found] at vacant
        cases vacant
      exact ⟨(Function.update_of_ne apart _ _).trans found, rfl⟩
  | claimed worker other =>
      obtain ⟨queued, queuedFound, stepped⟩ := Option.bind_eq_some_iff.1 stepped
      obtain ⟨guard, moved⟩ := Option.ite_none_right_eq_some.1 stepped
      cases moved
      have apart : id ≠ other := by
        rintro rfl
        obtain rfl := Option.some.inj (found.symm.trans queuedFound)
        rw [ready] at guard
        exact absurd guard.1 (by decide)
      exact ⟨(ExportWorld.withJob_of_ne apart).trans found, rfl⟩
  | task worker event => exact sound.task_keeps_ready stepped found ready
  | reaped =>
      cases stepped
      refine ⟨?_, rfl⟩
      show (world.jobs id).map (ExportJob.reaped setup world.now) = some job
      rw [found, Option.map_some, ExportJob.reaped_settled (.inl ready)]
  | unlinked other => exact careful.elim
  | expired other => exact absurd rfl (attended other)
  | crashed worker | signalled worker | elapsed micros =>
      cases stepped
      exact ⟨found, rfl⟩

end

section

variable {setup : ExportSetup} {world after : SweptWorld} {saved : SavedExports}

structure Restorable (setup : ExportSetup) (world : SweptWorld) (saved : SavedExports) : Prop where
  exclusive : Exclusive world
  saves : Saves saved world.toExportWorld
  sound : RunSound setup (world.restored saved)
  chosen : ∀ worker, ∀ id ∈ (world.sweeping worker).ids, saved id ≠ none

def KeepsReady (before after : ExportWorld) : Prop :=
  ∀ id job, before.jobs id = some job → job.status = .ready →
    after.jobs id = some job ∧ after.files id = before.files id

theorem SweptWorld.exports_step {event : ExportEvent}
    (stepped : world.step setup (.exports event) = some after) :
    (∀ id, event ≠ .unlinked id ∧ event ≠ .expired id) ∧
      world.toExportWorld.step setup event = some after.toExportWorld ∧
      ∀ worker, ∀ id ∈ (after.sweeping worker).ids, id ∈ (world.sweeping worker).ids := by
  cases event with
  | unlinked id => cases stepped
  | expired id => cases stepped
  | crashed worker =>
      simp only [SweptWorld.step, Option.map_eq_some_iff] at stepped
      obtain ⟨next, ran, rfl⟩ := stepped
      refine ⟨fun _ => by simp, ran, fun other id member => ?_⟩
      by_cases same : other = worker
      · subst same
        simp [noSweep] at member
      · simpa [Function.update_of_ne same] using member
  | enqueued | claimed | task | signalled | reaped | elapsed =>
      simp only [SweptWorld.step, Option.map_eq_some_iff] at stepped
      obtain ⟨next, ran, rfl⟩ := stepped
      exact ⟨fun _ => by simp, ran, fun _ _ member => member⟩

theorem Saves.careful {world : ExportWorld} (saves : Saves saved world) {event : ExportEvent}
    (careful : CarefulStep setup world event) : CarefulStep setup (world.restored saved) event := by
  cases event with
  | reaped =>
      intro id job found stale
      refine careful id job ?_ stale
      rcases kept : saved id with _ | export'
      · rwa [ExportWorld.restored_jobs kept] at found
      · simp only [ExportWorld.restored, kept, Option.elim_some] at found
        have running := stale.1
        rw [← Option.some.inj found, saves.ready id export' kept] at running
        cases running
  | task worker event => exact careful
  | unlinked id => exact careful
  | _ => trivial

theorem Restorable.exports (restorable : Restorable setup world saved) {event : ExportEvent}
    (careful : CarefulStep setup world.toExportWorld event)
    (stepped : world.step setup (.exports event) = some after) :
    Restorable setup after saved ∧ KeepsReady (world.restored saved) (after.restored saved) := by
  obtain ⟨attended, ran, sweeps⟩ := SweptWorld.exports_step stepped
  have reaps : ReapsTheDead setup world (.exports event) := by
    cases event with
    | reaped =>
        rintro id job found stale worker ⟨task, inHand, same⟩
        exact careful id job found stale worker task inHand same
    | _ => trivial
  obtain ⟨restored, saves⟩ := restorable.saves.step restorable.exclusive.running attended ran
  have careful := restorable.saves.careful careful
  refine ⟨⟨restorable.exclusive.step reaps stepped, saves,
    restorable.sound.step careful restored, ?_⟩, ?_⟩
  · exact fun worker id member => restorable.chosen worker id (sweeps worker id member)
  · exact fun id job => restorable.sound.keeps_ready careful (fun id => (attended id).2) restored

def SweptWorld.saving (world : SweptWorld) (saved : SavedExports) (ids : List Nat) :
    SavedExports := fun id =>
  match saved id with
  | some export' => some export'
  | none => if id ∈ ids then (world.jobs id).map fun job => ⟨job, world.files id⟩ else none

theorem restored_saving (saved : SavedExports) (ids : List Nat) :
    world.restored (world.saving saved ids) = world.restored saved := by
  simp only [ExportWorld.restored]
  congr 1
  · funext id
    rcases kept : saved id with _ | export'
    · simp only [SweptWorld.saving, kept]
      split
      · rcases found : world.jobs id with _ | job <;> rfl
      · rfl
    · simp only [SweptWorld.saving, kept]
  · funext id
    rcases kept : saved id with _ | export'
    · simp only [SweptWorld.saving, kept]
      split
      · rcases found : world.jobs id with _ | job <;> rfl
      · rfl
    · simp only [SweptWorld.saving, kept]

theorem Saves.selected (saves : Saves saved world.toExportWorld) {ids : List Nat}
    (overdue : ∀ id ∈ ids, ∃ job ∈ world.jobs id, job.Overdue setup world.now) :
    Saves (world.saving saved ids) world.toExportWorld ∧
      ∀ id ∈ ids, world.saving saved ids id ≠ none := by
  have cases : ∀ id export', world.saving saved ids id = some export' →
      saved id = some export' ∨ export'.job.status = .ready ∧
        world.jobs id = some export'.job ∧ world.files id = export'.text := by
    intro id export' kept
    rw [SweptWorld.saving] at kept
    split at kept
    next before found =>
      rw [← kept]
      exact .inl found
    next =>
      obtain ⟨chosen, kept⟩ := Option.ite_none_right_eq_some.1 kept
      obtain ⟨job, found, rfl⟩ := Option.map_eq_some_iff.1 kept
      obtain ⟨ready, present, isReady, _⟩ := overdue id chosen
      obtain rfl := Option.some.inj (found.symm.trans present)
      exact .inr ⟨isReady, found, rfl⟩
  refine ⟨⟨?_, ?_, ?_⟩, ?_⟩
  · intro id export' kept
    rcases cases id export' kept with before | ⟨ready, _⟩
    · exact saves.ready id export' before
    · exact ready
  · intro id export' kept
    rcases cases id export' kept with before | ⟨_, row, _⟩
    · exact saves.row id export' before
    · exact .inl row
  · intro id export' kept
    rcases cases id export' kept with before | ⟨_, _, text⟩
    · exact saves.text id export' before
    · exact .inr text
  · intro id chosen
    rw [SweptWorld.saving]
    split
    · exact Option.some_ne_none _
    · obtain ⟨job, present, _⟩ := overdue id chosen
      rw [if_pos chosen, Option.mem_def.1 present]
      exact Option.some_ne_none _

def CarefulSwept (setup : ExportSetup) (world : SweptWorld) : SweptEvent → Prop
  | .exports event => CarefulStep setup world.toExportWorld event
  | _ => True

section

variable (restorable : Restorable setup world saved)

include restorable

theorem Restorable.selects {worker : Nat} {ids : List Nat} (exclusive : Exclusive after)
    (stepped : world.step setup (.selected worker ids) = some after) :
    ∃ saved', Restorable setup after saved' ∧ after.restored saved' = world.restored saved := by
  obtain ⟨⟨_, overdue⟩, moved⟩ := Option.ite_none_right_eq_some.1 stepped
  cases moved
  obtain ⟨saves, all⟩ := restorable.saves.selected overdue
  have same := @restored_saving world saved ids
  refine ⟨world.saving saved ids, ⟨exclusive, saves, ?_, ?_⟩, same⟩
  · have sound := restorable.sound
    rwa [← same] at sound
  · intro other id member
    rcases sweeping_withSweep member with chosen | before
    · exact all id chosen
    · intro none
      refine restorable.chosen other id before ?_
      rw [SweptWorld.saving] at none
      split at none
      · cases none
      · assumption

theorem Restorable.unlinks {worker : Nat} (exclusive : Exclusive after)
    (stepped : world.step setup (.unlinked worker) = some after) :
    Restorable setup after saved ∧ after.restored saved = world.restored saved := by
  simp only [SweptWorld.step] at stepped
  split at stepped
  next id rest sweep =>
    cases stepped
    have kept := restorable.chosen worker id (by rw [sweep]; exact List.mem_cons_self)
    have same := @ExportWorld.restored_unlinked world.toExportWorld _ _ kept none
    refine ⟨⟨exclusive, restorable.saves.unlinked id, same ▸ restorable.sound, ?_⟩, same⟩
    intro other found member
    rcases sweeping_withSweep member with left | before
    · exact restorable.chosen worker found (by rw [sweep]; exact left)
    · exact restorable.chosen other found before
  next => cases stepped

theorem Restorable.expires {worker : Nat} (exclusive : Exclusive after)
    (stepped : world.step setup (.expired worker) = some after) :
    Restorable setup after saved ∧ after.restored saved = world.restored saved := by
  simp only [SweptWorld.step] at stepped
  split at stepped
  next id rest sweep =>
    cases stepped
    have kept := restorable.chosen worker id (by rw [sweep]; exact List.mem_cons_self)
    have same := @ExportWorld.restored_expired world.toExportWorld _ _ kept
      fun job => { job with status := .expired }
    refine ⟨⟨exclusive, restorable.saves.expired id, same ▸ restorable.sound, ?_⟩, same⟩
    intro other found member
    rcases sweeping_withSweep member with left | before
    · exact restorable.chosen worker found (by rw [sweep]; exact List.mem_cons_of_mem _ left)
    · exact restorable.chosen other found before
  next => cases stepped

theorem Restorable.skips {worker : Nat} (exclusive : Exclusive after)
    (stepped : world.step setup (.skipped worker) = some after) :
    Restorable setup after saved ∧ after.restored saved = world.restored saved := by
  simp only [SweptWorld.step] at stepped
  split at stepped
  next id rest sweep =>
    cases stepped
    refine ⟨⟨exclusive, restorable.saves, restorable.sound, ?_⟩, rfl⟩
    intro other found member
    rcases sweeping_withSweep member with left | before
    · exact restorable.chosen worker found (by rw [sweep]; exact List.mem_cons_of_mem _ left)
    · exact restorable.chosen other found before
  next => cases stepped

end

theorem Restorable.step (restorable : Restorable setup world saved) {event : SweptEvent}
    (careful : CarefulSwept setup world event) (stepped : world.step setup event = some after) :
    ∃ saved', Restorable setup after saved' ∧
      KeepsReady (world.restored saved) (after.restored saved') := by
  have exclusive : (∀ event', event ≠ .exports event') → Exclusive after := by
    intro other
    refine restorable.exclusive.step ?_ stepped
    cases event with
    | exports event => exact absurd rfl (other event)
    | _ => trivial
  have keeps : ∀ {before after : ExportWorld}, after = before → KeepsReady before after := by
    rintro before _ rfl
    exact fun id job found _ => ⟨found, rfl⟩
  cases event with
  | exports event =>
      obtain ⟨kept, same⟩ := restorable.exports careful stepped
      exact ⟨saved, kept, same⟩
  | selected worker ids =>
      obtain ⟨saved', kept, same⟩ :=
        restorable.selects (exclusive fun _ same => by cases same) stepped
      exact ⟨saved', kept, keeps same⟩
  | unlinked worker =>
      obtain ⟨kept, same⟩ := restorable.unlinks (exclusive fun _ same => by cases same) stepped
      exact ⟨saved, kept, keeps same⟩
  | expired worker =>
      obtain ⟨kept, same⟩ := restorable.expires (exclusive fun _ same => by cases same) stepped
      exact ⟨saved, kept, keeps same⟩
  | skipped worker =>
      obtain ⟨kept, same⟩ := restorable.skips (exclusive fun _ same => by cases same) stepped
      exact ⟨saved, kept, keeps same⟩

end

/-! What a request is given. -/

structure Download.Owns (kept : ExportWorld) (download : Download) (row : ExportJob) : Prop where
  present : kept.jobs (exportId download.idStr) = some row
  ready : row.status = .ready
  own : ∃ claims, download.session = some claims ∧ row.claims.sub = claims.sub

def Download.Sound (kept : ExportWorld) (download : Download) : Prop :=
  let file := kept.files (exportId download.idStr)
  match download.phase with
  | .found row => download.Owns kept row
  | .measured row size => download.Owns kept row ∧ ∃ text, file = some text ∧ size = byteSize text
  | .streaming row size held sent =>
      download.Owns kept row ∧ file = some held ∧ size = byteSize held ∧ sent <+: held
  | .answered (.served size body) =>
      ∃ row, download.Owns kept row ∧ file = some body ∧ size = byteSize body
  | .answered _ => True

section

variable {setup : ExportSetup} {before later : ExportWorld} {download : Download}

theorem Download.Sound.kept (sound : download.Sound before) (keeps : KeepsReady before later) :
    download.Sound later := by
  have owns : ∀ {row : ExportJob}, download.Owns before row →
      download.Owns later row ∧ later.files (exportId download.idStr) =
        before.files (exportId download.idStr) := by
    rintro row ⟨present, ready, own⟩
    obtain ⟨still, same⟩ := keeps _ row present ready
    exact ⟨⟨still, ready, own⟩, same⟩
  rw [Download.Sound] at sound ⊢
  cases phase : download.phase with
  | found row =>
      rw [phase] at sound
      exact (owns sound).1
  | measured row size =>
      rw [phase] at sound
      obtain ⟨mine, text, found, counted⟩ := sound
      exact ⟨(owns mine).1, text, (owns mine).2.trans found, counted⟩
  | streaming row size held sent =>
      rw [phase] at sound
      obtain ⟨mine, found, rest⟩ := sound
      exact ⟨(owns mine).1, (owns mine).2.trans found, rest⟩
  | answered answer =>
      rw [phase] at sound
      cases answer with
      | served size body =>
          obtain ⟨row, mine, found, counted⟩ := sound
          exact ⟨row, (owns mine).1, (owns mine).2.trans found, counted⟩
      | _ => trivial

theorem beginDownload_sound {world : ExportWorld} {saved : SavedExports}
    (saves : Saves saved world) (session : Option SessionClaims) (idStr : String) :
    Download.Sound (world.restored saved)
      { session, idStr, phase := beginDownload world session idStr } := by
  rw [beginDownload.eq_def]
  split
  · trivial
  next claims =>
    split
    · trivial
    next id parsed =>
      split
      · trivial
      · split
        · trivial
        next row found =>
          split
          next ready =>
            rw [getExportForUser] at found
            obtain ⟨_, found⟩ := Option.ite_none_left_eq_some.1 found
            obtain ⟨present, own⟩ := Option.filter_eq_some_iff.1 found
            have named : exportId idStr = id.toNat := by
              rw [exportId, parsed, Option.getD_some]
            refine ⟨?_, ready, claims, rfl, of_decide_eq_true own⟩
            rcases put : saved (exportId idStr) with _ | export'
            · rw [ExportWorld.restored_jobs put, named]
              exact present
            · simp only [ExportWorld.restored, put, Option.elim_some]
              rcases saves.row _ export' put with same | expired
              · rw [named, present] at same
                exact same.symm
              · rw [named, present] at expired
                rw [Option.some.inj expired] at ready
                cases ready
          next => trivial

end

section

variable {setup : ExportSetup} {world after : DownloadWorld} {saved : SavedExports}

structure DownloadWorld.Sound (setup : ExportSetup) (world : DownloadWorld)
    (saved : SavedExports) : Prop where
  restorable : Restorable setup world.toSweptWorld saved
  downloads : ∀ request download, world.downloads request = some download →
    download.Sound (world.restored saved)

theorem DownloadWorld.Sound.start (initial : (downloadRuns setup).initial world) :
    ∃ saved, world.Sound setup saved := by
  obtain ⟨calm, ready, unasked⟩ := initial
  have idle : ∀ worker task, (world.workers worker).task ≠ some task := by
    intro worker task running
    rw [calm.1 worker] at running
    cases running
  have sound : RunSound setup world.toExportWorld :=
    ⟨ready, fun worker task running => absurd running (idle worker task),
      fun first _ task _ running => absurd running (idle first task)⟩
  refine ⟨fun _ => none, ⟨exclusive_of_reachable (.start calm), ?_, sound, ?_⟩, ?_⟩
  · constructor <;>
    · intro id export' none
      cases none
  · intro worker id member
    rw [calm.2 worker] at member
    cases member
  · intro request download present
    rw [unasked request] at present
    cases present

theorem DownloadWorld.Sound.goes (sound : world.Sound setup saved) {request : Nat}
    {download : Download} {phase : DownloadPhase}
    (holds : Download.Sound (world.restored saved) { download with phase }) :
    (world.inPhase request download phase).Sound setup saved := by
  refine ⟨sound.restorable, fun other found present => ?_⟩
  by_cases same : other = request
  · subst same
    simp only [DownloadWorld.inPhase, Function.update_self, Option.some.injEq] at present
    exact present ▸ holds
  · simp only [DownloadWorld.inPhase, Function.update_of_ne same] at present
    exact sound.downloads other found present

theorem DownloadWorld.Sound.requests (sound : world.Sound setup saved) {request : Nat}
    {session : Option SessionClaims} {idStr : String}
    (stepped : world.step setup (.requested request session idStr) = some after) :
    after.Sound setup saved := by
  obtain ⟨_, moved⟩ := Option.ite_none_right_eq_some.1 stepped
  cases moved
  refine ⟨sound.restorable, fun other found present => ?_⟩
  by_cases same : other = request
  · subst same
    simp only [Function.update_self, Option.some.injEq] at present
    exact present ▸ beginDownload_sound sound.restorable.saves session idStr
  · simp only [Function.update_of_ne same] at present
    exact sound.downloads other found present

theorem DownloadWorld.Sound.measures (sound : world.Sound setup saved) {request : Nat}
    (stepped : world.step setup (.measured request) = some after) : after.Sound setup saved := by
  obtain ⟨download, present, stepped⟩ := Option.bind_eq_some_iff.1 stepped
  have holds := sound.downloads request download present
  split at stepped
  next row phase =>
    cases stepped
    rw [Download.Sound, phase] at holds
    refine sound.goes ?_
    rcases file : world.files (exportId download.idStr) with _ | text
    · trivial
    · exact ⟨⟨holds.present, holds.ready, holds.own⟩, text,
        sound.restorable.saves.file file, rfl⟩
  · cases stepped

theorem DownloadWorld.Sound.opens (sound : world.Sound setup saved) {request : Nat}
    (stepped : world.step setup (.opened request) = some after) : after.Sound setup saved := by
  obtain ⟨download, present, stepped⟩ := Option.bind_eq_some_iff.1 stepped
  have holds := sound.downloads request download present
  split at stepped
  next row size phase =>
    cases stepped
    rw [Download.Sound, phase] at holds
    obtain ⟨⟨mine, ready, own⟩, measured, found, counted⟩ := holds
    refine sound.goes ?_
    rcases file : world.files (exportId download.idStr) with _ | text
    · trivial
    · have same := sound.restorable.saves.file file
      obtain rfl := Option.some.inj (found.symm.trans same)
      exact ⟨⟨mine, ready, own⟩, found, counted, List.nil_prefix⟩
  · cases stepped

theorem DownloadWorld.Sound.reads (sound : world.Sound setup saved) {request count : Nat}
    (stepped : world.step setup (.read request count) = some after) :
    after.Sound setup saved := by
  obtain ⟨download, present, stepped⟩ := Option.bind_eq_some_iff.1 stepped
  have holds := sound.downloads request download present
  split at stepped
  next row size held sent phase =>
    cases stepped
    rw [Download.Sound, phase] at holds
    obtain ⟨⟨mine, ready, own⟩, found, counted, sentSoFar⟩ := holds
    refine sound.goes ⟨⟨mine, ready, own⟩, found, counted, ?_⟩
    rw [sound.restorable.saves.reads found]
    obtain ⟨rest, rfl⟩ := sentSoFar
    rw [List.drop_left]
    exact List.prefix_append_right_inj sent |>.2 (List.take_prefix count rest)
  · cases stepped

theorem DownloadWorld.Sound.closes (sound : world.Sound setup saved) {request : Nat}
    (stepped : world.step setup (.closed request) = some after) : after.Sound setup saved := by
  obtain ⟨download, present, stepped⟩ := Option.bind_eq_some_iff.1 stepped
  have holds := sound.downloads request download present
  split at stepped
  next row size held sent phase =>
    obtain ⟨whole, moved⟩ := Option.ite_none_right_eq_some.1 stepped
    cases moved
    rw [Download.Sound, phase] at holds
    obtain ⟨⟨mine, ready, own⟩, found, counted, sentSoFar⟩ := holds
    rw [sound.restorable.saves.reads found] at whole
    obtain rfl := sentSoFar.eq_of_length_le whole
    exact sound.goes ⟨row, ⟨mine, ready, own⟩, found, counted⟩
  · cases stepped

theorem DownloadWorld.Sound.step (sound : world.Sound setup saved) {event : DownloadEvent}
    (careful : CarefulDownload setup world event) (stepped : world.step setup event = some after) :
    ∃ saved', after.Sound setup saved' := by
  cases event with
  | exports event =>
      obtain ⟨next, moved, rfl⟩ := Option.map_eq_some_iff.1 stepped
      have swept : CarefulSwept setup world.toSweptWorld event := by
        cases event with
        | exports event => exact careful
        | _ => trivial
      obtain ⟨saved', restorable, keeps⟩ := sound.restorable.step swept moved
      exact ⟨saved', restorable, fun request download present =>
        (sound.downloads request download present).kept keeps⟩
  | requested request session idStr => exact ⟨saved, sound.requests stepped⟩
  | measured request => exact ⟨saved, sound.measures stepped⟩
  | opened request => exact ⟨saved, sound.opens stepped⟩
  | read request count => exact ⟨saved, sound.reads stepped⟩
  | closed request => exact ⟨saved, sound.closes stepped⟩
  | broke request =>
      obtain ⟨download, present, rfl⟩ := Option.map_eq_some_iff.1 stepped
      split
      · exact ⟨saved, sound⟩
      · exact ⟨saved, sound.goes trivial⟩

end

def DownloadPhase.body : DownloadPhase → Option (Nat × List Char)
  | .answered (.served contentLength body) => some (contentLength, body)
  | _ => none

theorem served_of_body {phase : DownloadPhase} {contentLength : Nat} {body : List Char}
    (whole : phase.body = some (contentLength, body)) :
    phase = .answered (.served contentLength body) := by
  rw [DownloadPhase.body.eq_def] at whole
  split at whole
  · obtain ⟨rfl, rfl⟩ := Prod.mk.inj (Option.some.inj whole)
    rfl
  · cases whole

def Unreaped (setup : ExportSetup) (world : DownloadWorld) : DownloadEvent → Prop
  | .exports (.exports (.task worker event)) =>
      ∀ task ∈ (world.workers worker).task, CarefulTask setup task event
  | .exports (.exports .reaped) | .exports (.exports (.unlinked _)) => False
  | _ => True

instance (setup : ExportSetup) (task : ExportTask) :
    (event : TaskEvent) → Decidable (CarefulTask setup task event)
  | .fetched order _ => inferInstanceAs (Decidable (0 < setup.chunk ∧
      task.lines.map ExportLine.subject = order.take task.offset))
  | .stopped => inferInstanceAs (Decidable ((task.job.rows setup).length ≤ task.offset))
  | .opened | .flushed _ | .finalized | .failed => isTrue trivial

instance (setup : ExportSetup) (world : DownloadWorld) (event : DownloadEvent) :
    Decidable (Unreaped setup world event) := by
  unfold Unreaped
  split <;> infer_instance

theorem careful_of_unreaped {setup : ExportSetup} (world : DownloadWorld) (event : DownloadEvent)
    (unreaped : Unreaped setup world event) : CarefulDownload setup world event := by
  cases event with
  | exports event =>
      cases event with
      | exports event =>
          cases event with
          | task worker event => exact fun task running => unreaped task running
          | reaped => exact unreaped.elim
          | unlinked id => exact unreaped.elim
          | _ => trivial
      | _ => trivial
  | _ => trivial

def idleDownloads : DownloadWorld where
  toExportWorld := idleWorkers
  sweeping _ := noSweep
  downloads _ := none

def sweptAway : List DownloadEvent :=
  finishedRun.map (fun event => .exports (.exports event)) ++
    [.requested 1 (some openClaims) "1", .measured 1, .opened 1, .read 1 100,
      .exports (.exports (.elapsed 43200000001)), .exports (.selected 7 [1]),
      .exports (.unlinked 7), .exports (.expired 7), .read 1 200, .closed 1]

def servedWorld : DownloadWorld :=
  ((downloadRuns twoLegs).run idleDownloads sweptAway).getD idleDownloads

end UssdGateway
