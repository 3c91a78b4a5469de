import Mathlib.Data.Finset.Sort
import Mathlib.Data.List.Lex
import Mathlib.Logic.Function.Basic
import UssdGateway.Gateway.Text
import UssdGateway.Library.RowLocks
import UssdGateway.Library.Transition

/-!
The schema migrations that every container applies before it starts, many containers at once over
one database.
-/

namespace UssdGateway

/-- `sorted(f for f in os.listdir(mdir) if f.endswith(".sql"))`. -/
def migrationFiles (names : Finset Str) : List Str :=
  (names.filter fun name => lit ".sql" <:+ name).sort

def migrationLockKey : Int := 4815162342

def pendingFiles (files applied : List Str) : List Str := files.filter fun file => file ∉ applied

inductive DbInitPhase where
  | absent
  | creatingTable
  | checking
  | locking
  | rechecking
  | executing (file : Str) (rest : List Str)
  | recording (file : Str) (rest : List Str)
  | unlocking
  | closing
  | closed
deriving DecidableEq

/-- A connection may outlive its container, for as long as the statement runs. -/
structure DbInitConnection where
  alive : Bool
  phase : DbInitPhase

/-- `schema_migrations`, the advisory locks, and the connections of all containers. -/
structure DbInitWorld (ι : Type) where
  recorded : List Str
  locks : LockTable Int ι
  connections : ι → DbInitConnection

inductive DbInitEvent where
  | started
  | completed
  | failed
  | crashed
  | dropped

namespace DbInitPhase

def loop : List Str → DbInitPhase
  | [] => unlocking
  | file :: rest => executing file rest

def next (files recorded : List Str) : DbInitPhase → DbInitPhase
  | creatingTable => checking
  | checking => if pendingFiles files recorded = [] then closing else locking
  | locking => rechecking
  | rechecking => loop (pendingFiles files recorded)
  | executing file rest => recording file rest
  | recording _ rest => loop rest
  | unlocking => closing
  | phase => phase

/-- Where an exception leads: to the unlock from inside its `try`, else to the end. -/
def handler : DbInitPhase → DbInitPhase
  | rechecking | executing _ _ | recording _ _ => unlocking
  | _ => closing

def busy : DbInitPhase → Bool
  | absent | closing | closed => false
  | _ => true

end DbInitPhase

namespace DbInitWorld

variable {ι : Type} [DecidableEq ι] (files : List Str) (world : DbInitWorld ι) (container : ι)

def withPhase (phase : DbInitPhase) : DbInitWorld ι :=
  { world with
    connections := Function.update world.connections container
      { world.connections container with phase } }

/-- What a statement does to the database. None where it has to wait. -/
def performed : DbInitPhase → Option (DbInitWorld ι)
  | .locking =>
      (world.locks.acquire container migrationLockKey).map fun locks => { world with locks }
  | .recording file _ =>
      some { world with
        recorded := if file ∈ world.recorded then world.recorded else world.recorded ++ [file] }
  | .unlocking => some { world with locks := world.locks.releaseAll container }
  | _ => some world

def step : ι × DbInitEvent → Option (DbInitWorld ι)
  | (container, .started) =>
      if files ≠ [] ∧ (world.connections container).phase = .absent then
        some { world with
          connections := Function.update world.connections container
            { alive := true, phase := .creatingTable } }
      else none
  | (container, .completed) =>
      let connection := world.connections container
      if connection.phase.busy then
        (world.performed container connection.phase).map fun after =>
          after.withPhase container
            (if connection.alive then connection.phase.next files world.recorded else .closing)
      else none
  | (container, .failed) =>
      let connection := world.connections container
      if connection.phase.busy then
        some (world.withPhase container
          (if connection.alive then connection.phase.handler else .closing))
      else none
  | (container, .crashed) =>
      some { world with
        connections := Function.update world.connections container
          { world.connections container with alive := false } }
  | (container, .dropped) =>
      if (world.connections container).phase = .absent then none
      else some ({ world with locks := world.locks.releaseAll container }.withPhase container
        .closed)

def Executes (file : Str) : Prop :=
  ∃ rest, (world.connections container).phase = .executing file rest

end DbInitWorld

def dbInitRuns (ι : Type) [DecidableEq ι] (files : List Str) :
    StepSystem (DbInitWorld ι) (ι × DbInitEvent) where
  initial world := world.recorded <+: files ∧ world.locks = LockTable.free ∧
    ∀ container, (world.connections container).phase = .absent
  step := DbInitWorld.step files

/-! What every step keeps. -/

def DbInitPhase.guarded : DbInitPhase → Bool
  | rechecking | executing _ _ | recording _ _ | unlocking => true
  | _ => false

def DbInitPhase.At (phase : DbInitPhase) (file : Str) (rest : List Str) : Prop :=
  phase = executing file rest ∨ phase = recording file rest

theorem DbInitPhase.At.guarded {phase : DbInitPhase} {file : Str} {rest : List Str}
    (here : phase.At file rest) : phase.guarded = true := by
  rcases here with rfl | rfl <;> rfl

theorem DbInitPhase.at_loop {pending rest : List Str} {file : Str}
    (here : (loop pending).At file rest) : pending = file :: rest := by
  rcases pending with _ | ⟨first, others⟩
  · rcases here with same | same <;> cases same
  · rcases here with same | same
    · cases same
      rfl
    · cases same

theorem recorded_append_pending {files recorded : List Str} (distinct : files.Nodup)
    (first : recorded <+: files) : recorded ++ pendingFiles files recorded = files := by
  obtain ⟨rest, rfl⟩ := first
  have apart := List.disjoint_of_nodup_append distinct
  congr 1
  rw [pendingFiles, List.filter_append]
  have none : recorded.filter (fun file => file ∉ recorded) = [] := by
    simp [List.filter_eq_nil_iff]
  have all : rest.filter (fun file => file ∉ recorded) = rest := by
    rw [List.filter_eq_self]
    intro file member
    simpa using fun before => apart before member
  rw [none, all, List.nil_append]

namespace DbInitWorld

variable {ι : Type} {files : List Str} {world after : DbInitWorld ι}

/-- Whoever is past the lock holds it, and the loop stands where the record ends. -/
structure Serial (files : List Str) (world : DbInitWorld ι) : Prop where
  recorded : world.recorded <+: files
  guarded : ∀ container, (world.connections container).phase.guarded = true →
    world.locks.Holds container migrationLockKey
  loops : ∀ container file rest, (world.connections container).phase.At file rest →
    world.recorded ++ file :: rest = files

theorem Serial.alone (serial : world.Serial files) {first second : ι}
    (firstIn : (world.connections first).phase.guarded = true)
    (secondIn : (world.connections second).phase.guarded = true) : first = second :=
  (serial.guarded first firstIn).unique (serial.guarded second secondIn)

theorem Serial.of_phases (serial : world.Serial files) (recorded : after.recorded = world.recorded)
    (locks : after.locks = world.locks)
    (phases : ∀ container, (after.connections container).phase =
      (world.connections container).phase) : after.Serial files where
  recorded := by rw [recorded]; exact serial.recorded
  guarded := by
    intro container inside
    rw [phases] at inside
    rw [locks]
    exact serial.guarded container inside
  loops := by
    intro container file rest here
    rw [phases] at here
    rw [recorded]
    exact serial.loops container file rest here

variable [DecidableEq ι]

theorem withPhase_phase (container : ι) (phase : DbInitPhase) :
    ((world.withPhase container phase).connections container).phase = phase := by
  simp [withPhase]

theorem withPhase_of_ne {container other : ι} (apart : other ≠ container)
    (phase : DbInitPhase) :
    (world.withPhase container phase).connections other = world.connections other := by
  simp [withPhase, apart]

theorem Serial.moved (serial : world.Serial files) (container : ι)
    (recorded : after.recorded = world.recorded)
    (others : ∀ other, other ≠ container →
      (after.connections other).phase = (world.connections other).phase)
    (held : ∀ other, other ≠ container → world.locks.Holds other migrationLockKey →
      after.locks.Holds other migrationLockKey)
    (guarded : (after.connections container).phase.guarded = true →
      after.locks.Holds container migrationLockKey)
    (loops : ∀ file rest, (after.connections container).phase.At file rest →
      world.recorded ++ file :: rest = files) : after.Serial files where
  recorded := by rw [recorded]; exact serial.recorded
  guarded := by
    intro other inside
    by_cases same : other = container
    · subst same
      exact guarded inside
    · rw [others other same] at inside
      exact held other same (serial.guarded other inside)
  loops := by
    intro other file rest here
    rw [recorded]
    by_cases same : other = container
    · subst same
      exact loops file rest here
    · rw [others other same] at here
      exact serial.loops other file rest here

theorem Serial.left (serial : world.Serial files) (container : ι) {locks : LockTable Int ι}
    (held : ∀ other, other ≠ container → world.locks.Holds other migrationLockKey →
      locks.Holds other migrationLockKey) {phase : DbInitPhase} (outside : phase.guarded = false) :
    ({ world with locks }.withPhase container phase).Serial files := by
  refine serial.moved container rfl (fun other apart => ?_) held (fun inside => ?_)
    fun file rest here => ?_
  · rw [withPhase_of_ne apart]
  · rw [withPhase_phase, outside] at inside
    cases inside
  · rw [withPhase_phase] at here
    rw [here.guarded] at outside
    cases outside

theorem Serial.stayed (serial : world.Serial files) {container : ι} {phase : DbInitPhase}
    (inside : (world.connections container).phase.guarded = true)
    (loops : ∀ file rest, phase.At file rest → world.recorded ++ file :: rest = files) :
    (world.withPhase container phase).Serial files := by
  refine serial.moved container rfl (fun other apart => ?_) (fun _ _ holds => holds)
    (fun _ => serial.guarded container inside) fun file rest here => ?_
  · rw [withPhase_of_ne apart]
  · rw [withPhase_phase] at here
    exact loops file rest here

theorem Serial.noted (distinct : files.Nodup) (serial : world.Serial files) {container : ι}
    {file : Str} {rest : List Str}
    (here : (world.connections container).phase = .recording file rest) {phase : DbInitPhase}
    (next : phase = .loop rest ∨ phase = .closing) :
    ({ world with
        recorded := if file ∈ world.recorded then world.recorded
          else world.recorded ++ [file] }.withPhase container phase).Serial files := by
  have whole := serial.loops container file rest (Or.inr here)
  have inside : (world.connections container).phase.guarded = true := by rw [here]; rfl
  have fresh : file ∉ world.recorded := by
    intro member
    rw [← whole] at distinct
    exact List.disjoint_of_nodup_append distinct member List.mem_cons_self
  rw [if_neg fresh]
  rw [List.append_cons] at whole
  refine ⟨⟨rest, whole⟩, fun other guarded => ?_, fun other head tail at_ => ?_⟩
  · by_cases same : other = container
    · rw [same]
      exact serial.guarded container inside
    · rw [withPhase_of_ne same] at guarded
      exact serial.guarded other guarded
  · by_cases same : other = container
    · rw [same, withPhase_phase] at at_
      rcases next with rfl | rfl
      · rw [DbInitPhase.at_loop at_] at whole
        exact whole
      · exact nomatch at_.guarded
    · rw [withPhase_of_ne same] at at_
      exact absurd (serial.alone at_.guarded inside) same

theorem Serial.completed (distinct : files.Nodup) (serial : world.Serial files) {container : ι}
    {alive : Bool} {phase : DbInitPhase} (here : (world.connections container).phase = phase)
    (performed : world.performed container phase = some after) :
    (after.withPhase container
      (if alive then phase.next files world.recorded else .closing)).Serial files := by
  have outside : ∀ place : DbInitPhase, place.guarded = false →
      (world.withPhase container (if alive then place else .closing)).Serial files := by
    intro place free
    refine serial.left container (fun _ _ holds => holds) ?_
    cases alive
    · rfl
    · exact free
  have within : phase.guarded = true → ∀ place : DbInitPhase,
      (∀ file rest, place.At file rest → world.recorded ++ file :: rest = files) →
      (world.withPhase container (if alive then place else .closing)).Serial files := by
    intro inside place loops
    refine serial.stayed (by rw [here]; exact inside) fun file rest at_ => ?_
    cases alive
    · exact nomatch at_.guarded
    · exact loops file rest at_
  cases phase with
  | locking =>
      obtain ⟨locks, acquired, rfl⟩ := Option.map_eq_some_iff.1 performed
      have others : ∀ other, other ≠ container → world.locks.Holds other migrationLockKey →
          locks.Holds other migrationLockKey := fun _ _ holds => holds.acquire acquired
      cases alive
      · exact serial.left container others rfl
      · refine serial.moved container rfl (fun other apart => ?_) others
          (fun _ => LockTable.holds_of_acquire acquired) fun file rest at_ => ?_
        · rw [withPhase_of_ne apart]
        · rw [withPhase_phase] at at_
          rcases at_ with same | same <;> cases same
  | unlocking =>
      cases performed
      have others : ∀ other, other ≠ container → world.locks.Holds other migrationLockKey →
          (world.locks.releaseAll container).Holds other migrationLockKey :=
        fun _ apart holds => holds.releaseAll apart
      cases alive <;> exact serial.left container others rfl
  | recording file rest =>
      cases performed
      refine serial.noted distinct here ?_
      cases alive
      · exact Or.inr rfl
      · exact Or.inl rfl
  | rechecking =>
      cases performed
      refine within rfl _ fun file rest at_ => ?_
      rw [← DbInitPhase.at_loop at_]
      exact recorded_append_pending distinct serial.recorded
  | executing file rest =>
      cases performed
      refine within rfl _ fun head tail at_ => ?_
      rcases at_ with same | same
      · cases same
      · cases same
        exact serial.loops container file rest (Or.inl here)
  | checking =>
      cases performed
      refine outside _ ?_
      rw [DbInitPhase.next]
      split <;> rfl
  | absent | creatingTable | closing | closed =>
      cases performed
      exact outside _ rfl

theorem Serial.failed (serial : world.Serial files) (container : ι) :
    (world.withPhase container (world.connections container).phase.handler).Serial files := by
  cases here : (world.connections container).phase with
  | rechecking | executing | recording =>
      refine serial.stayed (by rw [here]; rfl) fun file rest at_ => ?_
      rcases at_ with same | same <;> cases same
  | _ => exact serial.left container (fun _ _ holds => holds) rfl

theorem Serial.step (distinct : files.Nodup) (serial : world.Serial files)
    {event : ι × DbInitEvent} (stepped : world.step files event = some after) :
    after.Serial files := by
  obtain ⟨container, event⟩ := event
  cases event with
  | started =>
      simp only [DbInitWorld.step] at stepped
      split at stepped
      · cases stepped
        have connected := serial.left container (fun _ _ holds => holds)
          (@rfl _ DbInitPhase.creatingTable.guarded)
        refine connected.of_phases rfl rfl fun other => ?_
        by_cases same : other = container
        · subst same
          simp [withPhase]
        · simp [withPhase, same]
      · cases stepped
  | completed =>
      simp only [DbInitWorld.step] at stepped
      split at stepped
      · obtain ⟨performed, done, rfl⟩ := Option.map_eq_some_iff.1 stepped
        exact serial.completed distinct rfl done
      · cases stepped
  | failed =>
      simp only [DbInitWorld.step] at stepped
      split at stepped
      · cases stepped
        split
        · exact serial.failed container
        · exact serial.left container (fun _ _ holds => holds) rfl
      · cases stepped
  | crashed =>
      cases stepped
      refine serial.of_phases rfl rfl fun other => ?_
      by_cases same : other = container
      · subst same
        simp
      · simp [same]
  | dropped =>
      simp only [DbInitWorld.step] at stepped
      split at stepped
      · cases stepped
      · cases stepped
        exact serial.left container (fun _ apart holds => holds.releaseAll apart) rfl

theorem Serial.of_reachable (distinct : files.Nodup)
    (reached : (dbInitRuns ι files).Reachable world) : world.Serial files := by
  refine reached.invariant ?_ fun _ _ _ serial stepped => serial.step distinct stepped
  rintro start ⟨recorded, _, absent⟩
  refine ⟨recorded, fun container inside => ?_, fun container file rest here => ?_⟩
  · rw [absent] at inside
    cases inside
  · rw [absent] at here
    exact nomatch here.guarded

end DbInitWorld

theorem sortedLT_migrationFiles (names : Finset Str) : (migrationFiles names).SortedLT :=
  Finset.sortedLT_sort _

/-- One container at most is at a file, a file is executed behind all earlier ones and never once
it is recorded, and what is recorded are the first of the files. -/
theorem migrations_serialised {ι : Type} [DecidableEq ι] {names : Finset Str}
    {world : DbInitWorld ι} (reached : (dbInitRuns ι (migrationFiles names)).Reachable world) :
    (∀ first second file other, world.Executes first file → world.Executes second other →
      first = second) ∧
    (∀ container file, world.Executes container file → file ∉ world.recorded ∧
      ∀ earlier ∈ migrationFiles names, earlier < file → earlier ∈ world.recorded) ∧
    world.recorded <+: migrationFiles names := by
  have sorted := sortedLT_migrationFiles names
  have serial := DbInitWorld.Serial.of_reachable sorted.nodup reached
  refine ⟨?_, ?_, serial.recorded⟩
  · rintro first second file other ⟨rest, firstAt⟩ ⟨others, secondAt⟩
    exact serial.alone (by rw [firstAt]; rfl) (by rw [secondAt]; rfl)
  · rintro container file ⟨rest, here⟩
    have whole := serial.loops container file rest (Or.inl here)
    have order := sorted.pairwise
    rw [← whole, List.pairwise_append, List.pairwise_cons] at order
    obtain ⟨_, ⟨later, _⟩, across⟩ := order
    refine ⟨fun member => absurd (across file member file List.mem_cons_self) (lt_irrefl file), ?_⟩
    intro earlier member before
    rw [← whole, List.mem_append, List.mem_cons] at member
    rcases member with recorded | rfl | behind
    · exact recorded
    · exact absurd before (lt_irrefl earlier)
    · exact absurd before (lt_asymm (later earlier behind))

def firstMigration : Str := lit "001_init.sql"

theorem migrationFiles_one : migrationFiles {firstMigration} = [firstMigration] := by
  rw [migrationFiles, Finset.filter_singleton, if_pos (by decide), Finset.sort_singleton]

def freshDatabase : DbInitWorld Nat where
  recorded := []
  locks := LockTable.free
  connections _ := { alive := false, phase := .absent }

def bothStarted : List (Nat × DbInitEvent) :=
  [(0, .started), (1, .started), (0, .completed), (1, .completed), (0, .completed),
    (1, .completed), (1, .completed), (1, .completed)]

theorem one_migrates :
    ∃ world, (dbInitRuns Nat [firstMigration]).run freshDatabase bothStarted = some world ∧
      (world.connections 0).phase = .locking ∧ world.Executes 1 firstMigration ∧
      firstMigration ∉ world.recorded ∧
      ∀ container other, world.Executes container other → container = 1 := by
  have reached : (dbInitRuns Nat [firstMigration]).Reachable freshDatabase :=
    .start ⟨List.nil_prefix, rfl, fun _ => rfl⟩
  obtain ⟨world, ran, waiting, here⟩ :
      ∃ world, (dbInitRuns Nat [firstMigration]).run freshDatabase bothStarted = some world ∧
        (world.connections 0).phase = .locking ∧ world.Executes 1 firstMigration :=
    ⟨_, rfl, rfl, [], rfl⟩
  have later := reached.run ran
  rw [← migrationFiles_one] at later
  obtain ⟨alone, unrecorded, _⟩ := migrations_serialised later
  exact ⟨world, ran, waiting, here, (unrecorded 1 firstMigration here).1,
    fun container other executes => alone container 1 other firstMigration executes here⟩

end UssdGateway
