import UssdGateway.Library.Transition
import UssdGateway.Reports.Legs
import Mathlib.Logic.Function.Basic

/-!
The log writer: each worker puts its finished legs on a bounded queue, which a thread of the worker
drains in batches. A row gets its id and its time from the database, when it is inserted.
-/

namespace UssdGateway

structure WriterConfig where
  queueSize : Nat
  batchMax : Nat
  batchLatency : Int
  queueSize_pos : 0 < queueSize
  batchMax_pos : 0 < batchMax
  batchLatency_pos : 0 < batchLatency

def defaultConfig : WriterConfig where
  queueSize := 20000
  batchMax := 500
  batchLatency := 250000
  queueSize_pos := by decide
  batchMax_pos := by decide
  batchLatency_pos := by decide

structure Completion where
  instant : Int
  worker : Nat
  values : LegValues
deriving DecidableEq

structure Workload where
  operators : OperatorTable
  completions : List Completion
  ordered : completions.Pairwise fun earlier later => earlier.instant ≤ later.instant
  named : ∀ completion ∈ completions,
    (operators.byId completion.values.operatorId).map OperatorRecord.name =
      some completion.values.operatorName

inductive WriterPhase where
  | waiting
  | collecting (batch : List LegValues) (deadline : Int) (stopping : Bool)
  | inserting (written : List LegRecord) (remaining : List LegValues) (stopping : Bool)
  | stopped
deriving DecidableEq

/-- The sentinel on a queue is `none`. -/
structure WriterState where
  now : Int
  pending : List Completion
  queues : Nat → List (Option LegValues)
  closed : Nat → Bool
  phases : Nat → WriterPhase
  direct : List LegValues
  nextId : Nat
  persisted : List LegRecord

inductive WriterEvent where
  | complete
  | get (worker : Nat)
  | grow (worker : Nat)
  | flush (worker : Nat)
  | insertRow (worker : Nat)
  | commit (worker : Nat)
  | fail (worker : Nat)
  | closeLogWriter (worker : Nat)
  | abandon (worker : Nat)
  | insertDirect (index : Nat)
  | failDirect (index : Nat)
deriving DecidableEq

def Workload.start (workload : Workload) (instant : Int) : WriterState where
  now := instant
  pending := workload.completions
  queues := fun _ => []
  closed := fun _ => false
  phases := fun _ => .waiting
  direct := []
  nextId := 1
  persisted := []

namespace WriterPhase

def next (stopping : Bool) : WriterPhase := if stopping then stopped else waiting

def flushed (batch : List LegValues) (stopping : Bool) : WriterPhase :=
  if batch = [] then next stopping else inserting [] batch stopping

end WriterPhase

namespace WriterState

def setPhase (state : WriterState) (worker : Nat) (phase : WriterPhase) : WriterState :=
  { state with phases := Function.update state.phases worker phase }

def setQueue (state : WriterState) (worker : Nat) (queue : List (Option LegValues)) :
    WriterState :=
  { state with queues := Function.update state.queues worker queue }

/-- `put_nowait`: on a full queue the item is dropped. -/
def putNowait (config : WriterConfig) (state : WriterState) (worker : Nat)
    (item : Option LegValues) : WriterState :=
  if (state.queues worker).length < config.queueSize then
    state.setQueue worker (state.queues worker ++ [item])
  else state

/-- Without a queue the row is inserted by the caller. -/
def logLeg (config : WriterConfig) (state : WriterState) (completion : Completion) : WriterState :=
  if state.closed completion.worker then
    { state with direct := state.direct ++ [completion.values] }
  else state.putNowait config completion.worker (some completion.values)

/-- `id` and `ts` are column defaults: a sequence and `clock_timestamp()`. -/
def stamp (state : WriterState) (values : LegValues) : LegRecord :=
  { toLegValues := values, id := state.nextId, ts := state.now }

end WriterState

open WriterState

def writerTransition (config : WriterConfig) (state : WriterState) :
    WriterEvent → Option WriterState
  | .complete =>
      match state.pending with
      | [] => none
      | completion :: rest =>
          if completion.instant = state.now then
            some (logLeg config { state with pending := rest } completion)
          else none
  | .get worker =>
      match state.closed worker, state.phases worker, state.queues worker with
      | false, .waiting, item :: rest =>
          some ((state.setQueue worker rest).setPhase worker
            (.collecting item.toList (state.now + config.batchLatency) item.isNone))
      | _, _, _ => none
  | .grow worker =>
      match state.closed worker, state.phases worker, state.queues worker with
      | false, .collecting batch deadline stopping, item :: rest =>
          if batch.length < config.batchMax ∧ state.now < deadline then
            some ((state.setQueue worker rest).setPhase worker
              (match item with
                | some row => .collecting (batch ++ [row]) deadline stopping
                | none => .flushed batch true))
          else none
      | _, _, _ => none
  | .flush worker =>
      match state.phases worker with
      | .collecting batch deadline stopping =>
          if config.batchMax ≤ batch.length ∨ deadline ≤ state.now then
            some (state.setPhase worker (.flushed batch stopping))
          else none
      | _ => none
  | .insertRow worker =>
      match state.phases worker with
      | .inserting written (row :: remaining) stopping =>
          some ({ state with nextId := state.nextId + 1 }.setPhase worker
            (.inserting (written ++ [state.stamp row]) remaining stopping))
      | _ => none
  | .commit worker =>
      match state.phases worker with
      | .inserting written [] stopping =>
          some ({ state with persisted := state.persisted ++ written }.setPhase worker
            (.next stopping))
      | _ => none
  | .fail worker =>
      match state.phases worker with
      | .inserting _ _ stopping => some (state.setPhase worker (.next stopping))
      | _ => none
  | .closeLogWriter worker =>
      if state.closed worker then none else some (state.putNowait config worker none)
  | .abandon worker => some { state with closed := Function.update state.closed worker true }
  | .insertDirect index =>
      (state.direct[index]?).map fun row =>
        { state with
          nextId := state.nextId + 1
          direct := state.direct.eraseIdx index
          persisted := state.persisted ++ [state.stamp row] }
  | .failDirect index =>
      (state.direct[index]?).map fun _ =>
        { state with
          nextId := state.nextId + 1
          direct := state.direct.eraseIdx index }

/-- Events happen at instants that never go back. -/
def writer (config : WriterConfig) (workload : Workload) :
    StepSystem WriterState (Int × WriterEvent) where
  initial state := ∃ instant, state = workload.start instant
  step state event :=
    if event.1 < state.now then none
    else writerTransition config { state with now := event.1 } event.2

def WriterState.AllPersisted (workload : Workload) (state : WriterState) : Prop :=
  (state.persisted.map fun leg => leg.toLegValues).Perm
    (workload.completions.map Completion.values)

end UssdGateway
