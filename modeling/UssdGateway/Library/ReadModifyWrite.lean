import UssdGateway.Library.Transition
import Mathlib.Data.List.Induction
import Mathlib.Data.List.Perm.Basic
import Mathlib.Algebra.BigOperators.Group.List.Basic
import Mathlib.Algebra.GroupWithZero.Nat
import Mathlib.Logic.Function.Basic

/-!
Clients that share a cell. Each reads it once and later writes back what it read, updated. No
update is lost exactly when every client, as it writes, still finds what it read.
-/

namespace ReadModifyWrite

variable {ι V : Type}

inductive Phase (V : Type) where
  | idle
  | holding (value : V)
  | written

structure State (ι V : Type) where
  cell : V
  phase : ι → Phase V
  order : List ι

inductive Event (ι : Type) where
  | read (client : ι)
  | write (client : ι)

def fresh (value : V) : State ι V where
  cell := value
  phase := fun _ => .idle
  order := []

def FindsItsRead (state : State ι V) : Event ι → Prop
  | .read _ => True
  | .write client => ∀ value, state.phase client = .holding value → state.cell = value

section

variable (update : ι → V → V)

def applyAll (value : V) (order : List ι) : V :=
  order.foldl (fun value client => update client value) value

/-- The cell holds the update of every client that has written, each once, in some order. -/
def Merged (value : V) (state : State ι V) : Prop :=
  ∃ order : List ι, order.Perm state.order ∧ state.cell = applyAll update value order

structure Growing (weight : ι → Nat) (measure : V → Nat) (extends_ : V → V → Prop) : Prop where
  grows : ∀ client value, measure (update client value) = measure value + weight client
  refl : ∀ value, extends_ value value
  step : ∀ first second client, extends_ first second → extends_ first (update client second)
  eq_of_measure : ∀ first second, extends_ first second → measure first = measure second →
    first = second

/-- The cell holds all updates in the order of their writes, and extends what anyone has read. -/
structure Intact (extends_ : V → V → Prop) (value : V) (state : State ι V) : Prop where
  cell : state.cell = applyAll update value state.order
  holding : ∀ client held, state.phase client = .holding held → extends_ held state.cell

end

section

variable {update : ι → V → V} {weight : ι → Nat} {measure : V → Nat} {extends_ : V → V → Prop}
  {value : V} {state : State ι V}

theorem applyAll_concat (order : List ι) (client : ι) :
    applyAll update value (order ++ [client]) = update client (applyAll update value order) := by
  rw [applyAll, List.foldl_append]
  rfl

theorem measure_applyAll (growing : Growing update weight measure extends_) (order : List ι) :
    measure (applyAll update value order) = measure value + (order.map weight).sum := by
  induction order using List.reverseRecOn with
  | nil => rfl
  | append_singleton order client ih =>
      rw [applyAll_concat, growing.grows, ih, List.map_append, List.sum_append]
      simp only [List.map_cons, List.map_nil, List.sum_cons, List.sum_nil]
      omega

theorem Intact.fresh (value : V) :
    Intact update extends_ value (ReadModifyWrite.fresh value : State ι V) where
  cell := rfl
  holding := by
    intro client held phase
    cases phase

theorem Intact.merged (intact : Intact update extends_ value state) : Merged update value state :=
  ⟨state.order, List.Perm.refl _, intact.cell⟩

end

variable [DecidableEq ι]

section

variable (update : ι → V → V)

def step (state : State ι V) : Event ι → Option (State ι V)
  | .read client =>
      match state.phase client with
      | .idle =>
          some { state with phase := Function.update state.phase client (.holding state.cell) }
      | _ => none
  | .write client =>
      match state.phase client with
      | .holding value =>
          some { cell := update client value
                 phase := Function.update state.phase client .written
                 order := state.order ++ [client] }
      | _ => none

def clients (value : V) : StepSystem (State ι V) (Event ι) where
  initial state := state = fresh value
  step := step update

end

section

variable {update : ι → V → V} {weight : ι → Nat} {measure : V → Nat} {extends_ : V → V → Prop}
  {value : V} {state after : State ι V}

theorem step_write {client : ι} (stepped : step update state (.write client) = some after) :
    ∃ held, state.phase client = .holding held ∧
      after = { cell := update client held
                phase := Function.update state.phase client .written
                order := state.order ++ [client] } := by
  rw [step] at stepped
  split at stepped
  next held phase => exact ⟨held, phase, (Option.some.inj stepped).symm⟩
  next => cases stepped

theorem step_read {client : ι} (stepped : step update state (.read client) = some after) :
    after = { state with phase := Function.update state.phase client (.holding state.cell) } := by
  rw [step] at stepped
  split at stepped
  next => exact (Option.some.inj stepped).symm
  next => cases stepped

theorem Intact.step (growing : Growing update weight measure extends_)
    (intact : Intact update extends_ value state) {event : Event ι}
    (finds : FindsItsRead state event) (stepped : step update state event = some after) :
    Intact update extends_ value after := by
  cases event with
  | read client =>
      rw [step_read stepped]
      refine ⟨intact.cell, ?_⟩
      intro other held phase
      simp only at phase ⊢
      by_cases same : other = client
      · rw [same, Function.update_self] at phase
        cases phase
        exact growing.refl _
      · rw [Function.update_of_ne same] at phase
        exact intact.holding other held phase
  | write client =>
      obtain ⟨held, phase, rfl⟩ := step_write stepped
      have found : state.cell = held := finds held phase
      constructor
      · rw [applyAll_concat, ← intact.cell, found]
      · intro other kept otherPhase
        simp only at otherPhase ⊢
        by_cases same : other = client
        · rw [same, Function.update_self] at otherPhase
          cases otherPhase
        · rw [Function.update_of_ne same] at otherPhase
          rw [← found]
          exact growing.step _ _ client (intact.holding other kept otherPhase)

theorem Intact.merged_iff (growing : Growing update weight measure extends_)
    (intact : Intact update extends_ value state) (event : Event ι) :
    (∀ after, ReadModifyWrite.step update state event = some after → Merged update value after) ↔
      FindsItsRead state event := by
  constructor
  · intro merges
    cases event with
    | read client => trivial
    | write client =>
        intro held phase
        have stepped : ReadModifyWrite.step update state (.write client) =
            some { cell := update client held
                   phase := Function.update state.phase client .written
                   order := state.order ++ [client] } := by
          rw [ReadModifyWrite.step, phase]
        obtain ⟨order, permuted, cell⟩ := merges _ stepped
        -- the amounts add up the same in any order, so what was held had all of the cell
        have sums := (permuted.map weight).sum_eq
        have amount := congrArg measure cell
        have whole := congrArg measure intact.cell
        rw [growing.grows, measure_applyAll growing] at amount
        rw [measure_applyAll growing] at whole
        simp only [List.map_append, List.map_cons, List.map_nil, List.sum_append, List.sum_cons,
          List.sum_nil] at sums
        exact (growing.eq_of_measure held state.cell (intact.holding client held phase)
          (by omega)).symm
  · intro finds after stepped
    exact (intact.step growing finds stepped).merged

/-- Along every run the cell holds the update of each client that has written if and only if each
client, as it writes, finds what it read. -/
theorem merged_along_iff (growing : Growing update weight measure extends_)
    (events : List (Event ι)) :
    (clients update value).Along (fun state event => ∀ after,
        step update state event = some after → Merged update value after) (fresh value) events ↔
      (clients update value).Along FindsItsRead (fresh value) events :=
  @StepSystem.along_iff_of_kept _ _ (clients update value) (Intact update extends_ value) _ _
    (fun _ event intact => intact.merged_iff growing event)
    (fun _ event _ intact merges stepped =>
      intact.step growing ((intact.merged_iff growing event).1 merges) stepped)
    (fresh value) (Intact.fresh value) events

end

end ReadModifyWrite
