import UssdGateway.Library.Transition
import Mathlib.Data.Nat.Init
import Mathlib.Tactic.ByContra
import Mathlib.Tactic.Tauto

/-!
Courses of a step system: runs that never stop. A course that keeps coming back to a helpful event
reaches its goal.
-/

namespace StepSystem

variable {σ ε : Type}

structure Course (system : StepSystem σ ε) where
  state : Nat → σ
  event : Nat → ε
  starts : system.initial (state 0)
  steps : ∀ time, system.step (state time) (event time) = some (state (time + 1))

namespace Course

variable {system : StepSystem σ ε} (course : system.Course)

theorem always (Inv : σ → Prop) {start : Nat} (here : Inv (course.state start))
    (keeps : ∀ time, Inv (course.state time) → Inv (course.state (time + 1))) {time : Nat}
    (later : start ≤ time) : Inv (course.state time) := by
  induction time, later using Nat.le_induction with
  | base => exact here
  | succ time _ ih => exact keeps time ih

/-- The pending value stays as it is until a helpful event comes, and no event but lowers it or
reaches the goal. -/
theorem eventually {ι : Type} {less : ι → ι → Prop} (wellFounded : WellFounded less)
    (pending : ι → σ → Prop) (goal : σ → Prop) (helps : ε → Prop)
    (moves : ∀ time value, pending value (course.state time) →
      goal (course.state (time + 1)) ∨
        (¬ helps (course.event time) ∧ pending value (course.state (time + 1))) ∨
          ∃ lower, less lower value ∧ pending lower (course.state (time + 1)))
    (fair : ∀ start, (∀ time, start ≤ time → ∃ value, pending value (course.state time)) →
      ∃ time, start ≤ time ∧ helps (course.event time))
    {start : Nat} {value : ι} (waits : pending value (course.state start)) :
    ∃ time, start ≤ time ∧ goal (course.state time) := by
  induction value using wellFounded.induction generalizing start with
  | _ value ih =>
      by_contra unreached
      have stays : ∀ time, start ≤ time → pending value (course.state time) →
          ¬ helps (course.event time) ∧ pending value (course.state (time + 1)) := by
        intro time later waiting
        rcases moves time value waiting with reached | stayed | ⟨lower, lowered, waiting⟩
        · exact absurd ⟨time + 1, Nat.le_succ_of_le later, reached⟩ unreached
        · exact stayed
        · obtain ⟨goalTime, after, reached⟩ := ih lower lowered waiting
          exact absurd ⟨goalTime, by omega, reached⟩ unreached
      have waiting : ∀ time, start ≤ time → pending value (course.state time) := by
        intro time later
        induction time, later using Nat.le_induction with
        | base => exact waits
        | succ time later ih => exact (stays time later ih).2
      obtain ⟨time, later, helped⟩ := fair start fun time later => ⟨value, waiting time later⟩
      exact (stays time later (waiting time later)).1 helped

end Course

/-- A run can be prolonged for ever by an event that changes nothing. -/
theorem exists_course {system : StepSystem σ ε} {state after : σ} {events : List ε} {rest : ε}
    (initial : system.initial state) (ran : system.run state events = some after)
    (rests : system.step after rest = some after) :
    ∃ course : system.Course, course.state events.length = after ∧
      ∀ time, course.event time ∈ rest :: events := by
  have prolonged : ∃ (states : Nat → σ) (happens : Nat → ε), states 0 = state ∧
      (∀ time, system.step (states time) (happens time) = some (states (time + 1))) ∧
      states events.length = after ∧ ∀ time, happens time ∈ rest :: events := by
    clear initial
    induction events generalizing state with
    | nil =>
        refine ⟨fun _ => after, fun _ => rest, ?_, fun _ => rests, rfl, by simp⟩
        rw [run, Option.some.injEq] at ran
        exact ran.symm
    | cons event events ih =>
        rw [run, Option.bind_eq_some_iff] at ran
        obtain ⟨middle, stepped, ran⟩ := ran
        obtain ⟨states, happens, starts, steps, ends, among⟩ := ih ran
        refine ⟨fun time => time.casesOn state states, fun time => time.casesOn event happens,
          rfl, ?_, ends, ?_⟩
        · intro time
          cases time with
          | zero => exact stepped.trans (congrArg some starts.symm)
          | succ time => exact steps time
        · intro time
          cases time with
          | zero => simp
          | succ time =>
              have member := among time
              simp only [List.mem_cons] at member ⊢
              tauto
  obtain ⟨states, happens, starts, steps, ends, among⟩ := prolonged
  exact ⟨⟨states, happens, starts ▸ initial, steps⟩, ends, among⟩

end StepSystem
