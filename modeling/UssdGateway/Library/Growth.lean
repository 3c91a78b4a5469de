import Mathlib.Order.Monotone.Basic

/-!
Steps that only add to a state. However often they are taken, and in whatever order, they lead to
the same state once each has been taken in the order that matters.
-/

namespace Growth

variable {α : Type}

structure Step (α : Type) [PartialOrder α] where
  run : α → α
  monotone : Monotone run
  grows : ∀ state, state ≤ run state

variable [PartialOrder α]

def runAll : List (Step α) → α → α
  | [], state => state
  | step :: rest, state => runAll rest (step.run state)

theorem runAll_monotone (steps : List (Step α)) : Monotone (runAll steps) := by
  induction steps with
  | nil => exact monotone_id
  | cons step rest ih => exact ih.comp step.monotone

theorem runAll_le_of_sublist {pass steps : List (Step α)} (sublist : pass.Sublist steps)
    (state : α) : runAll pass state ≤ runAll steps state := by
  induction sublist generalizing state with
  | slnil => exact le_refl state
  | cons step _ ih => exact le_trans (ih state) (runAll_monotone _ (step.grows state))
  | cons_cons step _ ih => exact ih (step.run state)

theorem runAll_le_of_closed {steps : List (Step α)} {top state : α}
    (closed : ∀ step ∈ steps, step.run top ≤ top) (below : state ≤ top) :
    runAll steps state ≤ top := by
  induction steps generalizing state with
  | nil => exact below
  | cons step rest ih =>
      have next : step.run state ≤ top :=
        le_trans (step.monotone below) (closed step List.mem_cons_self)
      exact ih (fun step member => closed step (List.mem_cons_of_mem _ member)) next

/-- Steps that hold a full pass, and add nothing to what it leads to, lead there. -/
theorem runAll_settles {pass steps : List (Step α)} {bottom state : α}
    (sublist : pass.Sublist steps)
    (closed : ∀ step ∈ steps, step.run (runAll pass bottom) ≤ runAll pass bottom)
    (above : bottom ≤ state) (below : state ≤ runAll pass bottom) :
    runAll steps state = runAll pass bottom := by
  refine le_antisymm (runAll_le_of_closed closed below) ?_
  calc runAll pass bottom ≤ runAll pass state := runAll_monotone pass above
    _ ≤ runAll steps state := runAll_le_of_sublist sublist state

end Growth
