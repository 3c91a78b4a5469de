import UssdGateway.Library.Transition

/-!
Waiting for a turn. Some events of a run are rounds, each of which serves `share` of those that are
ahead, and nobody who comes later gets ahead of the one that waits.
-/

namespace StepSystem

variable {σ ε : Type} {system : StepSystem σ ε}

theorem exists_of_not_along {property : σ → ε → Prop} {state : σ} {events : List ε}
    (somewhere : ¬ system.Along (fun state event => ¬ property state event) state events) :
    ∃ before event later middle, events = before ++ event :: later ∧
      system.run state before = some middle ∧ property middle event := by
  induction events generalizing state with
  | nil => exact absurd trivial somewhere
  | cons event rest ih =>
      by_cases here : property state event
      · exact ⟨[], event, rest, state, rfl, rfl, here⟩
      · simp only [Along, here, not_false_eq_true, true_and, Classical.not_forall] at somewhere
        obtain ⟨after, stepped, later⟩ := somewhere
        obtain ⟨before, found, tail, middle, rfl, ran, holds⟩ := ih later
        refine ⟨event :: before, found, tail, middle, rfl, ?_, holds⟩
        rw [run, stepped, Option.bind_some, ran]

section

variable {waiting : σ → Prop} {allowed turn : σ → ε → Prop} {isRound : ε → Bool}
  {ahead : σ → Nat} {share : Nat}

theorem rounds_le_ahead
    (waits : ∀ state event after, waiting state → allowed state event →
      ¬ turn state event → system.step state event = some after →
      waiting after ∧ ahead after + (if isRound event then share else 0) ≤ ahead state)
    (possible : ∀ state event, waiting state → allowed state event →
      ∃ after, system.step state event = some after)
    {state : σ} {events : List ε} (start : waiting state)
    (kept : system.Along allowed state events)
    (passed : system.Along (fun state event => ¬ turn state event) state events) :
    share * events.countP isRound ≤ ahead state := by
  induction events generalizing state with
  | nil => simp
  | cons event rest ih =>
      obtain ⟨after, stepped⟩ := possible state event start kept.1
      obtain ⟨still, fewer⟩ := waits state event after start kept.1 passed.1 stepped
      have later := ih still (kept.2 after stepped) (passed.2 after stepped)
      rw [List.countP_cons]
      split
      next round =>
        rw [if_pos round] at fewer
        rw [Nat.mul_add, Nat.mul_one]
        omega
      next other =>
        rw [if_neg other] at fewer
        rw [Nat.add_zero]
        omega

theorem served_in_turn
    (waits : ∀ state event after, waiting state → allowed state event →
      ¬ turn state event → system.step state event = some after →
      waiting after ∧ ahead after + (if isRound event then share else 0) ≤ ahead state)
    (possible : ∀ state event, waiting state → allowed state event →
      ∃ after, system.step state event = some after)
    {state : σ} {events : List ε} (start : waiting state)
    (kept : system.Along allowed state events)
    (rounds : ahead state < share * events.countP isRound) :
    ∃ before event later middle, events = before ++ event :: later ∧
      system.run state before = some middle ∧ turn middle event := by
  apply exists_of_not_along
  intro passed
  have bounded := rounds_le_ahead waits possible start kept passed
  omega

end

end StepSystem
