import Mathlib.Tactic.Basic

/-!
Guarded step systems. An event moves the state on or is not possible in it. Safety is proved once
per event and carried over every run, also over the runs whose events all meet a condition.
-/

structure StepSystem (σ ε : Type) where
  initial : σ → Prop
  step : σ → ε → Option σ

namespace StepSystem

variable {σ ε : Type} (system : StepSystem σ ε)

/-- States reached by events that meet a condition where they happen. -/
inductive ReachableBy (allowed : σ → ε → Prop) : σ → Prop where
  | start {state : σ} : system.initial state → ReachableBy allowed state
  | next {state after : σ} {event : ε} : ReachableBy allowed state → allowed state event →
      system.step state event = some after → ReachableBy allowed after

def Reachable : σ → Prop := system.ReachableBy fun _ _ => True

def run : σ → List ε → Option σ
  | state, [] => some state
  | state, event :: rest => (system.step state event).bind fun after => run after rest

theorem run_append (state : σ) (first second : List ε) :
    system.run state (first ++ second) =
      (system.run state first).bind fun middle => system.run middle second := by
  induction first generalizing state with
  | nil => rfl
  | cons event rest ih =>
      rw [List.cons_append, run, run, Option.bind_assoc]
      exact congrArg _ (funext ih)

def Along (property : σ → ε → Prop) : σ → List ε → Prop
  | _, [] => True
  | state, event :: rest =>
      property state event ∧
        ∀ after, system.step state event = some after → Along property after rest

variable {system}

theorem along_cons {property : σ → ε → Prop} {state after : σ} {event : ε} {rest : List ε}
    (stepped : system.step state event = some after) :
    system.Along property state (event :: rest) ↔
      property state event ∧ system.Along property after rest := by
  simp only [Along, stepped, Option.some.injEq, forall_eq']

instance decidableAlong {property : σ → ε → Prop}
    [∀ state event, Decidable (property state event)] :
    (state : σ) → (events : List ε) → Decidable (system.Along property state events)
  | _, [] => isTrue trivial
  | state, event :: rest =>
      match stepped : system.step state event with
      | none => decidable_of_iff (property state event) (by simp [Along, stepped])
      | some after =>
          have : Decidable (system.Along property after rest) := decidableAlong after rest
          decidable_of_iff (property state event ∧ system.Along property after rest)
            (along_cons stepped).symm

theorem along_mono {first second : σ → ε → Prop}
    (weaker : ∀ state event, first state event → second state event) {state : σ}
    {events : List ε} (along : system.Along first state events) :
    system.Along second state events := by
  induction events generalizing state with
  | nil => trivial
  | cons event rest ih =>
      exact ⟨weaker state event along.1, fun after stepped => ih (along.2 after stepped)⟩

theorem along_iff {first second : σ → ε → Prop}
    (same : ∀ state event, first state event ↔ second state event) (state : σ)
    (events : List ε) : system.Along first state events ↔ system.Along second state events :=
  ⟨along_mono fun state event => (same state event).1,
    along_mono fun state event => (same state event).2⟩

theorem along_iff_of_kept {Inv : σ → Prop} {first second : σ → ε → Prop}
    (same : ∀ state event, Inv state → (first state event ↔ second state event))
    (keeps : ∀ state event after, Inv state → first state event →
      system.step state event = some after → Inv after)
    {state : σ} (start : Inv state) (events : List ε) :
    system.Along first state events ↔ system.Along second state events := by
  induction events generalizing state with
  | nil => exact Iff.rfl
  | cons event rest ih =>
      simp only [Along]
      constructor
      · rintro ⟨here, later⟩
        exact ⟨(same state event start).1 here, fun after stepped =>
          (ih (keeps state event after start here stepped)).1 (later after stepped)⟩
      · rintro ⟨here, later⟩
        have holds := (same state event start).2 here
        exact ⟨holds, fun after stepped =>
          (ih (keeps state event after start holds stepped)).2 (later after stepped)⟩

theorem along_iff_of_run {Inv : σ → Prop} {first second : σ → ε → Prop} {events : List ε}
    (same : ∀ state event after, event ∈ events → Inv state →
      system.step state event = some after → (first state event ↔ second state event))
    (keeps : ∀ state event after, event ∈ events → Inv state →
      system.step state event = some after → Inv after)
    {state last : σ} (start : Inv state) (ran : system.run state events = some last) :
    system.Along first state events ↔ system.Along second state events := by
  induction events generalizing state with
  | nil => exact Iff.rfl
  | cons event rest ih =>
      obtain ⟨after, stepped, ran⟩ := Option.bind_eq_some_iff.1 ran
      rw [along_cons stepped, along_cons stepped,
        same state event after List.mem_cons_self start stepped]
      refine and_congr_right fun _ => ?_
      exact ih
        (fun state event after member => same state event after (List.mem_cons_of_mem _ member))
        (fun state event after member => keeps state event after (List.mem_cons_of_mem _ member))
        (keeps state event after List.mem_cons_self start stepped) ran

theorem ReachableBy.invariant {allowed : σ → ε → Prop} {Inv : σ → Prop}
    (starts : ∀ state, system.initial state → Inv state)
    (keeps : ∀ state event after, Inv state → allowed state event →
      system.step state event = some after → Inv after)
    {state : σ} (reached : system.ReachableBy allowed state) : Inv state := by
  induction reached with
  | start initial => exact starts _ initial
  | next _ permitted stepped ih => exact keeps _ _ _ ih permitted stepped

theorem Reachable.invariant {Inv : σ → Prop}
    (starts : ∀ state, system.initial state → Inv state)
    (keeps : ∀ state event after, Inv state → system.step state event = some after → Inv after)
    {state : σ} (reached : system.Reachable state) : Inv state :=
  ReachableBy.invariant starts (fun state event after inv _ => keeps state event after inv) reached

theorem ReachableBy.run {allowed : σ → ε → Prop} (all : ∀ state event, allowed state event)
    {state after : σ} {events : List ε} (reached : system.ReachableBy allowed state)
    (ran : system.run state events = some after) : system.ReachableBy allowed after := by
  induction events generalizing state with
  | nil =>
      rw [StepSystem.run, Option.some.injEq] at ran
      exact ran ▸ reached
  | cons event rest ih =>
      rw [StepSystem.run, Option.bind_eq_some_iff] at ran
      obtain ⟨middle, stepped, ran⟩ := ran
      exact ih (.next reached (all state event) stepped) ran

theorem ReachableBy.along {allowed : σ → ε → Prop} {state after : σ} {events : List ε}
    (reached : system.ReachableBy allowed state) (kept : system.Along allowed state events)
    (ran : system.run state events = some after) : system.ReachableBy allowed after := by
  induction events generalizing state with
  | nil =>
      rw [StepSystem.run, Option.some.injEq] at ran
      exact ran ▸ reached
  | cons event rest ih =>
      rw [StepSystem.run, Option.bind_eq_some_iff] at ran
      obtain ⟨middle, stepped, ran⟩ := ran
      exact ih (.next reached kept.1 stepped) (kept.2 middle stepped) ran

theorem Reachable.run {state after : σ} {events : List ε} (reached : system.Reachable state)
    (ran : system.run state events = some after) : system.Reachable after :=
  ReachableBy.run (fun _ _ => trivial) reached ran

/-- Every run of the permitted events reaches the goal, and none gets stuck before it. -/
inductive Inevitable (system : StepSystem σ ε) (permitted : ε → Prop) (goal : σ → Prop) :
    σ → Prop where
  | reached {state : σ} : goal state → Inevitable system permitted goal state
  | moves {state : σ} : (∃ event after, permitted event ∧ system.step state event = some after) →
      (∀ event after, permitted event → system.step state event = some after →
        Inevitable system permitted goal after) →
      Inevitable system permitted goal state

theorem inevitable_of_measure {permitted : ε → Prop} {goal Inv : σ → Prop} (measure : σ → Nat)
    (keeps : ∀ state event after, Inv state → permitted event →
      system.step state event = some after → Inv after ∧ measure after < measure state)
    (progress : ∀ state, Inv state → ¬ goal state →
      ∃ event after, permitted event ∧ system.step state event = some after)
    {state : σ} (start : Inv state) : Inevitable system permitted goal state := by
  generalize size : measure state = bound
  induction bound using Nat.strongRecOn generalizing state with
  | ind bound ih =>
      by_cases done : goal state
      · exact .reached done
      · refine .moves (progress state start done) ?_
        intro event after allowed stepped
        have next := keeps state event after start allowed stepped
        exact ih (measure after) (size ▸ next.2) next.1 rfl

/-! A concrete system whose visible steps are those of an abstract one. -/

section

variable {τ δ : Type} (concrete : StepSystem σ ε) (abstract : StepSystem τ δ)

def visible (label : σ → ε → Option δ) : σ → List ε → List δ
  | _, [] => []
  | state, event :: rest =>
      match concrete.step state event with
      | none => []
      | some after => (label state event).toList ++ visible label after rest

/-- Every step of related states is silent or done by both systems. -/
structure Simulates (rel : σ → τ → Prop) (label : σ → ε → Option δ) : Prop where
  step : ∀ state image event after, rel state image →
    concrete.step state event = some after →
    (label state event = none ∧ rel after image) ∨
      ∃ event' image', label state event = some event' ∧
        abstract.step image event' = some image' ∧ rel after image'

variable {concrete abstract}

/-- A property of single steps that silent and blocked steps have, and that the others have when
their images have it, holds along a run exactly when it holds along the visible one. -/
theorem along_iff_of_simulates {rel : σ → τ → Prop} {label : σ → ε → Option δ}
    (simulates : Simulates concrete abstract rel label)
    {property : σ → ε → Prop} {imaged : τ → δ → Prop}
    (blocked : ∀ state event, concrete.step state event = none → property state event)
    (silent : ∀ state image event after, rel state image →
      concrete.step state event = some after → label state event = none → property state event)
    (shared : ∀ state image event after event', rel state image →
      concrete.step state event = some after → label state event = some event' →
      (property state event ↔ imaged image event'))
    {state : σ} {image : τ} (related : rel state image) (events : List ε) :
    concrete.Along property state events ↔
      abstract.Along imaged image (visible concrete label state events) := by
  induction events generalizing state image with
  | nil => exact Iff.rfl
  | cons event rest ih =>
      rcases stepped : concrete.step state event with _ | after
      · have quiet : visible concrete label state (event :: rest) = [] := by
          rw [visible, stepped]
        rw [quiet]
        refine iff_of_true ⟨blocked state event stepped, ?_⟩ trivial
        intro after impossible
        rw [stepped] at impossible
        cases impossible
      · have shown : visible concrete label state (event :: rest) =
            (label state event).toList ++ visible concrete label after rest := by
          rw [visible, stepped]
        rw [along_cons stepped, shown]
        rcases simulates.step state image event after related stepped with
          ⟨unlabelled, kept⟩ | ⟨event', image', labelled, moved, kept⟩
        · rw [unlabelled, Option.toList_none, List.nil_append, ih kept]
          exact and_iff_right (silent state image event after related stepped unlabelled)
        · rw [labelled, Option.toList_some, List.singleton_append, ih kept,
            shared state image event after event' related stepped labelled, along_cons moved]

theorem along_states_iff_of_simulates {rel : σ → τ → Prop} {label : σ → ε → Option δ}
    (simulates : Simulates concrete abstract rel label)
    {holds : σ → Prop} {imaged : τ → Prop}
    (shared : ∀ state image, rel state image → (holds state ↔ imaged image))
    {state : σ} {image : τ} (related : rel state image) (start : holds state)
    (events : List ε) :
    concrete.Along (fun state event => ∀ after,
        concrete.step state event = some after → holds after) state events ↔
      abstract.Along (fun image event => ∀ after,
        abstract.step image event = some after → imaged after) image
        (visible concrete label state events) := by
  induction events generalizing state image with
  | nil => exact Iff.rfl
  | cons event rest ih =>
      rcases stepped : concrete.step state event with _ | after
      · have quiet : visible concrete label state (event :: rest) = [] := by
          rw [visible, stepped]
        rw [quiet]
        refine iff_of_true ⟨?_, ?_⟩ trivial <;>
        · intro after impossible
          rw [stepped] at impossible
          cases impossible
      · have shown : visible concrete label state (event :: rest) =
            (label state event).toList ++ visible concrete label after rest := by
          rw [visible, stepped]
        rw [along_cons stepped, shown]
        simp only [stepped, Option.some.injEq, forall_eq']
        rcases simulates.step state image event after related stepped with
          ⟨unlabelled, kept⟩ | ⟨event', image', labelled, moved, kept⟩
        · have still : holds after :=
            (shared after image kept).2 ((shared state image related).1 start)
          rw [unlabelled, Option.toList_none, List.nil_append, and_iff_right still]
          exact ih kept still
        · rw [labelled, Option.toList_some, List.singleton_append, along_cons moved]
          simp only [moved, Option.some.injEq, forall_eq']
          rw [← shared after image' kept]
          exact and_congr_right fun still => ih kept still

end

end StepSystem
