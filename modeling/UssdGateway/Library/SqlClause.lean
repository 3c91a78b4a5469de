import Mathlib.Data.List.Basic

/-!
Parameterised SQL conditions. A builder appends values to the statement's parameters and is given
their placeholders; a condition reads its placeholders when the statement runs.
-/

namespace SqlClause

variable {ν ρ : Type}

abbrev Condition (ν ρ : Type) := List ν → ρ → Bool

/-- Takes the values bound so far, returns a condition and the values bound then. -/
abbrev Builder (ν ρ : Type) := List ν → Condition ν ρ × List ν

def push (value : ν) (bound : List ν) : Nat × List ν := (bound.length + 1, bound ++ [value])

def valueAt (bound : List ν) (placeholder : Nat) : Option ν := bound[placeholder - 1]?

def constant (meaning : ρ → Bool) : Builder ν ρ := fun bound => (fun _ => meaning, bound)

def withValue (value : ν) (test : Option ν → ρ → Bool) : Builder ν ρ := fun bound =>
  let pushed := push value bound
  (fun values => test (valueAt values pushed.1), pushed.2)

def joined (join : Bool → Bool → Bool) (first second : Builder ν ρ) : Builder ν ρ := fun bound =>
  let left := first bound
  let right := second left.2
  (fun values row => join (left.1 values row) (right.1 values row), right.2)

def anyOf : List (Builder ν ρ) → Builder ν ρ
  | [] => constant fun _ => false
  | first :: rest => joined (· || ·) first (anyOf rest)

def allOf : List (Builder ν ρ) → Builder ν ρ
  | [] => constant fun _ => true
  | first :: rest => joined (· && ·) first (allOf rest)

def onlyIf (present : Bool) (builder : Builder ν ρ) : Builder ν ρ :=
  if present then builder else constant fun _ => true

/-- `key IN (SELECT key FROM rows WHERE …)`. -/
def semiJoin {κ : Type} [DecidableEq κ] (key : ρ → κ) (rows : List ρ) (builder : Builder ν ρ) :
    Builder ν ρ := fun bound =>
  let inner := builder bound
  (fun values row => rows.any fun other => decide (key other = key row) && inner.1 values other,
    inner.2)

def onPart {σ : Type} (part : σ → ρ) (builder : Builder ν ρ) : Builder ν σ := fun bound =>
  let inner := builder bound
  (fun values row => inner.1 values (part row), inner.2)

def select (builder : Builder ν ρ) (rows : List ρ) : List ρ :=
  let built := builder []
  rows.filter (built.1 built.2)

/-- Whatever was bound before and is bound later, the condition means this. -/
def Denotes (builder : Builder ν ρ) (meaning : ρ → Bool) : Prop :=
  ∀ bound, ∃ added, (builder bound).2 = bound ++ added ∧
    ∀ later row, (builder bound).1 (bound ++ added ++ later) row = meaning row

theorem denotes_constant (meaning : ρ → Bool) :
    Denotes (constant meaning : Builder ν ρ) meaning := by
  intro bound
  exact ⟨[], (List.append_nil bound).symm, fun _ _ => rfl⟩

theorem denotes_withValue (value : ν) (test : Option ν → ρ → Bool) :
    Denotes (withValue value test) (test (some value)) := by
  intro bound
  refine ⟨[value], rfl, ?_⟩
  intro later row
  have found : valueAt (bound ++ [value] ++ later) (bound.length + 1) = some value := by
    simp [valueAt]
  simp only [withValue, push, found]

theorem denotes_joined {first second : Builder ν ρ} {firstMeaning secondMeaning : ρ → Bool}
    (join : Bool → Bool → Bool) (firstDenotes : Denotes first firstMeaning)
    (secondDenotes : Denotes second secondMeaning) :
    Denotes (joined join first second)
      fun row => join (firstMeaning row) (secondMeaning row) := by
  intro bound
  obtain ⟨firstAdded, firstState, firstValue⟩ := firstDenotes bound
  obtain ⟨secondAdded, secondState, secondValue⟩ := secondDenotes (bound ++ firstAdded)
  refine ⟨firstAdded ++ secondAdded, ?_, ?_⟩
  · simp only [joined, firstState, secondState, List.append_assoc]
  · intro later row
    have left := firstValue (secondAdded ++ later) row
    have right := secondValue later row
    simp only [joined, firstState, List.append_assoc] at left right ⊢
    rw [left, right]

theorem denotes_anyOf {α : Type} (items : List α) (build : α → Builder ν ρ)
    (meaning : α → ρ → Bool) (each : ∀ item ∈ items, Denotes (build item) (meaning item)) :
    Denotes (anyOf (items.map build)) fun row => items.any fun item => meaning item row := by
  induction items with
  | nil => exact denotes_constant _
  | cons item rest ih =>
      simp only [List.any_cons]
      exact denotes_joined (· || ·) (each item List.mem_cons_self)
        (ih fun other inside => each other (List.mem_cons_of_mem _ inside))

theorem denotes_allOf_nil : Denotes (allOf ([] : List (Builder ν ρ))) fun _ => true :=
  denotes_constant _

theorem denotes_allOf_cons {first : Builder ν ρ} {rest : List (Builder ν ρ)}
    {firstMeaning restMeaning : ρ → Bool} (firstDenotes : Denotes first firstMeaning)
    (restDenotes : Denotes (allOf rest) restMeaning) :
    Denotes (allOf (first :: rest)) fun row => firstMeaning row && restMeaning row :=
  denotes_joined (· && ·) firstDenotes restDenotes

theorem denotes_semiJoin {κ : Type} [DecidableEq κ] (key : ρ → κ) (rows : List ρ)
    {builder : Builder ν ρ} {meaning : ρ → Bool} (denotes : Denotes builder meaning) :
    Denotes (semiJoin key rows builder)
      fun row => rows.any fun other => decide (key other = key row) && meaning other := by
  intro bound
  obtain ⟨added, state, value⟩ := denotes bound
  refine ⟨added, state, ?_⟩
  intro later row
  simp only [semiJoin, value]

theorem denotes_onlyIf {builder : Builder ν ρ} {meaning : ρ → Bool} (present : Bool)
    (denotes : Denotes builder meaning) :
    Denotes (onlyIf present builder) fun row => !present || meaning row := by
  cases present with
  | false => exact denotes_constant _
  | true => simpa [onlyIf] using denotes

theorem denotes_onPart {σ : Type} (part : σ → ρ) {builder : Builder ν ρ} {meaning : ρ → Bool}
    (denotes : Denotes builder meaning) : Denotes (onPart part builder) (meaning ∘ part) := by
  intro bound
  obtain ⟨added, state, value⟩ := denotes bound
  exact ⟨added, state, fun later row => value later (part row)⟩

theorem select_eq {builder : Builder ν ρ} {meaning : ρ → Bool} (denotes : Denotes builder meaning)
    (rows : List ρ) : select builder rows = rows.filter meaning := by
  obtain ⟨added, state, value⟩ := denotes []
  apply List.filter_congr
  intro row _
  rw [state]
  simpa using value [] row

end SqlClause
