import Mathlib.Tactic.Basic

/-!
Exclusive row locks held until the end of a transaction. A lock table says who holds each row, so
two transactions never hold the same one.
-/

/-- The transaction that holds each row. -/
abbrev LockTable (ρ τ : Type) := ρ → Option τ

namespace LockTable

variable {ρ τ : Type}

def free : LockTable ρ τ := fun _ => none

def Holds (locks : LockTable ρ τ) (transaction : τ) (row : ρ) : Prop :=
  locks row = some transaction

theorem Holds.unique {locks : LockTable ρ τ} {first second : τ} {row : ρ}
    (firstHolds : locks.Holds first row) (secondHolds : locks.Holds second row) :
    first = second :=
  Option.some.inj (firstHolds.symm.trans secondHolds)

variable [DecidableEq τ]

def releaseAll (locks : LockTable ρ τ) (transaction : τ) : LockTable ρ τ :=
  fun row => if locks row = some transaction then none else locks row

theorem Holds.releaseAll {locks : LockTable ρ τ} {transaction holder : τ} {held : ρ}
    (holds : locks.Holds holder held) (apart : holder ≠ transaction) :
    (locks.releaseAll transaction).Holds holder held := by
  rw [Holds] at holds
  simp [Holds, LockTable.releaseAll, holds, apart]

variable [DecidableEq ρ]

def acquire (locks : LockTable ρ τ) (transaction : τ) (row : ρ) : Option (LockTable ρ τ) :=
  if locks row = none ∨ locks row = some transaction then
    some fun other => if other = row then some transaction else locks other
  else none

theorem acquire_eq_some {locks after : LockTable ρ τ} {transaction : τ} {row : ρ}
    (acquired : locks.acquire transaction row = some after) :
    (locks row = none ∨ locks row = some transaction) ∧
      after = fun other => if other = row then some transaction else locks other := by
  rw [acquire] at acquired
  split at acquired
  next available => exact ⟨available, (Option.some.inj acquired).symm⟩
  next => exact absurd acquired (by simp)

theorem holds_of_acquire {locks after : LockTable ρ τ} {transaction : τ} {row : ρ}
    (acquired : locks.acquire transaction row = some after) : after.Holds transaction row := by
  obtain ⟨_, rfl⟩ := acquire_eq_some acquired
  simp [Holds]

theorem Holds.acquire {locks after : LockTable ρ τ} {transaction holder : τ} {row held : ρ}
    (holds : locks.Holds holder held) (acquired : locks.acquire transaction row = some after) :
    after.Holds holder held := by
  obtain ⟨available, rfl⟩ := acquire_eq_some acquired
  by_cases same : held = row
  · subst same
    rw [Holds] at holds
    rcases available with unheld | own
    · rw [unheld] at holds
      exact absurd holds (by simp)
    · simp [Holds, ← holds, own]
  · simpa [Holds, same] using holds

end LockTable
