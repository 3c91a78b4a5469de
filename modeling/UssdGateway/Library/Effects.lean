import Mathlib.Tactic.Basic

/-!
Programs over a signature of effectful operations. A program either finishes, raises, or performs
one operation and continues with its answer. The same program runs in one go through a handler, or
one operation at a time between the steps of others.
-/

namespace EffectProgram

/-- The operations a program may perform, each with the type of its successful answer. -/
structure Signature where
  Op : Type
  Answer : Op → Type

inductive Prog (S : Signature) (ε α : Type) where
  | done (value : α)
  | raise (error : ε)
  | perform (op : S.Op) (next : Except ε (S.Answer op) → Prog S ε α)

namespace Prog

variable {S : Signature} {ε α β γ σ : Type}

def bind : Prog S ε α → (α → Prog S ε β) → Prog S ε β
  | done value, rest => rest value
  | raise error, _ => raise error
  | perform op next, rest => perform op fun answer => (next answer).bind rest

instance : Monad (Prog S ε) where
  pure := done
  bind := bind

def call (op : S.Op) : Prog S ε (S.Answer op) :=
  perform op fun answer =>
    match answer with
    | .ok value => done value
    | .error error => raise error

/-- `try … except`: the recovery runs in the place of the raise. -/
def attempt : Prog S ε α → (ε → Prog S ε α) → Prog S ε α
  | done value, _ => done value
  | raise error, recover => recover error
  | perform op next, recover => perform op fun answer => (next answer).attempt recover

@[simp] theorem pure_eq_done (value : α) : (pure value : Prog S ε α) = done value := rfl

@[simp] theorem done_bind (value : α) (rest : α → Prog S ε β) :
    (done value >>= rest) = rest value := rfl

@[simp] theorem raise_bind (error : ε) (rest : α → Prog S ε β) :
    ((raise error : Prog S ε α) >>= rest) = raise error := rfl

@[simp] theorem perform_bind (op : S.Op) (next : Except ε (S.Answer op) → Prog S ε α)
    (rest : α → Prog S ε β) :
    (perform op next >>= rest) = perform op fun answer => next answer >>= rest := rfl

theorem call_bind (op : S.Op) (rest : S.Answer op → Prog S ε β) :
    ((call op : Prog S ε _) >>= rest) =
      perform op fun answer =>
        match answer with
        | .ok value => rest value
        | .error error => raise error := by
  simp only [call, perform_bind]
  congr
  funext answer
  cases answer <;> rfl

theorem bind_assoc (program : Prog S ε α) (second : α → Prog S ε β) (third : β → Prog S ε γ) :
    (program >>= second >>= third) = program >>= fun value => second value >>= third := by
  induction program with
  | done value => rfl
  | raise error => rfl
  | perform op next ih =>
      simp only [perform_bind]
      congr
      funext answer
      exact ih answer

/-- A handler answers an operation, possibly with an error, and moves the state on. -/
abbrev Handler (S : Signature) (ε σ : Type) :=
  (op : S.Op) → σ → Except ε (S.Answer op) × σ

def run (handler : Handler S ε σ) : Prog S ε α → σ → Except ε α × σ
  | done value, state => (.ok value, state)
  | raise error, state => (.error error, state)
  | perform op next, state => (next (handler op state).1).run handler (handler op state).2

variable (handler : Handler S ε σ)

@[simp] theorem run_done (value : α) (state : σ) :
    (done value : Prog S ε α).run handler state = (.ok value, state) := rfl

@[simp] theorem run_raise (error : ε) (state : σ) :
    (raise error : Prog S ε α).run handler state = (.error error, state) := rfl

@[simp] theorem run_call (op : S.Op) (state : σ) :
    (call op : Prog S ε _).run handler state = handler op state := by
  simp only [call, run]
  rcases handler op state with ⟨answer, after⟩
  cases answer <;> rfl

theorem run_bind (program : Prog S ε α) (rest : α → Prog S ε β) (state : σ) :
    (program >>= rest).run handler state =
      match program.run handler state with
      | (.ok value, after) => (rest value).run handler after
      | (.error error, after) => (.error error, after) := by
  induction program generalizing state with
  | done value => rfl
  | raise error => rfl
  | perform op next ih => simp only [perform_bind, run, ih]

theorem run_attempt (program : Prog S ε α) (recover : ε → Prog S ε α) (state : σ) :
    (program.attempt recover).run handler state =
      match program.run handler state with
      | (.ok value, after) => (.ok value, after)
      | (.error error, after) => (recover error).run handler after := by
  induction program generalizing state with
  | done value => rfl
  | raise error => rfl
  | perform op next ih => simp only [attempt, run, ih]

theorem run_bind_ok {program : Prog S ε α} {rest : α → Prog S ε β} {state after : σ} {value : α}
    (answered : program.run handler state = (.ok value, after)) :
    (program >>= rest).run handler state = (rest value).run handler after := by
  rw [run_bind, answered]

end Prog

end EffectProgram
