import UssdGateway.Library.EffectRules

/-!
Two runs of two programs under one handler. From related states they end in related states, and
either both answer, with related values, or both fail.
-/

namespace EffectProgram

namespace Prog

variable {S : Signature} {ε α β γ δ σ : Type}

def BothAnswer (same : α → β → Prop) : Except ε α → Except ε β → Prop
  | .ok value, .ok other => same value other
  | .error _, .error _ => True
  | _, _ => False

theorem BothAnswer.mono {one : Except ε α} {two : Except ε β} {same alike : α → β → Prop}
    (answered : BothAnswer same one two)
    (weaker : ∀ value other, same value other → alike value other) :
    BothAnswer alike one two := by
  rcases one with error | value <;> rcases two with error' | value'
  · trivial
  · exact answered
  · exact answered
  · exact weaker value value' answered

section

variable (handler : Handler S ε σ) (rel : σ → σ → Prop)

def InStep (first : Prog S ε α) (second : Prog S ε β) (same : α → β → Prop) : Prop :=
  ∀ state other, rel state other →
    rel (first.run handler state).2 (second.run handler other).2 ∧
      BothAnswer same (first.run handler state).1 (second.run handler other).1

end

variable {handler : Handler S ε σ} {rel : σ → σ → Prop}

theorem InStep.done {same : α → β → Prop} {value : α} {other : β} (related : same value other) :
    InStep handler rel (done value) (done other) same := fun _ _ kept => ⟨kept, related⟩

theorem InStep.raise {same : α → β → Prop} (error other : ε) :
    InStep handler rel (raise error) (raise other) same := fun _ _ kept => ⟨kept, trivial⟩

theorem InStep.call {op other : S.Op} {same : S.Answer op → S.Answer other → Prop}
    (performed : ∀ state state', rel state state' →
      rel (handler op state).2 (handler other state').2 ∧
        BothAnswer same (handler op state).1 (handler other state').1) :
    InStep handler rel (call op) (call other) same := by
  intro state state' related
  rw [run_call, run_call]
  exact performed state state' related

theorem InStep.bind {first : Prog S ε α} {second : Prog S ε β} {same : α → β → Prop}
    {rest : α → Prog S ε γ} {more : β → Prog S ε δ} {alike : γ → δ → Prop}
    (before : InStep handler rel first second same)
    (after : ∀ value other, same value other → InStep handler rel (rest value) (more other) alike) :
    InStep handler rel (first >>= rest) (second >>= more) alike := by
  intro state other related
  obtain ⟨kept, answered⟩ := before state other related
  rw [run_bind, run_bind]
  rcases one : first.run handler state with ⟨error | value, middle⟩ <;>
    rcases two : second.run handler other with ⟨error' | value', middle'⟩ <;>
    rw [one, two] at kept answered
  · exact ⟨kept, trivial⟩
  · cases answered
  · cases answered
  · exact after value value' answered _ _ kept

theorem InStep.mono {first : Prog S ε α} {second : Prog S ε β} {same alike : α → β → Prop}
    (before : InStep handler rel first second same)
    (weaker : ∀ value other, same value other → alike value other) :
    InStep handler rel first second alike := by
  intro state other related
  obtain ⟨kept, answered⟩ := before state other related
  exact ⟨kept, answered.mono weaker⟩

theorem InStep.bind_same {first second : Prog S ε α} {rest : α → Prog S ε γ} {more : α → Prog S ε δ}
    {alike : γ → δ → Prop} (before : InStep handler rel first second Eq)
    (after : ∀ value, InStep handler rel (rest value) (more value) alike) :
    InStep handler rel (first >>= rest) (second >>= more) alike := by
  refine before.bind ?_
  rintro value _ rfl
  exact after value

theorem InStep.attempt {first : Prog S ε α} {second : Prog S ε β} {recover : ε → Prog S ε α}
    {repair : ε → Prog S ε β} {same : α → β → Prop} (before : InStep handler rel first second same)
    (after : ∀ error other, InStep handler rel (recover error) (repair other) same) :
    InStep handler rel (first.attempt recover) (second.attempt repair) same := by
  intro state other related
  obtain ⟨kept, answered⟩ := before state other related
  rw [run_attempt, run_attempt]
  rcases one : first.run handler state with ⟨error | value, middle⟩ <;>
    rcases two : second.run handler other with ⟨error' | value', middle'⟩ <;>
    rw [one, two] at kept answered
  · exact after error error' _ _ kept
  · cases answered
  · cases answered
  · exact ⟨kept, answered⟩

theorem Uses.alike {allowed : S.Op → Prop} {program : Prog S ε α} (uses : program.Uses allowed)
    (performed : ∀ op state other, allowed op → rel state other →
      (handler op state).1 = (handler op other).1 ∧ rel (handler op state).2 (handler op other).2) :
    InStep handler rel program program Eq := by
  intro state other related
  obtain ⟨same, kept⟩ := run_related performed uses related
  refine ⟨kept, ?_⟩
  rw [same]
  rcases (program.run handler other).1 with error | value
  · trivial
  · rfl

theorem InStep.kept {first : Prog S ε α} {second : Prog S ε β} {same : α → β → Prop}
    (alike : InStep handler rel first second same) {state other : σ} (related : rel state other) :
    rel (first.run handler state).2 (second.run handler other).2 :=
  (alike state other related).1

theorem InStep.answered {first : Prog S ε α} {second : Prog S ε β} {same : α → β → Prop}
    (alike : InStep handler rel first second same) {state other : σ} (related : rel state other) :
    BothAnswer same (first.run handler state).1 (second.run handler other).1 :=
  (alike state other related).2

-- From here on only the rules look inside.
attribute [irreducible] InStep

end Prog

end EffectProgram
