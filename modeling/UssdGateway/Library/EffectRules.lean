import UssdGateway.Library.Effects

/-!
Rules for runs of programs: what a run keeps, whatever the handler answers, and what two runs of
one program have in common.
-/

namespace EffectProgram

namespace Prog

variable {S : Signature} {ε α β σ τ : Type}

section

variable (handler : Handler S ε σ) (Inv : σ → Prop)

/-- From a state of the invariant the program ends in one, and it answers only such values. -/
def Keeps (program : Prog S ε α) (answers : α → Prop) : Prop :=
  ∀ state, Inv state → Inv (program.run handler state).2 ∧
    ∀ value, (program.run handler state).1 = .ok value → answers value

end

section

variable {handler : Handler S ε σ} {Inv : σ → Prop} {answers : α → Prop}

theorem Keeps.done {value : α} (answered : answers value) :
    Keeps handler Inv (done value) answers := by
  intro state inv
  refine ⟨inv, ?_⟩
  rintro other same
  rw [← Except.ok.inj same]
  exact answered

theorem Keeps.raise (error : ε) : Keeps handler Inv (raise error) answers := by
  intro state inv
  refine ⟨inv, ?_⟩
  intro value answered
  cases answered

theorem Keeps.call {op : S.Op} {answers : S.Answer op → Prop}
    (kept : ∀ state, Inv state → Inv (handler op state).2 ∧
      ∀ value, (handler op state).1 = .ok value → answers value) :
    Keeps handler Inv (call op) answers := by
  intro state inv
  rw [run_call]
  exact kept state inv

theorem Keeps.bind {program : Prog S ε α} {rest : α → Prog S ε β} {post : β → Prop}
    (first : Keeps handler Inv program answers)
    (second : ∀ value, answers value → Keeps handler Inv (rest value) post) :
    Keeps handler Inv (program >>= rest) post := by
  intro state inv
  obtain ⟨kept, answered⟩ := first state inv
  rw [run_bind]
  rcases ran : program.run handler state with ⟨answer, after⟩
  rw [ran] at kept answered
  cases answer with
  | ok value => exact second value (answered value rfl) after kept
  | error error =>
      refine ⟨kept, ?_⟩
      intro value impossible
      cases impossible

theorem Keeps.attempt {program : Prog S ε α} {recover : ε → Prog S ε α}
    (first : Keeps handler Inv program answers)
    (second : ∀ error, Keeps handler Inv (recover error) answers) :
    Keeps handler Inv (program.attempt recover) answers := by
  intro state inv
  obtain ⟨kept, answered⟩ := first state inv
  rw [run_attempt]
  rcases ran : program.run handler state with ⟨answer, after⟩
  rw [ran] at kept answered
  cases answer with
  | ok value => exact ⟨kept, answered⟩
  | error error => exact second error after kept

end

/-- Whatever it is answered, the program performs only such operations. -/
def Uses (allowed : S.Op → Prop) : Prog S ε α → Prop
  | done _ => True
  | raise _ => True
  | perform op next => allowed op ∧ ∀ answer, (next answer).Uses allowed

section

variable {allowed : S.Op → Prop}

theorem uses_done (value : α) : (done value : Prog S ε α).Uses allowed := trivial

theorem uses_raise (error : ε) : (raise error : Prog S ε α).Uses allowed := trivial

theorem uses_perform_iff {op : S.Op} {next : Except ε (S.Answer op) → Prog S ε α} :
    (perform op next).Uses allowed ↔ allowed op ∧ ∀ answer, (next answer).Uses allowed := Iff.rfl

theorem uses_call {op : S.Op} (permitted : allowed op) :
    (call op : Prog S ε _).Uses allowed := by
  refine ⟨permitted, ?_⟩
  intro answer
  cases answer <;> trivial

theorem Uses.bind {program : Prog S ε α} {rest : α → Prog S ε β}
    (first : program.Uses allowed) (second : ∀ value, (rest value).Uses allowed) :
    (program >>= rest).Uses allowed := by
  induction program with
  | done value => exact second value
  | raise error => trivial
  | perform op next ih =>
      rw [perform_bind]
      exact ⟨first.1, fun answer => ih answer (first.2 answer)⟩

theorem Uses.attempt {program : Prog S ε α} {recover : ε → Prog S ε α}
    (first : program.Uses allowed) (second : ∀ error, (recover error).Uses allowed) :
    (program.attempt recover).Uses allowed := by
  induction program with
  | done value => trivial
  | raise error => exact second error
  | perform op next ih => exact ⟨first.1, fun answer => ih answer (first.2 answer)⟩

theorem run_keeps {handler : Handler S ε σ} {Inv : σ → Prop}
    (kept : ∀ op state, Inv state → Inv (handler op state).2) (program : Prog S ε α) {state : σ}
    (inv : Inv state) : Inv (program.run handler state).2 := by
  induction program generalizing state with
  | done value => exact inv
  | raise error => exact inv
  | perform op next ih => exact ih _ (kept op state inv)

/-- Two handlers that answer the operations of a program alike from related states, and keep the
states related, run it to the same answer and to related states. -/
theorem run_related {first : Handler S ε σ} {second : Handler S ε τ} {rel : σ → τ → Prop}
    (alike : ∀ op state other, allowed op → rel state other →
      (first op state).1 = (second op other).1 ∧ rel (first op state).2 (second op other).2)
    {program : Prog S ε α} (uses : program.Uses allowed) {state : σ} {other : τ}
    (related : rel state other) :
    (program.run first state).1 = (program.run second other).1 ∧
      rel (program.run first state).2 (program.run second other).2 := by
  induction program generalizing state other with
  | done value => exact ⟨rfl, related⟩
  | raise error => exact ⟨rfl, related⟩
  | perform op next ih =>
      obtain ⟨same, kept⟩ := alike op state other uses.1 related
      simp only [run]
      rw [same]
      exact ih _ (uses.2 _) kept

theorem Uses.run_keeps {handler : Handler S ε σ} {Inv : σ → Prop}
    (kept : ∀ op state, allowed op → Inv state → Inv (handler op state).2)
    {program : Prog S ε α} (uses : program.Uses allowed) {state : σ} (inv : Inv state) :
    Inv (program.run handler state).2 := by
  induction program generalizing state with
  | done value => exact inv
  | raise error => exact inv
  | perform op next ih => exact ih _ (uses.2 _) (kept op state uses.1 inv)

-- From here on only the rules look inside.
attribute [irreducible] Uses

end

end Prog

end EffectProgram
