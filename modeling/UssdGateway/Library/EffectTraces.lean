import UssdGateway.Library.EffectRules

/-!
Programs one operation at a time: what was performed so far and what is left, which values a
program finishes with, and which operations it cannot finish without.
-/

namespace EffectProgram

namespace Prog

variable {S : Signature} {ε α β : Type}

abbrev Performed (S : Signature) (ε : Type) := (op : S.Op) × Except ε (S.Answer op)

def Succeeded (performed : Performed S ε) : Prop := ∃ value, performed.2 = .ok value

def isEnded : Prog S ε α → Bool
  | perform _ _ => false
  | _ => true

@[simp] theorem isEnded_perform (op : S.Op) (next : Except ε (S.Answer op) → Prog S ε α) :
    (perform op next).isEnded = false := rfl

inductive Leaves : Prog S ε α → List (Performed S ε) → Prog S ε α → Prop where
  | nil (program : Prog S ε α) : Leaves program [] program
  | cons {op : S.Op} {next : Except ε (S.Answer op) → Prog S ε α}
      {answer : Except ε (S.Answer op)} {performed : List (Performed S ε)} {left : Prog S ε α} :
      Leaves (next answer) performed left →
      Leaves (perform op next) (⟨op, answer⟩ :: performed) left

theorem Leaves.snoc {program : Prog S ε α} {performed : List (Performed S ε)} {op : S.Op}
    {next : Except ε (S.Answer op) → Prog S ε α} (answer : Except ε (S.Answer op))
    (leaves : Leaves program performed (perform op next)) :
    Leaves program (performed ++ [⟨op, answer⟩]) (next answer) := by
  generalize left : perform op next = rest at leaves
  induction leaves with
  | nil program =>
      subst left
      exact .cons (.nil _)
  | cons _ ih => exact .cons (ih left)

def Continues (later earlier : Prog S ε α) : Prop :=
  ∃ op next answer, earlier = perform op next ∧ later = next answer

theorem continues_wellFounded : WellFounded (Continues (S := S) (ε := ε) (α := α)) := by
  refine ⟨fun program => ?_⟩
  induction program with
  | done value => exact ⟨_, by rintro later ⟨op, next, answer, ⟨⟩, _⟩⟩
  | raise error => exact ⟨_, by rintro later ⟨op, next, answer, ⟨⟩, _⟩⟩
  | perform op next ih =>
      refine ⟨_, ?_⟩
      rintro later ⟨_, _, answer, ⟨⟩, rfl⟩
      exact ih answer

/-- Whatever it is answered, the program finishes with such a value if with any. -/
def Answers (answers : α → Prop) : Prog S ε α → Prop
  | done value => answers value
  | raise _ => True
  | perform _ next => ∀ answer, (next answer).Answers answers

section

variable {answers : α → Prop} {allowed : S.Op → Prop}

theorem answers_of_all {program : Prog S ε α} (all : ∀ value, answers value) :
    program.Answers answers := by
  induction program with
  | done value => exact all value
  | raise error => trivial
  | perform op next ih => exact ih

theorem Answers.bind {program : Prog S ε α} {rest : α → Prog S ε β} {post : β → Prop}
    (first : program.Answers answers)
    (second : ∀ value, answers value → (rest value).Answers post) :
    (program >>= rest).Answers post := by
  induction program with
  | done value => exact second value first
  | raise error => trivial
  | perform op next ih => exact fun answer => ih answer (first answer)

theorem Uses.bind_answers {program : Prog S ε α} {rest : α → Prog S ε β}
    (uses : program.Uses allowed) (first : program.Answers answers)
    (second : ∀ value, answers value → (rest value).Uses allowed) :
    (program >>= rest).Uses allowed := by
  induction program with
  | done value => exact second value first
  | raise error => exact uses_raise error
  | perform op next ih =>
      obtain ⟨permitted, later⟩ := uses_perform_iff.1 uses
      exact uses_perform_iff.2 ⟨permitted, fun answer => ih answer (later answer) (first answer)⟩

end

def Yields (answers : α → Prop) : Prog S ε α → Prop
  | done value => answers value
  | raise _ => False
  | perform _ next => ∀ value, (next (.ok value)).Yields answers

/-- The program then cannot end without such an operation. -/
def Does (wanted : S.Op → Prop) : Prog S ε α → Prop
  | done _ => False
  | raise _ => False
  | perform op next => wanted op ∨ ∀ value, (next (.ok value)).Does wanted

section

variable {answers : α → Prop} {wanted : S.Op → Prop}

theorem yields_done {value : α} (answered : answers value) :
    (done value : Prog S ε α).Yields answers := answered

theorem yields_call (op : S.Op) : (call op : Prog S ε _).Yields fun _ => True :=
  fun _ => trivial

theorem Yields.bind {program : Prog S ε α} {rest : α → Prog S ε β} {post : β → Prop}
    (first : program.Yields answers)
    (second : ∀ value, answers value → (rest value).Yields post) :
    (program >>= rest).Yields post := by
  induction program with
  | done value => exact second value first
  | raise error => exact first.elim
  | perform op next ih => exact fun value => ih _ (first value)

theorem Yields.attempt {program : Prog S ε α} {recover : ε → Prog S ε α}
    (first : program.Yields answers) : (program.attempt recover).Yields answers := by
  induction program with
  | done value => exact first
  | raise error => exact first.elim
  | perform op next ih => exact fun value => ih _ (first value)

theorem does_call {op : S.Op} (done : wanted op) : (call op : Prog S ε _).Does wanted :=
  .inl done

theorem Does.before {program : Prog S ε α} {rest : α → Prog S ε β} (first : program.Does wanted) :
    (program >>= rest).Does wanted := by
  induction program with
  | done value => exact first.elim
  | raise error => exact first.elim
  | perform op next ih => exact first.imp_right fun later value => ih _ (later value)

theorem Does.after {program : Prog S ε α} {rest : α → Prog S ε β} (first : program.Yields answers)
    (second : ∀ value, answers value → (rest value).Does wanted) :
    (program >>= rest).Does wanted := by
  induction program with
  | done value => exact second value first
  | raise error => exact first.elim
  | perform op next ih => exact .inr fun value => ih _ (first value)

theorem Does.attempt {program : Prog S ε α} {recover : ε → Prog S ε α}
    (first : program.Does wanted) : (program.attempt recover).Does wanted := by
  induction program with
  | done value => exact first.elim
  | raise error => exact first.elim
  | perform op next ih => exact first.imp_right fun later value => ih _ (later value)

theorem Leaves.does {program left : Prog S ε α} {performed : List (Performed S ε)}
    (leaves : Leaves program performed left) (ended : left.isEnded)
    (succeeded : ∀ step ∈ performed, Succeeded step) (does : program.Does wanted) :
    ∃ step ∈ performed, wanted step.1 := by
  induction leaves with
  | nil program =>
      cases program with
      | perform op next => cases ended
      | _ => exact does.elim
  | @cons op next answer performed left _ ih =>
      rcases does with here | later
      · exact ⟨_, List.mem_cons_self, here⟩
      · obtain ⟨value, answered⟩ := succeeded ⟨op, answer⟩ List.mem_cons_self
        have continued : (next answer).Does wanted := by
          rw [show answer = .ok value from answered]
          exact later value
        obtain ⟨step, member, found⟩ :=
          ih ended (fun step member => succeeded step (List.mem_cons_of_mem _ member)) continued
        exact ⟨step, List.mem_cons_of_mem _ member, found⟩

end

/-- Some of them lead the program to such an operation. -/
def May (possible : (op : S.Op) → S.Answer op → Prop) (wanted : S.Op → Prop) : Prog S ε α → Prop
  | done _ => False
  | raise _ => False
  | perform op next =>
      wanted op ∨ ∃ value, possible op value ∧ (next (.ok value)).May possible wanted

section

variable {possible : (op : S.Op) → S.Answer op → Prop} {wanted : S.Op → Prop}

theorem may_call {op : S.Op} (found : wanted op) :
    (call op : Prog S ε _).May possible wanted := .inl found

theorem May.answered {op : S.Op} {value : S.Answer op} (may : possible op value)
    {rest : S.Answer op → Prog S ε β} (later : (rest value).May possible wanted) :
    ((call op : Prog S ε _) >>= rest).May possible wanted := .inr ⟨value, may, later⟩

theorem May.before {program : Prog S ε α} {rest : α → Prog S ε β}
    (first : program.May possible wanted) : (program >>= rest).May possible wanted := by
  induction program with
  | done value => exact first.elim
  | raise error => exact first.elim
  | perform op next ih =>
      rcases first with here | ⟨value, may, later⟩
      · exact .inl here
      · exact .inr ⟨value, may, ih _ later⟩

theorem May.after {program : Prog S ε α} {rest : α → Prog S ε β} {answers : α → Prop}
    (answerable : program.Uses fun op => ∃ value, possible op value)
    (first : program.Yields answers)
    (second : ∀ value, answers value → (rest value).May possible wanted) :
    (program >>= rest).May possible wanted := by
  induction program with
  | done value => exact second value first
  | raise error => exact first.elim
  | perform op next ih =>
      obtain ⟨⟨value, may⟩, later⟩ := uses_perform_iff.1 answerable
      exact .inr ⟨value, may, ih _ (later _) (first value)⟩

end

end Prog

end EffectProgram
