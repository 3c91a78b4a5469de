import UssdGateway.Library.EffectRules
import UssdGateway.Library.Transition

/-!
Workers that run their programs over one shared state, one operation at a time and in any order.
What an answer taught a worker stays with it, and its later operations may rely on it.
-/

namespace EffectProgram

structure Worker (S : Signature) (ε κ φ : Type) where
  caller : κ
  left : Prog S ε Unit
  learnt : List φ

structure Workshop (S : Signature) (ε κ φ σ : Type) where
  shared : σ
  workers : List (Worker S ε κ φ)

inductive WorkEvent (κ τ δ : Type) where
  | starts (caller : κ) (task : τ)
  | runs (number : Nat)
  | changes (change : δ)

structure Trade (S : Signature) (ε κ φ σ τ δ : Type) where
  handler : Prog.Handler S ε σ
  program : κ → τ → Prog S ε Unit
  teaches : (op : S.Op) → Except ε (S.Answer op) → List φ
  change : δ → σ → σ

section

variable {S : Signature} {ε κ φ σ τ δ : Type} (trade : Trade S ε κ φ σ τ δ)

def Workshop.step (shop : Workshop S ε κ φ σ) : WorkEvent κ τ δ → Option (Workshop S ε κ φ σ)
  | .starts caller task =>
      some { shop with workers := shop.workers ++ [⟨caller, trade.program caller task, []⟩] }
  | .runs number =>
      (shop.workers[number]?).bind fun worker =>
        match worker.left with
        | .perform op next =>
            let answered := trade.handler op shop.shared
            some
              { shared := answered.2
                workers := shop.workers.set number
                  { worker with
                    left := next answered.1
                    learnt := worker.learnt ++ trade.teaches op answered.1 } }
        | _ => none
  | .changes change => some { shop with shared := trade.change change shop.shared }

def workshops (initial : σ → Prop) : StepSystem (Workshop S ε κ φ σ) (WorkEvent κ τ δ) where
  initial shop := initial shop.shared ∧ shop.workers = []
  step shop event := shop.step trade event

end

/-! Programs that perform an operation only where what they have learnt justifies it. -/

namespace Prog

variable {S : Signature} {ε α β φ : Type}

section

variable (teaches : (op : S.Op) → Except ε (S.Answer op) → List φ)
  (may : List φ → S.Op → Prop) (answers : α → Prop)

/-- The program also finishes with such a value, if with any. -/
def Justified : Prog S ε α → List φ → Prop
  | done value, _ => answers value
  | raise _, _ => True
  | perform op next, learnt =>
      may learnt op ∧ ∀ answer, (next answer).Justified (learnt ++ teaches op answer)

end

variable {teaches : (op : S.Op) → Except ε (S.Answer op) → List φ}
  {may : List φ → S.Op → Prop} {answers : α → Prop} {post : β → Prop} {learnt : List φ}

theorem justified_done {value : α} (answered : answers value) :
    (done value : Prog S ε α).Justified teaches may answers learnt :=
  answered

theorem justified_raise (error : ε) :
    (raise error : Prog S ε α).Justified teaches may answers learnt :=
  trivial

theorem justified_perform_iff {op : S.Op} {next : Except ε (S.Answer op) → Prog S ε α} :
    (perform op next).Justified teaches may answers learnt ↔ may learnt op ∧
      ∀ answer, (next answer).Justified teaches may answers (learnt ++ teaches op answer) :=
  Iff.rfl

theorem justified_call {op : S.Op} {answers : S.Answer op → Prop} (permitted : may learnt op)
    (all : ∀ value, answers value) :
    (call op : Prog S ε _).Justified teaches may answers learnt := by
  refine ⟨permitted, fun answer => ?_⟩
  cases answer with
  | ok value => exact all value
  | error error => trivial

theorem Justified.bind_call {op : S.Op} {rest : S.Answer op → Prog S ε β}
    (permitted : may learnt op)
    (later : ∀ value,
      (rest value).Justified teaches may post (learnt ++ teaches op (.ok value))) :
    ((call op : Prog S ε _) >>= rest).Justified teaches may post learnt := by
  rw [call_bind]
  refine ⟨permitted, fun answer => ?_⟩
  cases answer with
  | ok value => exact later value
  | error error => exact justified_raise error

theorem Justified.bind {program : Prog S ε α} {rest : α → Prog S ε β}
    (first : program.Justified teaches may answers learnt)
    (second : ∀ value more, answers value →
      (rest value).Justified teaches may post (learnt ++ more)) :
    (program >>= rest).Justified teaches may post learnt := by
  induction program generalizing learnt with
  | done value =>
      have alone := second value [] first
      rw [List.append_nil] at alone
      exact alone
  | raise error => exact justified_raise error
  | perform op next ih =>
      refine ⟨first.1, fun answer => ih answer (first.2 answer) ?_⟩
      intro value more answered
      rw [List.append_assoc]
      exact second value _ answered

-- From here on only the rules look inside.
attribute [irreducible] Justified

end Prog

section

variable {S : Signature} {ε κ φ σ τ δ : Type} {trade : Trade S ε κ φ σ τ δ}

/-- An operation that is permitted to its caller keeps the invariant, all that anybody has learnt,
and what it teaches is true. -/
structure Trade.Sound (trade : Trade S ε κ φ σ τ δ) (may : κ → List φ → S.Op → Prop)
    (Inv : σ → Prop) (Holds : φ → σ → Prop) : Prop where
  operation : ∀ caller learnt op state, Inv state → (∀ fact ∈ learnt, Holds fact state) →
    may caller learnt op → Inv (trade.handler op state).2 ∧
      ∀ fact ∈ trade.teaches op (trade.handler op state).1, Holds fact (trade.handler op state).2
  remembered : ∀ op state fact, Holds fact state → Holds fact (trade.handler op state).2
  change : ∀ change state, Inv state → Inv (trade.change change state) ∧
    ∀ fact, Holds fact state → Holds fact (trade.change change state)
  program : ∀ caller task, (trade.program caller task).Justified trade.teaches (may caller)
    (fun _ => True) []

structure Workshop.Sound (trade : Trade S ε κ φ σ τ δ) (may : κ → List φ → S.Op → Prop)
    (Inv : σ → Prop) (Holds : φ → σ → Prop) (shop : Workshop S ε κ φ σ) : Prop where
  shared : Inv shop.shared
  learnt : ∀ worker ∈ shop.workers, ∀ fact ∈ worker.learnt, Holds fact shop.shared
  justified : ∀ worker ∈ shop.workers,
    worker.left.Justified trade.teaches (may worker.caller) (fun _ => True) worker.learnt

variable {may : κ → List φ → S.Op → Prop} {Inv : σ → Prop} {Holds : φ → σ → Prop}
  {shop after : Workshop S ε κ φ σ}

theorem runs_eq_some_iff {number : Nat} :
    shop.step trade (.runs number) = some after ↔
      ∃ worker op next, shop.workers[number]? = some worker ∧ worker.left = .perform op next ∧
        after =
          { shared := (trade.handler op shop.shared).2
            workers := shop.workers.set number
              { worker with
                left := next (trade.handler op shop.shared).1
                learnt := worker.learnt ++
                  trade.teaches op (trade.handler op shop.shared).1 } } := by
  simp only [Workshop.step, Option.bind_eq_some_iff]
  constructor
  · rintro ⟨worker, working, moved⟩
    rcases left : worker.left with value | error | ⟨op, next⟩
    · rw [left] at moved
      cases moved
    · rw [left] at moved
      cases moved
    · rw [left] at moved
      exact ⟨worker, op, next, working, left, (Option.some.inj moved).symm⟩
  · rintro ⟨worker, op, next, working, left, rfl⟩
    refine ⟨worker, working, ?_⟩
    rw [left]

/-- A worker that runs on while the others stand still does what its program does in one go. -/
theorem runs_on {initial : σ → Prop} {program : Prog S ε Unit} {number : Nat} {caller : κ}
    {learnt : List φ} (working : shop.workers[number]? = some ⟨caller, program, learnt⟩) :
    ∃ count after, (workshops trade initial).run shop (List.replicate count (.runs number)) =
        some after ∧ after.shared = (program.run trade.handler shop.shared).2 := by
  induction program generalizing shop learnt with
  | done | raise => exact ⟨0, shop, rfl, rfl⟩
  | perform op next ih =>
      let answered := trade.handler op shop.shared
      let middle : Workshop S ε κ φ σ :=
        { shared := answered.2
          workers := shop.workers.set number
            ⟨caller, next answered.1, learnt ++ trade.teaches op answered.1⟩ }
      have stepped : shop.step trade (.runs number) = some middle :=
        runs_eq_some_iff.2 ⟨_, op, next, working, rfl, rfl⟩
      have onwards : middle.workers[number]? =
          some ⟨caller, next answered.1, learnt ++ trade.teaches op answered.1⟩ :=
        List.getElem?_set_self (List.getElem?_eq_some_iff.1 working).1
      obtain ⟨count, after, ran, same⟩ := ih answered.1 onwards
      refine ⟨count + 1, after, ?_, same⟩
      rw [List.replicate_succ, StepSystem.run]
      exact Option.bind_eq_some_iff.2 ⟨middle, stepped, ran⟩

theorem run_alone {initial : σ → Prop} (shop : Workshop S ε κ φ σ) (caller : κ) (task : τ) :
    ∃ count after, (workshops trade initial).run shop
        (.starts caller task :: List.replicate count (.runs shop.workers.length)) = some after ∧
      after.shared = ((trade.program caller task).run trade.handler shop.shared).2 := by
  let started : Workshop S ε κ φ σ :=
    { shop with workers := shop.workers ++ [⟨caller, trade.program caller task, []⟩] }
  have working : started.workers[shop.workers.length]? =
      some ⟨caller, trade.program caller task, []⟩ :=
    List.getElem?_concat_length
  obtain ⟨count, after, ran, same⟩ := @runs_on _ _ _ _ _ _ _ trade _ initial _ _ _ _ working
  exact ⟨count, after, ran, same⟩

theorem Workshop.Sound.runs (sound : shop.Sound trade may Inv Holds)
    (rules : trade.Sound may Inv Holds) {number : Nat}
    (stepped : shop.step trade (.runs number) = some after) :
    after.Sound trade may Inv Holds := by
  obtain ⟨worker, op, next, working, left, rfl⟩ := runs_eq_some_iff.1 stepped
  have member : worker ∈ shop.workers := List.mem_of_getElem? working
  have justified := sound.justified worker member
  rw [left, Prog.justified_perform_iff] at justified
  obtain ⟨kept, taught⟩ := rules.operation worker.caller worker.learnt op shop.shared sound.shared
    (sound.learnt worker member) justified.1
  refine ⟨kept, ?_, ?_⟩
  · intro other atWork fact known
    rcases List.mem_or_eq_of_mem_set atWork with old | rfl
    · exact rules.remembered op _ fact (sound.learnt other old fact known)
    · rcases List.mem_append.1 known with before | now
      · exact rules.remembered op _ fact (sound.learnt worker member fact before)
      · exact taught fact now
  · intro other atWork
    rcases List.mem_or_eq_of_mem_set atWork with old | rfl
    · exact sound.justified other old
    · exact justified.2 _

theorem Workshop.Sound.step (sound : shop.Sound trade may Inv Holds)
    (rules : trade.Sound may Inv Holds) {event : WorkEvent κ τ δ}
    (stepped : shop.step trade event = some after) : after.Sound trade may Inv Holds := by
  cases event with
  | starts caller task =>
      obtain rfl := Option.some.inj stepped
      refine ⟨sound.shared, ?_, ?_⟩
      · intro worker atWork
        rcases List.mem_append.1 atWork with old | fresh
        · exact sound.learnt worker old
        · obtain rfl := List.mem_singleton.1 fresh
          exact fun fact known => absurd known List.not_mem_nil
      · intro worker atWork
        rcases List.mem_append.1 atWork with old | fresh
        · exact sound.justified worker old
        · obtain rfl := List.mem_singleton.1 fresh
          exact rules.program caller task
  | runs number => exact sound.runs rules stepped
  | changes change =>
      obtain rfl := Option.some.inj stepped
      obtain ⟨kept, remembered⟩ := rules.change change shop.shared sound.shared
      exact ⟨kept, fun worker atWork fact known =>
        remembered fact (sound.learnt worker atWork fact known), sound.justified⟩

theorem sound_of_reachable {initial : σ → Prop} (rules : trade.Sound may Inv Holds)
    (starts : ∀ state, initial state → Inv state)
    (reached : (workshops trade initial).Reachable shop) : shop.Sound trade may Inv Holds := by
  refine StepSystem.Reachable.invariant ?_ ?_ reached
  · rintro shop ⟨fresh, idle⟩
    refine ⟨starts shop.shared fresh, ?_, ?_⟩ <;>
    · intro worker atWork
      rw [idle] at atWork
      exact absurd atWork List.not_mem_nil
  · exact fun shop event after sound stepped => sound.step rules stepped

end

end EffectProgram
