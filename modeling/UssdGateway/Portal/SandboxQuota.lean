import UssdGateway.Portal.Shortcodes

/-!
What the sandbox quota counts. The clone of a promoted row is looked for on the placeholder
operator, by code: a promotion onto another operator is not found, and any production row with the
code is taken for one.
-/

namespace UssdGateway

namespace QuotaState

def neverPromoted (state : QuotaState) (ownerUserId : Nat) : Nat :=
  state.rows.rows.countP fun row => decide (row.ownerUserId = ownerUserId) &&
    decide (row.environment = .sandbox) && !decide (row.id ∈ state.promoted)

def selfServed (state : QuotaState) (ownerUserId : Nat) : Nat :=
  state.rows.rows.countP fun row => decide (row.ownerUserId = ownerUserId) &&
    decide (row.environment = .sandbox) && !decide (row.id ∈ state.promoted) &&
      decide (row.id ∈ state.selfService)

/-- The count is that of the rows never promoted, and the form keeps to the limit. -/
def Accounted (placeholder : Nat) (state : QuotaState) : Prop :=
  ∀ owner, state.countUnpromotedSandbox owner placeholder = state.neverPromoted owner ∧
    state.selfServed owner ≤ sandboxPerOperatorLimit

/-- A sandbox row comes to the placeholder with a code that is not live there, a promotion goes onto
the placeholder unless there was one before, and a production row comes to the placeholder with the
code of no sandbox row. -/
def Traceable (placeholder : Nat) (state : QuotaState) : QuotaEvent → Prop
  | .createSandbox _ _ form =>
      state.codeExists placeholder (JsText.trim form.code) .production = false
  | .promote id operatorId => operatorId = some (placeholder : Int) ∨ id ∈ state.promoted
  | .create write =>
      (write.environment = .sandbox → write.operatorId = placeholder ∧
        state.codeExists placeholder write.code .production = false) ∧
      (write.environment = .production → write.operatorId = placeholder →
        state.codeExists placeholder write.code .sandbox = false)

def Recorded (operators : List OperatorChoice) (placeholder : Nat) (state : QuotaState)
    (event : QuotaEvent) : Prop :=
  ∀ after, state.perform operators event = .ok after → state.Traceable placeholder event

instance {placeholder : Nat} {state : QuotaState} :
    (event : QuotaEvent) → Decidable (state.Traceable placeholder event)
  | .createSandbox _ _ _ => inferInstanceAs (Decidable (_ = _))
  | .promote _ _ => inferInstanceAs (Decidable (_ ∨ _))
  | .create _ => inferInstanceAs (Decidable ((_ → _ ∧ _) ∧ (_ → _ → _)))

instance {operators : List OperatorChoice} {placeholder : Nat} {state : QuotaState}
    {event : QuotaEvent} : Decidable (state.Recorded operators placeholder event) :=
  match done : state.perform operators event with
  | .ok _ => decidable_of_iff (state.Traceable placeholder event)
      ⟨fun traced _ _ => traced, fun recorded => recorded _ done⟩
  | .error _ => isTrue fun _ performed => nomatch done.symm.trans performed

structure Consistent (placeholder : Nat) (state : QuotaState) : Prop where
  ids : ∀ row ∈ state.rows.rows, row.id < state.nextId
  marks : ∀ id, id ∈ state.promoted ∨ id ∈ state.selfService → id < state.nextId
  codes : ∀ first ∈ state.rows.rows, ∀ second ∈ state.rows.rows,
    first.operatorId = second.operatorId → first.code = second.code →
    first.environment = second.environment → first = second
  placed : ∀ row ∈ state.rows.rows, row.environment = .sandbox → row.operatorId = placeholder
  marked : ∀ row ∈ state.rows.rows, row.environment = .sandbox →
    (row.id ∈ state.promoted ↔ state.codeExists placeholder row.code .production = true)

variable {operators : List OperatorChoice} {placeholder : Nat} {state after : QuotaState}

theorem codeExists_iff {operatorId : Nat} {code : String} {environment : ShortcodeEnvironment} :
    state.codeExists operatorId code environment = true ↔ ∃ row ∈ state.rows.rows,
      row.operatorId = operatorId ∧ row.code = code ∧ row.environment = environment := by
  simp [codeExists, and_assoc]

theorem codeExists_eq_false_iff {operatorId : Nat} {code : String}
    {environment : ShortcodeEnvironment} :
    state.codeExists operatorId code environment = false ↔ ∀ row ∈ state.rows.rows,
      row.operatorId = operatorId → row.code = code → row.environment ≠ environment := by
  simp [codeExists]

theorem Consistent.counts (consistent : state.Consistent placeholder) (owner : Nat) :
    state.countUnpromotedSandbox owner placeholder = state.neverPromoted owner := by
  rw [countUnpromotedSandbox, neverPromoted]
  apply List.countP_congr
  intro row member
  simp only [Bool.and_eq_true, decide_eq_true_eq, Bool.not_eq_true', decide_eq_false_iff_not]
  constructor
  · rintro ⟨⟨⟨own, placed⟩, sandbox⟩, unknown⟩
    refine ⟨⟨own, sandbox⟩, ?_⟩
    rw [consistent.marked row member sandbox, ← placed, unknown]
    exact Bool.false_ne_true
  · rintro ⟨⟨own, sandbox⟩, unmarked⟩
    have placed := consistent.placed row member sandbox
    rw [consistent.marked row member sandbox, Bool.not_eq_true] at unmarked
    exact ⟨⟨⟨own, placed⟩, sandbox⟩, placed ▸ unmarked⟩

theorem selfServed_le (state : QuotaState) (owner : Nat) :
    state.selfServed owner ≤ state.neverPromoted owner := by
  apply List.countP_mono_left
  intro row _ counted
  exact (Bool.and_eq_true _ _ ▸ counted).1

structure Inserted (state after : QuotaState) (write : ShortcodeWrite) : Prop where
  rows : after.rows.rows = state.rows.rows ++ [{ write with id := state.nextId }]
  nextId : after.nextId = state.nextId + 1

theorem Consistent.inserted (consistent : state.Consistent placeholder) (write : ShortcodeWrite)
    (promoted selfService : List Nat) :
    Inserted state { state.insert write with promoted, selfService } write := by
  refine ⟨?_, rfl⟩
  have unused : state.rows.find state.nextId = none := by
    rw [KeyedTable.find_eq_none_iff]
    exact fun row member => Nat.ne_of_lt (consistent.ids row member)
  change ite _ _ _ = _
  rw [if_neg]
  change ¬ (state.rows.find state.nextId).isSome = true
  rw [unused]
  exact Bool.false_ne_true

section

variable {write : ShortcodeWrite}

theorem Inserted.codeExists_iff (inserted : Inserted state after write) {operatorId : Nat}
    {code : String} {environment : ShortcodeEnvironment} :
    after.codeExists operatorId code environment = true ↔
      state.codeExists operatorId code environment = true ∨
        (write.operatorId = operatorId ∧ write.code = code ∧ write.environment = environment) := by
  rw [QuotaState.codeExists_iff, QuotaState.codeExists_iff, inserted.rows]
  simp only [List.mem_append, List.mem_singleton, or_and_right, exists_or, exists_eq_left]

theorem Inserted.sandbox (inserted : Inserted state after write)
    (consistent : state.Consistent placeholder) (sandbox : write.environment = .sandbox)
    (promoted : after.promoted = state.promoted) (owner : Nat) :
    after.neverPromoted owner =
        state.neverPromoted owner + (if write.ownerUserId = owner then 1 else 0) ∧
      after.countUnpromotedSandbox owner placeholder =
        state.countUnpromotedSandbox owner placeholder +
          if write.ownerUserId = owner ∧ write.operatorId = placeholder ∧
            state.codeExists placeholder write.code .production = false then 1 else 0 := by
  have unmarked : state.nextId ∉ state.promoted := fun marked =>
    Nat.lt_irrefl _ (consistent.marks _ (Or.inl marked))
  have live : ∀ operatorId code, after.codeExists operatorId code .production =
      state.codeExists operatorId code .production := by
    intro operatorId code
    rw [Bool.eq_iff_iff, inserted.codeExists_iff]
    simp [sandbox]
  constructor
  · rw [neverPromoted, neverPromoted, inserted.rows, promoted, List.countP_append,
      List.countP_singleton]
    simp [sandbox, unmarked]
  · rw [countUnpromotedSandbox, countUnpromotedSandbox, inserted.rows, List.countP_append,
      List.countP_singleton]
    simp only [live]
    congr 1
    by_cases placed : write.operatorId = placeholder
    · simp [sandbox, placed]
    · simp [placed]

theorem Inserted.production (inserted : Inserted state after write)
    (production : write.environment = .production) (owner : Nat) :
    after.neverPromoted owner = state.rows.rows.countP (fun row =>
        decide (row.ownerUserId = owner) && decide (row.environment = .sandbox) &&
          !decide (row.id ∈ after.promoted)) ∧
      after.countUnpromotedSandbox owner placeholder = state.rows.rows.countP fun row =>
        decide (row.ownerUserId = owner) && decide (row.operatorId = placeholder) &&
          decide (row.environment = .sandbox) && !after.codeExists row.operatorId row.code
            .production := by
  constructor
  · rw [neverPromoted, inserted.rows, List.countP_append, List.countP_singleton]
    simp [production]
  · rw [countUnpromotedSandbox, inserted.rows, List.countP_append, List.countP_singleton]
    simp [production]

theorem Inserted.selfServed_le (inserted : Inserted state after write)
    (consistent : state.Consistent placeholder) {owner : Nat}
    (promoted : ∀ id ∈ state.promoted, id ∈ after.promoted)
    (selfService : ∀ id < state.nextId, id ∈ after.selfService → id ∈ state.selfService)
    (uncounted : write.ownerUserId = owner → write.environment = .sandbox →
      state.nextId ∉ after.selfService) : after.selfServed owner ≤ state.selfServed owner := by
  rw [selfServed, selfServed, inserted.rows, List.countP_append, List.countP_singleton, if_neg]
  · apply List.countP_mono_left
    intro row member
    simp only [Bool.and_eq_true, decide_eq_true_eq, Bool.not_eq_true', decide_eq_false_iff_not]
    rintro ⟨⟨kept, unmarked⟩, served⟩
    exact ⟨⟨kept, fun marked => unmarked (promoted _ marked)⟩,
      selfService _ (consistent.ids row member) served⟩
  · simp only [Bool.and_eq_true, decide_eq_true_eq]
    rintro ⟨⟨⟨own, sandbox⟩, _⟩, served⟩
    exact uncounted own sandbox served

end

theorem createShortcode_ok {write : ShortcodeWrite}
    (done : state.createShortcode operators write = .ok after) : after = state.insert write := by
  rw [createShortcode] at done
  split at done
  next => exact (Except.ok.inj done).symm
  next => cases done

inductive Performed (placeholder : Nat) (state : QuotaState) : QuotaEvent → QuotaState → Prop where
  | sandbox {userId : Nat} {mayManageSandbox : Bool} {form : SandboxForm} :
      state.countUnpromotedSandbox userId placeholder < sandboxPerOperatorLimit →
      state.codeExists placeholder (JsText.trim form.code) .sandbox = false →
      Performed placeholder state (.createSandbox userId mayManageSandbox form)
        { state.insert (form.write placeholder userId) with
          selfService := state.nextId :: state.selfService }
  | promoted {id : Nat} {operatorId : Int} {row : PortalShortcode} : row ∈ state.rows.rows →
      row.id = id → row.environment = .sandbox → 0 < operatorId →
      state.codeExists operatorId.toNat row.code .production = false →
      Performed placeholder state (.promote id (some operatorId))
        { state.insert (row.promotion operatorId.toNat) with promoted := id :: state.promoted }
  | created {write : ShortcodeWrite} :
      state.codeExists write.operatorId write.code write.environment = false →
      Performed placeholder state (.create write) (state.insert write)

theorem performed_of_ok (chosen : defaultSandboxOperatorId operators = some placeholder)
    {event : QuotaEvent} (done : state.perform operators event = .ok after) :
    Performed placeholder state event after := by
  cases event with
  | createSandbox userId mayManageSandbox form =>
      rw [perform, actionCreateSandboxShortcode, chosen] at done
      split at done
      next => cases done
      next =>
        dsimp only at done
        split at done
        next => cases done
        next =>
          split at done
          next => cases done
          next few =>
            split at done
            next => cases done
            next unknown =>
              rcases made : state.createShortcode operators (form.write placeholder userId) with
                error | middle
              · rw [made] at done
                cases done
              · rw [made] at done
                obtain rfl := Except.ok.inj done
                rw [createShortcode_ok made]
                exact .sandbox (Nat.lt_of_not_le few) (Bool.eq_false_iff.2 unknown)
  | promote id operatorId =>
      rw [perform, actionPromoteShortcode] at done
      split at done
      next => cases done
      next row found =>
        split at done
        next => cases done
        next sandbox =>
          split at done
          next => cases done
          next operatorId positive =>
            split at done
            next => cases done
            next unknown =>
              obtain ⟨rfl, above⟩ := Option.filter_eq_some_iff.1 positive
              obtain ⟨member, named⟩ := (KeyedTable.find_eq_some_iff _ _ _).1 found
              rcases made : state.createShortcode operators (row.promotion operatorId.toNat) with
                error | middle
              · rw [made] at done
                cases done
              · rw [made] at done
                obtain rfl := Except.ok.inj done
                rw [createShortcode_ok made]
                exact .promoted member named (not_not.1 sandbox) (of_decide_eq_true above)
                  (Bool.eq_false_iff.2 unknown)
  | create write =>
      rw [perform, actionCreateShortcode] at done
      split at done
      next => cases done
      next unknown =>
        rw [createShortcode_ok done]
        exact .created (Bool.eq_false_iff.2 unknown)

theorem countP_lt_of_dropped {α : Type} {rows : List α} {p q : α → Bool}
    (narrower : ∀ row ∈ rows, p row = true → q row = true) {row : α} (member : row ∈ rows)
    (before : q row = true) (dropped : p row = false) : rows.countP p < rows.countP q := by
  obtain ⟨front, back, rfl⟩ := List.append_of_mem member
  have frontLe := List.countP_mono_left fun other inside =>
    narrower other (List.mem_append_left _ inside)
  have backLe := List.countP_mono_left fun other inside =>
    narrower other (List.mem_append_right _ (List.mem_cons_of_mem _ inside))
  rw [List.countP_append, List.countP_append, List.countP_cons_of_pos before,
    List.countP_cons_of_neg (by rw [dropped]; exact Bool.false_ne_true)]
  omega

theorem Inserted.consistent {write : ShortcodeWrite} (inserted : Inserted state after write)
    (consistent : state.Consistent placeholder)
    (free : state.codeExists write.operatorId write.code write.environment = false)
    (placed : write.environment = .sandbox → write.operatorId = placeholder)
    (marks : ∀ id, id ∈ after.promoted ∨ id ∈ after.selfService → id < after.nextId)
    (marked : ∀ row ∈ after.rows.rows, row.environment = .sandbox →
      (row.id ∈ after.promoted ↔ after.codeExists placeholder row.code .production = true)) :
    after.Consistent placeholder := by
  have apart := codeExists_eq_false_iff.1 free
  refine ⟨?_, marks, ?_, ?_, marked⟩
  · intro row member
    rw [inserted.rows] at member
    rw [inserted.nextId]
    rcases List.mem_append.1 member with before | new
    · exact Nat.lt_succ_of_lt (consistent.ids row before)
    · rw [List.mem_singleton.1 new]
      exact Nat.lt_succ_self _
  · intro first firstMember second secondMember operator code environment
    rw [inserted.rows] at firstMember secondMember
    rcases List.mem_append.1 firstMember with firstOld | firstNew
    · rcases List.mem_append.1 secondMember with secondOld | secondNew
      · exact consistent.codes first firstOld second secondOld operator code environment
      · obtain rfl := List.mem_singleton.1 secondNew
        exact absurd environment (apart first firstOld operator code)
    · obtain rfl := List.mem_singleton.1 firstNew
      rcases List.mem_append.1 secondMember with secondOld | secondNew
      · exact absurd environment.symm (apart second secondOld operator.symm code.symm)
      · exact (List.mem_singleton.1 secondNew).symm
  · intro row member sandbox
    rw [inserted.rows] at member
    rcases List.mem_append.1 member with before | new
    · exact consistent.placed row before sandbox
    · rw [List.mem_singleton.1 new] at sandbox ⊢
      exact placed sandbox

theorem Inserted.sandbox_iff {write : ShortcodeWrite} (inserted : Inserted state after write)
    (consistent : state.Consistent placeholder) (sandbox : write.environment = .sandbox)
    (promoted : after.promoted = state.promoted) :
    (∀ owner, after.countUnpromotedSandbox owner placeholder = after.neverPromoted owner) ↔
      write.operatorId = placeholder ∧
        state.codeExists placeholder write.code .production = false := by
  have counts := inserted.sandbox consistent sandbox promoted
  constructor
  · intro same
    have own := same write.ownerUserId
    rw [(counts _).1, (counts _).2, consistent.counts, if_pos rfl] at own
    by_contra traced
    rw [if_neg (fun holds => traced holds.2)] at own
    omega
  · rintro traced owner
    rw [(counts owner).1, (counts owner).2, consistent.counts]
    simp only [traced, and_true]

theorem Inserted.sandbox_consistent {write : ShortcodeWrite}
    (inserted : Inserted state after write) (consistent : state.Consistent placeholder)
    (free : state.codeExists write.operatorId write.code write.environment = false)
    (sandbox : write.environment = .sandbox) (promoted : after.promoted = state.promoted)
    (selfService : ∀ id ∈ after.selfService, id < after.nextId)
    (traced : write.operatorId = placeholder ∧
      state.codeExists placeholder write.code .production = false) :
    after.Consistent placeholder := by
  have live : ∀ code, after.codeExists placeholder code .production = true ↔
      state.codeExists placeholder code .production = true := by
    intro code
    rw [inserted.codeExists_iff]
    simp [sandbox]
  refine inserted.consistent consistent free (fun _ => traced.1) ?_ ?_
  · rintro id (marked | served)
    · rw [promoted] at marked
      rw [inserted.nextId]
      exact Nat.lt_succ_of_lt (consistent.marks id (Or.inl marked))
    · exact selfService id served
  · intro row member isSandbox
    rw [inserted.rows] at member
    rw [promoted, live]
    rcases List.mem_append.1 member with before | new
    · exact consistent.marked row before isSandbox
    · rw [List.mem_singleton.1 new]
      refine ⟨fun marked => absurd (consistent.marks _ (Or.inl marked)) (Nat.lt_irrefl _), ?_⟩
      intro exists_live
      change state.codeExists placeholder write.code .production = true at exists_live
      rw [traced.2] at exists_live
      cases exists_live

theorem Inserted.production_consistent {write : ShortcodeWrite}
    (inserted : Inserted state after write) (consistent : state.Consistent placeholder)
    (free : state.codeExists write.operatorId write.code write.environment = false)
    (production : write.environment = .production)
    (marks : ∀ id, id ∈ after.promoted ∨ id ∈ after.selfService → id < after.nextId)
    (marked : ∀ row ∈ state.rows.rows, row.environment = .sandbox →
      (row.id ∈ after.promoted ↔ state.codeExists placeholder row.code .production = true ∨
        (write.operatorId = placeholder ∧ write.code = row.code))) :
    after.Consistent placeholder := by
  refine inserted.consistent consistent free ?_ marks ?_
  · intro sandbox
    rw [production] at sandbox
    cases sandbox
  · intro row member sandbox
    rw [inserted.rows] at member
    rcases List.mem_append.1 member with before | new
    · rw [marked row before sandbox, inserted.codeExists_iff]
      simp only [production, and_true]
    · rw [List.mem_singleton.1 new, production] at sandbox
      cases sandbox

theorem Consistent.promotion_consistent (consistent : state.Consistent placeholder)
    {row : PortalShortcode} (member : row ∈ state.rows.rows) (sandbox : row.environment = .sandbox)
    {operatorId : Nat} (free : state.codeExists operatorId row.code .production = false)
    (inserted : Inserted state after (row.promotion operatorId))
    (promoted : after.promoted = row.id :: state.promoted)
    (selfService : after.selfService = state.selfService)
    (traced : operatorId = placeholder ∨ row.id ∈ state.promoted) :
    after.Consistent placeholder := by
  refine inserted.production_consistent consistent free rfl ?_ ?_
  · rw [promoted, selfService, inserted.nextId]
    rintro id (marked | served)
    · rcases List.mem_cons.1 marked with rfl | earlier
      · exact Nat.lt_succ_of_lt (consistent.ids row member)
      · exact Nat.lt_succ_of_lt (consistent.marks id (Or.inl earlier))
    · exact Nat.lt_succ_of_lt (consistent.marks id (Or.inr served))
  · intro other otherMember otherSandbox
    have same : row.code = other.code ↔ other.id = row.id := by
      constructor
      · intro code
        have operator := (consistent.placed row member sandbox).trans
          (consistent.placed other otherMember otherSandbox).symm
        rw [consistent.codes row member other otherMember operator code
          (sandbox.trans otherSandbox.symm)]
      · intro id
        rw [state.rows.eq_of_key otherMember member id]
    rw [promoted, List.mem_cons, ← consistent.marked other otherMember otherSandbox, or_comm]
    change _ ↔ _ ∨ (operatorId = placeholder ∧ row.code = other.code)
    rw [same]
    rcases traced with placed | earlier
    · rw [and_iff_right placed]
    · constructor
      · rintro (marked | id)
        · exact Or.inl marked
        · exact Or.inl (id ▸ earlier)
      · rintro (marked | ⟨_, id⟩)
        · exact Or.inl marked
        · exact Or.inr id

theorem Consistent.promotion_iff (consistent : state.Consistent placeholder)
    {row : PortalShortcode} (member : row ∈ state.rows.rows) (sandbox : row.environment = .sandbox)
    {operatorId : Nat} (free : state.codeExists operatorId row.code .production = false)
    (inserted : Inserted state after (row.promotion operatorId))
    (promoted : after.promoted = row.id :: state.promoted)
    (selfService : after.selfService = state.selfService) :
    (∀ owner, after.countUnpromotedSandbox owner placeholder = after.neverPromoted owner) ↔
      operatorId = placeholder ∨ row.id ∈ state.promoted := by
  constructor
  · intro same
    by_contra lost
    rw [not_or] at lost
    obtain ⟨never, count⟩ := @Inserted.production placeholder state after _ inserted rfl
      row.ownerUserId
    have unchanged : after.countUnpromotedSandbox row.ownerUserId placeholder =
        state.countUnpromotedSandbox row.ownerUserId placeholder := by
      rw [count, countUnpromotedSandbox]
      apply List.countP_congr
      intro other _
      simp only [Bool.and_eq_true, decide_eq_true_eq, Bool.not_eq_true', Bool.eq_false_iff, ne_eq,
        inserted.codeExists_iff, not_or]
      constructor
      · rintro ⟨kept, unknown, _⟩
        exact ⟨kept, unknown⟩
      · rintro ⟨⟨⟨own, placed⟩, isSandbox⟩, unknown⟩
        exact ⟨⟨⟨own, placed⟩, isSandbox⟩, unknown, fun clone => lost.1 (clone.1.trans placed)⟩
    have fewer : after.neverPromoted row.ownerUserId < state.neverPromoted row.ownerUserId := by
      rw [never, neverPromoted]
      refine countP_lt_of_dropped ?_ member ?_ ?_
      · intro other _
        simp only [promoted, List.mem_cons, Bool.and_eq_true, decide_eq_true_eq, Bool.not_eq_true',
          decide_eq_false_iff_not, not_or]
        rintro ⟨kept, _, unmarked⟩
        exact ⟨kept, unmarked⟩
      · simp [sandbox, lost.2]
      · simp [promoted]
    have before := consistent.counts row.ownerUserId
    have now := same row.ownerUserId
    omega
  · intro traced
    exact (consistent.promotion_consistent member sandbox free inserted promoted selfService
      traced).counts

theorem Inserted.created_consistent {write : ShortcodeWrite}
    (inserted : Inserted state after write) (consistent : state.Consistent placeholder)
    (free : state.codeExists write.operatorId write.code write.environment = false)
    (production : write.environment = .production) (promoted : after.promoted = state.promoted)
    (selfService : after.selfService = state.selfService)
    (traced : write.operatorId = placeholder →
      state.codeExists placeholder write.code .sandbox = false) :
    after.Consistent placeholder := by
  refine inserted.production_consistent consistent free production ?_ ?_
  · rw [promoted, selfService, inserted.nextId]
    exact fun id marked => Nat.lt_succ_of_lt (consistent.marks id marked)
  · intro row member sandbox
    rw [promoted, consistent.marked row member sandbox]
    refine (or_iff_left ?_).symm
    rintro ⟨placed, code⟩
    exact codeExists_eq_false_iff.1 (traced placed) row member
      (consistent.placed row member sandbox) code.symm sandbox

theorem Inserted.created_iff {write : ShortcodeWrite} (inserted : Inserted state after write)
    (consistent : state.Consistent placeholder)
    (free : state.codeExists write.operatorId write.code write.environment = false)
    (production : write.environment = .production) (promoted : after.promoted = state.promoted)
    (selfService : after.selfService = state.selfService) :
    (∀ owner, after.countUnpromotedSandbox owner placeholder = after.neverPromoted owner) ↔
      (write.operatorId = placeholder →
        state.codeExists placeholder write.code .sandbox = false) := by
  constructor
  · intro same placed
    by_contra taken
    obtain ⟨row, member, onPlaceholder, code, sandbox⟩ :=
      QuotaState.codeExists_iff.1 (Bool.not_eq_false _ ▸ taken)
    obtain ⟨never, count⟩ := @Inserted.production placeholder state after _ inserted production
      row.ownerUserId
    rw [promoted] at never
    have fewer : after.countUnpromotedSandbox row.ownerUserId placeholder <
        state.countUnpromotedSandbox row.ownerUserId placeholder := by
      rw [count, countUnpromotedSandbox]
      refine countP_lt_of_dropped ?_ member ?_ ?_
      · intro other _
        simp only [Bool.and_eq_true, decide_eq_true_eq, Bool.not_eq_true', Bool.eq_false_iff, ne_eq,
          inserted.codeExists_iff, not_or]
        rintro ⟨kept, unknown, _⟩
        exact ⟨kept, unknown⟩
      · rw [production, placed] at free
        simp [onPlaceholder, sandbox, code, free]
      · have clone : after.codeExists placeholder row.code .production = true :=
          inserted.codeExists_iff.2 (Or.inr ⟨placed, code.symm, production⟩)
        simp [onPlaceholder, clone]
    have before := consistent.counts row.ownerUserId
    have now := same row.ownerUserId
    rw [never] at now
    rw [neverPromoted] at before
    omega
  · intro traced
    exact (inserted.created_consistent consistent free production promoted selfService
      traced).counts

/-! Requests. -/

theorem Performed.selfServed_le {event : QuotaEvent}
    (performed : Performed placeholder state event after)
    (consistent : state.Consistent placeholder)
    (limited : ∀ owner, state.selfServed owner ≤ sandboxPerOperatorLimit) (owner : Nat) :
    after.selfServed owner ≤ sandboxPerOperatorLimit := by
  cases performed with
  | @sandbox userId _ form few _ =>
      have inserted := consistent.inserted (form.write placeholder userId) state.promoted
        (state.nextId :: state.selfService)
      by_cases own : userId = owner
      · have never := (inserted.sandbox consistent rfl rfl owner).1
        rw [if_pos (show (form.write placeholder userId).ownerUserId = owner from own)] at never
        rw [consistent.counts, own] at few
        exact Nat.le_trans (QuotaState.selfServed_le _ owner)
          (Nat.le_trans (Nat.le_of_eq never) few)
      · refine Nat.le_trans (inserted.selfServed_le consistent (fun _ marked => marked) ?_ ?_)
          (limited owner)
        · intro id known served
          rcases List.mem_cons.1 served with rfl | earlier
          · exact absurd known (Nat.lt_irrefl _)
          · exact earlier
        · exact fun same => absurd same own
  | @promoted id operatorId row =>
      have inserted := consistent.inserted (row.promotion operatorId.toNat) (id :: state.promoted)
        state.selfService
      exact Nat.le_trans (inserted.selfServed_le consistent
        (fun _ marked => List.mem_cons_of_mem _ marked) (fun _ _ served => served) nofun)
        (limited owner)
  | @created write =>
      have unserved : state.nextId ∉ state.selfService := fun served =>
        Nat.lt_irrefl _ (consistent.marks _ (Or.inr served))
      exact Nat.le_trans ((consistent.inserted write _ _).selfServed_le consistent
        (fun _ marked => marked) (fun _ _ served => served) (fun _ _ => unserved)) (limited owner)

theorem Performed.counts_iff {event : QuotaEvent}
    (performed : Performed placeholder state event after)
    (consistent : state.Consistent placeholder) :
    ((∀ owner, after.countUnpromotedSandbox owner placeholder = after.neverPromoted owner) ↔
      state.Traceable placeholder event) ∧
    (state.Traceable placeholder event → after.Consistent placeholder) := by
  cases performed with
  | @sandbox userId _ form _ unknown =>
      have inserted := consistent.inserted (form.write placeholder userId) state.promoted
        (state.nextId :: state.selfService)
      refine ⟨(inserted.sandbox_iff consistent rfl rfl).trans (and_iff_right rfl), fun traced => ?_⟩
      refine inserted.sandbox_consistent consistent unknown rfl rfl ?_ ⟨rfl, traced⟩
      intro id served
      rcases List.mem_cons.1 served with rfl | earlier
      · exact Nat.lt_succ_self _
      · exact Nat.lt_succ_of_lt (consistent.marks id (Or.inr earlier))
  | @promoted id operatorId row member named isSandbox positive free =>
      subst named
      have inserted := consistent.inserted (row.promotion operatorId.toNat)
        (row.id :: state.promoted) state.selfService
      have same : operatorId.toNat = placeholder ↔ some operatorId = some (placeholder : Int) := by
        rw [Option.some.injEq]
        omega
      rw [QuotaState.Traceable, ← same]
      exact ⟨consistent.promotion_iff member isSandbox free inserted rfl rfl,
        consistent.promotion_consistent member isSandbox free inserted rfl rfl⟩
  | @created write free =>
      have inserted := consistent.inserted write state.promoted state.selfService
      rcases environment : write.environment with _ | _
      · have traced : state.Traceable placeholder (.create write) ↔
            write.operatorId = placeholder ∧
              state.codeExists placeholder write.code .production = false := by
          simp [QuotaState.Traceable, environment]
        rw [traced]
        refine ⟨inserted.sandbox_iff consistent environment rfl, ?_⟩
        exact inserted.sandbox_consistent consistent free environment rfl fun id served =>
          Nat.lt_succ_of_lt (consistent.marks id (Or.inr served))
      · have traced : state.Traceable placeholder (.create write) ↔
            (write.operatorId = placeholder →
              state.codeExists placeholder write.code .sandbox = false) := by
          simp [QuotaState.Traceable, environment]
        rw [traced]
        exact ⟨inserted.created_iff consistent free environment rfl rfl,
          inserted.created_consistent consistent free environment rfl rfl⟩

theorem Consistent.accounted_iff (consistent : state.Consistent placeholder)
    (accounted : state.Accounted placeholder)
    (chosen : defaultSandboxOperatorId operators = some placeholder) (event : QuotaEvent) :
    ((∀ after, (quotaRuns operators).step state event = some after → after.Accounted placeholder) ↔
      state.Recorded operators placeholder event) ∧
    (state.Recorded operators placeholder event →
      (state.step operators event).Consistent placeholder) := by
  rcases done : state.perform operators event with error | after
  · have still : state.step operators event = state := by
      rw [QuotaState.step, done]
    have refused : state.Recorded operators placeholder event := by
      intro after performed
      rw [done] at performed
      cases performed
    refine ⟨⟨fun _ => refused, ?_⟩, fun _ => still.symm ▸ consistent⟩
    intro _ after stepped
    rw [← Option.some.inj stepped, still]
    exact accounted
  · have moved : state.step operators event = after := by
      rw [QuotaState.step, done]
    have performed := performed_of_ok chosen done
    obtain ⟨counts, keeps⟩ := performed.counts_iff consistent
    have recorded : state.Recorded operators placeholder event ↔
        state.Traceable placeholder event := by
      rw [QuotaState.Recorded, done]
      exact ⟨fun traced => traced after rfl, fun traced _ _ => traced⟩
    rw [recorded, moved]
    refine ⟨?_, keeps⟩
    rw [← counts]
    constructor
    · intro stays owner
      exact (stays after (congrArg some moved) owner).1
    · intro same other stepped owner
      rw [← Option.some.inj stepped, moved]
      exact ⟨same owner,
        performed.selfServed_le consistent (fun owner => (accounted owner).2) owner⟩

theorem Initial.consistent (initial : state.Initial) : state.Consistent placeholder := by
  obtain ⟨rows, codes, promoted, selfService⟩ := initial
  have none : ∀ row ∈ state.rows.rows, row.environment ≠ .sandbox := by
    intro row member sandbox
    rw [(rows row member).1] at sandbox
    cases sandbox
  refine ⟨fun row member => (rows row member).2, ?_, ?_, ?_, ?_⟩
  · rw [promoted, selfService]
    rintro id (marked | served)
    · cases marked
    · cases served
  · intro first firstMember second secondMember operator code _
    exact List.inj_on_of_nodup_map codes firstMember secondMember (Prod.ext operator code)
  · exact fun row member sandbox => absurd sandbox (none row member)
  · exact fun row member sandbox => absurd sandbox (none row member)

theorem Initial.limited (initial : state.Initial) (owner : Nat) :
    state.selfServed owner ≤ sandboxPerOperatorLimit := by
  have nothing : state.selfServed owner = 0 := by
    rw [selfServed, initial.2.2.2, List.countP_eq_zero]
    intro row _
    simp
  exact nothing ▸ Nat.zero_le _

end QuotaState

/-- The quota's count is that of the sandbox rows never promoted, and no owner gets more of them by
the form than the limit, all along a run exactly if its requests can be told from the table. -/
theorem sandbox_quota_iff {operators : List OperatorChoice} {placeholder : Nat}
    (chosen : defaultSandboxOperatorId operators = some placeholder) {start : QuotaState}
    (consistent : start.Consistent placeholder)
    (limited : ∀ owner, start.selfServed owner ≤ sandboxPerOperatorLimit)
    (events : List QuotaEvent) :
    (quotaRuns operators).Along (fun state event => ∀ after,
        (quotaRuns operators).step state event = some after → after.Accounted placeholder)
        start events ↔
      (quotaRuns operators).Along
        (fun state event => state.Recorded operators placeholder event) start events := by
  refine @StepSystem.along_iff_of_kept _ _ _
    (fun state => state.Consistent placeholder ∧ state.Accounted placeholder) _ _ ?_ ?_ _
    ⟨consistent, fun owner => ⟨consistent.counts owner, limited owner⟩⟩ events
  · intro state event inv
    exact (inv.1.accounted_iff inv.2 chosen event).1
  · intro state event after inv stays stepped
    have keeps := inv.1.accounted_iff inv.2 chosen event
    have moved : state.step operators event = after := Option.some.inj stepped
    exact ⟨moved ▸ keeps.2 (keeps.1.1 stays), stays after stepped⟩

def exampleOperators : List OperatorChoice := [⟨1, true⟩, ⟨2, true⟩]

def noShortcodes : QuotaState where
  rows := KeyedTable.empty
  nextId := 1
  promoted := []
  selfService := []

theorem noShortcodes_initial : noShortcodes.Initial :=
  ⟨nofun, List.nodup_nil, rfl, rfl⟩

def sandboxRequest (code : String) : QuotaEvent :=
  .createSandbox 1 true ⟨code, "https://client.example.org", "none", "", "10"⟩

def liveRequest (code : String) : QuotaEvent :=
  .create ⟨1, code, .production, 9, "https://other.example.org", .none, none, 10, .active, none,
    .gateway, true⟩

theorem slot_freed_by_promotion :
    ((quotaRuns exampleOperators).run noShortcodes
        [sandboxRequest "100", sandboxRequest "200", sandboxRequest "300", .promote 1 (some 1),
          sandboxRequest "300"]).any (fun state =>
        decide (state.rows.rows.length = 4) && decide (state.neverPromoted 1 = 2)) = true ∧
      (quotaRuns exampleOperators).Along (fun state event => ∀ after,
        (quotaRuns exampleOperators).step state event = some after → after.Accounted 1) noShortcodes
        [sandboxRequest "100", sandboxRequest "200", sandboxRequest "300", .promote 1 (some 1),
          sandboxRequest "300"] :=
  ⟨by decide +kernel,
    (sandbox_quota_iff (by decide) noShortcodes_initial.consistent noShortcodes_initial.limited
      _).2 (by decide +kernel)⟩

/-- A promotion onto the other network frees no slot, and the live code of another owner frees one:
three rows are left. -/
theorem slot_kept_after_promotion :
    noShortcodes.Initial ∧
      ((quotaRuns exampleOperators).run noShortcodes
        [sandboxRequest "100", sandboxRequest "200", .promote 1 (some 2)]).any (fun state =>
        decide (state.countUnpromotedSandbox 1 1 = 2) && decide (state.neverPromoted 1 = 1)) =
          true ∧
      ((quotaRuns exampleOperators).run noShortcodes
        [sandboxRequest "100", sandboxRequest "200", liveRequest "100", sandboxRequest "300"]).any
        (fun state => decide (state.countUnpromotedSandbox 1 1 = 2) &&
          decide (sandboxPerOperatorLimit < state.selfServed 1)) = true :=
  ⟨noShortcodes_initial, by decide +kernel, by decide +kernel⟩

end UssdGateway
