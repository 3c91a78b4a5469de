import UssdGateway.Portal.ShortcodeRights

/-!
An action that no other overtakes does to the table of shortcodes what the quota's model of it does
in one step.
-/

namespace UssdGateway

open EffectProgram

def PortalOperator.choice (operator : PortalOperator) : OperatorChoice :=
  ⟨operator.id, operator.active⟩

structure Pictured (book : ShortcodeBook) (operators : List OperatorChoice) (state : QuotaState) :
    Prop where
  operators : operators = book.operators.map PortalOperator.choice
  rows : state.rows = book.rows
  nextId : state.nextId = book.nextId
  owners : ∀ row ∈ book.rows.rows, row.ownerUserId ∈ book.users

/-- The same end: with the same rows, or with the tables as they were and for the same reason. -/
def EndsAs (book : ShortcodeBook) (operators : List OperatorChoice)
    (ran : Except ActionError Unit × ShortcodeBook) : Except ShortcodeError QuotaState → Prop
  | .ok after => ran.1 = .ok () ∧ Pictured ran.2 operators after
  | .error (.back message) => (∃ page, ran.1 = .error (.redirect page (some message))) ∧
      ran.2 = book
  | .error .thrown => ran.1 = .error .thrown ∧ ran.2 = book

inductive Posts (book : ShortcodeBook) :
    Option PortalClaims → ShortcodeTask → QuotaEvent → Prop where
  | createSandbox (claims : PortalClaims) (form : SandboxForm) : claims.sub ∈ book.users →
      Posts book (some claims) (.createSandbox form)
        (.createSandbox claims.sub (hasPerm claims Perms.shortcodesManageSandbox) form)
  | promote (claims : PortalClaims) (id : Nat) (operatorId : Option Int) :
      isAdmin claims = true →
      Posts book (some claims) (.promote id operatorId) (.promote id operatorId)
  | create (claims : PortalClaims) (form : ShortcodeForm) (write : ShortcodeWrite) :
      isAdmin claims = true →
      (parseWrite form).run performShortcode book = (.ok (.ok write), book) →
      write.ownerUserId ∈ book.users →
      Posts book (some claims) (.create form) (.create write)

section

variable (book : ShortcodeBook)

theorem run_defaultSandboxOperatorId :
    ActionProgram.defaultSandboxOperatorId.run performShortcode book =
      (book.defaultSandboxOperatorId, book) :=
  Prog.run_call performShortcode _ book

theorem run_getShortcode (id : Nat) :
    (ActionProgram.getShortcode id).run performShortcode book = (.ok (book.rows.find id), book) :=
  Prog.run_call performShortcode _ book

theorem run_codeExists (operatorId : Nat) (code : String) (environment : ShortcodeEnvironment) :
    (ActionProgram.codeExists operatorId code environment none).run performShortcode book =
      (.ok (book.keyTaken (operatorId, code, environment) none), book) :=
  Prog.run_call performShortcode _ book

theorem run_countUnpromotedSandbox (ownerUserId operatorId : Nat) :
    (ActionProgram.countUnpromotedSandbox ownerUserId operatorId).run performShortcode book =
      (.ok (book.countUnpromotedSandbox ownerUserId operatorId), book) :=
  Prog.run_call performShortcode _ book

theorem run_createShortcode (write : ShortcodeWrite) :
    (ActionProgram.createShortcode write).run performShortcode book =
      statement book (book.createShortcode write) :=
  Prog.run_call performShortcode _ book

theorem run_promoteShortcode (sandboxId operatorId : Nat) :
    (ActionProgram.promoteShortcode sandboxId operatorId).run performShortcode book =
      statement book (book.promoteShortcode sandboxId operatorId) :=
  Prog.run_call performShortcode _ book

end

section

variable {book : ShortcodeBook} {operators : List OperatorChoice} {state : QuotaState}
  {ran : Except ActionError Unit × ShortcodeBook} {write : ShortcodeWrite}

theorem Pictured.codeExists (pictured : Pictured book operators state) (operatorId : Nat)
    (code : String) (environment : ShortcodeEnvironment) :
    book.keyTaken (operatorId, code, environment) none =
      state.codeExists operatorId code environment := by
  rw [ShortcodeBook.keyTaken, QuotaState.codeExists, pictured.rows]
  congr
  funext row
  simp [PortalShortcode.routingKey, Bool.and_assoc]

theorem Pictured.countUnpromotedSandbox (pictured : Pictured book operators state)
    (ownerUserId operatorId : Nat) :
    book.countUnpromotedSandbox ownerUserId operatorId =
      state.countUnpromotedSandbox ownerUserId operatorId := by
  rw [ShortcodeBook.countUnpromotedSandbox, QuotaState.countUnpromotedSandbox, pictured.rows]
  congr
  funext row
  rw [pictured.codeExists]

theorem Pictured.defaultSandboxOperatorId (pictured : Pictured book operators state) :
    book.defaultSandboxOperatorId =
      match UssdGateway.defaultSandboxOperatorId operators with
      | some id => .ok id
      | none => .error .thrown := by
  rw [ShortcodeBook.defaultSandboxOperatorId, UssdGateway.defaultSandboxOperatorId,
    pictured.operators, List.filter_map, List.map_map]
  rfl

theorem Pictured.insert (pictured : Pictured book operators state)
    (free : book.keyTaken (write.operatorId, write.code, write.environment) none = false)
    (owner : write.ownerUserId ∈ book.users) :
    Pictured (book.insert write free) operators (state.insert write) := by
  refine ⟨pictured.operators, ?_, congrArg (· + 1) pictured.nextId, ?_⟩
  · have unused : book.rows.find book.nextId = none := by
      rw [KeyedTable.find_eq_none_iff]
      exact fun row member => Nat.ne_of_lt (book.idsIssued row member)
    rw [QuotaState.insert, pictured.rows, pictured.nextId]
    simp [KeyedTable.upsert, unused, ShortcodeBook.insert]
  · intro row present
    rcases mem_insert.1 present with old | rfl
    · exact pictured.owners row old
    · exact owner

theorem EndsAs.marked {result : Except ShortcodeError QuotaState}
    (ends : EndsAs book operators ran result) (promoted selfService : QuotaState → List Nat) :
    EndsAs book operators ran (result.map fun after =>
      { after with promoted := promoted after, selfService := selfService after }) := by
  rcases result with (message | _) | after
  · exact ends
  · exact ends
  · exact ⟨ends.1, ends.2.operators, ends.2.rows, ends.2.nextId, ends.2.owners⟩

theorem Pictured.createShortcode (pictured : Pictured book operators state)
    (unused : state.codeExists write.operatorId write.code write.environment = false)
    (owner : write.ownerUserId ∈ book.users) :
    EndsAs book operators
      ((ActionProgram.createShortcode write >>= fun _ => pure ()).run performShortcode book)
      (state.createShortcode operators write) := by
  have free : book.keyTaken (write.operatorId, write.code, write.environment) none = false := by
    rw [pictured.codeExists, unused]
  have refers : book.refersTo write.operatorId write.ownerUserId =
      operators.any fun operator => decide (operator.id = write.operatorId) := by
    rw [ShortcodeBook.refersTo, pictured.operators, List.any_map, decide_eq_true owner,
      Bool.and_true]
    rfl
  rw [Prog.run_bind, run_createShortcode, ShortcodeBook.createShortcode, dif_pos free,
    QuotaState.createShortcode, ← refers]
  rcases book.refersTo write.operatorId write.ownerUserId with _ | _
  · exact ⟨rfl, rfl⟩
  · exact ⟨rfl, pictured.insert free owner⟩

theorem requireAdmin_run {claims : PortalClaims} (admin : isAdmin claims = true) :
    (requireAdmin (some claims)).run performShortcode book = (.ok (), book) := by
  simp [requireAdmin, admin]

theorem createSandbox_alone (pictured : Pictured book operators state) (claims : PortalClaims)
    (form : SandboxForm) (user : claims.sub ∈ book.users) :
    EndsAs book operators ((createSandboxFor claims form).run performShortcode book)
      (state.actionCreateSandboxShortcode operators claims.sub
        (hasPerm claims Perms.shortcodesManageSandbox) form) := by
  rw [createSandboxFor, QuotaState.actionCreateSandboxShortcode]
  split
  · exact ⟨⟨_, rfl⟩, rfl⟩
  · rw [Prog.run_bind, run_defaultSandboxOperatorId, pictured.defaultSandboxOperatorId]
    rcases UssdGateway.defaultSandboxOperatorId operators with _ | operatorId
    · exact ⟨rfl, rfl⟩
    · dsimp only
      rcases form.error with _ | message
      · dsimp only
        rw [Prog.run_bind, run_countUnpromotedSandbox, pictured.countUnpromotedSandbox]
        dsimp only
        split
        · exact ⟨⟨_, rfl⟩, rfl⟩
        · rw [Prog.run_bind, run_codeExists, pictured.codeExists]
          rcases unused : state.codeExists operatorId (JsText.trim form.code) .sandbox with _ | _
          · have made := @Pictured.createShortcode _ _ _ (form.write operatorId claims.sub) pictured
              unused user
            exact made.marked (fun after => after.promoted) fun _ =>
              state.nextId :: state.selfService
          · exact ⟨⟨_, rfl⟩, rfl⟩
      · exact ⟨⟨_, rfl⟩, rfl⟩

theorem promote_alone (pictured : Pictured book operators state) {claims : PortalClaims}
    (admin : isAdmin claims = true) (id : Nat) (operatorId : Option Int) :
    EndsAs book operators
      ((actionPromoteShortcode (some claims) id operatorId).run performShortcode book)
      (state.actionPromoteShortcode operators id operatorId) := by
  rw [actionPromoteShortcode, Prog.run_bind_ok performShortcode (requireAdmin_run admin),
    Prog.run_bind, run_getShortcode, QuotaState.actionPromoteShortcode, pictured.rows]
  rcases found : book.rows.find id with _ | row
  · exact ⟨⟨_, rfl⟩, rfl⟩
  · dsimp only
    by_cases sandbox : row.environment = .sandbox
    · rw [if_neg (not_not.2 sandbox), if_neg (not_not.2 sandbox)]
      rcases operatorId.filter fun operatorId => decide (0 < operatorId) with _ | target
      · exact ⟨⟨_, rfl⟩, rfl⟩
      · dsimp only
        rw [Prog.run_bind, run_codeExists, pictured.codeExists]
        rcases unused : state.codeExists target.toNat row.code .production with _ | _
        · have present := ((book.rows.find_eq_some_iff id row).1 found).1
          have made := @Pictured.createShortcode _ _ _ (row.promotion target.toNat) pictured unused
            (pictured.owners row present)
          have clone : book.promoteShortcode id target.toNat =
              book.createShortcode (row.promotion target.toNat) := by
            simp [ShortcodeBook.promoteShortcode, found, Option.filter, sandbox]
          rw [Prog.run_bind, run_createShortcode, ← clone, ← run_promoteShortcode,
            ← Prog.run_bind] at made
          exact made.marked (fun _ => id :: state.promoted) fun after => after.selfService
        · exact ⟨⟨_, rfl⟩, rfl⟩
    · rw [if_pos sandbox, if_pos sandbox]
      exact ⟨⟨_, rfl⟩, rfl⟩

theorem create_alone (pictured : Pictured book operators state) {claims : PortalClaims}
    (admin : isAdmin claims = true) {form : ShortcodeForm}
    (parsed : (parseWrite form).run performShortcode book = (.ok (.ok write), book))
    (owner : write.ownerUserId ∈ book.users) :
    EndsAs book operators ((actionCreateShortcode (some claims) form).run performShortcode book)
      (state.actionCreateShortcode operators write) := by
  rw [actionCreateShortcode, Prog.run_bind_ok performShortcode (requireAdmin_run admin),
    Prog.run_bind_ok performShortcode parsed, QuotaState.actionCreateShortcode]
  dsimp only
  rw [Prog.run_bind, run_codeExists, pictured.codeExists]
  rcases unused : state.codeExists write.operatorId write.code write.environment with _ | _
  · exact pictured.createShortcode unused owner
  · exact ⟨⟨_, rfl⟩, rfl⟩

theorem task_alone (pictured : Pictured book operators state) {session : Option PortalClaims}
    {task : ShortcodeTask} {event : QuotaEvent} (posted : Posts book session task event) :
    EndsAs book operators ((task.program session).run performShortcode book)
      (state.perform operators event) := by
  cases posted with
  | createSandbox claims form user => exact createSandbox_alone pictured claims form user
  | promote claims id operatorId admin => exact promote_alone pictured admin id operatorId
  | create claims form write admin parsed owner => exact create_alone pictured admin parsed owner

theorem EndsAs.stepped (pictured : Pictured book operators state) {event : QuotaEvent}
    (ends : EndsAs book operators ran (state.perform operators event)) :
    Pictured ran.2 operators (state.step operators event) := by
  rw [QuotaState.step]
  rcases performed : state.perform operators event with (message | _) | after
  · rw [performed] at ends
    exact ends.2 ▸ pictured
  · rw [performed] at ends
    exact ends.2 ▸ pictured
  · rw [performed] at ends
    exact ends.2

/-- A request that no other overtakes leaves in the dashboard the rows that the quota's step
leaves. -/
theorem quota_alone {shop : Dashboard} (pictured : Pictured shop.shared operators state)
    {session : Option PortalClaims} {task : ShortcodeTask} {event : QuotaEvent}
    (posted : Posts shop.shared session task event) :
    ∃ count after, dashboards.run shop
        (.starts session task :: List.replicate count (.runs shop.workers.length)) = some after ∧
      Pictured after.shared operators (state.step operators event) := by
  obtain ⟨count, after, ran, same⟩ := @run_alone _ _ _ _ _ _ _ shortcodeTrade _ shop session task
  refine ⟨count, after, ran, ?_⟩
  rw [same]
  exact (task_alone pictured posted).stepped pictured

end

end UssdGateway
