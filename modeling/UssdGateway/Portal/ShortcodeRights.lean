import UssdGateway.Portal.ShortcodeActions

/-!
What the actions on shortcodes can do to the table, in whatever order the statements of any number
of them come: every row stays one that the forms would accept, no row changes its environment, and
those who do not manage all shortcodes write no more than a status, its message and a handler URL,
on rows that they have owned, besides sandbox rows of their own.
-/

namespace UssdGateway

open EffectProgram

inductive BookChange where
  | userCreated (id : Nat)
  | operatorToggled (id : Nat) (active : Bool)

namespace ShortcodeBook

def toggled (id : Nat) (active : Bool) (operator : PortalOperator) : PortalOperator :=
  if operator.id = id then { operator with active } else operator

theorem toggled_row (id : Nat) (active : Bool) (operator : PortalOperator) :
    (toggled id active operator).toOperatorRow = operator.toOperatorRow := by
  rw [toggled]
  split <;> rfl

theorem map_toggled {α : Type} (column : OperatorRow → α) (id : Nat) (active : Bool)
    (operators : List PortalOperator) :
    ((operators.map (toggled id active)).map fun operator => column operator.toOperatorRow) =
      operators.map fun operator => column operator.toOperatorRow := by
  rw [List.map_map]
  exact List.map_congr_left fun operator _ => congrArg column (toggled_row id active operator)

def changed (book : ShortcodeBook) : BookChange → ShortcodeBook
  | .userCreated id => { book with users := id :: book.users }
  | .operatorToggled id active =>
      { book with
        operators := book.operators.map (toggled id active)
        operatorIdsUnique := by
          rw [map_toggled OperatorRow.id]
          exact book.operatorIdsUnique
        operatorNamesUnique := by
          rw [map_toggled OperatorRow.name]
          exact book.operatorNamesUnique }

end ShortcodeBook

def noticed : (op : ShortcodeOp) → Except ActionError op.Answer → List (Nat × Nat)
  | .getShortcode id, .ok (some row) => [(row.ownerUserId, id)]
  | _, _ => []

def shortcodeTrade : Trade shortcodeOps ActionError (Option PortalClaims) (Nat × Nat)
    ShortcodeBook ShortcodeTask BookChange where
  handler := performShortcode
  program session task := task.program session
  teaches := noticed
  change change book := book.changed change

/-! What the forms accept. -/

structure ShortcodeWrite.Accepted (write : ShortcodeWrite) : Prop where
  code : write.code ≠ "" ∧ utf16Length write.code ≤ 32
  handlerUrl : isHttpUrl write.handlerUrl = true
  token : write.authMode = .bearer → ∃ token, write.bearerToken = some token ∧ token ≠ ""
  noToken : write.authMode = .none → write.bearerToken = none
  timeout : 1 ≤ write.timeoutSecs ∧ write.timeoutSecs ≤ 30
  message : ∀ message, write.statusMessage = some message → utf16Length message ≤ 160
  explained : write.status = .maintenance → ∃ message, write.statusMessage = some message ∧
    message ≠ ""

def ShortcodeBook.Accepted (book : ShortcodeBook) : Prop :=
  ∀ row ∈ book.rows.rows, row.toShortcodeWrite.Accepted

def AcceptedStatus (status : ShortcodeStatus) (message : Option String) : Prop :=
  (∀ text, message = some text → utf16Length text ≤ 160) ∧
    (status = .maintenance → ∃ text, message = some text ∧ text ≠ "")

def Manages (session : Option PortalClaims) : Prop := ∃ claims, session = some claims ∧
  isAdmin claims = true

def HasOwned (session : Option PortalClaims) (owned : List (Nat × Nat)) (id : Nat) : Prop :=
  ∃ claims, session = some claims ∧ (claims.sub, id) ∈ owned

structure OwnSandbox (session : Option PortalClaims) (write : ShortcodeWrite) : Prop where
  own : ∃ claims, session = some claims ∧ write.ownerUserId = claims.sub
  sandbox : write.environment = .sandbox
  active : write.status = .active
  payloadFormat : write.payloadFormat = .gateway
  verifyTls : write.verifyTls = true

def MayPerform (session : Option PortalClaims) (learnt : List (Nat × Nat)) : ShortcodeOp → Prop
  | .createShortcode write =>
      (Manages session ∨ OwnSandbox session write) ∧ write.Accepted
  | .promoteShortcode _ _ => Manages session
  | .updateShortcode _ write => Manages session ∧ write.Accepted
  | .setShortcodeStatus id status message =>
      (Manages session ∨ status ≠ .deactivated ∧ HasOwned session learnt id) ∧
        AcceptedStatus status message
  | .setShortcodeHandlerUrl id handlerUrl =>
      (Manages session ∨ HasOwned session learnt id) ∧ isHttpUrl handlerUrl = true
  | _ => True

theorem optionalField_eq_some {value text : String} (given : optionalField value = some text) :
    text ≠ "" := by
  rw [optionalField] at given
  split at given
  next => cases given
  next nonempty => exact Option.some.inj given ▸ nonempty

theorem check_eq_none_iff {refused : Prop} [Decidable refused] {message : String}
    {rest : Option String} :
    (if refused then some message else rest) = none ↔ ¬ refused ∧ rest = none := by
  split <;> simp [*]

section

variable {bearer : Bool} {token : Option String}

theorem token_of_bearer (given : ¬ (bearer && token.isNone) = true)
    (nonempty : ∀ text, token = some text → text ≠ "")
    (mode : (if bearer then AuthMode.bearer else .none) = .bearer) :
    ∃ text, (if bearer then token else none) = some text ∧ text ≠ "" := by
  cases bearer with
  | false => cases mode
  | true =>
      rcases token with _ | text
      · exact absurd rfl given
      · exact ⟨text, rfl, nonempty text rfl⟩

theorem token_of_none (mode : (if bearer then AuthMode.bearer else .none) = .none) :
    (if bearer then token else none) = none := by
  cases bearer with
  | false => rfl
  | true => cases mode

end

theorem accepted_of_form {form : ShortcodeForm} {operatorId : Option Nat}
    (accepted : form.error operatorId = none) : (form.write operatorId).Accepted := by
  simp only [ShortcodeForm.error, check_eq_none_iff] at accepted
  obtain ⟨_, code, short, _, url, _, token, timeout, explained, long, _⟩ := accepted
  constructor
  case code => exact ⟨code, Nat.le_of_not_lt short⟩
  case handlerUrl =>
    have http : isHttpUrl (JsText.trim form.handlerUrl) = true := by simpa using (not_or.1 url).2
    exact http
  case token =>
    simp only [ShortcodeForm.write]
    exact token_of_bearer token fun text => optionalField_eq_some
  case noToken =>
    simp only [ShortcodeForm.write]
    exact token_of_none
  case timeout =>
    rcases seconds : JsText.parseInt (JsText.trim form.timeoutSecs) with _ | value
    · rw [seconds] at timeout
      exact absurd rfl timeout
    · rw [seconds] at timeout
      have bounds : 1 ≤ value ∧ value ≤ 30 := by simpa using timeout
      have read : (form.write operatorId).timeoutSecs = value := by
        rw [ShortcodeForm.write, seconds]
        rfl
      exact read ▸ bounds
  case message =>
    intro message given
    simp only [ShortcodeForm.write] at given
    rw [given] at long
    simpa using long
  case explained =>
    simp only [ShortcodeForm.write]
    intro maintenance
    rcases given : optionalField form.statusMessage with _ | message
    · rw [maintenance, given] at explained
      exact (explained ⟨by decide, rfl⟩).elim
    · exact ⟨message, rfl, optionalField_eq_some given⟩

theorem accepted_of_sandboxForm {form : SandboxForm} (accepted : form.error = none)
    (operatorId userId : Nat) : (form.write operatorId userId).Accepted := by
  simp only [SandboxForm.error, check_eq_none_iff] at accepted
  obtain ⟨code, short, url, _, token, timeout⟩ := accepted
  constructor
  case code => exact ⟨code, Nat.le_of_not_lt short⟩
  case handlerUrl =>
    have http : isHttpUrl (JsText.trim form.handlerUrl) = true := by simpa using (not_or.1 url).2
    exact http
  case token =>
    simp only [SandboxForm.write]
    exact token_of_bearer token fun text => optionalField_eq_some
  case noToken =>
    simp only [SandboxForm.write]
    exact token_of_none
  case timeout =>
    rcases seconds : JsText.parseInt (JsText.trim form.timeoutSecs) with _ | value
    · rw [seconds] at timeout
      cases timeout
    · rw [seconds] at timeout
      simp only [check_eq_none_iff, not_or] at timeout
      have read : (form.write operatorId userId).timeoutSecs = value := by
        rw [SandboxForm.write, seconds]
        rfl
      rw [read]
      omega
  case message =>
    intro message given
    cases given
  case explained =>
    intro maintenance
    cases maintenance

/-! Every action keeps to the rights of its session. -/

section

variable {session : Option PortalClaims} {learnt : List (Nat × Nat)}

def Rightful (session : Option PortalClaims) {α : Type} (program : ActionProgram α)
    (answers : α → Prop) (learnt : List (Nat × Nat)) : Prop :=
  program.Justified noticed (MayPerform session) answers learnt

theorem rightful_redirect {α : Type} {answers : α → Prop} (page : String)
    (error : Option String) :
    Rightful session (ActionProgram.redirect page error : ActionProgram α) answers learnt :=
  Prog.justified_raise _

theorem rightful_call (op : ShortcodeOp) (may : MayPerform session learnt op) :
    Rightful session (Prog.call (S := shortcodeOps) op) (fun _ => True) learnt :=
  Prog.justified_call may fun _ => trivial

theorem rightful_requireAdmin :
    Rightful session (requireAdmin session) (fun _ => Manages session) learnt := by
  cases session with
  | none => exact rightful_redirect _ _
  | some claims =>
      simp only [requireAdmin]
      split
      next admin => exact Prog.justified_done ⟨claims, rfl, admin⟩
      next => exact rightful_redirect _ _

theorem rightful_postedOperatorId (form : ShortcodeForm) :
    Rightful session (postedOperatorId form) (fun _ => True) learnt := by
  simp only [postedOperatorId]
  split
  · exact Prog.Justified.bind_call trivial fun _ => Prog.justified_done trivial
  · exact Prog.justified_done trivial

def ReadAccepted : Except String ShortcodeWrite → Prop
  | .ok write => write.Accepted
  | .error _ => True

theorem rightful_parseWrite (form : ShortcodeForm) :
    Rightful session (parseWrite form) ReadAccepted learnt := by
  refine Prog.Justified.bind (rightful_postedOperatorId form) fun operatorId more _ => ?_
  split
  · exact Prog.justified_done trivial
  next accepted => exact Prog.justified_done (accepted_of_form accepted)

theorem rightful_create (form : ShortcodeForm) :
    Rightful session (actionCreateShortcode session form) (fun _ => True) learnt := by
  refine Prog.Justified.bind rightful_requireAdmin fun _ more admin => ?_
  refine Prog.Justified.bind (rightful_parseWrite form) fun read more accepted => ?_
  cases read with
  | error message => exact rightful_redirect _ _
  | ok write =>
      refine Prog.Justified.bind_call trivial fun taken => ?_
      cases taken with
      | true => exact rightful_redirect _ _
      | false =>
          exact Prog.Justified.bind_call ⟨Or.inl admin, accepted⟩ fun _ =>
            Prog.justified_done trivial

theorem rightful_update (id : Nat) (form : ShortcodeForm) :
    Rightful session (actionUpdateShortcode session id form) (fun _ => True) learnt := by
  refine Prog.Justified.bind rightful_requireAdmin fun _ more admin => ?_
  refine Prog.Justified.bind (rightful_parseWrite form) fun read more accepted => ?_
  cases read with
  | error message => exact rightful_redirect _ _
  | ok write =>
      refine Prog.Justified.bind_call trivial fun taken => ?_
      cases taken with
      | true => exact rightful_redirect _ _
      | false => exact rightful_call (.updateShortcode id write) ⟨admin, accepted⟩

theorem rightful_promote (id : Nat) (operatorId : Option Int) :
    Rightful session (actionPromoteShortcode session id operatorId) (fun _ => True) learnt := by
  refine Prog.Justified.bind rightful_requireAdmin fun _ more admin => ?_
  refine Prog.Justified.bind_call trivial fun found => ?_
  cases found with
  | none => exact rightful_redirect _ _
  | some row =>
      dsimp only
      split
      · exact rightful_redirect _ _
      · split
        · exact rightful_redirect _ _
        · refine Prog.Justified.bind_call trivial fun taken => ?_
          cases taken with
          | true => exact rightful_redirect _ _
          | false => exact Prog.Justified.bind_call admin fun _ => Prog.justified_done trivial

theorem rightful_setActive (id : Nat) (active : Bool) :
    Rightful session (actionSetShortcodeActive session id active) (fun _ => True) learnt := by
  refine Prog.Justified.bind rightful_requireAdmin fun _ more admin => ?_
  refine rightful_call (.setShortcodeStatus id _ none) ⟨Or.inl admin, ?_, ?_⟩
  · rintro text ⟨⟩
  · cases active <;> rintro ⟨⟩

end

section

variable {claims : PortalClaims} {learnt : List (Nat × Nat)}

theorem rightful_requireOwner {program : ActionProgram Unit} (id : Nat)
    (rest : ∀ more, (isAdmin claims = true ∨ (claims.sub, id) ∈ learnt ++ more) →
      Rightful (some claims) program (fun _ => True) (learnt ++ more)) :
    Rightful (some claims) (requireOwner claims id >>= fun _ => program) (fun _ => True)
      learnt := by
  rw [requireOwner]
  split
  next admin =>
    have alone := rest [] (Or.inl admin)
    rw [List.append_nil] at alone
    exact alone
  next =>
    rw [Prog.bind_assoc]
    refine Prog.Justified.bind_call trivial fun found => ?_
    cases found with
    | none => exact rightful_redirect _ _
    | some row =>
        dsimp only
        split
        · exact rightful_redirect _ _
        next own =>
          have owner : row.ownerUserId = claims.sub := not_not.1 own
          refine rest [(row.ownerUserId, id)] (Or.inr ?_)
          rw [owner]
          exact List.mem_append_right _ List.mem_cons_self

theorem rightful_setHandlerUrl (id : Nat) (url : String) :
    Rightful (some claims) (setHandlerUrlFor claims id url) (fun _ => True) learnt := by
  refine rightful_requireOwner id fun more right => ?_
  dsimp only
  split
  · exact rightful_redirect _ _
  next http =>
    split
    · exact rightful_redirect _ _
    · refine rightful_call (.setShortcodeHandlerUrl id _) ⟨?_, by simpa using (not_or.1 http).2⟩
      rcases right with admin | owner
      · exact Or.inl ⟨claims, rfl, admin⟩
      · exact Or.inr ⟨claims, rfl, owner⟩

theorem acceptedStatus_of_checks {status : ShortcodeStatus} {message : Option String}
    (explained : ¬ (status ≠ .active ∧ message.getD "" = ""))
    (short : ¬ 160 < utf16Length (message.getD "")) : AcceptedStatus status message := by
  constructor
  · rintro text rfl
    exact Nat.le_of_not_lt short
  · rintro rfl
    rcases message with _ | text
    · exact (explained ⟨by decide, rfl⟩).elim
    · exact ⟨text, rfl, fun empty => explained ⟨by decide, empty⟩⟩

theorem rightful_setStatus (id : Nat) (status : ShortcodeStatus) (message : Option String) :
    Rightful (some claims) (setStatusFor claims id status message) (fun _ => True) learnt := by
  refine rightful_requireOwner id fun more right => ?_
  split
  · exact rightful_redirect _ _
  next permitted =>
    split
    · exact rightful_redirect _ _
    next explained =>
      split
      · exact rightful_redirect _ _
      next short =>
        refine rightful_call (.setShortcodeStatus id status message)
          ⟨?_, acceptedStatus_of_checks explained short⟩
        by_cases admin : isAdmin claims = true
        · exact Or.inl ⟨claims, rfl, admin⟩
        · have kept : status ≠ .deactivated := by simpa [admin] using permitted
          exact Or.inr ⟨kept, claims, rfl, right.resolve_left admin⟩

theorem rightful_createSandbox (form : SandboxForm) :
    Rightful (some claims) (createSandboxFor claims form) (fun _ => True) learnt := by
  rw [createSandboxFor]
  split
  · exact rightful_redirect _ _
  · refine Prog.Justified.bind_call trivial fun operatorId => ?_
    split
    · exact rightful_redirect _ _
    next accepted =>
      refine Prog.Justified.bind_call trivial fun inFlight => ?_
      dsimp only
      split
      · exact rightful_redirect _ _
      · refine Prog.Justified.bind_call trivial fun taken => ?_
        cases taken with
        | true => exact rightful_redirect _ _
        | false =>
            have own : OwnSandbox (some claims) (form.write operatorId claims.sub) :=
              ⟨⟨claims, rfl, rfl⟩, rfl, rfl, rfl, rfl⟩
            exact Prog.Justified.bind_call
              ⟨Or.inr own, accepted_of_sandboxForm accepted operatorId claims.sub⟩ fun _ =>
                Prog.justified_done trivial

end

theorem rightful_program (session : Option PortalClaims) (task : ShortcodeTask) :
    Rightful session (task.program session) (fun _ => True) [] := by
  cases task with
  | create form => exact rightful_create form
  | update id form => exact rightful_update id form
  | promote id operatorId => exact rightful_promote id operatorId
  | setActive id active => exact rightful_setActive id active
  | setHandlerUrl id url =>
      cases session with
      | none => exact rightful_redirect _ _
      | some claims => exact rightful_setHandlerUrl id url
  | setStatus id status message =>
      cases session with
      | none => exact rightful_redirect _ _
      | some claims => exact rightful_setStatus id status message
  | createSandbox form =>
      cases session with
      | none => exact rightful_redirect _ _
      | some claims => exact rightful_createSandbox form

inductive Effect (book : ShortcodeBook) : ShortcodeOp → ShortcodeBook → Prop where
  | none (op : ShortcodeOp) : Effect book op book
  | created (write : ShortcodeWrite)
      (free : book.keyTaken (write.operatorId, write.code, write.environment) none = false) :
      Effect book (.createShortcode write) (book.insert write free)
  | promoted (row : PortalShortcode) (operatorId : Nat) (found : row ∈ book.rows.rows)
      (free : book.keyTaken ((row.promotion operatorId).operatorId, (row.promotion operatorId).code,
        (row.promotion operatorId).environment) none = false) :
      Effect book (.promoteShortcode row.id operatorId)
        (book.insert (row.promotion operatorId) free)
  | updated (id : Nat) (write : ShortcodeWrite)
      (free : ∀ row ∈ book.rows.rows, row.id = id →
        book.keyTaken (ShortcodeBook.rewritten write row).routingKey (some id) = false) :
      Effect book (.updateShortcode id write)
        (book.modify id (ShortcodeBook.rewritten write) (fun _ => rfl) free)
  | statusSet (id : Nat) (status : ShortcodeStatus) (message : Option String) :
      Effect book (.setShortcodeStatus id status message)
        (book.setShortcodeStatus id status message)
  | urlSet (id : Nat) (handlerUrl : String) :
      Effect book (.setShortcodeHandlerUrl id handlerUrl)
        (book.setShortcodeHandlerUrl id handlerUrl)

section

variable {book after : ShortcodeBook}

theorem createShortcode_cases (book : ShortcodeBook) (write : ShortcodeWrite) :
    (∃ error, book.createShortcode write = .error error) ∨
      ∃ free, book.createShortcode write = .ok (book.nextId, book.insert write free) := by
  rw [ShortcodeBook.createShortcode]
  split
  · split
    next free => exact Or.inr ⟨free, rfl⟩
    next => exact Or.inl ⟨_, rfl⟩
  · exact Or.inl ⟨_, rfl⟩

theorem effect_performShortcode (op : ShortcodeOp) (book : ShortcodeBook) :
    Effect book op (performShortcode op book).2 := by
  cases op with
  | createShortcode write =>
      simp only [performShortcode]
      rcases createShortcode_cases book write with ⟨error, failed⟩ | ⟨free, created⟩
      · rw [failed]
        exact .none _
      · rw [created]
        exact .created write free
  | promoteShortcode sandboxId operatorId =>
      simp only [performShortcode, ShortcodeBook.promoteShortcode]
      split
      next => exact .none _
      next row found =>
        obtain ⟨present, rfl⟩ := (book.rows.find_eq_some_iff sandboxId row).1
          (Option.filter_eq_some_iff.1 found).1
        rcases createShortcode_cases book (row.promotion operatorId) with
          ⟨error, failed⟩ | ⟨free, created⟩
        · rw [failed]
          exact .none _
        · rw [created]
          exact .promoted row operatorId present free
  | updateShortcode id write =>
      simp only [performShortcode, ShortcodeBook.updateShortcode]
      split
      · exact .none _
      · split
        next free => exact .updated id write free
        next => exact .none _
  | setShortcodeStatus id status message => exact .statusSet id status message
  | setShortcodeHandlerUrl id handlerUrl => exact .urlSet id handlerUrl
  | defaultSandboxOperatorId | getShortcode | codeExists | countUnpromotedSandbox =>
      exact .none _

structure Modified (book : ShortcodeBook) (id : Nat) (change : PortalShortcode → PortalShortcode)
    (after : ShortcodeBook) : Prop where
  rows : ∀ now, now ∈ after.rows.rows ↔
    ∃ row ∈ book.rows.rows, now = if row.id = id then change row else row
  keyed : ∀ row, (change row).id = row.id

theorem modified_modify (book : ShortcodeBook) (id : Nat)
    (change : PortalShortcode → PortalShortcode) (keyed : ∀ row, (change row).id = row.id)
    (free : ∀ row ∈ book.rows.rows, row.id = id →
      book.keyTaken (change row).routingKey (some id) = false) :
    Modified book id change (book.modify id change keyed free) :=
  ⟨KeyedTable.mem_modify _ _ _ keyed, keyed⟩

theorem modified_edit (book : ShortcodeBook) (id : Nat)
    (change : PortalShortcode → PortalShortcode) (keyed : ∀ row, (change row).id = row.id)
    (routed : ∀ row, (change row).routingKey = row.routingKey) :
    Modified book id change (book.edit id change keyed routed) :=
  modified_modify book id change keyed fun row present here => by
    rw [routed]
    exact book.keyTaken_own present here

theorem modified_setShortcodeStatus (book : ShortcodeBook) (id : Nat) (status : ShortcodeStatus)
    (message : Option String) : Modified book id (ShortcodeBook.withStatus status message)
      (book.setShortcodeStatus id status message) :=
  modified_edit book id (ShortcodeBook.withStatus status message) (fun _ => rfl) fun _ => rfl

theorem modified_setShortcodeHandlerUrl (book : ShortcodeBook) (id : Nat) (handlerUrl : String) :
    Modified book id (ShortcodeBook.withHandlerUrl handlerUrl)
      (book.setShortcodeHandlerUrl id handlerUrl) :=
  modified_edit book id (ShortcodeBook.withHandlerUrl handlerUrl) (fun _ => rfl) fun _ => rfl

theorem mem_insert {write : ShortcodeWrite}
    {free : book.keyTaken (write.operatorId, write.code, write.environment) none = false}
    {row : PortalShortcode} : row ∈ (book.insert write free).rows.rows ↔
      row ∈ book.rows.rows ∨ row = { write with id := book.nextId } := by
  simp [ShortcodeBook.insert]

theorem Effect.owned {op : ShortcodeOp} (effect : Effect book op after) :
    ∀ fact ∈ book.owned, fact ∈ after.owned := by
  cases effect with
  | none => exact fun _ known => known
  | created | promoted => exact fun _ known => List.mem_cons_of_mem _ known
  | updated | statusSet | urlSet => exact fun _ known => List.mem_append_right _ known

theorem accepted_promotion {row : PortalShortcode} (accepted : row.toShortcodeWrite.Accepted)
    (operatorId : Nat) : (row.promotion operatorId).Accepted where
  code := accepted.code
  handlerUrl := accepted.handlerUrl
  token := accepted.token
  noToken := accepted.noToken
  timeout := accepted.timeout
  message := by rintro message ⟨⟩
  explained := by rintro ⟨⟩

theorem accepted_insert (accepted : book.Accepted) {write : ShortcodeWrite}
    (given : write.Accepted)
    (free : book.keyTaken (write.operatorId, write.code, write.environment) none = false) :
    (book.insert write free).Accepted := by
  intro row present
  rcases mem_insert.1 present with old | rfl
  · exact accepted row old
  · exact given

theorem Modified.accepted {id : Nat} {change : PortalShortcode → PortalShortcode}
    (modified : Modified book id change after) (accepted : book.Accepted)
    (given : ∀ row : PortalShortcode, row.toShortcodeWrite.Accepted →
      (change row).toShortcodeWrite.Accepted) : after.Accepted := by
  intro now present
  obtain ⟨row, old, rfl⟩ := (modified.rows now).1 present
  split
  · exact given row (accepted row old)
  · exact accepted row old

theorem Effect.accepted {session : Option PortalClaims} {learnt : List (Nat × Nat)}
    {op : ShortcodeOp} (effect : Effect book op after) (accepted : book.Accepted)
    (may : MayPerform session learnt op) : after.Accepted := by
  cases effect with
  | none => exact accepted
  | created write free => exact accepted_insert accepted may.2 free
  | promoted row operatorId found free =>
      exact accepted_insert accepted (accepted_promotion (accepted row found) operatorId) free
  | updated id write free =>
      refine (modified_modify book _ _ _ _).accepted accepted fun row _ => ?_
      exact ⟨may.2.code, may.2.handlerUrl, may.2.token, may.2.noToken, may.2.timeout,
        may.2.message, may.2.explained⟩
  | statusSet id status message =>
      have modified := modified_setShortcodeStatus book id status message
      refine modified.accepted accepted fun row old => ?_
      exact ⟨old.code, old.handlerUrl, old.token, old.noToken, old.timeout, may.2.1, may.2.2⟩
  | urlSet id handlerUrl =>
      have modified := modified_setShortcodeHandlerUrl book id handlerUrl
      refine modified.accepted accepted fun row old => ?_
      exact ⟨old.code, may.2, old.token, old.noToken, old.timeout, old.message, old.explained⟩

end

theorem noticed_owned {op : ShortcodeOp} {book : ShortcodeBook} :
    ∀ fact ∈ noticed op (performShortcode op book).1, fact ∈ book.owned := by
  cases op with
  | getShortcode id =>
      intro fact known
      rcases found : book.rows.find id with _ | row
      · simp [noticed, performShortcode, found] at known
      · obtain ⟨present, rfl⟩ := (book.rows.find_eq_some_iff id row).1 found
        have same : fact = (row.ownerUserId, row.id) := by
          simpa [noticed, performShortcode, found] using known
        exact same ▸ book.ownersRecorded row present
  | _ => exact fun fact known => absurd known List.not_mem_nil

theorem shortcodeTrade_sound :
    shortcodeTrade.Sound MayPerform ShortcodeBook.Accepted fun fact book => fact ∈ book.owned where
  operation session learnt op book accepted _ may :=
    ⟨(effect_performShortcode op book).accepted accepted may, fun fact known =>
      (effect_performShortcode op book).owned fact (noticed_owned fact known)⟩
  remembered op book fact known := (effect_performShortcode op book).owned fact known
  change change book accepted := by
    cases change with
    | userCreated | operatorToggled => exact ⟨accepted, fun _ known => known⟩
  program session task := rightful_program session task

/-- What an owner may change of a row. -/
inductive OwnerEdit (row : PortalShortcode) : PortalShortcode → Prop where
  | status (status : ShortcodeStatus) (message : Option String) : status ≠ .deactivated →
      OwnerEdit row (ShortcodeBook.withStatus status message row)
  | handlerUrl (handlerUrl : String) : OwnerEdit row (ShortcodeBook.withHandlerUrl handlerUrl row)

/-- A step of a session that does not manage all shortcodes. -/
structure ClientStep (session : Option PortalClaims) (before after : ShortcodeBook) : Prop where
  kept : ∀ row ∈ before.rows.rows, ∃ now ∈ after.rows.rows,
    now = row ∨ HasOwned session before.owned row.id ∧ OwnerEdit row now
  added : ∀ now ∈ after.rows.rows, (∃ row ∈ before.rows.rows, row.id = now.id) ∨
    OwnSandbox session now.toShortcodeWrite

def EnvironmentsKept (before after : ShortcodeBook) : Prop :=
  ∀ row ∈ before.rows.rows, ∃ now ∈ after.rows.rows,
    now.id = row.id ∧ now.environment = row.environment

section

variable {book after : ShortcodeBook} {session : Option PortalClaims} {op : ShortcodeOp}

theorem kept_insert {write : ShortcodeWrite}
    {free : book.keyTaken (write.operatorId, write.code, write.environment) none = false} :
    ∀ row ∈ book.rows.rows, row ∈ (book.insert write free).rows.rows :=
  fun _ present => mem_insert.2 (Or.inl present)

theorem Modified.now {id : Nat} {change : PortalShortcode → PortalShortcode}
    (modified : Modified book id change after) {row : PortalShortcode}
    (present : row ∈ book.rows.rows) :
    ∃ now ∈ after.rows.rows, now = row ∧ row.id ≠ id ∨ now = change row ∧ row.id = id := by
  refine ⟨_, (modified.rows _).2 ⟨row, present, rfl⟩, ?_⟩
  split
  next here => exact Or.inr ⟨rfl, here⟩
  next apart => exact Or.inl ⟨rfl, apart⟩

theorem Modified.known {id : Nat} {change : PortalShortcode → PortalShortcode}
    (modified : Modified book id change after) {now : PortalShortcode}
    (present : now ∈ after.rows.rows) : ∃ row ∈ book.rows.rows, row.id = now.id := by
  obtain ⟨row, old, rfl⟩ := (modified.rows now).1 present
  refine ⟨row, old, ?_⟩
  split
  · exact (modified.keyed row).symm
  · rfl

theorem Modified.environments {id : Nat} {change : PortalShortcode → PortalShortcode}
    (modified : Modified book id change after)
    (kept : ∀ row, (change row).environment = row.environment) : EnvironmentsKept book after := by
  intro row present
  obtain ⟨now, inside, ⟨rfl, _⟩ | ⟨rfl, _⟩⟩ := modified.now present
  · exact ⟨_, inside, rfl, rfl⟩
  · exact ⟨_, inside, modified.keyed row, kept row⟩

theorem Effect.environments (effect : Effect book op after) : EnvironmentsKept book after := by
  cases effect with
  | none => exact fun row present => ⟨row, present, rfl, rfl⟩
  | created | promoted => exact fun row present => ⟨row, kept_insert row present, rfl, rfl⟩
  | updated => exact (modified_modify book _ _ _ _).environments fun _ => rfl
  | statusSet => exact (modified_setShortcodeStatus book _ _ _).environments fun _ => rfl
  | urlSet => exact (modified_setShortcodeHandlerUrl book _ _).environments fun _ => rfl

theorem Effect.clientStep {learnt : List (Nat × Nat)} (effect : Effect book op after)
    (recorded : ∀ fact ∈ learnt, fact ∈ book.owned) (may : MayPerform session learnt op)
    (client : ¬ Manages session) : ClientStep session book after := by
  have owner : ∀ {id}, HasOwned session learnt id → HasOwned session book.owned id :=
    fun ⟨claims, same, known⟩ => ⟨claims, same, recorded _ known⟩
  cases effect with
  | none =>
      exact ⟨fun row present => ⟨row, present, Or.inl rfl⟩,
        fun now present => Or.inl ⟨now, present, rfl⟩⟩
  | created write free =>
      refine ⟨fun row present => ⟨row, kept_insert row present, Or.inl rfl⟩, fun now present => ?_⟩
      rcases mem_insert.1 present with old | rfl
      · exact Or.inl ⟨now, old, rfl⟩
      · exact Or.inr (may.1.resolve_left client)
  | promoted => exact absurd may client
  | updated => exact absurd may.1 client
  | statusSet id status message =>
      have modified := modified_setShortcodeStatus book id status message
      obtain ⟨allowed, owned⟩ := may.1.resolve_left client
      refine ⟨fun row present => ?_, fun now present =>
        Or.inl (modified.known present)⟩
      obtain ⟨now, inside, ⟨rfl, _⟩ | ⟨rfl, rfl⟩⟩ := modified.now present
      · exact ⟨_, inside, Or.inl rfl⟩
      · exact ⟨_, inside, Or.inr ⟨owner owned, .status status message allowed⟩⟩
  | urlSet id handlerUrl =>
      have modified := modified_setShortcodeHandlerUrl book id handlerUrl
      have owned := may.1.resolve_left client
      refine ⟨fun row present => ?_, fun now present =>
        Or.inl (modified.known present)⟩
      obtain ⟨now, inside, ⟨rfl, _⟩ | ⟨rfl, rfl⟩⟩ := modified.now present
      · exact ⟨_, inside, Or.inl rfl⟩
      · exact ⟨_, inside, Or.inr ⟨owner owned, .handlerUrl handlerUrl⟩⟩

theorem Effect.owners {learnt : List (Nat × Nat)} (effect : Effect book op after)
    (may : MayPerform session learnt op) (client : ¬ Manages session) {user : Nat}
    {row : PortalShortcode} (present : row ∈ book.rows.rows)
    (known : (user, row.id) ∈ after.owned) : (user, row.id) ∈ book.owned := by
  have recorded : ∀ {id : Nat} {change : PortalShortcode → PortalShortcode},
      (∀ row, (change row).ownerUserId = row.ownerUserId) →
      (user, row.id) ∈ ((book.rows.find id).map fun row => ((change row).ownerUserId, id)).toList →
      (user, row.id) ∈ book.owned := by
    intro id change kept known
    obtain ⟨found, here, same⟩ := Option.map_eq_some_iff.1 (Option.mem_toList.1 known)
    obtain ⟨inside, rfl⟩ := (book.rows.find_eq_some_iff id found).1 here
    rw [kept] at same
    exact same ▸ book.ownersRecorded found inside
  cases effect with
  | none => exact known
  | promoted => exact absurd may client
  | updated => exact absurd may.1 client
  | created write free =>
      rcases List.mem_cons.1 known with fresh | old
      · have issued := book.idsIssued row present
        rw [Prod.mk.injEq] at fresh
        exact absurd fresh.2 (Nat.ne_of_lt issued)
      · exact old
  | statusSet | urlSet =>
      rcases List.mem_append.1 known with again | old
      · exact recorded (fun _ => rfl) again
      · exact old

end

/-! Runs of sessions that do not manage all shortcodes. -/

structure SameRoute (row now : PortalShortcode) : Prop where
  columns : now = { row with
    status := now.status, statusMessage := now.statusMessage, handlerUrl := now.handlerUrl }
  available : now.status = .deactivated → row.status = .deactivated

theorem SameRoute.refl (row : PortalShortcode) : SameRoute row row := ⟨rfl, fun same => same⟩

theorem SameRoute.id {row now : PortalShortcode} (same : SameRoute row now) : now.id = row.id := by
  rw [same.columns]

theorem SameRoute.trans {first second third : PortalShortcode} (one : SameRoute first second)
    (two : SameRoute second third) : SameRoute first third := by
  refine ⟨?_, fun ended => one.available (two.available ended)⟩
  have columns := two.columns
  rw [one.columns] at columns
  exact columns

theorem OwnerEdit.sameRoute {row now : PortalShortcode} (edit : OwnerEdit row now) :
    SameRoute row now := by
  cases edit with
  | status status message kept => exact ⟨rfl, fun ended => absurd ended kept⟩
  | handlerUrl => exact ⟨rfl, fun ended => ended⟩

structure SandboxOf (who : PortalClaims → Prop) (row : PortalShortcode) : Prop where
  own : ∃ claims, who claims ∧ row.ownerUserId = claims.sub
  sandbox : row.environment = .sandbox
  payloadFormat : row.payloadFormat = .gateway
  verifyTls : row.verifyTls = true

/-- What such sessions leave of a table. -/
structure RoutesKept (who : PortalClaims → Prop) (before after : ShortcodeBook) : Prop where
  kept : ∀ row ∈ before.rows.rows, ∃ now ∈ after.rows.rows, SameRoute row now ∧
    (now = row ∨ ∃ claims, who claims ∧ (claims.sub, row.id) ∈ before.owned)
  added : ∀ now ∈ after.rows.rows, (∃ row ∈ before.rows.rows, row.id = now.id) ∨ SandboxOf who now
  owners : ∀ row ∈ before.rows.rows, ∀ user, (user, row.id) ∈ after.owned →
    (user, row.id) ∈ before.owned

section

variable {who : PortalClaims → Prop} {before middle after : ShortcodeBook}

theorem RoutesKept.refl (who : PortalClaims → Prop) (book : ShortcodeBook) :
    RoutesKept who book book :=
  ⟨fun row present => ⟨row, present, .refl row, Or.inl rfl⟩,
    fun now present => Or.inl ⟨now, present, rfl⟩, fun _ _ _ known => known⟩

theorem SandboxOf.sameRoute {row now : PortalShortcode} (sandbox : SandboxOf who row)
    (same : SameRoute row now) : SandboxOf who now := by
  rw [same.columns]
  exact ⟨sandbox.own, sandbox.sandbox, sandbox.payloadFormat, sandbox.verifyTls⟩

theorem RoutesKept.trans (one : RoutesKept who before middle)
    (two : RoutesKept who middle after) : RoutesKept who before after := by
  constructor
  case kept =>
    intro row present
    obtain ⟨now, inside, same, edited⟩ := one.kept row present
    obtain ⟨later, left, alike, again⟩ := two.kept now inside
    refine ⟨later, left, same.trans alike, ?_⟩
    rcases again with rfl | ⟨claims, works, known⟩
    · exact edited
    · rw [same.id] at known
      exact Or.inr ⟨claims, works, one.owners row present claims.sub known⟩
  case added =>
    intro later left
    rcases two.added later left with ⟨now, inside, named⟩ | fresh
    · rcases one.added now inside with ⟨row, present, known⟩ | sandbox
      · exact Or.inl ⟨row, present, known.trans named⟩
      · obtain ⟨other, there, same, _⟩ := two.kept now inside
        have equal : other = later :=
          after.rows.eq_of_key there left (same.id.trans named)
        exact Or.inr (sandbox.sameRoute (equal ▸ same))
    · exact Or.inr fresh
  case owners =>
    intro row present user known
    obtain ⟨now, inside, same, _⟩ := one.kept row present
    have earlier := two.owners now inside user (same.id.symm ▸ known)
    rw [same.id] at earlier
    exact one.owners row present user earlier

end

abbrev Dashboard :=
  Workshop shortcodeOps ActionError (Option PortalClaims) (Nat × Nat) ShortcodeBook

abbrev DashboardEvent := WorkEvent (Option PortalClaims) ShortcodeTask BookChange

/-- Any number of actions at work, on any table that the forms accept. -/
def dashboards : StepSystem Dashboard DashboardEvent :=
  workshops shortcodeTrade ShortcodeBook.Accepted

def Dashboard.Sessions (shop : Dashboard) (events : List DashboardEvent)
    (claims : PortalClaims) : Prop :=
  (∃ worker ∈ shop.workers, worker.caller = some claims) ∨
    ∃ task, WorkEvent.starts (some claims) task ∈ events

section

variable {shop after : Dashboard}

theorem accepted_of_reachable (reached : dashboards.Reachable shop) : shop.shared.Accepted :=
  (sound_of_reachable shortcodeTrade_sound (fun _ accepted => accepted) reached).shared

theorem EnvironmentsKept.trans {first second third : ShortcodeBook}
    (one : EnvironmentsKept first second) (two : EnvironmentsKept second third) :
    EnvironmentsKept first third := by
  intro row present
  obtain ⟨now, inside, named, placed⟩ := one row present
  obtain ⟨later, left, again, still⟩ := two now inside
  exact ⟨later, left, again.trans named, still.trans placed⟩

theorem statement_step {number : Nat}
    (stepped : dashboards.step shop (.runs number) = some after) :
    ∃ worker op next, shop.workers[number]? = some worker ∧ worker.left = .perform op next ∧
      Effect shop.shared op after.shared := by
  obtain ⟨worker, op, next, working, left, rfl⟩ := runs_eq_some_iff.1 stepped
  exact ⟨worker, op, next, working, left, effect_performShortcode op shop.shared⟩

theorem dashboard_step {event : DashboardEvent}
    (stepped : dashboards.step shop event = some after) :
    after.shared.rows = shop.shared.rows ∧ after.shared.owned = shop.shared.owned ∨
      ∃ number, event = .runs number := by
  cases event with
  | starts caller task =>
      obtain rfl := Option.some.inj stepped
      exact Or.inl ⟨rfl, rfl⟩
  | changes change =>
      obtain rfl := Option.some.inj stepped
      cases change <;> exact Or.inl ⟨rfl, rfl⟩
  | runs number => exact Or.inr ⟨number, rfl⟩

theorem environments_step {event : DashboardEvent}
    (stepped : dashboards.step shop event = some after) :
    EnvironmentsKept shop.shared after.shared := by
  rcases dashboard_step stepped with ⟨same, _⟩ | ⟨number, rfl⟩
  · intro row present
    exact ⟨row, same ▸ present, rfl, rfl⟩
  · obtain ⟨_, _, _, _, _, effect⟩ := statement_step stepped
    exact effect.environments

/-- Whatever the order of their statements, the actions leave rows that the forms accept, lose none
and move none from one environment to the other. -/
theorem dashboard_keeps (reached : dashboards.Reachable shop) {events : List DashboardEvent}
    (ran : dashboards.run shop events = some after) :
    after.shared.Accepted ∧ EnvironmentsKept shop.shared after.shared := by
  refine ⟨accepted_of_reachable (reached.run ran), ?_⟩
  clear reached
  induction events generalizing shop with
  | nil =>
      obtain rfl := Option.some.inj ran
      exact fun row present => ⟨row, present, rfl, rfl⟩
  | cons event rest ih =>
      obtain ⟨middle, stepped, ran⟩ := Option.bind_eq_some_iff.1 ran
      exact (environments_step stepped).trans (ih ran)

/-- A statement changes what its own session may change, other steps leave the rows. -/
def ClientsMove (shop : Dashboard) (event : DashboardEvent) (after : Dashboard) : Prop :=
  match event with
  | .runs number => ∃ worker, shop.workers[number]? = some worker ∧
      ClientStep worker.caller shop.shared after.shared
  | .starts _ _ | .changes _ => after.shared.rows = shop.shared.rows

theorem client_statement (reached : dashboards.Reachable shop)
    (clients : ∀ worker ∈ shop.workers, ¬ Manages worker.caller) {number : Nat}
    (stepped : dashboards.step shop (.runs number) = some after) :
    ∃ worker op, shop.workers[number]? = some worker ∧ ¬ Manages worker.caller ∧
      MayPerform worker.caller worker.learnt op ∧ Effect shop.shared op after.shared ∧
      ClientStep worker.caller shop.shared after.shared := by
  obtain ⟨worker, op, next, working, left, effect⟩ := statement_step stepped
  have atWork := List.mem_of_getElem? working
  have sound := sound_of_reachable shortcodeTrade_sound (fun _ accepted => accepted) reached
  have justified := sound.justified worker atWork
  rw [left, Prog.justified_perform_iff] at justified
  have client := clients worker atWork
  exact ⟨worker, op, working, client, justified.1, effect,
    effect.clientStep (sound.learnt worker atWork) justified.1 client⟩

theorem clientsMove_step (reached : dashboards.Reachable shop)
    (clients : ∀ worker ∈ shop.workers, ¬ Manages worker.caller) {event : DashboardEvent}
    (stepped : dashboards.step shop event = some after) : ClientsMove shop event after := by
  cases event with
  | starts caller task =>
      obtain rfl := Option.some.inj stepped
      rfl
  | changes change =>
      obtain rfl := Option.some.inj stepped
      cases change <;> rfl
  | runs number =>
      obtain ⟨worker, _, working, _, _, _, moved⟩ := client_statement reached clients stepped
      exact ⟨worker, working, moved⟩

theorem routes_step {who : PortalClaims → Prop} (reached : dashboards.Reachable shop)
    (clients : ∀ worker ∈ shop.workers, ¬ Manages worker.caller)
    (named : ∀ worker ∈ shop.workers, ∀ claims, worker.caller = some claims → who claims)
    {event : DashboardEvent} (stepped : dashboards.step shop event = some after) :
    RoutesKept who shop.shared after.shared := by
  rcases dashboard_step stepped with ⟨same, owned⟩ | ⟨number, rfl⟩
  · constructor
    case kept => exact fun row present => ⟨row, same ▸ present, .refl row, Or.inl rfl⟩
    case added => exact fun now present => Or.inl ⟨now, same ▸ present, rfl⟩
    case owners => exact fun row present user known => owned ▸ known
  · obtain ⟨worker, op, working, client, may, effect, step⟩ :=
      client_statement reached clients stepped
    have atWork := List.mem_of_getElem? working
    constructor
    case kept =>
      intro row present
      obtain ⟨now, inside, rfl | ⟨⟨claims, caller, known⟩, edit⟩⟩ := step.kept row present
      · exact ⟨_, inside, .refl _, Or.inl rfl⟩
      · have caller' := named worker atWork claims caller
        exact ⟨now, inside, edit.sameRoute, Or.inr ⟨claims, caller', known⟩⟩
    case added =>
      intro now inside
      refine (step.added now inside).imp_right fun fresh => ?_
      obtain ⟨claims, caller, own⟩ := fresh.own
      exact ⟨⟨claims, named worker atWork claims caller, own⟩, fresh.sandbox, fresh.payloadFormat,
        fresh.verifyTls⟩
    case owners =>
      exact fun row present user known => effect.owners may client present known

theorem sessions_step {event : DashboardEvent} {rest : List DashboardEvent}
    (stepped : dashboards.step shop event = some after) {claims : PortalClaims}
    (atWork : after.Sessions rest claims) : shop.Sessions (event :: rest) claims := by
  rcases atWork with ⟨worker, member, caller⟩ | ⟨task, later⟩
  · cases event with
    | starts session task =>
        obtain rfl := Option.some.inj stepped
        rcases List.mem_append.1 member with old | fresh
        · exact Or.inl ⟨worker, old, caller⟩
        · rw [List.mem_singleton.1 fresh] at caller
          obtain rfl : session = some claims := caller
          exact Or.inr ⟨task, List.mem_cons_self⟩
    | changes change =>
        obtain rfl := Option.some.inj stepped
        exact Or.inl ⟨worker, member, caller⟩
    | runs number =>
        obtain ⟨runner, op, next, working, left, rfl⟩ := runs_eq_some_iff.1 stepped
        rcases List.mem_or_eq_of_mem_set member with old | rfl
        · exact Or.inl ⟨worker, old, caller⟩
        · exact Or.inl ⟨runner, List.mem_of_getElem? working, caller⟩
  · exact Or.inr ⟨task, List.mem_cons_of_mem _ later⟩

theorem Dashboard.Sessions.clients {events : List DashboardEvent}
    (clients : ∀ claims, shop.Sessions events claims → isAdmin claims = false) :
    ∀ worker ∈ shop.workers, ¬ Manages worker.caller := by
  rintro worker atWork ⟨claims, caller, admin⟩
  have client := clients claims (Or.inl ⟨worker, atWork, caller⟩)
  rw [admin] at client
  cases client

theorem routes_run {who : PortalClaims → Prop} (reached : dashboards.Reachable shop)
    {events : List DashboardEvent}
    (clients : ∀ claims, shop.Sessions events claims → who claims ∧ isAdmin claims = false)
    (ran : dashboards.run shop events = some after) :
    RoutesKept who shop.shared after.shared := by
  induction events generalizing shop with
  | nil =>
      obtain rfl := Option.some.inj ran
      exact .refl who _
  | cons event rest ih =>
      obtain ⟨middle, stepped, ran⟩ := Option.bind_eq_some_iff.1 ran
      have here : RoutesKept who shop.shared middle.shared := by
        refine routes_step reached (Dashboard.Sessions.clients fun claims atWork =>
          (clients claims atWork).2) ?_ stepped
        exact fun worker atWork claims caller =>
          (clients claims (Or.inl ⟨worker, atWork, caller⟩)).1
      exact here.trans (ih (.next reached trivial stepped)
        (fun claims atWork => clients claims (sessions_step stepped atWork)) ran)

theorem clientsMove_along (reached : dashboards.Reachable shop) {events : List DashboardEvent}
    (clients : ∀ claims, shop.Sessions events claims → isAdmin claims = false) :
    dashboards.Along (fun shop event => ∀ after, dashboards.step shop event = some after →
      ClientsMove shop event after) shop events := by
  induction events generalizing shop with
  | nil => trivial
  | cons event rest ih =>
      refine ⟨fun after stepped =>
        clientsMove_step reached (Dashboard.Sessions.clients clients) stepped, ?_⟩
      intro middle stepped
      exact ih (.next reached trivial stepped) fun claims atWork =>
        clients claims (sessions_step stepped atWork)

/-- As long as nobody who manages all shortcodes acts, every row keeps its route, only those who
have owned a row edit it, and new rows are sandbox rows of the sessions at work. -/
theorem clients_keep_routes (reached : dashboards.Reachable shop) {events : List DashboardEvent}
    (clients : ∀ claims, shop.Sessions events claims → isAdmin claims = false)
    (ran : dashboards.run shop events = some after) :
    RoutesKept (shop.Sessions events) shop.shared after.shared ∧
      dashboards.Along (fun shop event => ∀ after, dashboards.step shop event = some after →
        ClientsMove shop event after) shop events :=
  ⟨routes_run reached (fun claims atWork => ⟨atWork, clients claims atWork⟩) ran,
    clientsMove_along reached clients⟩

end

def liveShortcode : PortalShortcode where
  id := 10
  operatorId := 2
  code := "*149*01#"
  environment := .production
  ownerUserId := 7
  handlerUrl := "https://handler.example/ussd"
  authMode := .none
  bearerToken := none
  timeoutSecs := 5
  status := .active
  statusMessage := none
  payloadFormat := .gateway
  verifyTls := true

def oneShortcode : ShortcodeBook where
  operators := [⟨⟨2, lit "airtel"⟩, true⟩]
  users := [7, 9]
  rows := ⟨[liveShortcode], by decide⟩
  nextId := 11
  owned := [(7, 10)]
  operatorIdsUnique := by decide
  operatorNamesUnique := by decide
  codesUnique := by decide
  idsIssued := by decide
  ownersRecorded := by decide

def ownerSession : PortalClaims where
  sub := 7
  email := "owner@example.test"
  name := "Owner"
  role := "client"
  perms := ["reports.view_own", "shortcodes.manage_sandbox"]
  shortcodeIds := some [10]
  shortcodeFrom := []
  pwv := 0
  imp := none

def quietDashboard : Dashboard := ⟨oneShortcode, []⟩

theorem quietDashboard_reachable : dashboards.Reachable quietDashboard := by
  refine .start ⟨fun row present => ?_, rfl⟩
  obtain rfl := List.mem_singleton.1 present
  exact ⟨by decide, by decide, by rintro ⟨⟩, fun _ => rfl, by decide, by rintro _ ⟨⟩,
    by rintro ⟨⟩⟩

def ownerEdits : List DashboardEvent :=
  [.starts (some ownerSession) (.setHandlerUrl 10 " HTTPS://new.example/ussd"),
    .starts (some ownerSession) (.setStatus 10 .maintenance (some "Back at noon")),
    .runs 1, .runs 0, .runs 0, .runs 1]

theorem owner_edits_done : (dashboards.run quietDashboard ownerEdits).isSome = true := by
  decide +kernel

theorem owner_edits_accepted : ∃ after, dashboards.run quietDashboard ownerEdits = some after ∧
    after.shared.Accepted ∧ EnvironmentsKept quietDashboard.shared after.shared := by
  obtain ⟨after, ran⟩ := Option.isSome_iff_exists.1 owner_edits_done
  exact ⟨after, ran, dashboard_keeps quietDashboard_reachable ran⟩

theorem owner_edits_keep_route : ∃ after, dashboards.run quietDashboard ownerEdits = some after ∧
    RoutesKept (quietDashboard.Sessions ownerEdits) quietDashboard.shared after.shared ∧
      dashboards.Along (fun shop event => ∀ after, dashboards.step shop event = some after →
        ClientsMove shop event after) quietDashboard ownerEdits := by
  obtain ⟨after, ran⟩ := Option.isSome_iff_exists.1 owner_edits_done
  refine ⟨after, ran, clients_keep_routes quietDashboard_reachable ?_ ran⟩
  rintro claims (⟨worker, atWork, _⟩ | ⟨task, atWork⟩)
  · exact absurd atWork List.not_mem_nil
  · simp only [ownerEdits, List.mem_cons, List.not_mem_nil, WorkEvent.starts.injEq, reduceCtorEq,
      or_false, Option.some.injEq] at atWork
    rcases atWork with ⟨rfl, _⟩ | ⟨rfl, _⟩
    · decide
    · decide

end UssdGateway
