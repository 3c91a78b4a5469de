import UssdGateway.Library.Workers
import UssdGateway.Portal.Impersonation
import UssdGateway.Portal.Shortcodes

/-!
The server actions on shortcodes: what the forms of the dashboard read, check and write, statement
by statement, for the super admins who manage all of them and for the owners who may edit a few
columns of their own.
-/

namespace UssdGateway

open EffectProgram

structure PortalOperator extends OperatorRow where
  active : Bool
deriving DecidableEq

def PortalShortcode.routingKey (row : PortalShortcode) : Nat × String × ShortcodeEnvironment :=
  (row.operatorId, row.code, row.environment)

/-- `shortcodes` with its constraints and the rows that its foreign keys refer to. Who has owned
which row is remembered beside it. -/
structure ShortcodeBook where
  operators : List PortalOperator
  users : List Nat
  rows : ShortcodeTable
  nextId : Nat
  owned : List (Nat × Nat)
  operatorIdsUnique : (operators.map fun operator => operator.id).Nodup
  operatorNamesUnique : (operators.map fun operator => operator.name).Nodup
  codesUnique : (rows.rows.map PortalShortcode.routingKey).Nodup
  idsIssued : ∀ row ∈ rows.rows, row.id < nextId
  ownersRecorded : ∀ row ∈ rows.rows, (row.ownerUserId, row.id) ∈ owned

inductive ActionError where
  | redirect (page : String) (error : Option String)
  | thrown
deriving DecidableEq

namespace ShortcodeBook

variable (book : ShortcodeBook)

def refersTo (operatorId ownerUserId : Nat) : Bool :=
  (book.operators.any fun operator => decide (operator.id = operatorId)) &&
    decide (ownerUserId ∈ book.users)

def keyTaken (key : Nat × String × ShortcodeEnvironment) (excludeId : Option Nat) : Bool :=
  book.rows.rows.any fun row => decide (row.routingKey = key) && decide (some row.id ≠ excludeId)

theorem keyTaken_eq_false_iff {key : Nat × String × ShortcodeEnvironment}
    {excludeId : Option Nat} : book.keyTaken key excludeId = false ↔
      ∀ row ∈ book.rows.rows, row.routingKey = key → some row.id = excludeId := by
  simp [keyTaken]

def insert (write : ShortcodeWrite)
    (free : book.keyTaken (write.operatorId, write.code, write.environment) none = false) :
    ShortcodeBook :=
  { book with
    rows :=
      { rows := book.rows.rows ++ [{ write with id := book.nextId }]
        unique := by
          rw [List.map_append]
          refine book.rows.unique.append (List.nodup_singleton _) fun id member fresh => ?_
          obtain ⟨row, present, rfl⟩ := List.mem_map.1 member
          exact Nat.ne_of_lt (book.idsIssued row present) (List.mem_singleton.1 fresh) }
    nextId := book.nextId + 1
    owned := (write.ownerUserId, book.nextId) :: book.owned
    codesUnique := by
      rw [List.map_append]
      refine book.codesUnique.append (List.nodup_singleton _) fun key member fresh => ?_
      obtain ⟨row, present, rfl⟩ := List.mem_map.1 member
      have taken := book.keyTaken_eq_false_iff.1 free row present (List.mem_singleton.1 fresh)
      cases taken
    idsIssued := by
      intro row member
      rcases List.mem_append.1 member with old | fresh
      · exact Nat.lt_succ_of_lt (book.idsIssued row old)
      · rw [List.mem_singleton.1 fresh]
        exact Nat.lt_succ_self _
    ownersRecorded := by
      intro row member
      rcases List.mem_append.1 member with old | fresh
      · exact List.mem_cons_of_mem _ (book.ownersRecorded row old)
      · rw [List.mem_singleton.1 fresh]
        exact List.mem_cons_self }

def modify (id : Nat) (change : PortalShortcode → PortalShortcode)
    (keyed : ∀ row, (change row).id = row.id)
    (free : ∀ row ∈ book.rows.rows, row.id = id →
      book.keyTaken (change row).routingKey (some id) = false) : ShortcodeBook :=
  { book with
    rows := book.rows.modify id change keyed
    owned :=
      ((book.rows.find id).map fun row => ((change row).ownerUserId, id)).toList ++ book.owned
    codesUnique := by
      refine book.rows.nodup_map_modify id change keyed book.codesUnique ?_
      intro row present here rival rivalPresent apart same
      have taken := book.keyTaken_eq_false_iff.1 (free row present here) rival rivalPresent same
      exact apart (Option.some.inj taken)
    idsIssued := by
      intro row member
      obtain ⟨before, present, rfl⟩ := (KeyedTable.mem_modify _ _ _ _ row).1 member
      split
      · exact keyed before ▸ book.idsIssued before present
      · exact book.idsIssued before present
    ownersRecorded := by
      intro row member
      obtain ⟨before, present, rfl⟩ := (KeyedTable.mem_modify _ _ _ _ row).1 member
      split
      next here =>
        have found := (book.rows.find_eq_some_iff id before).2 ⟨present, here⟩
        rw [found, keyed, here]
        exact List.mem_cons_self
      next => exact List.mem_append_right _ (book.ownersRecorded before present) }

/-! `lib/shortcodes.ts`. -/

def defaultSandboxOperatorId : Except ActionError Nat :=
  match ((book.operators.filter PortalOperator.active).map fun operator => operator.id).min? with
  | some id => .ok id
  | none => .error .thrown

def countUnpromotedSandbox (ownerUserId operatorId : Nat) : Nat :=
  book.rows.rows.countP fun row =>
    decide (row.ownerUserId = ownerUserId) && decide (row.operatorId = operatorId) &&
      decide (row.environment = .sandbox) &&
      !book.keyTaken (row.operatorId, row.code, .production) none

def codeExists (operatorId : Nat) (code : String) (environment : ShortcodeEnvironment)
    (excludeId : Option Nat) : Bool :=
  book.keyTaken (operatorId, code, environment) (excludeId.filter fun id => decide (id ≠ 0))

def createShortcode (write : ShortcodeWrite) : Except ActionError (Nat × ShortcodeBook) :=
  if book.refersTo write.operatorId write.ownerUserId then
    if free : book.keyTaken (write.operatorId, write.code, write.environment) none = false then
      .ok (book.nextId, book.insert write free)
    else .error .thrown
  else .error .thrown

def promoteShortcode (sandboxId operatorId : Nat) : Except ActionError (Nat × ShortcodeBook) :=
  match (book.rows.find sandboxId).filter fun row => decide (row.environment = .sandbox) with
  | none => .error .thrown
  | some row => book.createShortcode (row.promotion operatorId)

def rewritten (write : ShortcodeWrite) (row : PortalShortcode) : PortalShortcode :=
  { write with id := row.id, environment := row.environment }

def updateShortcode (id : Nat) (write : ShortcodeWrite) : Except ActionError ShortcodeBook :=
  if (book.rows.find id).isSome && !book.refersTo write.operatorId write.ownerUserId then
    .error .thrown
  else if free : ∀ row ∈ book.rows.rows, row.id = id →
      book.keyTaken (rewritten write row).routingKey (some id) = false then
    .ok (book.modify id (rewritten write) (fun _ => rfl) free)
  else .error .thrown

theorem keyTaken_own {row : PortalShortcode} {id : Nat} (present : row ∈ book.rows.rows)
    (here : row.id = id) : book.keyTaken row.routingKey (some id) = false := by
  rw [keyTaken_eq_false_iff]
  intro rival rivalPresent same
  rw [List.inj_on_of_nodup_map book.codesUnique rivalPresent present same, here]

def edit (id : Nat) (change : PortalShortcode → PortalShortcode)
    (keyed : ∀ row, (change row).id = row.id)
    (routed : ∀ row, (change row).routingKey = row.routingKey) : ShortcodeBook :=
  book.modify id change keyed fun row present here => by
    rw [routed]
    exact book.keyTaken_own present here

def withStatus (status : ShortcodeStatus) (message : Option String) (row : PortalShortcode) :
    PortalShortcode :=
  { row with status, statusMessage := message }

def setShortcodeStatus (id : Nat) (status : ShortcodeStatus) (message : Option String) :
    ShortcodeBook :=
  book.edit id (withStatus status message) (fun _ => rfl) fun _ => rfl

def withHandlerUrl (handlerUrl : String) (row : PortalShortcode) : PortalShortcode :=
  { row with handlerUrl }

def setShortcodeHandlerUrl (id : Nat) (handlerUrl : String) : ShortcodeBook :=
  book.edit id (withHandlerUrl handlerUrl) (fun _ => rfl) fun _ => rfl

end ShortcodeBook

inductive ShortcodeOp where
  | defaultSandboxOperatorId
  | getShortcode (id : Nat)
  | codeExists (operatorId : Nat) (code : String) (environment : ShortcodeEnvironment)
      (excludeId : Option Nat)
  | countUnpromotedSandbox (ownerUserId operatorId : Nat)
  | createShortcode (write : ShortcodeWrite)
  | promoteShortcode (sandboxId operatorId : Nat)
  | updateShortcode (id : Nat) (write : ShortcodeWrite)
  | setShortcodeStatus (id : Nat) (status : ShortcodeStatus) (message : Option String)
  | setShortcodeHandlerUrl (id : Nat) (handlerUrl : String)

def ShortcodeOp.Answer : ShortcodeOp → Type
  | defaultSandboxOperatorId => Nat
  | getShortcode _ => Option PortalShortcode
  | codeExists _ _ _ _ => Bool
  | countUnpromotedSandbox _ _ => Nat
  | createShortcode _ => Nat
  | promoteShortcode _ _ => Nat
  | updateShortcode _ _ => Unit
  | setShortcodeStatus _ _ _ => Unit
  | setShortcodeHandlerUrl _ _ => Unit

abbrev shortcodeOps : Signature := ⟨ShortcodeOp, ShortcodeOp.Answer⟩

abbrev ActionProgram (α : Type) := Prog shortcodeOps ActionError α

def statement {α : Type} (book : ShortcodeBook) :
    Except ActionError (α × ShortcodeBook) → Except ActionError α × ShortcodeBook
  | .ok (value, after) => (.ok value, after)
  | .error error => (.error error, book)

def performShortcode : Prog.Handler shortcodeOps ActionError ShortcodeBook
  | .defaultSandboxOperatorId, book => (book.defaultSandboxOperatorId, book)
  | .getShortcode id, book => (.ok (book.rows.find id), book)
  | .codeExists operatorId code environment excludeId, book =>
      (.ok (book.codeExists operatorId code environment excludeId), book)
  | .countUnpromotedSandbox ownerUserId operatorId, book =>
      (.ok (book.countUnpromotedSandbox ownerUserId operatorId), book)
  | .createShortcode write, book => statement book (book.createShortcode write)
  | .promoteShortcode sandboxId operatorId, book =>
      statement book (book.promoteShortcode sandboxId operatorId)
  | .updateShortcode id write, book =>
      statement book ((book.updateShortcode id write).map fun after => ((), after))
  | .setShortcodeStatus id status message, book =>
      (.ok (), book.setShortcodeStatus id status message)
  | .setShortcodeHandlerUrl id handlerUrl, book =>
      (.ok (), book.setShortcodeHandlerUrl id handlerUrl)

namespace ActionProgram

def defaultSandboxOperatorId : ActionProgram Nat :=
  Prog.call (S := shortcodeOps) .defaultSandboxOperatorId

def getShortcode (id : Nat) : ActionProgram (Option PortalShortcode) :=
  Prog.call (S := shortcodeOps) (.getShortcode id)

def codeExists (operatorId : Nat) (code : String) (environment : ShortcodeEnvironment)
    (excludeId : Option Nat) : ActionProgram Bool :=
  Prog.call (S := shortcodeOps) (.codeExists operatorId code environment excludeId)

def countUnpromotedSandbox (ownerUserId operatorId : Nat) : ActionProgram Nat :=
  Prog.call (S := shortcodeOps) (.countUnpromotedSandbox ownerUserId operatorId)

def createShortcode (write : ShortcodeWrite) : ActionProgram Nat :=
  Prog.call (S := shortcodeOps) (.createShortcode write)

def promoteShortcode (sandboxId operatorId : Nat) : ActionProgram Nat :=
  Prog.call (S := shortcodeOps) (.promoteShortcode sandboxId operatorId)

def updateShortcode (id : Nat) (write : ShortcodeWrite) : ActionProgram Unit :=
  Prog.call (S := shortcodeOps) (.updateShortcode id write)

def setShortcodeStatus (id : Nat) (status : ShortcodeStatus) (message : Option String) :
    ActionProgram Unit :=
  Prog.call (S := shortcodeOps) (.setShortcodeStatus id status message)

def setShortcodeHandlerUrl (id : Nat) (handlerUrl : String) : ActionProgram Unit :=
  Prog.call (S := shortcodeOps) (.setShortcodeHandlerUrl id handlerUrl)

def redirect {α : Type} (page : String) (error : Option String) : ActionProgram α :=
  .raise (.redirect page error)

end ActionProgram

/-! `shortcodes/actions.ts`. A field that is not posted reads as empty. -/

structure ShortcodeForm where
  environment : String
  operatorId : String
  code : String
  ownerUserId : String
  handlerUrl : String
  authMode : String
  bearerToken : String
  timeoutSecs : String
  status : String
  active : String
  statusMessage : String
  payloadFormat : String
  skipTlsVerify : String
deriving DecidableEq

def boolField (value : String) : Bool := decide (JsText.trim value ∈ ["1", "true", "on"])

def optionalField (value : String) : Option String :=
  if JsText.trim value = "" then none else some (JsText.trim value)

def positiveField (value : String) : Option Nat :=
  ((JsText.parseInt (JsText.trim value)).filter fun number => decide (0 < number)).map Int.toNat

def keyword (value : String) : String :=
  String.ofList ((JsText.trim value).toList.map Char.toLower)

namespace ShortcodeForm

variable (form : ShortcodeForm)

def environmentOf : ShortcodeEnvironment :=
  if keyword form.environment = "sandbox" then .sandbox else .production

def statusOf : ShortcodeStatus :=
  if keyword form.status = "active" then .active
  else if keyword form.status = "maintenance" then .maintenance
  else if keyword form.status = "deactivated" then .deactivated
  else if boolField form.active then .active else .deactivated

def bearer : Bool := decide (JsText.trim form.authMode = "bearer")

def error (operatorId : Option Nat) : Option String :=
  if operatorId.isNone then some "operator is required"
  else if JsText.trim form.code = "" then some "code is required"
  else if 32 < utf16Length (JsText.trim form.code) then some "code too long (max 32)"
  else if (positiveField form.ownerUserId).isNone then some "owner is required"
  else if JsText.trim form.handlerUrl = "" ∨ !isHttpUrl (JsText.trim form.handlerUrl) then
    some "handler URL must start with http:// or https://"
  else if JsText.trim form.authMode ≠ "none" ∧ JsText.trim form.authMode ≠ "bearer" then
    some "auth_mode must be 'none' or 'bearer'"
  else if form.bearer && (optionalField form.bearerToken).isNone then
    some "bearer token required when auth_mode=bearer"
  else if ((JsText.parseInt (JsText.trim form.timeoutSecs)).filter fun seconds =>
      decide (1 ≤ seconds) && decide (seconds ≤ 30)).isNone then
    some "timeout_secs must be 1–30"
  else if form.statusOf ≠ .active ∧ (optionalField form.statusMessage).isNone then
    some "a status message is required when status is maintenance or deactivated"
  else if (optionalField form.statusMessage).any fun message =>
      decide (160 < utf16Length message) then
    some "status message too long (max 160 chars — MNOs truncate at session size)"
  else none

def write (operatorId : Option Nat) : ShortcodeWrite where
  operatorId := operatorId.getD 0
  code := JsText.trim form.code
  environment := form.environmentOf
  ownerUserId := (positiveField form.ownerUserId).getD 0
  handlerUrl := JsText.trim form.handlerUrl
  authMode := if form.bearer then .bearer else .none
  bearerToken := if form.bearer then optionalField form.bearerToken else none
  timeoutSecs := (JsText.parseInt (JsText.trim form.timeoutSecs)).getD 0
  status := form.statusOf
  statusMessage := optionalField form.statusMessage
  payloadFormat := if keyword form.payloadFormat = "legacy" then .legacy else .gateway
  verifyTls := !boolField form.skipTlsVerify

end ShortcodeForm

/-- A sandbox row with no network is filed under the placeholder. -/
def postedOperatorId (form : ShortcodeForm) : ActionProgram (Option Nat) :=
  match positiveField form.operatorId, form.environmentOf with
  | none, .sandbox => do
      let operatorId ← ActionProgram.defaultSandboxOperatorId
      pure (some operatorId)
  | posted, _ => pure posted

def parseWrite (form : ShortcodeForm) : ActionProgram (Except String ShortcodeWrite) := do
  let operatorId ← postedOperatorId form
  match form.error operatorId with
  | some message => pure (.error message)
  | none => pure (.ok (form.write operatorId))

section

variable (session : Option PortalClaims)

def isAdmin (session : PortalClaims) : Bool := hasPerm session Perms.shortcodesManage

def requireAdmin : ActionProgram Unit :=
  match session with
  | none => ActionProgram.redirect "/" none
  | some session => if isAdmin session then pure () else ActionProgram.redirect "/" none

def shortcodePage (id : Nat) : String := "/shortcodes/" ++ toString id

def takenMessage : String := "operator+code already exists in this environment"

def actionCreateShortcode (form : ShortcodeForm) : ActionProgram Unit := do
  requireAdmin session
  match ← parseWrite form with
  | .error message => ActionProgram.redirect "/shortcodes/new" (some message)
  | .ok write => do
      if ← ActionProgram.codeExists write.operatorId write.code write.environment none then
        ActionProgram.redirect "/shortcodes/new" (some takenMessage)
      else do
        let _ ← ActionProgram.createShortcode write
        pure ()

/-- The code is looked for in the environment that was posted, which the update does not write. -/
def actionUpdateShortcode (id : Nat) (form : ShortcodeForm) : ActionProgram Unit := do
  requireAdmin session
  match ← parseWrite form with
  | .error message => ActionProgram.redirect (shortcodePage id) (some message)
  | .ok write => do
      if ← ActionProgram.codeExists write.operatorId write.code write.environment (some id) then
        ActionProgram.redirect (shortcodePage id) (some takenMessage)
      else ActionProgram.updateShortcode id write

/-- `operatorId` is what the form posts, nothing where that is no number. -/
def actionPromoteShortcode (id : Nat) (operatorId : Option Int) : ActionProgram Unit := do
  requireAdmin session
  match ← ActionProgram.getShortcode id with
  | none => ActionProgram.redirect "/shortcodes" (some "shortcode not found")
  | some row =>
      if row.environment ≠ .sandbox then
        ActionProgram.redirect (shortcodePage id) (some "only sandbox shortcodes can be promoted")
      else
        match operatorId.filter fun operatorId => decide (0 < operatorId) with
        | none =>
            ActionProgram.redirect (shortcodePage id)
              (some "choose the live network to promote onto")
        | some operatorId => do
            if ← ActionProgram.codeExists operatorId.toNat row.code .production none then
              ActionProgram.redirect (shortcodePage id)
                (some "a production shortcode with this operator+code already exists")
            else do
              let _ ← ActionProgram.promoteShortcode id operatorId.toNat
              pure ()

def actionSetShortcodeActive (id : Nat) (active : Bool) : ActionProgram Unit := do
  requireAdmin session
  ActionProgram.setShortcodeStatus id (if active then .active else .deactivated) none

end

section

variable (session : PortalClaims)

def requireOwner (id : Nat) : ActionProgram Unit :=
  if isAdmin session then pure ()
  else do
    match ← ActionProgram.getShortcode id with
    | none => ActionProgram.redirect "/my-shortcodes" (some "not_authorized")
    | some row =>
        if row.ownerUserId ≠ session.sub then
          ActionProgram.redirect "/my-shortcodes" (some "not_authorized")
        else pure ()

def editPage (id : Nat) : String := if isAdmin session then shortcodePage id else "/my-shortcodes"

def setHandlerUrlFor (id : Nat) (url : String) : ActionProgram Unit := do
  requireOwner session id
  let handler := JsText.trim url
  if handler = "" ∨ !isHttpUrl handler then
    ActionProgram.redirect (editPage session id)
      (some "handler URL must start with http:// or https://")
  else if 2048 < utf16Length handler then
    ActionProgram.redirect (editPage session id) (some "handler URL too long (max 2048 chars)")
  else ActionProgram.setShortcodeHandlerUrl id handler

def setStatusFor (id : Nat) (status : ShortcodeStatus) (message : Option String) :
    ActionProgram Unit := do
  requireOwner session id
  if !isAdmin session && decide (status = .deactivated) then
    ActionProgram.redirect "/my-shortcodes" (some "only_admins_can_deactivate")
  else if status ≠ .active ∧ message.getD "" = "" then
    ActionProgram.redirect (editPage session id) (some "a status message is required")
  else if 160 < utf16Length (message.getD "") then
    ActionProgram.redirect (editPage session id) (some "status message too long (max 160 chars)")
  else ActionProgram.setShortcodeStatus id status message

/-! `my-shortcodes/actions.ts`. -/

def createSandboxFor (form : SandboxForm) : ActionProgram Unit := do
  if !hasPerm session Perms.shortcodesManageSandbox then
    ActionProgram.redirect "/my-shortcodes"
      (some "you are not allowed to create sandbox shortcodes")
  else do
    let operatorId ← ActionProgram.defaultSandboxOperatorId
    match form.error with
    | some message => ActionProgram.redirect "/my-shortcodes" (some message)
    | none => do
        let inFlight ← ActionProgram.countUnpromotedSandbox session.sub operatorId
        if sandboxPerOperatorLimit ≤ inFlight then
          ActionProgram.redirect "/my-shortcodes"
            (some ("You already have " ++ toString sandboxPerOperatorLimit ++
              " sandbox shortcodes awaiting promotion. " ++
              "Promote one to production before creating another."))
        else if ← ActionProgram.codeExists operatorId (JsText.trim form.code) .sandbox none then
          ActionProgram.redirect "/my-shortcodes"
            (some "you already have a sandbox shortcode with this code")
        else do
          let _ ← ActionProgram.createShortcode (form.write operatorId session.sub)
          pure ()

end

section

variable (session : Option PortalClaims)

def actionSetShortcodeHandlerUrl (id : Nat) (url : String) : ActionProgram Unit :=
  match session with
  | none => ActionProgram.redirect "/" none
  | some session => setHandlerUrlFor session id url

def actionSetShortcodeStatus (id : Nat) (status : ShortcodeStatus) (message : Option String) :
    ActionProgram Unit :=
  match session with
  | none => ActionProgram.redirect "/" none
  | some session => setStatusFor session id status message

def actionCreateSandboxShortcode (form : SandboxForm) : ActionProgram Unit :=
  match session with
  | none => ActionProgram.redirect "/login" none
  | some session => createSandboxFor session form

end

inductive ShortcodeTask where
  | create (form : ShortcodeForm)
  | update (id : Nat) (form : ShortcodeForm)
  | promote (id : Nat) (operatorId : Option Int)
  | setActive (id : Nat) (active : Bool)
  | setHandlerUrl (id : Nat) (url : String)
  | setStatus (id : Nat) (status : ShortcodeStatus) (message : Option String)
  | createSandbox (form : SandboxForm)
deriving DecidableEq

def ShortcodeTask.program (session : Option PortalClaims) : ShortcodeTask → ActionProgram Unit
  | create form => actionCreateShortcode session form
  | update id form => actionUpdateShortcode session id form
  | promote id operatorId => actionPromoteShortcode session id operatorId
  | setActive id active => actionSetShortcodeActive session id active
  | setHandlerUrl id url => actionSetShortcodeHandlerUrl session id url
  | setStatus id status message => actionSetShortcodeStatus session id status message
  | createSandbox form => actionCreateSandboxShortcode session form

end UssdGateway
