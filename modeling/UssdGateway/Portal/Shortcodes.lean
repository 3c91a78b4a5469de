import UssdGateway.Gateway.Database
import UssdGateway.Library.JsText
import UssdGateway.Library.Transition
import UssdGateway.Portal.Viewers

/-!
Shortcodes as the dashboard creates and promotes them. A promotion clones a sandbox row onto a live
operator and leaves no mark on it: the quota of the self-service form looks for the clone.
-/

namespace UssdGateway

structure OperatorChoice where
  id : Nat
  active : Bool
deriving DecidableEq

structure ShortcodeWrite where
  operatorId : Nat
  code : String
  environment : ShortcodeEnvironment
  ownerUserId : Nat
  handlerUrl : String
  authMode : AuthMode
  bearerToken : Option String
  timeoutSecs : Int
  status : ShortcodeStatus
  statusMessage : Option String
  payloadFormat : PayloadFormat
  verifyTls : Bool
deriving DecidableEq

structure PortalShortcode extends ShortcodeWrite where
  id : Nat
deriving DecidableEq

abbrev ShortcodeTable := KeyedTable Nat PortalShortcode PortalShortcode.id

structure QuotaState where
  rows : ShortcodeTable
  nextId : Nat
  promoted : List Nat
  selfService : List Nat

structure SandboxForm where
  code : String
  handlerUrl : String
  authMode : String
  bearerToken : String
  timeoutSecs : String
deriving DecidableEq

inductive ShortcodeError where
  | back (message : String)
  | thrown
deriving DecidableEq

inductive QuotaEvent where
  | createSandbox (userId : Nat) (mayManageSandbox : Bool) (form : SandboxForm)
  -- by a super admin
  | promote (id : Nat) (operatorId : Option Int)
  | create (write : ShortcodeWrite)
deriving DecidableEq

def sandboxPerOperatorLimit : Nat := 2

/-- `/^https?:\/\//i`. -/
def isHttpUrl (url : String) : Bool :=
  ["http://".toList, "https://".toList].any fun scheme =>
    scheme.isPrefixOf (url.toList.map Char.toLower)

def SandboxForm.bearer (form : SandboxForm) : Bool :=
  decide (JsText.trim form.authMode = "bearer")

def SandboxForm.token (form : SandboxForm) : Option String :=
  if JsText.trim form.bearerToken = "" then none else some (JsText.trim form.bearerToken)

def SandboxForm.error (form : SandboxForm) : Option String :=
  if JsText.trim form.code = "" then some "code is required"
  else if 32 < utf16Length (JsText.trim form.code) then some "code too long (max 32)"
  else if JsText.trim form.handlerUrl = "" ∨ !isHttpUrl (JsText.trim form.handlerUrl) then
    some "handler URL must start with http:// or https://"
  else if 2048 < utf16Length (JsText.trim form.handlerUrl) then
    some "handler URL too long (max 2048 chars)"
  else if form.bearer && form.token.isNone then
    some "bearer token required when auth_mode=bearer"
  else
    match JsText.parseInt (JsText.trim form.timeoutSecs) with
    | none => some "timeout must be 1–30 seconds"
    | some seconds =>
        if seconds < 1 ∨ 30 < seconds then some "timeout must be 1–30 seconds" else none

def SandboxForm.write (form : SandboxForm) (operatorId userId : Nat) : ShortcodeWrite where
  operatorId := operatorId
  code := JsText.trim form.code
  environment := .sandbox
  ownerUserId := userId
  handlerUrl := JsText.trim form.handlerUrl
  authMode := if form.bearer then .bearer else .none
  bearerToken := if form.bearer then form.token else none
  timeoutSecs := (JsText.parseInt (JsText.trim form.timeoutSecs)).getD 0
  status := .active
  statusMessage := none
  payloadFormat := .gateway
  verifyTls := true

def defaultSandboxOperatorId (operators : List OperatorChoice) : Option Nat :=
  ((operators.filter OperatorChoice.active).map OperatorChoice.id).min?

def PortalShortcode.promotion (row : PortalShortcode) (operatorId : Nat) : ShortcodeWrite :=
  { row.toShortcodeWrite with
    operatorId
    environment := .production
    status := .active
    statusMessage := none
    verifyTls := true }

namespace QuotaState

variable (operators : List OperatorChoice) (state : QuotaState)

def codeExists (operatorId : Nat) (code : String) (environment : ShortcodeEnvironment) : Bool :=
  state.rows.rows.any fun row => decide (row.operatorId = operatorId) && decide (row.code = code) &&
    decide (row.environment = environment)

/-- The sandbox rows of an owner on an operator whose code is not live there. -/
def countUnpromotedSandbox (ownerUserId operatorId : Nat) : Nat :=
  state.rows.rows.countP fun row =>
    decide (row.ownerUserId = ownerUserId) && decide (row.operatorId = operatorId) &&
      decide (row.environment = .sandbox) && !state.codeExists row.operatorId row.code .production

def insert (write : ShortcodeWrite) : QuotaState :=
  { state with
    rows := state.rows.upsert { write with id := state.nextId } (fun row => row) fun _ => rfl
    nextId := state.nextId + 1 }

/-- The operator of a row is one of the operators. Callers have looked for the code before. -/
def createShortcode (write : ShortcodeWrite) : Except ShortcodeError QuotaState :=
  if operators.any fun operator => decide (operator.id = write.operatorId) then
    .ok (state.insert write)
  else .error .thrown

def actionCreateSandboxShortcode (userId : Nat) (mayManageSandbox : Bool) (form : SandboxForm) :
    Except ShortcodeError QuotaState :=
  if !mayManageSandbox then .error (.back "you are not allowed to create sandbox shortcodes")
  else
    match defaultSandboxOperatorId operators with
    | none => .error .thrown
    | some operatorId =>
        match form.error with
        | some message => .error (.back message)
        | none =>
            if sandboxPerOperatorLimit ≤ state.countUnpromotedSandbox userId operatorId then
              .error (.back ("You already have " ++ toString sandboxPerOperatorLimit ++
                " sandbox shortcodes awaiting promotion. " ++
                "Promote one to production before creating another."))
            else if state.codeExists operatorId (JsText.trim form.code) .sandbox then
              .error (.back "you already have a sandbox shortcode with this code")
            else
              (state.createShortcode operators (form.write operatorId userId)).map fun after =>
                { after with selfService := state.nextId :: state.selfService }

def actionPromoteShortcode (id : Nat) (operatorId : Option Int) :
    Except ShortcodeError QuotaState :=
  match state.rows.find id with
  | none => .error (.back "shortcode not found")
  | some row =>
      if row.environment ≠ .sandbox then .error (.back "only sandbox shortcodes can be promoted")
      else
        match operatorId.filter fun operatorId => decide (0 < operatorId) with
        | none => .error (.back "choose the live network to promote onto")
        | some operatorId =>
            if state.codeExists operatorId.toNat row.code .production then
              .error (.back "a production shortcode with this operator+code already exists")
            else
              (state.createShortcode operators (row.promotion operatorId.toNat)).map fun after =>
                { after with promoted := id :: state.promoted }

def actionCreateShortcode (write : ShortcodeWrite) : Except ShortcodeError QuotaState :=
  if state.codeExists write.operatorId write.code write.environment then
    .error (.back "operator+code already exists in this environment")
  else state.createShortcode operators write

def perform : QuotaEvent → Except ShortcodeError QuotaState
  | .createSandbox userId mayManageSandbox form =>
      state.actionCreateSandboxShortcode operators userId mayManageSandbox form
  | .promote id operatorId => state.actionPromoteShortcode operators id operatorId
  | .create write => state.actionCreateShortcode operators write

def Initial : Prop :=
  (∀ row ∈ state.rows.rows, row.environment = .production ∧ row.id < state.nextId) ∧
    (state.rows.rows.map fun row => (row.operatorId, row.code)).Nodup ∧
    state.promoted = [] ∧ state.selfService = []

def step (event : QuotaEvent) : QuotaState :=
  match state.perform operators event with
  | .ok after => after
  | .error _ => state

end QuotaState

def quotaRuns (operators : List OperatorChoice) : StepSystem QuotaState QuotaEvent where
  initial := QuotaState.Initial
  step := fun state event => some (state.step operators event)

end UssdGateway
