import UssdGateway.Library.JsText
import UssdGateway.Library.SlidingWindow
import UssdGateway.Library.Transition
import UssdGateway.Portal.AuditLog
import UssdGateway.Portal.ResetTokens
import UssdGateway.Portal.Viewers

/-!
`POST /api/auth/forgot-password`, request by request and step by step. The rows under the typed
address are counted first, the account is looked up next, its row is written under the stored
address, and then the mail goes out: other requests get in between.
-/

namespace UssdGateway

structure ForgotSettings where
  smtpHost : String
  smtpFrom : String
  publicBaseUrl : Option String
  toLowerCase : String → String
  -- `LOWER` of the database
  lower : String → String

structure ForgotRequest where
  sameOrigin : Bool
  ip : Option String
  typed : String
  -- the row of several that `LIMIT 1` takes
  pick : Nat
  token : String
deriving DecidableEq

structure FoundAccount where
  request : ForgotRequest
  user : PortalUserRow
deriving DecidableEq

structure ResetMail where
  userId : Nat
  recipient : String
  subject : String
  text : String
  sentAt : Int
deriving DecidableEq

/-- The requests stand before the step that their list is named for, the accounts behind it. -/
structure ForgotState where
  now : Int
  -- the newest rows and mails are first
  log : List AuditRow
  mails : List ResetMail
  counting : List ForgotRequest
  finding : List ForgotRequest
  found : List FoundAccount
  recorded : List FoundAccount
  -- the other rows, on their way to the log
  writing : List AuditRow
deriving DecidableEq

structure ForgotReply where
  status : Nat
  error : Option String
deriving DecidableEq

inductive ForgotEvent where
  | asks (request : ForgotRequest)
  | counts (request : ForgotRequest)
  | finds (request : ForgotRequest)
  | findFails (request : ForgotRequest)
  | issueFails (account : FoundAccount)
  | records (account : FoundAccount)
  | sends (account : FoundAccount)
  | sendFails (mail : ResetMail) (ip : Option String) (error : String)
  | writes (row : AuditRow)
  | elapsed (micros : Nat)
deriving DecidableEq

def resetRequestAction : String := "auth.reset_request"

def perIpPerHour : Nat := 10

def perEmailPerHour : Nat := 3

def genericReply : ForgotReply := ⟨200, none⟩

def resetEmail (name email link : String) (ip : Option String) : String :=
  "\n".intercalate
    ["Hello " ++ name ++ ",",
      "",
      "Someone asked to reset the password for " ++ email ++ " on the UssdGatewayTz portal.",
      "",
      "To choose a new password, open this link within " ++ toString resetTtlMinutes ++ " minutes:",
      "",
      link,
      "",
      "The link works once. Resetting signs you out on every device.",
      "",
      "If you didn't ask for this, ignore this email: your password stays as it is.",
      match ip with
      | none | some "" => ""
      | some address => "The request came from IP address " ++ address ++ "."]

namespace ForgotSettings

variable (settings : ForgotSettings)

def mailEnabled : Bool :=
  decide (settings.smtpHost ≠ "") && decide (settings.smtpFrom ≠ "") &&
    settings.publicBaseUrl.any fun url => decide (url ≠ "")

def typedEmail (typed : String) : String := settings.toLowerCase (JsText.trim typed)

def accepts (email : String) : Bool := validEmail email && decide (utf16Length email ≤ 255)

def matchesEmail (email : String) (user : PortalUserRow) : Bool :=
  decide (settings.lower user.email = settings.toLowerCase email) && user.active

def findActiveUserByEmail (users : UserTable) (email : String) (pick : Nat) :
    Option PortalUserRow :=
  let found := users.rows.filter (settings.matchesEmail email)
  found[pick % found.length]?

end ForgotSettings

def resetMailTo (settings : ForgotSettings) (now : Int) (account : FoundAccount) : ResetMail where
  userId := account.user.id
  recipient := account.user.email
  subject := "Reset your UssdGatewayTz portal password"
  text := resetEmail account.user.name account.user.email
    (settings.publicBaseUrl.getD "null" ++ "/reset-password#token=" ++ account.request.token)
    account.request.ip
  sentAt := now

namespace ForgotState

variable (settings : ForgotSettings) (users : UserTable) (state : ForgotState)

def note (request : ForgotRequest) (actor : Option String) (outcome : AuditOutcome)
    (reason : String) : ForgotState :=
  { state with
    writing :=
      { ts := state.now, actor, action := resetRequestAction, target := none, outcome
        ip := request.ip, detail := [("reason", reason)] } :: state.writing }

def asks (request : ForgotRequest) : Option ForgotReply × ForgotState :=
  if !request.sameOrigin then
    (some ⟨403, some "forbidden"⟩, state.note request none .denied "csrf")
  else if !settings.mailEnabled then
    (some ⟨503, some ("Password reset by email isn't set up. " ++
      "Ask an administrator to reset your password.")⟩, state)
  else if perIpPerHour ≤
      recentAuditCountByIp state.log state.now request.ip resetRequestAction 60 then
    (some ⟨429, some "Too many requests. Try again later."⟩,
      state.note request none .denied "ip_rate_limit")
  else if !ForgotSettings.accepts (settings.typedEmail request.typed) then
    (some ⟨400, some "Enter a valid email address."⟩, state)
  else (none, { state with counting := request :: state.counting })

def recentlySent (email : String) : Nat :=
  recentAuditCount state.log state.now email resetRequestAction .success 60

def counts (request : ForgotRequest) : Option ForgotReply × ForgotState :=
  let email := settings.typedEmail request.typed
  let left := { state with counting := state.counting.erase request }
  if perEmailPerHour ≤ state.recentlySent email then
    (some genericReply, left.note request (some email) .denied "email_rate_limit")
  else (none, { left with finding := request :: left.finding })

def finds (request : ForgotRequest) : Option ForgotReply × ForgotState :=
  let email := settings.typedEmail request.typed
  let left := { state with finding := state.finding.erase request }
  match settings.findActiveUserByEmail users email request.pick with
  | none => (some genericReply, left.note request (some email) .failure "no_user")
  | some user => (none, { left with found := { request, user } :: left.found })

def records (account : FoundAccount) : ForgotState :=
  { state with
    found := state.found.erase account
    recorded := account :: state.recorded
    log :=
      { ts := state.now, actor := some account.user.email, action := resetRequestAction
        target := some (toString account.user.id), outcome := .success, ip := account.request.ip
        detail := [] } :: state.log }

def sends (account : FoundAccount) : ForgotReply × ForgotState :=
  (genericReply,
    { state with
      recorded := state.recorded.erase account
      mails := resetMailTo settings state.now account :: state.mails })

def step : ForgotEvent → Option ForgotState
  | .asks request => some (state.asks settings request).2
  | .counts request =>
      if request ∈ state.counting then some (state.counts settings request).2 else none
  | .finds request =>
      if request ∈ state.finding then some (state.finds settings users request).2 else none
  | .findFails request =>
      if request ∈ state.finding then some { state with finding := state.finding.erase request }
      else none
  | .issueFails account =>
      if account ∈ state.found then some { state with found := state.found.erase account }
      else none
  | .records account => if account ∈ state.found then some (state.records account) else none
  | .sends account =>
      if account ∈ state.recorded then some (state.sends settings account).2 else none
  | .sendFails mail ip error =>
      if mail ∈ state.mails then
        some { state with
          writing :=
            { ts := state.now, actor := some mail.recipient, action := "auth.reset_email"
              target := some (toString mail.userId), outcome := .failure, ip
              detail := [("reason", "send_failed"), ("error", error)] } :: state.writing }
      else none
  | .writes row =>
      if row ∈ state.writing then
        some { state with
          writing := state.writing.erase row
          log := { row with ts := state.now } :: state.log }
      else none
  | .elapsed micros => some { state with now := state.now + micros }

end ForgotState

def forgotRuns (settings : ForgotSettings) (users : UserTable) :
    StepSystem ForgotState ForgotEvent where
  initial := fun state => state.mails = [] ∧ state.counting = [] ∧ state.finding = [] ∧
    state.found = [] ∧ state.recorded = [] ∧ state.writing = []
  step := fun state event => state.step settings users event

end UssdGateway
