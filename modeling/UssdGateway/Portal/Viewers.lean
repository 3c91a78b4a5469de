import UssdGateway.Library.Transition
import UssdGateway.Portal.Claims
import UssdGateway.Portal.Users
import Mathlib.Algebra.GroupWithZero.Nat

/-!
The viewers an Admin manages: read-only accounts with grants on the Admin's shortcodes. Every
action checks its scope against the grants and the ownership it finds in the tables.
-/

namespace UssdGateway

abbrev GrantTable :=
  KeyedTable (Nat × Nat) PortalGrant fun grant => (grant.portalUserId, grant.shortcodeId)

/-- The tables behind the users page. The role of viewers is seeded, and ids are given once. -/
structure PortalState where
  roles : RoleTable
  users : UserTable
  nextUserId : Nat
  shortcodes : OwnershipTable
  grants : GrantTable
  viewerSeeded : ∃ role ∈ roles.rows, role.key = .clientViewer
  idsIssued : ∀ user ∈ users.rows, user.id < nextUserId

structure PortalText where
  lower : String → String
  hash : String → String
  lower_plain : ∀ text : String, (∀ c ∈ text.toList, c.isLower = true ∨ c = '@' ∨ c = '.') →
    lower text = text

inductive ViewerError where
  | scope (reason : String)
  | emailTaken
deriving DecidableEq

/-! `lib/users.ts`. -/

def adminMaxViewers : Nat := 1

structure AdminViewerCreate where
  email : String
  name : String
  phone : Option String
  password : String
  shortcodeIds : List Int
deriving DecidableEq

structure AdminViewerUpdate where
  email : String
  name : String
  phone : Option String
  active : Bool
deriving DecidableEq

structure AdminViewerRow where
  id : Nat
  email : String
  name : String
  phone : Option String
  active : Bool
  createdByUserId : Option Nat
  grantedShortcodeIds : List Nat
deriving DecidableEq

def assertShortcodesOwnedBy (shortcodes : OwnershipTable) (ids : List Int) (userId : Nat) :
    Except ViewerError Unit :=
  if ids = [] then .ok ()
  else
    let found := shortcodes.rows.filter fun row => decide (Int.ofNat row.id ∈ ids)
    match ids.find? fun id => !(found.any fun row => decide (Int.ofNat row.id = id)) with
    | some id => .error (.scope ("shortcode " ++ toString id ++ " not found"))
    | none =>
        match found.find? fun row => decide (row.ownerUserId ≠ userId) with
        | some row =>
            .error (.scope ("shortcode " ++ toString row.id ++ " not owned by acting admin"))
        | none => .ok ()

def canChangeEmail (actorId : Nat) (isSuperAdmin : Bool) (target : PortalUserRow) : Bool :=
  isSuperAdmin || decide (target.createdByUserId = some actorId)

namespace PortalState

def roleOf (state : PortalState) (user : PortalUserRow) : Option RoleKey :=
  state.roles.keyOf user.roleId

def owns (state : PortalState) (userId shortcodeId : Nat) : Bool :=
  state.shortcodes.rows.any fun row =>
    decide (row.id = shortcodeId) && decide (row.ownerUserId = userId)

def viewerGrants (state : PortalState) (viewerId adminUserId : Nat) : List PortalGrant :=
  state.grants.rows.filter fun grant =>
    decide (grant.portalUserId = viewerId) && state.owns adminUserId grant.shortcodeId

/-- `COUNT(DISTINCT pus.portal_user_id)` over the viewers with a grant from the Admin. -/
def viewerCount (state : PortalState) (adminUserId : Nat) : Nat :=
  (state.users.rows.filter fun user => decide (state.roleOf user = some .clientViewer) &&
    !(state.viewerGrants user.id adminUserId).isEmpty).length

def emailTaken (text : PortalText) (state : PortalState) (email : String) (own : Option Nat) :
    Bool :=
  state.users.rows.any fun user =>
    decide (text.lower user.email = text.lower email) && decide (some user.id ≠ own)

def insertGrants (state : PortalState) (now : Int) (viewerId : Nat) (ids : List Int) :
    PortalState :=
  { state with
    grants := ids.foldl (fun grants id => grants.upsert
      { portalUserId := viewerId, shortcodeId := id.toNat, grantedAt := now } (fun old => old)
      fun _ => rfl) state.grants }

def insertUser (state : PortalState) (user : PortalUserRow)
    (fresh : user.id = state.nextUserId) : PortalState where
  roles := state.roles
  users := state.users.upsert user (fun old => old) fun _ => rfl
  nextUserId := state.nextUserId + 1
  shortcodes := state.shortcodes
  grants := state.grants
  viewerSeeded := state.viewerSeeded
  idsIssued := by
    intro other member
    rcases (KeyedTable.mem_upsert _ _ _ _ other).1 member with ⟨old, _⟩ | ⟨same, _⟩
    · exact Nat.lt_succ_of_lt (state.idsIssued other old)
    · rw [same, fresh]
      exact Nat.lt_succ_self _

def updateUser (state : PortalState) (id : Nat) (update : PortalUserRow → PortalUserRow)
    (keyed : ∀ user, (update user).id = user.id) : PortalState where
  roles := state.roles
  users := state.users.modify id update keyed
  nextUserId := state.nextUserId
  shortcodes := state.shortcodes
  grants := state.grants
  viewerSeeded := state.viewerSeeded
  idsIssued := by
    intro other member
    obtain ⟨before, inside, same⟩ := (KeyedTable.mem_modify _ _ _ _ other).1 member
    rw [same]
    split
    · rw [keyed]
      exact state.idsIssued before inside
    · exact state.idsIssued before inside

theorem find_updateUser (state : PortalState) (id wanted : Nat)
    (update : PortalUserRow → PortalUserRow) (keyed : ∀ user, (update user).id = user.id) :
    (state.updateUser id update keyed).users.find wanted =
      if wanted = id then (state.users.find wanted).map update else state.users.find wanted :=
  KeyedTable.find_modify _ _ _ _ keyed

end PortalState

section

variable (text : PortalText) (state : PortalState)

def emailExists (email : String) (excludeId : Option Nat) : Bool :=
  state.emailTaken text email (excludeId.filter fun id => decide (id ≠ 0))

def getViewerForAdmin (viewerId adminUserId : Nat) : Option AdminViewerRow :=
  ((state.users.find viewerId).filter fun user =>
    decide (state.roleOf user = some .clientViewer) &&
      !(state.viewerGrants viewerId adminUserId).isEmpty).map fun user =>
    { id := user.id
      email := user.email
      name := user.name
      phone := user.phone
      active := user.active
      createdByUserId := user.createdByUserId
      grantedShortcodeIds := (state.viewerGrants viewerId adminUserId).map PortalGrant.shortcodeId }

def viewerRow (create : AdminViewerCreate) (roleId adminUserId : Nat) : PortalUserRow where
  id := state.nextUserId
  email := create.email
  name := create.name
  phone := create.phone
  roleId := roleId
  active := true
  passwordHash := text.hash create.password
  passwordVersion := 0
  createdByUserId := some adminUserId

def createViewerAsAdmin (now : Int) (create : AdminViewerCreate) (adminUserId : Nat) :
    Except ViewerError (Nat × PortalState) :=
  if create.shortcodeIds = [] then .error (.scope "at least one shortcode grant is required")
  else
    match assertShortcodesOwnedBy state.shortcodes create.shortcodeIds adminUserId with
    | .error error => .error error
    | .ok () =>
        let existing := state.viewerCount adminUserId
        if adminMaxViewers ≤ existing then
          .error (.scope ("you already have " ++ toString existing ++ " viewer(s); the limit is " ++
            toString adminMaxViewers ++ ". Edit the existing viewer's grants " ++
            "instead of creating a new one."))
        else
          match state.roles.rows.find? fun role => role.key = .clientViewer with
          | none => .error (.scope "client_viewer role missing — run db/010 migration")
          | some role =>
              if state.emailTaken text create.email none then .error .emailTaken
              else
                let created :=
                  state.insertUser (viewerRow text state create role.id adminUserId) rfl
                .ok (state.nextUserId,
                  created.insertGrants now state.nextUserId create.shortcodeIds)

def setViewerGrantsAsAdmin (now : Int) (viewerId : Nat) (shortcodeIds : List Int)
    (adminUserId : Nat) : Except ViewerError PortalState :=
  match state.users.find viewerId with
  | none => .error (.scope "viewer not found")
  | some user =>
      if state.roleOf user ≠ some .clientViewer then
        .error (.scope "target user is not a client_viewer")
      else
        match assertShortcodesOwnedBy state.shortcodes shortcodeIds adminUserId with
        | .error error => .error error
        | .ok () =>
            let revoked := state.grants.filter fun grant =>
              !(decide (grant.portalUserId = viewerId) && state.owns adminUserId grant.shortcodeId)
            .ok ({ state with grants := revoked }.insertGrants now viewerId shortcodeIds)

def updateViewerAsAdmin (viewerId : Nat) (update : AdminViewerUpdate) (adminUserId : Nat) :
    Except ViewerError (String × PortalState) :=
  match state.users.find viewerId with
  | none => .error (.scope "viewer not found")
  | some user =>
      if state.roleOf user ≠ some .clientViewer then
        .error (.scope "target user is not a client_viewer")
      else if (state.viewerGrants viewerId adminUserId).isEmpty then
        .error (.scope "viewer not found")
      else
        let emailChanged := decide (text.lower user.email ≠ text.lower update.email)
        if emailChanged && !canChangeEmail adminUserId false user then
          .error (.scope
            "only a super admin or the user who created this account can change its email")
        else if state.emailTaken text update.email (some viewerId) then .error .emailTaken
        else
          .ok (user.email, state.updateUser viewerId (fun user =>
            { user with
              email := update.email
              name := update.name
              phone := update.phone
              active := update.active
              passwordVersion := user.passwordVersion + (if emailChanged then 1 else 0) })
            fun _ => rfl)

def withPassword (newPassword : String) (user : PortalUserRow) : PortalUserRow :=
  { user with
    passwordHash := text.hash newPassword
    passwordVersion := user.passwordVersion + 1 }

theorem withPassword_id (newPassword : String) (user : PortalUserRow) :
    (withPassword text newPassword user).id = user.id := rfl

def resetPassword (id : Nat) (newPassword : String) : PortalState :=
  state.updateUser id (withPassword text newPassword) (withPassword_id text newPassword)

end

/-! `users/actions.ts`. -/

def utf16Length (text : String) : Nat :=
  (text.toList.map fun c => if c.val < 0x10000 then 1 else 2).sum

/-- `\s` of a regular expression. -/
def isSpace (c : Char) : Bool :=
  decide (c.val ∈ [0x20, 0xa0, 0x1680, 0x2028, 0x2029, 0x202f, 0x205f, 0x3000, 0xfeff]) ||
    (decide (0x9 ≤ c.val) && decide (c.val ≤ 0xd)) ||
    (decide (0x2000 ≤ c.val) && decide (c.val ≤ 0x200a))

/-- `/^[^@\s]+@[^@\s]+\.[^@\s]+$/`. -/
def validEmail (email : String) : Bool :=
  match email.toList.span fun c => decide (c ≠ '@') with
  | (user, '@' :: domain) =>
      !user.isEmpty && (user ++ domain).all (fun c => decide (c ≠ '@') && !isSpace c) &&
        decide ('.' ∈ (domain.drop 1).dropLast)
  | _ => false

structure ViewerForm where
  email : String
  name : String
  phone : Option String
  password : String
  passwordConfirm : String
  shortcodeIds : List Int
deriving DecidableEq

inductive ViewerAction where
  | create (form : ViewerForm)
  | setGrants (viewerId : Nat) (shortcodeIds : List Int)
  | update (viewerId : Nat) (update : AdminViewerUpdate)
  | resetPassword (viewerId : Nat) (password passwordConfirm : String)
deriving DecidableEq

structure ViewerEvent where
  actor : Nat
  now : Int
  action : ViewerAction
deriving DecidableEq

def requireViewerManager (perms : List String) : Bool :=
  decide ("portal_users.manage" ∈ perms) || decide ("viewers.manage_own" ∈ perms)

def parseViewerCreate (text : PortalText) (form : ViewerForm) : Except String AdminViewerCreate :=
  let email := text.lower form.email
  if !validEmail email then .error "valid email required"
  else if form.name = "" then .error "name required"
  else if utf16Length form.password < 8 then .error "password must be ≥8 chars"
  else if form.password ≠ form.passwordConfirm then .error "passwords do not match"
  else if form.shortcodeIds = [] then .error "at least one shortcode grant is required"
  else
    .ok { email, name := form.name, phone := form.phone, password := form.password,
          shortcodeIds := form.shortcodeIds }

def ViewerError.message : ViewerError → String
  | .scope reason => reason
  | .emailTaken => "email already in use"

section

variable (text : PortalText) (state : PortalState) (actor : Nat)

def redirected {α : Type} (result : Except ViewerError α) (after : α → PortalState) :
    Except String PortalState :=
  match result with
  | .ok value => .ok (after value)
  | .error error => .error error.message

def actionAdminCreateViewer (now : Int) (form : ViewerForm) : Except String PortalState :=
  match parseViewerCreate text form with
  | .error error => .error error
  | .ok create =>
      if emailExists text state create.email none then .error "email already in use"
      else redirected (createViewerAsAdmin text state now create actor) Prod.snd

def actionAdminSetGrants (now : Int) (viewerId : Nat) (shortcodeIds : List Int) :
    Except String PortalState :=
  redirected (setViewerGrantsAsAdmin state now viewerId shortcodeIds actor) id

def actionAdminUpdateViewer (viewerId : Nat) (update : AdminViewerUpdate) :
    Except String PortalState :=
  let email := text.lower update.email
  if !validEmail email then .error "valid email required"
  else if update.name = "" then .error "name required"
  else if emailExists text state email (some viewerId) then .error "email already in use"
  else redirected (updateViewerAsAdmin text state viewerId { update with email } actor) Prod.snd

def actionAdminResetViewerPassword (viewerId : Nat) (password passwordConfirm : String) :
    Except String PortalState :=
  if utf16Length password < 8 then .error "password must be ≥8 chars"
  else if password ≠ passwordConfirm then .error "passwords do not match"
  else
    match getViewerForAdmin state viewerId actor with
    | none => .error "viewer not found"
    | some _ => .ok (resetPassword text state viewerId password)

def performViewerAction (now : Int) : ViewerAction → Except String PortalState
  | .create form => actionAdminCreateViewer text state actor now form
  | .setGrants viewerId shortcodeIds => actionAdminSetGrants state actor now viewerId shortcodeIds
  | .update viewerId fields => actionAdminUpdateViewer text state actor viewerId fields
  | .resetPassword viewerId password passwordConfirm =>
      actionAdminResetViewerPassword text state actor viewerId password passwordConfirm

end

/-- A refused action, or one of a user who manages no viewers, leaves the tables as they are. -/
def viewerStep (text : PortalText) (perms : Nat → List String) (state : PortalState)
    (event : ViewerEvent) : PortalState :=
  if requireViewerManager (perms event.actor) then
    match performViewerAction text state event.actor event.now event.action with
    | .ok after => after
    | .error _ => state
  else state

def viewerPortal (text : PortalText) (perms : Nat → List String) :
    StepSystem PortalState ViewerEvent where
  initial _ := True
  step state event := some (viewerStep text perms state event)

end UssdGateway
