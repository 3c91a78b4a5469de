import UssdGateway.Library.RowLocks
import UssdGateway.Library.Transition
import UssdGateway.Portal.Users

/-!
`updateUser` as transactions under READ COMMITTED. Its first statement joins `portal_users` with
`roles` and locks with a bare `FOR UPDATE`, which takes the rows of both tables: whoever edits a
super admin also holds the `super_admin` role row until the end of the transaction.
-/

namespace UssdGateway

structure UserUpdate where
  email : String
  name : String
  phone : Option String
  roleId : Nat
  active : Bool
deriving DecidableEq

structure UpdateRequest where
  id : Nat
  update : UserUpdate
  actingUserId : Nat
deriving DecidableEq

def isActiveSuperAdmin (roles : RoleTable) (user : PortalUserRow) : Bool :=
  decide (roles.keyOf user.roleId = some .superAdmin) && user.active

def otherSupers (roles : RoleTable) (users : UserTable) (id : Nat) : Nat :=
  (users.rows.filter fun user => isActiveSuperAdmin roles user && decide (user.id ≠ id)).length

def removesSuperAdmin (roles : RoleTable) (update : UserUpdate) (cur : PortalUserRow) : Bool :=
  isActiveSuperAdmin roles cur &&
    (!update.active || decide (roles.keyOf update.roleId ≠ some .superAdmin))

def noLockoutCheck (roles : RoleTable) (users : UserTable) (request : UpdateRequest)
    (cur : PortalUserRow) : Except String Unit :=
  if request.id = request.actingUserId ∧ request.update.active = false then
    .error "cannot deactivate yourself"
  else if request.id = request.actingUserId ∧ roles.keyOf cur.roleId = some .superAdmin ∧
      roles.keyOf request.update.roleId ≠ some .superAdmin then
    .error "cannot demote yourself from super_admin"
  else if removesSuperAdmin roles request.update cur = true ∧
      otherSupers roles users request.id = 0 then
    .error "this is the last active super_admin — promote another user first"
  else .ok ()

def applyUpdate (lower : String → String) (update : UserUpdate) (user : PortalUserRow) :
    PortalUserRow :=
  { user with
    email := update.email
    name := update.name
    phone := update.phone
    roleId := update.roleId
    active := update.active
    passwordVersion :=
      user.passwordVersion + (if lower user.email ≠ lower update.email then 1 else 0) }

theorem applyUpdate_id (lower : String → String) (update : UserUpdate) (user : PortalUserRow) :
    (applyUpdate lower update user).id = user.id := rfl

def committed (lower : String → String) (users : UserTable) (request : UpdateRequest) :
    UserTable :=
  users.modify request.id (applyUpdate lower request.update) (applyUpdate_id lower request.update)

/-! The transactions. -/

inductive LockedRow where
  | user (id : Nat)
  | role (id : Nat)
deriving DecidableEq

/-- How `updateUser` ends: the previous e-mail, a `NoLockoutError`, or the error of a statement. -/
inductive UpdateResult where
  | previousEmail (email : String)
  | noLockout (reason : String)
  | failed
deriving DecidableEq

/-- Where a transaction stands. `cur` is the row it read under its locks. -/
inductive UpdatePhase where
  | idle
  | locking (request : UpdateRequest) (roleId : Nat)
  | holding (request : UpdateRequest) (cur : PortalUserRow)
  | cleared (request : UpdateRequest) (cur : PortalUserRow)
  | written (request : UpdateRequest) (cur : PortalUserRow)
  | ended (result : UpdateResult)
deriving DecidableEq

structure UpdateState where
  users : UserTable
  locks : LockTable LockedRow Nat
  phase : Nat → UpdatePhase

inductive UpdateEvent where
  | select (transaction : Nat) (request : UpdateRequest)
  | lockUser (transaction : Nat)
  | lockRole (transaction : Nat)
  | recheck (transaction : Nat)
  | check (transaction : Nat)
  | write (transaction : Nat)
  | commit (transaction : Nat)
  | rollback (transaction : Nat)

namespace UpdateState

def setPhase (state : UpdateState) (transaction : Nat) (phase : UpdatePhase) : UpdateState :=
  { state with phase := Function.update state.phase transaction phase }

def finish (state : UpdateState) (transaction : Nat) (result : UpdateResult) : UpdateState :=
  { state with
    locks := state.locks.releaseAll transaction
    phase := Function.update state.phase transaction (.ended result) }

/-- The row lock is taken when it is free; until then the step is not possible. -/
def lock (state : UpdateState) (transaction : Nat) (row : LockedRow) : Option UpdateState :=
  (state.locks.acquire transaction row).map fun locks => { state with locks }

end UpdateState

def updateUserStep (roles : RoleTable) (lower : String → String) (state : UpdateState) :
    UpdateEvent → Option UpdateState
  | .select transaction request =>
      match state.phase transaction, state.users.find request.id with
      | .idle, some user =>
          if (roles.keyOf user.roleId).isSome then
            some (state.setPhase transaction (.locking request user.roleId))
          else some (state.finish transaction (.noLockout "user not found"))
      | .idle, none => some (state.finish transaction (.noLockout "user not found"))
      | _, _ => none
  | .lockUser transaction =>
      match state.phase transaction with
      | .locking request _ => state.lock transaction (.user request.id)
      | _ => none
  | .lockRole transaction =>
      match state.phase transaction with
      | .locking _ roleId => state.lock transaction (.role roleId)
      | _ => none
  -- With both locks the newest version of the row has to satisfy the join still.
  | .recheck transaction =>
      match state.phase transaction with
      | .locking request roleId =>
          if state.locks (.user request.id) = some transaction ∧
              state.locks (.role roleId) = some transaction then
            match state.users.find request.id with
            | some cur =>
                if cur.roleId = roleId then
                  some (state.setPhase transaction (.holding request cur))
                else some (state.finish transaction (.noLockout "user not found"))
            | none => some (state.finish transaction (.noLockout "user not found"))
          else none
      | _ => none
  | .check transaction =>
      match state.phase transaction with
      | .holding request cur =>
          match noLockoutCheck roles state.users request cur with
          | .ok () => some (state.setPhase transaction (.cleared request cur))
          | .error reason => some (state.finish transaction (.noLockout reason))
      | _ => none
  | .write transaction =>
      match state.phase transaction with
      | .cleared request cur =>
          if (roles.keyOf request.update.roleId).isSome then
            some (state.setPhase transaction (.written request cur))
          else some (state.finish transaction .failed)
      | _ => none
  | .commit transaction =>
      match state.phase transaction with
      | .written request cur =>
          some { state.finish transaction (.previousEmail cur.email) with
            users := committed lower state.users request }
      | _ => none
  | .rollback transaction =>
      match state.phase transaction with
      | .idle | .ended _ => none
      | _ => some (state.finish transaction .failed)

def HasActiveSuperAdmin (roles : RoleTable) (users : UserTable) : Prop :=
  ∃ user ∈ users.rows, isActiveSuperAdmin roles user = true

def updateUserSystem (roles : RoleTable) (lower : String → String) :
    StepSystem UpdateState UpdateEvent where
  initial state :=
    HasActiveSuperAdmin roles state.users ∧ state.locks = LockTable.free ∧
      ∀ transaction, state.phase transaction = .idle
  step := updateUserStep roles lower

end UssdGateway
