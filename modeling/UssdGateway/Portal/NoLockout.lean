import UssdGateway.Portal.UpdateUser

/-!
No administrator lock-out. The proof carries, for every running transaction, the locks it holds
and the row it read under them, and for one that is about to take a super admin away, another one
who stays.
-/

namespace UssdGateway

theorem isActiveSuperAdmin_iff (roles : RoleTable) (user : PortalUserRow) :
    isActiveSuperAdmin roles user = true ↔
      roles.keyOf user.roleId = some .superAdmin ∧ user.active = true := by
  simp [isActiveSuperAdmin]

theorem isActiveSuperAdmin_applyUpdate {roles : RoleTable} {lower : String → String}
    {update : UserUpdate} {user : PortalUserRow} (isSuper : isActiveSuperAdmin roles user = true)
    (kept : removesSuperAdmin roles update user = false) :
    isActiveSuperAdmin roles (applyUpdate lower update user) = true := by
  simp only [removesSuperAdmin, isSuper, Bool.true_and, Bool.or_eq_false_iff,
    Bool.not_eq_false', decide_eq_false_iff_not, ne_eq, not_not] at kept
  rw [isActiveSuperAdmin_iff]
  exact ⟨kept.2, kept.1⟩

/-- A super admin other than the one being edited. -/
def HasOtherSuperAdmin (roles : RoleTable) (users : UserTable) (id : Nat) : Prop :=
  ∃ user ∈ users.rows, isActiveSuperAdmin roles user = true ∧ user.id ≠ id

theorem otherSupers_ne_zero {roles : RoleTable} {users : UserTable} {id : Nat}
    (counted : otherSupers roles users id ≠ 0) : HasOtherSuperAdmin roles users id := by
  obtain ⟨user, member⟩ := List.exists_mem_of_length_pos (Nat.pos_of_ne_zero counted)
  simp only [List.mem_filter, Bool.and_eq_true, decide_eq_true_eq] at member
  exact ⟨user, member.1, member.2.1, member.2.2⟩

theorem noLockoutCheck_ok {roles : RoleTable} {users : UserTable} {request : UpdateRequest}
    {cur : PortalUserRow} (passed : noLockoutCheck roles users request cur = .ok ())
    (removes : removesSuperAdmin roles request.update cur = true) :
    HasOtherSuperAdmin roles users request.id := by
  simp only [noLockoutCheck] at passed
  split at passed
  · exact absurd passed (by simp)
  · split at passed
    · exact absurd passed (by simp)
    · split at passed
      next => exact absurd passed (by simp)
      next counted =>
        apply otherSupers_ne_zero
        intro none
        exact counted ⟨removes, none⟩

namespace UpdatePhase

def current : UpdatePhase → Option (UpdateRequest × PortalUserRow)
  | holding request cur | cleared request cur | written request cur => some (request, cur)
  | _ => none

def passed : UpdatePhase → Option (UpdateRequest × PortalUserRow)
  | cleared request cur | written request cur => some (request, cur)
  | _ => none

theorem current_of_passed {phase : UpdatePhase} {held : UpdateRequest × PortalUserRow}
    (checked : phase.passed = some held) : phase.current = some held := by
  cases phase <;> simp_all [passed, current]

end UpdatePhase

structure RowHeld (users : UserTable) (locks : LockTable LockedRow Nat) (transaction : Nat)
    (request : UpdateRequest) (cur : PortalUserRow) : Prop where
  user : locks.Holds transaction (.user request.id)
  role : locks.Holds transaction (.role cur.roleId)
  stored : users.find request.id = some cur

structure UpdateInv (roles : RoleTable) (state : UpdateState) : Prop where
  super : HasActiveSuperAdmin roles state.users
  held : ∀ transaction request cur, (state.phase transaction).current = some (request, cur) →
    RowHeld state.users state.locks transaction request cur
  other : ∀ transaction request cur, (state.phase transaction).passed = some (request, cur) →
    removesSuperAdmin roles request.update cur = true →
    HasOtherSuperAdmin roles state.users request.id

variable {roles : RoleTable} {lower : String → String} {state after : UpdateState}

theorem UpdateInv.ownStep (inv : UpdateInv roles state) {transaction : Nat} {phase : UpdatePhase}
    {locks : LockTable LockedRow Nat}
    (keeps : ∀ other ≠ transaction, ∀ row, state.locks.Holds other row → locks.Holds other row)
    (held : ∀ request cur, phase.current = some (request, cur) →
      RowHeld state.users locks transaction request cur)
    (other : ∀ request cur, phase.passed = some (request, cur) →
      removesSuperAdmin roles request.update cur = true →
      HasOtherSuperAdmin roles state.users request.id) :
    UpdateInv roles
      { state with locks, phase := Function.update state.phase transaction phase } := by
  refine ⟨inv.super, ?_, ?_⟩
  · intro holder request cur current
    by_cases same : holder = transaction
    · subst same
      simp only [Function.update_self] at current
      exact held request cur current
    · simp only [Function.update_of_ne same] at current
      have before := inv.held holder request cur current
      exact ⟨keeps holder same _ before.user, keeps holder same _ before.role, before.stored⟩
  · intro holder request cur passed removes
    by_cases same : holder = transaction
    · subst same
      simp only [Function.update_self] at passed
      exact other request cur passed removes
    · simp only [Function.update_of_ne same] at passed
      exact inv.other holder request cur passed removes

theorem UpdateInv.finish (inv : UpdateInv roles state) (transaction : Nat)
    (result : UpdateResult) : UpdateInv roles (state.finish transaction result) := by
  apply inv.ownStep
  · intro other apart row holds
    exact holds.releaseAll apart
  · intro request cur current
    exact absurd current (by simp [UpdatePhase.current])
  · intro request cur passed
    exact absurd passed (by simp [UpdatePhase.passed])

theorem UpdateInv.setPhase (inv : UpdateInv roles state) {transaction : Nat} {phase : UpdatePhase}
    (held : ∀ request cur, phase.current = some (request, cur) →
      RowHeld state.users state.locks transaction request cur)
    (other : ∀ request cur, phase.passed = some (request, cur) →
      removesSuperAdmin roles request.update cur = true →
      HasOtherSuperAdmin roles state.users request.id) :
    UpdateInv roles (state.setPhase transaction phase) :=
  inv.ownStep (fun _ _ _ holds => holds) held other

theorem UpdateInv.lock (inv : UpdateInv roles state) {transaction : Nat} {row : LockedRow}
    (locked : state.lock transaction row = some after) : UpdateInv roles after := by
  obtain ⟨locks, acquired, rfl⟩ := Option.map_eq_some_iff.1 locked
  refine ⟨inv.super, ?_, inv.other⟩
  intro holder request cur current
  have before := inv.held holder request cur current
  exact ⟨before.user.acquire acquired, before.role.acquire acquired, before.stored⟩

theorem UpdateInv.superAdmin_exclusive (inv : UpdateInv roles state) {first second : Nat}
    {firstRequest secondRequest : UpdateRequest} {firstCur secondCur : PortalUserRow}
    (firstHas : (state.phase first).current = some (firstRequest, firstCur))
    (secondHas : (state.phase second).current = some (secondRequest, secondCur))
    (firstSuper : isActiveSuperAdmin roles firstCur = true)
    (secondSuper : isActiveSuperAdmin roles secondCur = true) : first = second := by
  have sameRole : firstCur.roleId = secondCur.roleId :=
    RoleTable.id_of_keyOf ((isActiveSuperAdmin_iff _ _).1 firstSuper).1
      ((isActiveSuperAdmin_iff _ _).1 secondSuper).1
  have firstLock := (inv.held first _ _ firstHas).role
  rw [sameRole] at firstLock
  exact firstLock.unique (inv.held second _ _ secondHas).role

theorem mem_committed_of_ne {users : UserTable} {request : UpdateRequest} {user : PortalUserRow}
    (member : user ∈ users.rows) (apart : user.id ≠ request.id) :
    user ∈ (committed lower users request).rows := by
  rw [committed, KeyedTable.mem_modify]
  exact ⟨user, member, (if_neg apart).symm⟩

theorem mem_committed_self {users : UserTable} {request : UpdateRequest} {cur : PortalUserRow}
    (stored : users.find request.id = some cur) :
    applyUpdate lower request.update cur ∈ (committed lower users request).rows := by
  obtain ⟨member, keyed⟩ := (users.find_eq_some_iff _ _).1 stored
  rw [committed, KeyedTable.mem_modify]
  exact ⟨cur, member, (if_pos keyed).symm⟩

theorem superAdmin_survives (lower : String → String) {users : UserTable}
    {request : UpdateRequest} {cur user : PortalUserRow}
    (stored : users.find request.id = some cur)
    (kept : isActiveSuperAdmin roles cur = true →
      removesSuperAdmin roles request.update cur = false)
    (member : user ∈ users.rows) (isSuper : isActiveSuperAdmin roles user = true) :
    ∃ survivor ∈ (committed lower users request).rows,
      isActiveSuperAdmin roles survivor = true ∧ survivor.id = user.id := by
  by_cases same : user.id = request.id
  · have equal : user = cur := by
      obtain ⟨curMember, curKey⟩ := (users.find_eq_some_iff _ _).1 stored
      exact users.eq_of_key member curMember (same.trans curKey.symm)
    subst equal
    exact ⟨_, mem_committed_self stored, isActiveSuperAdmin_applyUpdate isSuper (kept isSuper), rfl⟩
  · exact ⟨user, mem_committed_of_ne member same, isSuper, rfl⟩

theorem UpdateInv.commit (inv : UpdateInv roles state) {transaction : Nat}
    {request : UpdateRequest} {cur : PortalUserRow}
    (writing : state.phase transaction = .written request cur) :
    UpdateInv roles
      { state.finish transaction (.previousEmail cur.email) with
        users := committed lower state.users request } := by
  have current : (state.phase transaction).current = some (request, cur) := by rw [writing]; rfl
  have passed : (state.phase transaction).passed = some (request, cur) := by rw [writing]; rfl
  have own := inv.held transaction request cur current
  refine ⟨?_, ?_, ?_⟩
  · by_cases removes : removesSuperAdmin roles request.update cur = true
    · obtain ⟨user, member, isSuper, apart⟩ := inv.other transaction request cur passed removes
      exact ⟨user, mem_committed_of_ne member apart, isSuper⟩
    · obtain ⟨user, member, isSuper⟩ := inv.super
      obtain ⟨survivor, survives, stillSuper, _⟩ := superAdmin_survives lower own.stored
        (fun _ => by simpa using removes) member isSuper
      exact ⟨survivor, survives, stillSuper⟩
  · intro holder held holderCur holderCurrent
    by_cases same : holder = transaction
    · subst same
      simp [UpdateState.finish, UpdatePhase.current] at holderCurrent
    · simp only [UpdateState.finish, Function.update_of_ne same] at holderCurrent
      have before := inv.held holder held holderCur holderCurrent
      refine ⟨before.user.releaseAll same, before.role.releaseAll same, ?_⟩
      have apart : held.id ≠ request.id := by
        intro equal
        have theirs := before.user
        rw [equal] at theirs
        exact same (theirs.unique own.user)
      simp only [committed, KeyedTable.find_modify, if_neg apart]
      exact before.stored
  · intro holder held holderCur holderPassed removes
    by_cases same : holder = transaction
    · subst same
      simp [UpdateState.finish, UpdatePhase.passed] at holderPassed
    · simp only [UpdateState.finish, Function.update_of_ne same] at holderPassed
      obtain ⟨user, member, isSuper, apart⟩ := inv.other holder held holderCur holderPassed removes
      have keeps : isActiveSuperAdmin roles cur = true →
          removesSuperAdmin roles request.update cur = false := by
        intro curSuper
        have holderSuper : isActiveSuperAdmin roles holderCur = true := by
          simp only [removesSuperAdmin, Bool.and_eq_true] at removes
          exact removes.1
        exact absurd (inv.superAdmin_exclusive (UpdatePhase.current_of_passed holderPassed)
          current holderSuper curSuper) same
      obtain ⟨survivor, survives, stillSuper, sameId⟩ :=
        superAdmin_survives lower own.stored keeps member isSuper
      exact ⟨survivor, survives, stillSuper, by rw [sameId]; exact apart⟩

theorem UpdateInv.hold (inv : UpdateInv roles state) {transaction roleId : Nat}
    {request : UpdateRequest} {cur : PortalUserRow}
    (locked : state.locks.Holds transaction (.user request.id) ∧
      state.locks.Holds transaction (.role roleId))
    (stored : state.users.find request.id = some cur) (joined : cur.roleId = roleId) :
    UpdateInv roles (state.setPhase transaction (.holding request cur)) := by
  refine inv.setPhase ?_ (by simp [UpdatePhase.passed])
  intro held heldCur current
  simp only [UpdatePhase.current, Option.some.injEq, Prod.mk.injEq] at current
  obtain ⟨rfl, rfl⟩ := current
  exact ⟨locked.1, joined ▸ locked.2, stored⟩

theorem UpdateInv.clear (inv : UpdateInv roles state) {transaction : Nat}
    {request : UpdateRequest} {cur : PortalUserRow}
    (holding : state.phase transaction = .holding request cur)
    (verdict : noLockoutCheck roles state.users request cur = .ok ()) :
    UpdateInv roles (state.setPhase transaction (.cleared request cur)) := by
  have own := inv.held transaction request cur (by rw [holding]; rfl)
  refine inv.setPhase ?_ ?_
  · intro held heldCur current
    simp only [UpdatePhase.current, Option.some.injEq, Prod.mk.injEq] at current
    obtain ⟨rfl, rfl⟩ := current
    exact own
  · intro held heldCur passed removes
    simp only [UpdatePhase.passed, Option.some.injEq, Prod.mk.injEq] at passed
    obtain ⟨rfl, rfl⟩ := passed
    exact noLockoutCheck_ok verdict removes

theorem UpdateInv.write (inv : UpdateInv roles state) {transaction : Nat}
    {request : UpdateRequest} {cur : PortalUserRow}
    (cleared : state.phase transaction = .cleared request cur) :
    UpdateInv roles (state.setPhase transaction (.written request cur)) := by
  refine inv.setPhase ?_ ?_
  · intro held heldCur current
    exact inv.held transaction held heldCur (by rw [cleared]; exact current)
  · intro held heldCur passed removes
    exact inv.other transaction held heldCur (by rw [cleared]; exact passed) removes

theorem UpdateInv.selects (inv : UpdateInv roles state) {transaction : Nat}
    {request : UpdateRequest}
    (stepped : updateUserStep roles lower state (.select transaction request) = some after) :
    UpdateInv roles after := by
  simp only [updateUserStep] at stepped
  split at stepped
  · split at stepped
    · rw [← Option.some.inj stepped]
      exact inv.setPhase (by simp [UpdatePhase.current]) (by simp [UpdatePhase.passed])
    · rw [← Option.some.inj stepped]
      exact inv.finish transaction _
  · rw [← Option.some.inj stepped]
    exact inv.finish transaction _
  · exact absurd stepped (by simp)

theorem UpdateInv.rechecks (inv : UpdateInv roles state) {transaction : Nat}
    (stepped : updateUserStep roles lower state (.recheck transaction) = some after) :
    UpdateInv roles after := by
  simp only [updateUserStep] at stepped
  split at stepped
  next request roleId locking =>
    split at stepped
    next locked =>
      split at stepped
      next cur stored =>
        split at stepped
        next joined =>
          rw [← Option.some.inj stepped]
          exact inv.hold locked stored joined
        next =>
          rw [← Option.some.inj stepped]
          exact inv.finish transaction _
      next =>
        rw [← Option.some.inj stepped]
        exact inv.finish transaction _
    next => exact absurd stepped (by simp)
  next => exact absurd stepped (by simp)

theorem UpdateInv.step (inv : UpdateInv roles state) {event : UpdateEvent}
    (stepped : updateUserStep roles lower state event = some after) : UpdateInv roles after := by
  cases event with
  | select transaction request => exact inv.selects stepped
  | lockUser transaction =>
      simp only [updateUserStep] at stepped
      split at stepped
      · exact inv.lock stepped
      · exact absurd stepped (by simp)
  | lockRole transaction =>
      simp only [updateUserStep] at stepped
      split at stepped
      · exact inv.lock stepped
      · exact absurd stepped (by simp)
  | recheck transaction => exact inv.rechecks stepped
  | check transaction =>
      simp only [updateUserStep] at stepped
      split at stepped
      next request cur holding =>
        split at stepped
        next verdict =>
          rw [← Option.some.inj stepped]
          exact inv.clear holding verdict
        next =>
          rw [← Option.some.inj stepped]
          exact inv.finish transaction _
      next => exact absurd stepped (by simp)
  | write transaction =>
      simp only [updateUserStep] at stepped
      split at stepped
      next request cur cleared =>
        split at stepped
        next =>
          rw [← Option.some.inj stepped]
          exact inv.write cleared
        next =>
          rw [← Option.some.inj stepped]
          exact inv.finish transaction _
      next => exact absurd stepped (by simp)
  | commit transaction =>
      simp only [updateUserStep] at stepped
      split at stepped
      next request cur writing =>
        rw [← Option.some.inj stepped]
        exact inv.commit writing
      next => exact absurd stepped (by simp)
  | rollback transaction =>
      simp only [updateUserStep] at stepped
      split at stepped
      · exact absurd stepped (by simp)
      · exact absurd stepped (by simp)
      · rw [← Option.some.inj stepped]
        exact inv.finish transaction _

/-- Whatever the interleaving of the transactions, an active super admin is left. -/
theorem active_super_admin_kept (roles : RoleTable) (lower : String → String) {state : UpdateState}
    (reached : (updateUserSystem roles lower).Reachable state) :
    HasActiveSuperAdmin roles state.users := by
  have inv : UpdateInv roles state := by
    refine reached.invariant ?_ ?_
    · rintro start ⟨super, _, idle⟩
      refine ⟨super, ?_, ?_⟩
      · intro transaction request cur current
        rw [idle transaction] at current
        exact absurd current (by simp [UpdatePhase.current])
      · intro transaction request cur passed
        rw [idle transaction] at passed
        exact absurd passed (by simp [UpdatePhase.passed])
    · intro before event next inv stepped
      exact inv.step stepped
  exact inv.super

def demotionRoles : RoleTable where
  rows := [⟨1, .superAdmin⟩, ⟨2, .client⟩]
  idsUnique := by decide
  keysUnique := by decide

def demotionUser (id : Nat) (email : String) : PortalUserRow where
  id := id
  email := email
  name := "Super Admin"
  phone := none
  roleId := 1
  active := true
  passwordHash := ""
  passwordVersion := 1
  createdByUserId := none

def demotionStart : UpdateState where
  users := ⟨[demotionUser 1 "first@example.com", demotionUser 2 "second@example.com"], by decide⟩
  locks := LockTable.free
  phase := fun _ => .idle

def demotion (id : Nat) (email : String) (actingUserId : Nat) : UpdateRequest where
  id := id
  update := { email, name := "Super Admin", phone := none, roleId := 2, active := true }
  actingUserId := actingUserId

def demotionEvents : List UpdateEvent :=
  [.select 0 (demotion 2 "second@example.com" 1), .select 1 (demotion 1 "first@example.com" 2),
    .lockUser 1, .lockUser 0, .lockRole 0, .recheck 0, .check 0, .write 0, .commit 0,
    .lockRole 1, .recheck 1, .check 1]

theorem demotionStart_initial : (updateUserSystem demotionRoles id).initial demotionStart :=
  ⟨⟨demotionUser 1 "first@example.com", by decide, by decide⟩, rfl, fun _ => rfl⟩

theorem active_super_admin_kept_demotion :
    ∃ state, (updateUserSystem demotionRoles id).run demotionStart demotionEvents = some state ∧
      state.phase 0 = .ended (.previousEmail "second@example.com") ∧
      state.phase 1 = .ended
        (.noLockout "this is the last active super_admin — promote another user first") ∧
      HasActiveSuperAdmin demotionRoles state.users := by
  have ran : ((updateUserSystem demotionRoles id).run demotionStart demotionEvents).isSome = true :=
    by decide
  obtain ⟨state, ended⟩ := Option.isSome_iff_exists.1 ran
  have phases : ((updateUserSystem demotionRoles id).run demotionStart demotionEvents).map
      (fun state => (state.phase 0, state.phase 1)) =
        some (.ended (.previousEmail "second@example.com"), .ended
          (.noLockout "this is the last active super_admin — promote another user first")) := by
    decide +kernel
  rw [ended, Option.map_some, Option.some.injEq, Prod.mk.injEq] at phases
  refine ⟨state, ended, phases.1, phases.2, ?_⟩
  exact active_super_admin_kept demotionRoles id
    ((StepSystem.ReachableBy.start demotionStart_initial).run (fun _ _ => trivial) ended)

end UssdGateway
