import UssdGateway.Portal.HistoryFloor
import UssdGateway.Portal.Viewers
import Mathlib.Algebra.Order.BigOperators.Group.List
import Mathlib.Algebra.Order.Group.Nat

/-!
Who can take over a viewer. The e-mail of a viewer is guarded by its creator, its password by any
grant of the Admin's on it, and an Admin gives that grant to any viewer.
-/

namespace UssdGateway

/-- A viewer someone else created, with a grant on a shortcode the Admin does not own. -/
def Foreign (state : PortalState) (adminId viewerId : Nat) : Prop :=
  ∃ user, state.users.find viewerId = some user ∧ state.roleOf user = some .clientViewer ∧
    user.createdByUserId ≠ some adminId ∧
    ∃ grant ∈ state.grants.rows, grant.portalUserId = viewerId ∧
      state.owns adminId grant.shortcodeId = false

def SameLogin (text : PortalText) (before after : PortalUserRow) : Prop :=
  text.lower before.email = text.lower after.email ∧ before.passwordHash = after.passwordHash ∧
    before.passwordVersion = after.passwordVersion

def TakesOver (text : PortalText) (perms : Nat → List String) (state : PortalState)
    (event : ViewerEvent) : Prop :=
  ∃ viewerId, Foreign state event.actor viewerId ∧
    ∃ before after, state.users.find viewerId = some before ∧
      (viewerStep text perms state event).users.find viewerId = some after ∧
      ¬ SameLogin text before after

def NoTakeover (text : PortalText) (perms : Nat → List String) (start : PortalState) : Prop :=
  ∀ events,
    (viewerPortal text perms).Along (fun state event => ¬ TakesOver text perms state event)
      start events

def OwnsShortcode (state : PortalState) (adminId : Nat) : Prop :=
  ∃ row ∈ state.shortcodes.rows, row.ownerUserId = adminId

/-- One Admin at most owns shortcodes, and to that one no viewer is foreign. -/
def SoleOwner (perms : Nat → List String) (state : PortalState) : Prop :=
  ∀ adminId, requireViewerManager (perms adminId) = true → OwnsShortcode state adminId →
    (∀ other, requireViewerManager (perms other) = true → OwnsShortcode state other →
      other = adminId) ∧
    ∀ viewerId, ¬ Foreign state adminId viewerId

theorem assertShortcodesOwnedBy_ok (shortcodes : OwnershipTable) (ids : List Int) (userId : Nat) :
    assertShortcodesOwnedBy shortcodes ids userId = .ok () ↔
      ∀ id ∈ ids, ∃ row ∈ shortcodes.rows, Int.ofNat row.id = id ∧ row.ownerUserId = userId := by
  rw [assertShortcodesOwnedBy]
  by_cases empty : ids = []
  · simp [empty]
  rw [if_neg empty]
  constructor
  · intro passed
    dsimp only at passed
    split at passed
    · cases passed
    next allFound =>
      split at passed
      · cases passed
      next allOwned =>
        rw [List.find?_eq_none] at allFound allOwned
        intro id member
        have found := allFound id member
        simp only [Bool.not_eq_true, Bool.not_eq_false', List.any_eq_true, decide_eq_true_eq]
          at found
        obtain ⟨row, inside, same⟩ := found
        refine ⟨row, (List.mem_filter.1 inside).1, same, ?_⟩
        simpa using allOwned row inside
  · intro owned
    have noMissing : ids.find? (fun id => !((shortcodes.rows.filter fun row =>
        decide (Int.ofNat row.id ∈ ids)).any fun row => decide (Int.ofNat row.id = id))) =
          none := by
      rw [List.find?_eq_none]
      intro id member
      obtain ⟨row, inside, same, _⟩ := owned id member
      simp only [Bool.not_eq_true, Bool.not_eq_false', List.any_eq_true, decide_eq_true_eq]
      exact ⟨row, List.mem_filter.2 ⟨inside, decide_eq_true (same ▸ member)⟩, same⟩
    have noForeign : (shortcodes.rows.filter fun row => decide (Int.ofNat row.id ∈ ids)).find?
        (fun row => decide (row.ownerUserId ≠ userId)) = none := by
      rw [List.find?_eq_none]
      intro row member
      obtain ⟨inside, posted⟩ := List.mem_filter.1 member
      obtain ⟨other, otherInside, same, owner⟩ := owned _ (of_decide_eq_true posted)
      rw [shortcodes.eq_of_key otherInside inside (Int.ofNat.inj same)] at owner
      simpa using owner
    simp only [noMissing, noForeign]

theorem owns_iff (state : PortalState) (userId shortcodeId : Nat) :
    state.owns userId shortcodeId = true ↔
      ∃ row ∈ state.shortcodes.rows, row.id = shortcodeId ∧ row.ownerUserId = userId := by
  simp [PortalState.owns]

theorem not_owns_of_owns {state : PortalState} {owner other shortcodeId : Nat}
    (owned : state.owns owner shortcodeId = true) (apart : other ≠ owner) :
    state.owns other shortcodeId = false := by
  rw [Bool.eq_false_iff]
  intro also
  obtain ⟨row, member, same, ownerSame⟩ := (owns_iff _ _ _).1 owned
  obtain ⟨otherRow, otherMember, otherSame, otherOwner⟩ := (owns_iff _ _ _).1 also
  rw [state.shortcodes.eq_of_key otherMember member (otherSame.trans same.symm)] at otherOwner
  exact apart (otherOwner.symm.trans ownerSame)

namespace PortalState

section

variable {state : PortalState} {now : Int} {viewerId : Nat} {ids : List Int} {grant : PortalGrant}

theorem insertGrants_cons (id : Int) (rest : List Int) :
    state.insertGrants now viewerId (id :: rest) =
      (state.insertGrants now viewerId [id]).insertGrants now viewerId rest := rfl

theorem mem_insertGrants_single (id : Int) :
    grant ∈ (state.insertGrants now viewerId [id]).grants.rows ↔ grant ∈ state.grants.rows ∨
      (state.grants.find (viewerId, id.toNat) = none ∧
        grant = { portalUserId := viewerId, shortcodeId := id.toNat, grantedAt := now }) :=
  KeyedTable.mem_upsert_of_kept _ _ (fun _ => rfl) _

theorem grants_kept (member : grant ∈ state.grants.rows) :
    grant ∈ (state.insertGrants now viewerId ids).grants.rows := by
  induction ids generalizing state with
  | nil => exact member
  | cons id rest ih =>
      rw [insertGrants_cons]
      exact ih ((mem_insertGrants_single id).2 (Or.inl member))

theorem mem_of_mem_insertGrants
    (member : grant ∈ (state.insertGrants now viewerId ids).grants.rows) :
    grant ∈ state.grants.rows ∨
      (grant.portalUserId = viewerId ∧ ∃ id ∈ ids, grant.shortcodeId = id.toNat) := by
  induction ids generalizing state with
  | nil => exact Or.inl member
  | cons id rest ih =>
      rw [insertGrants_cons] at member
      rcases ih member with earlier | ⟨viewer, other, inside, same⟩
      · rcases (mem_insertGrants_single id).1 earlier with before | ⟨_, rfl⟩
        · exact Or.inl before
        · exact Or.inr ⟨rfl, id, List.mem_cons_self, rfl⟩
      · exact Or.inr ⟨viewer, other, List.mem_cons_of_mem _ inside, same⟩

theorem granted (id : Int) : ∃ grant ∈ (state.insertGrants now viewerId [id]).grants.rows,
    grant.portalUserId = viewerId ∧ grant.shortcodeId = id.toNat := by
  rcases found : state.grants.find (viewerId, id.toNat) with _ | old
  · exact ⟨_, (mem_insertGrants_single id).2 (Or.inr ⟨found, rfl⟩), rfl, rfl⟩
  · obtain ⟨member, keyed⟩ := (state.grants.find_eq_some_iff _ old).1 found
    exact ⟨old, (mem_insertGrants_single id).2 (Or.inl member), congrArg Prod.fst keyed,
      congrArg Prod.snd keyed⟩

end

end PortalState

/-! What an action can do. -/

def PortalState.revoked (state : PortalState) (viewerId adminId : Nat) : PortalState :=
  { state with
    grants := state.grants.filter fun grant =>
      !(decide (grant.portalUserId = viewerId) && state.owns adminId grant.shortcodeId) }

def PostedOwned (state : PortalState) (adminId : Nat) (ids : List Int) : Prop :=
  ∀ id ∈ ids, state.owns adminId id.toNat = true

inductive ActionEffect (text : PortalText) (state : PortalState) (adminId : Nat) :
    PortalState → Prop where
  | refused : ActionEffect text state adminId state
  | created (now : Int) (create : AdminViewerCreate) (roleId : Nat)
      (some_posted : create.shortcodeIds ≠ [])
      (owned : PostedOwned state adminId create.shortcodeIds) :
      ActionEffect text state adminId
        ((state.insertUser (viewerRow text state create roleId adminId) rfl).insertGrants now
          state.nextUserId create.shortcodeIds)
  | granted (now : Int) (viewerId : Nat) (ids : List Int) (owned : PostedOwned state adminId ids) :
      ActionEffect text state adminId
        ((state.revoked viewerId adminId).insertGrants now viewerId ids)
  | updated (viewerId : Nat) (update : PortalUserRow → PortalUserRow)
      (keyed : ∀ user, (update user).id = user.id)
      (guarded : ∀ user, state.users.find viewerId = some user →
        SameLogin text user (update user) ∨ user.createdByUserId = some adminId)
      (still : ∀ user, (update user).roleId = user.roleId ∧
        (update user).createdByUserId = user.createdByUserId) :
      ActionEffect text state adminId (state.updateUser viewerId update keyed)
  | reset (viewerId : Nat) (password : String)
      (held : ∃ grant ∈ state.grants.rows, grant.portalUserId = viewerId ∧
        state.owns adminId grant.shortcodeId = true) :
      ActionEffect text state adminId (resetPassword text state viewerId password)

section

variable {text : PortalText} {state after : PortalState} {adminId : Nat}

theorem postedOwned_of_ok {ids : List Int}
    (passed : assertShortcodesOwnedBy state.shortcodes ids adminId = .ok ()) :
    PostedOwned state adminId ids := by
  intro id member
  obtain ⟨row, inside, same, owner⟩ := (assertShortcodesOwnedBy_ok _ _ _).1 passed id member
  rw [owns_iff]
  exact ⟨row, inside, by rw [← same]; rfl, owner⟩

theorem redirected_ok {α : Type} {result : Except ViewerError α} {next : α → PortalState}
    (done : redirected result next = .ok after) :
    ∃ value, result = .ok value ∧ next value = after := by
  rcases result with error | value
  · cases done
  · exact ⟨value, rfl, Except.ok.inj done⟩

theorem mem_viewerGrants {viewerId : Nat} {grant : PortalGrant} :
    grant ∈ state.viewerGrants viewerId adminId ↔ grant ∈ state.grants.rows ∧
      grant.portalUserId = viewerId ∧ state.owns adminId grant.shortcodeId = true := by
  simp [PortalState.viewerGrants]

theorem createViewer_effect {now : Int} {create : AdminViewerCreate} {newId : Nat}
    (done : createViewerAsAdmin text state now create adminId = .ok (newId, after)) :
    ActionEffect text state adminId after := by
  rw [createViewerAsAdmin] at done
  by_cases empty : create.shortcodeIds = []
  · rw [if_pos empty] at done
    cases done
  rw [if_neg empty] at done
  split at done
  · cases done
  next passed =>
    dsimp only at done
    split at done
    · cases done
    split at done
    · cases done
    next role _ =>
      split at done
      · cases done
      · obtain ⟨_, rfl⟩ := Prod.mk.inj (Except.ok.inj done)
        exact .created now create role.id empty (postedOwned_of_ok passed)

theorem setGrants_effect {now : Int} {viewerId : Nat} {ids : List Int}
    (done : setViewerGrantsAsAdmin state now viewerId ids adminId = .ok after) :
    ActionEffect text state adminId after := by
  rw [setViewerGrantsAsAdmin] at done
  split at done
  · cases done
  · split at done
    · cases done
    · split at done
      · cases done
      next passed =>
        obtain rfl := Except.ok.inj done
        exact .granted now viewerId ids (postedOwned_of_ok passed)

theorem updateViewer_effect {viewerId : Nat} {update : AdminViewerUpdate} {email : String}
    (done : updateViewerAsAdmin text state viewerId update adminId = .ok (email, after)) :
    ActionEffect text state adminId after := by
  rw [updateViewerAsAdmin] at done
  split at done
  · cases done
  next user found =>
    split at done
    · cases done
    split at done
    · cases done
    dsimp only at done
    split at done
    · cases done
    next allowed =>
      split at done
      · cases done
      obtain ⟨_, rfl⟩ := Prod.mk.inj (Except.ok.inj done)
      refine .updated viewerId _ _ ?_ (fun _ => ⟨rfl, rfl⟩)
      intro other otherFound
      rw [found] at otherFound
      obtain rfl := Option.some.inj otherFound
      by_cases same : text.lower user.email = text.lower update.email
      · left
        refine ⟨same, rfl, ?_⟩
        simp [same]
      · right
        simpa [same, canChangeEmail] using allowed

theorem resetPassword_effect {viewerId : Nat} {password passwordConfirm : String}
    (done : actionAdminResetViewerPassword text state adminId viewerId password passwordConfirm =
      .ok after) : ActionEffect text state adminId after := by
  rw [actionAdminResetViewerPassword] at done
  split at done
  · cases done
  split at done
  · cases done
  split at done
  · cases done
  next viewer found =>
    obtain rfl := Except.ok.inj done
    refine .reset viewerId password ?_
    rw [getViewerForAdmin, Option.map_eq_some_iff] at found
    obtain ⟨user, kept, _⟩ := found
    rw [Option.filter_eq_some_iff, Bool.and_eq_true] at kept
    have nonempty : state.viewerGrants viewerId adminId ≠ [] := by simpa using kept.2.2
    obtain ⟨grant, member⟩ := List.exists_mem_of_ne_nil _ nonempty
    exact ⟨grant, mem_viewerGrants.1 member⟩

theorem viewerStep_effect {perms : Nat → List String} (event : ViewerEvent) :
    ActionEffect text state event.actor (viewerStep text perms state event) ∧
      (viewerStep text perms state event ≠ state →
        requireViewerManager (perms event.actor) = true) := by
  rw [viewerStep]
  by_cases manages : requireViewerManager (perms event.actor) = true
  · rw [if_pos manages]
    refine ⟨?_, fun _ => manages⟩
    rcases performed : performViewerAction text state event.actor event.now event.action with
      error | after
    · exact .refused
    · rcases action : event.action with form | ⟨viewerId, ids⟩ | ⟨viewerId, fields⟩ |
        ⟨viewerId, password, passwordConfirm⟩
      · rw [action, performViewerAction, actionAdminCreateViewer] at performed
        split at performed
        · cases performed
        split at performed
        · cases performed
        obtain ⟨⟨newId, created⟩, done, rfl⟩ := redirected_ok performed
        exact createViewer_effect done
      · rw [action, performViewerAction, actionAdminSetGrants] at performed
        obtain ⟨granted, done, rfl⟩ := redirected_ok performed
        exact setGrants_effect done
      · rw [action, performViewerAction, actionAdminUpdateViewer] at performed
        split at performed
        · cases performed
        split at performed
        · cases performed
        split at performed
        · cases performed
        obtain ⟨⟨email, updated⟩, done, rfl⟩ := redirected_ok performed
        exact updateViewer_effect done
      · rw [action, performViewerAction] at performed
        exact resetPassword_effect performed
  · rw [if_neg manages]
    exact ⟨.refused, fun changed => absurd rfl changed⟩

end

/-! With a sole owner, nobody is foreign to whoever could act. -/

section

variable {text : PortalText} {state after : PortalState} {adminId : Nat}

theorem ActionEffect.shortcodes (effect : ActionEffect text state adminId after) :
    after.shortcodes = state.shortcodes := by
  cases effect <;> rfl

theorem ActionEffect.roles (effect : ActionEffect text state adminId after) :
    after.roles = state.roles := by
  cases effect <;> rfl

theorem owns_congr {other : PortalState} (same : other.shortcodes = state.shortcodes)
    (userId shortcodeId : Nat) : other.owns userId shortcodeId = state.owns userId shortcodeId := by
  rw [PortalState.owns, PortalState.owns, same]

theorem ownsShortcode_congr {other : PortalState} (same : other.shortcodes = state.shortcodes)
    (userId : Nat) : OwnsShortcode other userId ↔ OwnsShortcode state userId := by
  rw [OwnsShortcode, OwnsShortcode, same]

theorem roleOf_congr {other : PortalState} (same : other.roles = state.roles)
    (user : PortalUserRow) : other.roleOf user = state.roleOf user := by
  rw [PortalState.roleOf, PortalState.roleOf, same]

theorem ownsShortcode_of_owns {shortcodeId : Nat} (owned : state.owns adminId shortcodeId = true) :
    OwnsShortcode state adminId := by
  obtain ⟨row, member, _, owner⟩ := (owns_iff _ _ _).1 owned
  exact ⟨row, member, owner⟩

theorem ActionEffect.user (effect : ActionEffect text state adminId after) {viewerId : Nat}
    {user : PortalUserRow} (found : after.users.find viewerId = some user) :
    (∃ before, state.users.find viewerId = some before ∧ before.roleId = user.roleId ∧
      before.createdByUserId = user.createdByUserId) ∨
      (user.createdByUserId = some adminId ∧ OwnsShortcode state adminId) := by
  cases effect with
  | refused => exact Or.inl ⟨user, found, rfl, rfl⟩
  | created now create roleId some_posted owned =>
      change (state.users.upsert (viewerRow text state create roleId adminId) (fun old => old)
        fun _ => rfl).find viewerId = some user at found
      by_cases fresh : viewerId = state.nextUserId
      · right
        have absent : state.users.find state.nextUserId = none := by
          rw [KeyedTable.find_eq_none_iff]
          intro other member
          exact Nat.ne_of_lt (state.idsIssued other member)
        have inserted := KeyedTable.find_upsert_self (viewerRow text state create roleId adminId)
          (fun old => old) (fun _ => rfl) state.users
        rw [fresh] at found
        change _ = some (((state.users.find state.nextUserId).map _).getD _) at inserted
        rw [absent] at inserted
        obtain ⟨id, posted⟩ := List.exists_mem_of_ne_nil _ some_posted
        rw [← Option.some.inj (inserted.symm.trans found)]
        exact ⟨rfl, ownsShortcode_of_owns (owned id posted)⟩
      · left
        rw [KeyedTable.find_upsert_of_ne (viewerRow text state create roleId adminId) _ _ _ fresh]
          at found
        exact ⟨user, found, rfl, rfl⟩
  | granted now otherId ids owned => exact Or.inl ⟨user, found, rfl, rfl⟩
  | updated otherId update keyed guarded still =>
      left
      rw [PortalState.find_updateUser] at found
      split at found
      · obtain ⟨before, beforeFound, rfl⟩ := Option.map_eq_some_iff.1 found
        exact ⟨before, beforeFound, (still before).1.symm, (still before).2.symm⟩
      · exact ⟨user, found, rfl, rfl⟩
  | reset otherId password held =>
      left
      rw [resetPassword, PortalState.find_updateUser] at found
      split at found
      · obtain ⟨before, beforeFound, rfl⟩ := Option.map_eq_some_iff.1 found
        exact ⟨before, beforeFound, rfl, rfl⟩
      · exact ⟨user, found, rfl, rfl⟩

theorem ActionEffect.grant (effect : ActionEffect text state adminId after) {grant : PortalGrant}
    (member : grant ∈ after.grants.rows) :
    grant ∈ state.grants.rows ∨ state.owns adminId grant.shortcodeId = true := by
  cases effect with
  | refused => exact Or.inl member
  | created now create roleId some_posted owned =>
      rcases PortalState.mem_of_mem_insertGrants member with before | ⟨_, id, posted, same⟩
      · exact Or.inl before
      · right
        rw [same]
        exact owned id posted
  | granted now viewerId ids owned =>
      rcases PortalState.mem_of_mem_insertGrants member with before | ⟨_, id, posted, same⟩
      · exact Or.inl (List.mem_filter.1 before).1
      · right
        rw [same]
        exact owned id posted
  | updated _ _ _ _ _ => exact Or.inl member
  | reset _ _ _ => exact Or.inl member

theorem ActionEffect.login (effect : ActionEffect text state adminId after) {viewerId : Nat}
    {before user : PortalUserRow} (found : state.users.find viewerId = some before)
    (foundAfter : after.users.find viewerId = some user)
    (others : before.createdByUserId ≠ some adminId) (changed : ¬ SameLogin text before user) :
    OwnsShortcode state adminId := by
  have unchanged : state.users.find viewerId = some user → OwnsShortcode state adminId := by
    intro same
    rw [found] at same
    obtain rfl := Option.some.inj same
    exact absurd ⟨rfl, rfl, rfl⟩ changed
  cases effect with
  | refused => exact unchanged foundAfter
  | created now create roleId some_posted owned =>
      obtain ⟨id, posted⟩ := List.exists_mem_of_ne_nil _ some_posted
      exact ownsShortcode_of_owns (owned id posted)
  | granted _ _ _ _ => exact unchanged foundAfter
  | updated otherId update keyed guarded still =>
      rw [PortalState.find_updateUser] at foundAfter
      split at foundAfter
      next same =>
        subst same
        rw [found] at foundAfter
        obtain rfl := Option.some.inj foundAfter
        rcases guarded before found with kept | creator
        · exact absurd kept changed
        · exact absurd creator others
      next => exact unchanged foundAfter
  | reset otherId password held =>
      obtain ⟨grant, _, _, owned⟩ := held
      exact ownsShortcode_of_owns owned

theorem foreign_of_effect {ownerId : Nat} (effect : ActionEffect text state adminId after)
    (sole : OwnsShortcode state adminId → adminId = ownerId) {viewerId : Nat}
    (foreign : Foreign after ownerId viewerId) : Foreign state ownerId viewerId := by
  obtain ⟨user, found, role, creator, grant, member, viewer, unowned⟩ := foreign
  rw [owns_congr effect.shortcodes] at unowned
  have granted : grant ∈ state.grants.rows := by
    rcases effect.grant member with before | owned
    · exact before
    · rw [sole (ownsShortcode_of_owns owned), unowned] at owned
      cases owned
  rcases effect.user found with ⟨before, beforeFound, sameRole, sameCreator⟩ | ⟨new, owner⟩
  · rw [roleOf_congr effect.roles, PortalState.roleOf, ← sameRole] at role
    rw [← sameCreator] at creator
    exact ⟨before, beforeFound, role, creator, grant, granted, viewer, unowned⟩
  · rw [sole owner] at new
    exact absurd new creator

end

section

variable {text : PortalText} {perms : Nat → List String} {state : PortalState}

theorem SoleOwner.step (sole : SoleOwner perms state) (event : ViewerEvent) :
    SoleOwner perms (viewerStep text perms state event) := by
  obtain ⟨effect, manages⟩ :
      ActionEffect text state event.actor (viewerStep text perms state event) ∧
      (viewerStep text perms state event ≠ state →
        requireViewerManager (perms event.actor) = true) := viewerStep_effect event
  intro adminId managesAdmin owner
  rw [ownsShortcode_congr effect.shortcodes] at owner
  obtain ⟨unique, native⟩ := sole adminId managesAdmin owner
  constructor
  · intro other managesOther otherOwner
    rw [ownsShortcode_congr effect.shortcodes] at otherOwner
    exact unique other managesOther otherOwner
  · intro viewerId foreign
    by_cases same : viewerStep text perms state event = state
    · rw [same] at foreign
      exact native viewerId foreign
    · exact native viewerId
        (foreign_of_effect effect (unique event.actor (manages same)) foreign)

theorem SoleOwner.not_takesOver (sole : SoleOwner perms state) (event : ViewerEvent) :
    ¬ TakesOver text perms state event := by
  rintro ⟨viewerId, foreign, before, after, found, foundAfter, changed⟩
  obtain ⟨effect, manages⟩ :
      ActionEffect text state event.actor (viewerStep text perms state event) ∧
      (viewerStep text perms state event ≠ state →
        requireViewerManager (perms event.actor) = true) := viewerStep_effect event
  have moved : viewerStep text perms state event ≠ state := by
    intro same
    rw [same, found] at foundAfter
    obtain rfl := Option.some.inj foundAfter
    exact changed ⟨rfl, rfl, rfl⟩
  obtain ⟨user, userFound, _, creator, _⟩ := id foreign
  rw [found] at userFound
  obtain rfl := Option.some.inj userFound
  have owner := effect.login found foundAfter creator changed
  exact (sole event.actor (manages moved) owner).2 viewerId foreign

theorem SoleOwner.noTakeover (sole : SoleOwner perms state) : NoTakeover text perms state := by
  intro events
  induction events generalizing state with
  | nil => trivial
  | cons event rest ih =>
      refine ⟨sole.not_takesOver event, ?_⟩
      intro after stepped
      obtain rfl := Option.some.inj stepped
      exact ih (sole.step event)

/-! Without a sole owner an Admin reaches a viewer in two actions, or makes one foreign first. -/

theorem NoTakeover.next (safe : NoTakeover text perms state) (event : ViewerEvent) :
    ¬ TakesOver text perms state event ∧
      NoTakeover text perms (viewerStep text perms state event) := by
  constructor
  · exact (safe [event]).1
  · intro events
    exact (safe (event :: events)).2 _ rfl

theorem setGrants_step {adminId viewerId : Nat} {user : PortalUserRow} {row : OwnedShortcode}
    (manages : requireViewerManager (perms adminId) = true)
    (found : state.users.find viewerId = some user)
    (role : state.roleOf user = some .clientViewer) (member : row ∈ state.shortcodes.rows)
    (owner : row.ownerUserId = adminId) (now : Int) :
    viewerStep text perms state
        { actor := adminId, now, action := .setGrants viewerId [Int.ofNat row.id] } =
      (state.revoked viewerId adminId).insertGrants now viewerId [Int.ofNat row.id] := by
  have owned : assertShortcodesOwnedBy state.shortcodes [Int.ofNat row.id] adminId = .ok () := by
    rw [assertShortcodesOwnedBy_ok]
    intro id posted
    obtain rfl := List.mem_singleton.1 posted
    exact ⟨row, member, rfl, owner⟩
  simp only [viewerStep, manages, if_true, performViewerAction, actionAdminSetGrants,
    setViewerGrantsAsAdmin,
    found, role, ne_eq, not_true, if_false, owned, redirected]
  rfl

theorem reset_step {adminId viewerId : Nat} {user : PortalUserRow}
    (manages : requireViewerManager (perms adminId) = true)
    (found : state.users.find viewerId = some user)
    (role : state.roleOf user = some .clientViewer)
    (held : ∃ grant ∈ state.grants.rows, grant.portalUserId = viewerId ∧
      state.owns adminId grant.shortcodeId = true) (now : Int) :
    viewerStep text perms state
        { actor := adminId, now, action := .resetPassword viewerId "password" "password" } =
      resetPassword text state viewerId "password" := by
  obtain ⟨grant, inside, viewer, owned⟩ := held
  have nonempty : (state.viewerGrants viewerId adminId).isEmpty = false := by
    rw [List.isEmpty_eq_false_iff_exists_mem]
    exact ⟨grant, mem_viewerGrants.2 ⟨inside, viewer, owned⟩⟩
  have scope : getViewerForAdmin state viewerId adminId ≠ none := by
    simp [getViewerForAdmin, found, role, nonempty]
  obtain ⟨viewerRow, inScope⟩ := Option.ne_none_iff_exists'.1 scope
  have long : ¬ utf16Length "password" < 8 := by decide
  simp only [viewerStep, manages, if_true, performViewerAction, actionAdminResetViewerPassword,
    long, if_false,
    ne_eq, not_true, inScope]

theorem reset_takesOver {adminId viewerId : Nat}
    (manages : requireViewerManager (perms adminId) = true)
    (foreign : Foreign state adminId viewerId)
    (held : ∃ grant ∈ state.grants.rows, grant.portalUserId = viewerId ∧
      state.owns adminId grant.shortcodeId = true) (now : Int) :
    TakesOver text perms state
      { actor := adminId, now, action := .resetPassword viewerId "password" "password" } := by
  obtain ⟨user, found, role, _⟩ := id foreign
  refine ⟨viewerId, foreign, user, withPassword text "password" user, found, ?_, ?_⟩
  · rw [reset_step manages found role held]
    rw [resetPassword, PortalState.find_updateUser, if_pos rfl, found]
    rfl
  · rintro ⟨_, _, version⟩
    simp [withPassword] at version

theorem selfGrant_foreign {adminId viewerId : Nat} {row : OwnedShortcode}
    (foreign : Foreign state adminId viewerId) (member : row ∈ state.shortcodes.rows)
    (owner : row.ownerUserId = adminId) (now : Int) :
    Foreign ((state.revoked viewerId adminId).insertGrants now viewerId [Int.ofNat row.id])
        adminId viewerId ∧
      ∃ grant ∈ ((state.revoked viewerId adminId).insertGrants now viewerId
          [Int.ofNat row.id]).grants.rows, grant.portalUserId = viewerId ∧
        state.owns adminId grant.shortcodeId = true := by
  obtain ⟨user, found, role, creator, grant, inside, viewer, unowned⟩ := foreign
  constructor
  · refine ⟨user, found, role, creator, grant, ?_, viewer, unowned⟩
    apply PortalState.grants_kept
    refine List.mem_filter.2 ⟨inside, ?_⟩
    rw [unowned, Bool.and_false]
    rfl
  · obtain ⟨own, ownInside, ownViewer, same⟩ := @PortalState.granted
      (state.revoked viewerId adminId) now viewerId (Int.ofNat row.id)
    refine ⟨own, ownInside, ownViewer, ?_⟩
    rw [same, owns_iff]
    exact ⟨row, member, rfl, owner⟩

theorem NoTakeover.native (safe : NoTakeover text perms state) {adminId : Nat}
    (manages : requireViewerManager (perms adminId) = true)
    (owner : OwnsShortcode state adminId) (viewerId : Nat) : ¬ Foreign state adminId viewerId := by
  intro foreign
  obtain ⟨row, member, owned⟩ := owner
  obtain ⟨user, found, role, _⟩ := id foreign
  have next := (safe.next ⟨adminId, 0, .setGrants viewerId [Int.ofNat row.id]⟩).2
  rw [setGrants_step manages found role member owned] at next
  obtain ⟨stillForeign, held⟩ := selfGrant_foreign foreign member owned 0
  exact (next.next _).1 (reset_takesOver manages stillForeign held 0)

theorem otherGrant_foreign {adminId otherId viewerId : Nat} {user : PortalUserRow}
    {row : OwnedShortcode} (found : state.users.find viewerId = some user)
    (role : state.roleOf user = some .clientViewer)
    (creator : user.createdByUserId ≠ some adminId) (member : row ∈ state.shortcodes.rows)
    (owner : row.ownerUserId = otherId) (apart : adminId ≠ otherId) (now : Int) :
    Foreign ((state.revoked viewerId otherId).insertGrants now viewerId [Int.ofNat row.id])
      adminId viewerId := by
  obtain ⟨grant, inside, viewer, same⟩ := @PortalState.granted
    (state.revoked viewerId otherId) now viewerId (Int.ofNat row.id)
  refine ⟨user, found, role, creator, grant, inside, viewer, ?_⟩
  have owned : state.owns otherId row.id = true := (owns_iff _ _ _).2 ⟨row, member, rfl, owner⟩
  rw [same]
  exact not_owns_of_owns owned apart

def longEmail (length : Nat) : String :=
  String.ofList (List.replicate (length + 1) 'a' ++ ['@', 'a', '.', 'a'])

theorem lower_longEmail (length : Nat) : text.lower (longEmail length) = longEmail length := by
  apply text.lower_plain
  intro c member
  rw [longEmail, String.toList_ofList, List.mem_append] at member
  rcases member with letter | rest
  · rw [List.eq_of_mem_replicate letter]
    exact Or.inl (by decide)
  · simp only [List.mem_cons, List.not_mem_nil, or_false] at rest
    rcases rest with rfl | rfl | rfl | rfl
    · exact Or.inr (Or.inl rfl)
    · exact Or.inl (by decide)
    · exact Or.inr (Or.inr rfl)
    · exact Or.inl (by decide)

theorem validEmail_longEmail (length : Nat) : validEmail (longEmail length) = true := by
  have letters : ∀ c ∈ List.replicate (length + 1) 'a', decide (c ≠ '@') = true := by
    intro c member
    rw [List.eq_of_mem_replicate member]
    decide
  have split : (longEmail length).toList.span (fun c => decide (c ≠ '@')) =
      (List.replicate (length + 1) 'a', ['@', 'a', '.', 'a']) := by
    rw [longEmail, String.toList_ofList, List.span_eq_takeWhile_dropWhile,
      List.takeWhile_append_of_pos letters, List.dropWhile_append_of_pos letters]
    simp
  rw [validEmail, split]
  simp [List.replicate_succ, isSpace]

theorem exists_freeEmail (text : PortalText) (state : PortalState) : ∃ length,
    state.emailTaken text (longEmail length) none = false := by
  refine ⟨(state.users.rows.map fun user => (text.lower user.email).length).sum, ?_⟩
  rw [Bool.eq_false_iff]
  intro taken
  simp only [PortalState.emailTaken, List.any_eq_true, Bool.and_eq_true, decide_eq_true_eq] at taken
  obtain ⟨user, member, same, _⟩ := taken
  have bound : (text.lower user.email).length ≤
      (state.users.rows.map fun user => (text.lower user.email).length).sum :=
    List.le_sum_of_mem (List.mem_map.2 ⟨user, member, rfl⟩)
  rw [same, lower_longEmail] at bound
  simp only [longEmail, String.length_ofList, List.length_append, List.length_replicate] at bound
  omega

def exampleForm (email : String) (ids : List Int) : ViewerForm where
  email := email
  name := "Viewer"
  phone := none
  password := "password"
  passwordConfirm := "password"
  shortcodeIds := ids

def exampleCreate (email : String) (ids : List Int) : AdminViewerCreate where
  email := email
  name := "Viewer"
  phone := none
  password := "password"
  shortcodeIds := ids

theorem parse_exampleForm (length : Nat) {ids : List Int} (posted : ids ≠ []) :
    parseViewerCreate text (exampleForm (longEmail length) ids) =
      .ok (exampleCreate (longEmail length) ids) := by
  have long : ¬ utf16Length "password" < 8 := by decide
  simp [parseViewerCreate, exampleForm, lower_longEmail, validEmail_longEmail, long, posted,
    exampleCreate]

theorem create_step {adminId length : Nat} {role : RoleRow} {row : OwnedShortcode}
    (manages : requireViewerManager (perms adminId) = true)
    (free : state.emailTaken text (longEmail length) none = false)
    (roleFound : state.roles.rows.find? (fun role => decide (role.key = .clientViewer)) = some role)
    (room : state.viewerCount adminId = 0) (member : row ∈ state.shortcodes.rows)
    (owner : row.ownerUserId = adminId) :
    viewerStep text perms state
        ⟨adminId, 0, .create (exampleForm (longEmail length) [Int.ofNat row.id])⟩ =
      (state.insertUser (viewerRow text state
        (exampleCreate (longEmail length) [Int.ofNat row.id]) role.id adminId) rfl).insertGrants 0
          state.nextUserId [Int.ofNat row.id] := by
  have owned : assertShortcodesOwnedBy state.shortcodes [Int.ofNat row.id] adminId = .ok () := by
    rw [assertShortcodesOwnedBy_ok]
    intro id posted
    obtain rfl := List.mem_singleton.1 posted
    exact ⟨row, member, rfl, owner⟩
  have available : emailExists text state (longEmail length) none = false := free
  have posted : [Int.ofNat row.id] ≠ [] := List.cons_ne_nil _ _
  have below : ¬ adminMaxViewers ≤ state.viewerCount adminId := by rw [room]; decide
  simp only [viewerStep, manages, if_true, performViewerAction, actionAdminCreateViewer,
    parse_exampleForm length posted, exampleCreate, available, createViewerAsAdmin, posted,
    if_false, owned, below, roleFound, free, redirected, Bool.false_eq_true]

theorem created_foreign {adminId otherId : Nat} {role : RoleRow} {row : OwnedShortcode}
    {create : AdminViewerCreate} (roleMember : role ∈ state.roles.rows)
    (roleKey : role.key = .clientViewer) (member : row ∈ state.shortcodes.rows)
    (owner : row.ownerUserId = otherId) (apart : adminId ≠ otherId) :
    Foreign ((state.insertUser (viewerRow text state create role.id otherId) rfl).insertGrants 0
      state.nextUserId [Int.ofNat row.id]) adminId state.nextUserId := by
  obtain ⟨grant, inside, viewer, same⟩ := @PortalState.granted
    (state.insertUser (viewerRow text state create role.id otherId) rfl) 0 state.nextUserId
    (Int.ofNat row.id)
  have absent : state.users.find state.nextUserId = none := by
    rw [KeyedTable.find_eq_none_iff]
    intro other inside
    exact Nat.ne_of_lt (state.idsIssued other inside)
  refine ⟨viewerRow text state create role.id otherId, ?_, ?_, ?_, grant, inside, viewer, ?_⟩
  · have inserted := KeyedTable.find_upsert_self (viewerRow text state create role.id otherId)
      (fun old => old) (fun _ => rfl) state.users
    rw [show (viewerRow text state create role.id otherId).id = state.nextUserId from rfl, absent]
      at inserted
    exact inserted
  · have key := RoleTable.keyOf_of_mem roleMember
    rw [roleKey] at key
    exact key
  · intro same
    exact apart (Option.some.inj same).symm
  · have ownsIt : state.owns otherId row.id = true := (owns_iff _ _ _).2 ⟨row, member, rfl, owner⟩
    rw [same]
    exact not_owns_of_owns ownsIt apart

theorem create_foreign {adminId otherId : Nat} {row : OwnedShortcode}
    (manages : requireViewerManager (perms otherId) = true)
    (noViewer : ∀ user ∈ state.users.rows, state.roleOf user ≠ some .clientViewer)
    (member : row ∈ state.shortcodes.rows) (owner : row.ownerUserId = otherId)
    (apart : adminId ≠ otherId) :
    ∃ event viewerId, Foreign (viewerStep text perms state event) adminId viewerId := by
  obtain ⟨length, free⟩ := exists_freeEmail text state
  obtain ⟨role, roleFound⟩ : ∃ role, state.roles.rows.find?
      (fun role => decide (role.key = .clientViewer)) = some role := by
    obtain ⟨role, inside, key⟩ := state.viewerSeeded
    rw [← Option.isSome_iff_exists, List.find?_isSome]
    exact ⟨role, inside, decide_eq_true key⟩
  have roleKey : role.key = .clientViewer := by simpa using List.find?_some roleFound
  have none : state.viewerCount otherId = 0 := by
    rw [PortalState.viewerCount, List.length_eq_zero_iff, List.filter_eq_nil_iff]
    intro user inside
    simp [noViewer user inside]
  refine ⟨⟨otherId, 0, .create (exampleForm (longEmail length) [Int.ofNat row.id])⟩,
    state.nextUserId, ?_⟩
  rw [create_step manages free roleFound none member owner]
  exact created_foreign (List.mem_of_find?_eq_some roleFound) roleKey member owner apart

theorem NoTakeover.alone (safe : NoTakeover text perms state) {first second : Nat}
    (firstManages : requireViewerManager (perms first) = true)
    (firstOwner : OwnsShortcode state first)
    (secondManages : requireViewerManager (perms second) = true)
    (secondOwner : OwnsShortcode state second) : second = first := by
  by_contra apart
  have apart' : first ≠ second := fun same => apart same.symm
  obtain ⟨firstRow, firstMember, firstOwns⟩ := id firstOwner
  obtain ⟨secondRow, secondMember, secondOwns⟩ := id secondOwner
  by_cases viewers : ∃ user ∈ state.users.rows, state.roleOf user = some .clientViewer
  · obtain ⟨user, member, role⟩ := viewers
    have found : state.users.find user.id = some user :=
      (state.users.find_eq_some_iff _ _).2 ⟨member, rfl⟩
    -- whoever did not create the viewer waits for the other's grant
    by_cases creator : user.createdByUserId = some first
    · have others : user.createdByUserId ≠ some second := by
        rw [creator]
        exact fun same => apart' (Option.some.inj same)
      have next := (safe.next ⟨first, 0, .setGrants user.id [Int.ofNat firstRow.id]⟩).2
      rw [setGrants_step firstManages found role firstMember firstOwns] at next
      exact next.native secondManages secondOwner user.id
        (otherGrant_foreign found role others firstMember firstOwns apart 0)
    · have next := (safe.next ⟨second, 0, .setGrants user.id [Int.ofNat secondRow.id]⟩).2
      rw [setGrants_step secondManages found role secondMember secondOwns] at next
      exact next.native firstManages firstOwner user.id
        (otherGrant_foreign found role creator secondMember secondOwns apart' 0)
  · have noViewer : ∀ user ∈ state.users.rows, state.roleOf user ≠ some .clientViewer := by
      intro user member role
      exact viewers ⟨user, member, role⟩
    obtain ⟨event, viewerId, foreign⟩ :
        ∃ event viewerId, Foreign (viewerStep text perms state event) first viewerId :=
      create_foreign secondManages noViewer secondMember secondOwns apart'
    have next := (safe.next event).2
    have effect : ActionEffect text state event.actor (viewerStep text perms state event) :=
      (viewerStep_effect event).1
    exact next.native firstManages ((ownsShortcode_congr effect.shortcodes first).2 firstOwner)
      viewerId foreign

end

/-- From given tables no sequence of actions takes a viewer over exactly when at most one of the
Admins owns shortcodes, and no viewer is foreign to that one. -/
theorem no_viewer_takeover_iff (text : PortalText) (perms : Nat → List String)
    (start : PortalState) : NoTakeover text perms start ↔ SoleOwner perms start := by
  constructor
  · intro safe adminId manages owner
    exact ⟨fun other otherManages otherOwner => safe.alone manages owner otherManages otherOwner,
      fun viewerId => safe.native manages owner viewerId⟩
  · exact SoleOwner.noTakeover

theorem toLower_of_plain {c : Char} (plain : c.isLower = true ∨ c = '@' ∨ c = '.') :
    c.toLower = c := by
  rcases plain with lower | rfl | rfl
  · have notUpper : ¬ (c.val ≥ 'A'.val ∧ c.val ≤ 'Z'.val) := by
      have range : (decide (c.val ≥ 'a'.val) && decide (c.val ≤ 'z'.val)) = true := lower
      simp only [Bool.and_eq_true, decide_eq_true_eq, ge_iff_le] at range
      rw [UInt32.le_iff_toNat_le] at range
      intro upper
      rw [ge_iff_le, UInt32.le_iff_toNat_le, UInt32.le_iff_toNat_le] at upper
      exact absurd (Nat.le_trans range.1 upper.2) (by decide)
    exact dif_neg notUpper
  · decide
  · decide

def asciiText : PortalText where
  lower text := String.ofList (text.toList.map Char.toLower)
  hash password := password
  lower_plain := by
    intro text plain
    have same : text.toList.map Char.toLower = text.toList :=
      List.map_congr_left (fun c member => toLower_of_plain (plain c member)) |>.trans
        (List.map_id _)
    rw [same, String.ofList_toList]

def exampleUser (id roleId : Nat) (createdByUserId : Option Nat) : PortalUserRow where
  id := id
  email := "user@example.org"
  name := "User"
  phone := none
  roleId := roleId
  active := true
  passwordHash := "hash"
  passwordVersion := 0
  createdByUserId := createdByUserId

def examplePortal : PortalState where
  roles :=
    { rows := [{ id := 1, key := .client }, { id := 2, key := .clientViewer }]
      idsUnique := by decide
      keysUnique := by decide }
  users := ⟨[exampleUser 1 1 none, exampleUser 2 1 none, exampleUser 3 2 (some 2)], by decide⟩
  nextUserId := 4
  shortcodes := .after [.create 10 1 0, .create 20 2 0]
  grants := ⟨[{ portalUserId := 3, shortcodeId := 20, grantedAt := 0 }], by decide⟩
  viewerSeeded := by decide
  idsIssued := by decide

def examplePerms (_ : Nat) : List String := ["viewers.manage_own"]

/-- The first Admin grants itself the second one's viewer and sets its password. -/
theorem viewer_taken_over :
    (((viewerPortal asciiText examplePerms).run examplePortal
        [⟨1, 0, .setGrants 3 [10]⟩, ⟨1, 0, .resetPassword 3 "takeover" "takeover"⟩]).bind
        fun after => after.users.find 3).map PortalUserRow.passwordHash = some "takeover" ∧
      ¬ NoTakeover asciiText examplePerms examplePortal := by
  refine ⟨by decide, ?_⟩
  intro safe
  have foreign : Foreign examplePortal 1 3 :=
    ⟨exampleUser 3 2 (some 2), by decide, by decide, by decide, _, List.mem_cons_self, rfl,
      by decide⟩
  exact safe.native (by decide) ⟨_, List.mem_cons_self, rfl⟩ 3 foreign

end UssdGateway
