import UssdGateway.Library.RowLocks
import UssdGateway.Portal.ViewerTakeover

/-!
`createViewerAsAdmin` and `setViewerGrantsAsAdmin` as transactions under READ COMMITTED. What one
writes is seen when it commits. The rows it deletes are its own to change: the viewer is locked.
Other locks, which only keep some of these runs from happening, are left out.
-/

namespace UssdGateway

inductive LanePhase where
  | idle
  | checked (create : AdminViewerCreate) (adminUserId : Nat)
  | counted (create : AdminViewerCreate) (adminUserId : Nat)
  | holding (viewerId : Nat) (shortcodeIds : List Int) (adminUserId : Nat)
  | granting (viewerId : Nat) (shortcodeIds : List Int) (adminUserId : Nat)
  | ended
deriving DecidableEq

structure LaneState where
  tables : PortalState
  -- rows of `portal_users`
  locks : LockTable Nat Nat
  phase : Nat → LanePhase

inductive LaneEvent where
  | create (transaction : Nat) (create : AdminViewerCreate) (adminUserId : Nat)
  | setGrants (transaction viewerId : Nat) (shortcodeIds : List Int) (adminUserId : Nat)
  -- the next check
  | proceed (transaction : Nat)
  | commit (transaction : Nat) (now : Int)
  | abort (transaction : Nat)
deriving DecidableEq

namespace LaneState

variable (state : LaneState) (transaction : Nat)

def setPhase (phase : LanePhase) : LaneState :=
  { state with phase := Function.update state.phase transaction phase }

def finish (tables : PortalState) : LaneState where
  tables := tables
  locks := state.locks.releaseAll transaction
  phase := Function.update state.phase transaction .ended

def step (text : PortalText) : LaneEvent → Option LaneState
  | .create transaction create adminUserId =>
      match state.phase transaction with
      | .idle =>
          if create.shortcodeIds = [] then some (state.finish transaction state.tables)
          else
            match assertShortcodesOwnedBy state.tables.shortcodes create.shortcodeIds
              adminUserId with
            | .ok () => some (state.setPhase transaction (.checked create adminUserId))
            | .error _ => some (state.finish transaction state.tables)
      | _ => none
  | .setGrants transaction viewerId shortcodeIds adminUserId =>
      match state.phase transaction with
      | .idle =>
          match state.tables.users.find viewerId with
          | none => some (state.finish transaction state.tables)
          | some user =>
              (state.locks.acquire transaction viewerId).map fun locks =>
                if state.tables.roleOf user = some .clientViewer then
                  { state with locks }.setPhase transaction
                    (.holding viewerId shortcodeIds adminUserId)
                else state.finish transaction state.tables
      | _ => none
  | .proceed transaction =>
      match state.phase transaction with
      | .checked create adminUserId =>
          if adminMaxViewers ≤ state.tables.viewerCount adminUserId then
            some (state.finish transaction state.tables)
          else some (state.setPhase transaction (.counted create adminUserId))
      | .holding viewerId shortcodeIds adminUserId =>
          match assertShortcodesOwnedBy state.tables.shortcodes shortcodeIds adminUserId with
          | .ok () =>
              some (state.setPhase transaction (.granting viewerId shortcodeIds adminUserId))
          | .error _ => some (state.finish transaction state.tables)
      | _ => none
  | .commit transaction now =>
      match state.phase transaction with
      | .counted create adminUserId =>
          match state.tables.roles.rows.find? fun role => role.key = .clientViewer with
          | some role =>
              if state.tables.emailTaken text create.email none then none
              else
                some (state.finish transaction ((state.tables.insertUser
                  (viewerRow text state.tables create role.id adminUserId) rfl).insertGrants now
                    state.tables.nextUserId create.shortcodeIds))
          | none => none
      | .granting viewerId shortcodeIds adminUserId =>
          some (state.finish transaction
            ((state.tables.revoked viewerId adminUserId).insertGrants now viewerId shortcodeIds))
      | _ => none
  | .abort transaction =>
      match state.phase transaction with
      | .idle | .ended => none
      | _ => some (state.finish transaction state.tables)

def Initial : Prop :=
  (∀ transaction, state.phase transaction = .idle) ∧
    ∀ grant ∈ state.tables.grants.rows, grant.portalUserId < state.tables.nextUserId

def Capped : Prop := ∀ adminId, state.tables.viewerCount adminId ≤ adminMaxViewers

end LaneState

/-- A transaction that commits takes no viewer in, or the Admin has room for one then. A creation
counted before, and grants are set without a count, also for a viewer of somebody else. -/
def LanePhase.HasRoom (text : PortalText) (tables : PortalState) : LanePhase → Prop
  | .counted create adminUserId =>
      tables.emailTaken text create.email none = false →
        tables.viewerCount adminUserId < adminMaxViewers
  | .granting viewerId shortcodeIds adminUserId =>
      shortcodeIds = [] ∨ tables.viewerGrants viewerId adminUserId ≠ [] ∨
        tables.viewerCount adminUserId < adminMaxViewers
  | _ => True

instance decidablePhaseHasRoom (text : PortalText) (tables : PortalState) :
    (phase : LanePhase) → Decidable (phase.HasRoom text tables)
  | .counted _ _ => inferInstanceAs (Decidable (_ → _))
  | .granting _ _ _ => inferInstanceAs (Decidable (_ ∨ _ ∨ _))
  | .idle | .checked _ _ | .holding _ _ _ | .ended => isTrue trivial

def LaneState.HasRoom (text : PortalText) (state : LaneState) : LaneEvent → Prop
  | .commit transaction _ => (state.phase transaction).HasRoom text state.tables
  | _ => True

instance decidableHasRoom (text : PortalText) (state : LaneState) :
    (event : LaneEvent) → Decidable (state.HasRoom text event)
  | .commit transaction _ => decidablePhaseHasRoom text state.tables (state.phase transaction)
  | .create .. | .setGrants .. | .proceed _ | .abort _ => isTrue trivial

def laneRuns (text : PortalText) : StepSystem LaneState LaneEvent where
  initial := LaneState.Initial
  step := fun state event => state.step text event

section

variable {text : PortalText} {state : LaneState} {transaction : Nat} {after : PortalState}
  {now : Int} {adminId : Nat}

theorem createViewer_alone {create : AdminViewerCreate} {newId : Nat}
    (idle : state.phase transaction = .idle)
    (done : createViewerAsAdmin text state.tables now create adminId = .ok (newId, after)) :
    ∃ last, (laneRuns text).run state
        [.create transaction create adminId, .proceed transaction, .commit transaction now] =
          some last ∧ last.tables = after := by
  rw [createViewerAsAdmin] at done
  split at done
  next => cases done
  next posted =>
    split at done
    next => cases done
    next passed =>
      dsimp only at done
      split at done
      next => cases done
      next room =>
        split at done
        next => cases done
        next role found =>
          split at done
          next => cases done
          next untaken =>
            obtain ⟨_, made⟩ := Prod.mk.inj (Except.ok.inj done)
            refine ⟨((state.setPhase transaction (.checked create adminId)).setPhase transaction
              (.counted create adminId)).finish transaction after, ?_, rfl⟩
            simp [StepSystem.run, laneRuns, LaneState.step, LaneState.setPhase, idle, posted,
              passed, room, found, untaken, made]

theorem setViewerGrants_alone {viewerId : Nat} {ids : List Int}
    (idle : state.phase transaction = .idle) (unlocked : state.locks viewerId = none)
    (done : setViewerGrantsAsAdmin state.tables now viewerId ids adminId = .ok after) :
    ∃ last, (laneRuns text).run state
        [.setGrants transaction viewerId ids adminId, .proceed transaction,
          .commit transaction now] = some last ∧ last.tables = after := by
  rw [setViewerGrantsAsAdmin] at done
  split at done
  next => cases done
  next user found =>
    split at done
    next => cases done
    next viewer =>
      split at done
      next => cases done
      next passed =>
        have made : (state.tables.revoked viewerId adminId).insertGrants now viewerId ids = after :=
          Except.ok.inj done
        have free : state.locks.acquire transaction viewerId = some fun other =>
            if other = viewerId then some transaction else state.locks other :=
          if_pos (Or.inl unlocked)
        refine ⟨(({ state with
          locks := fun other => if other = viewerId then some transaction else state.locks other
          }.setPhase transaction (.holding viewerId ids adminId)).setPhase transaction
            (.granting viewerId ids adminId)).finish transaction after, ?_, rfl⟩
        simp [StepSystem.run, laneRuns, LaneState.step, LaneState.setPhase, idle, free, found,
          not_not.1 viewer, passed, made]

end

end UssdGateway
