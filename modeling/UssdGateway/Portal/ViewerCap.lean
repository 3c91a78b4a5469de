import UssdGateway.Portal.ViewerLanes

/-!
How many viewers an Admin comes to have. A creation counts before it commits, and setting grants
does not count at all: the limit holds exactly where there is room at the commits.
-/

namespace UssdGateway

namespace PortalState

def Held (state : PortalState) (viewerId adminId : Nat) : Prop :=
  ∃ grant ∈ state.grants.rows, grant.portalUserId = viewerId ∧
    state.owns adminId grant.shortcodeId = true

def inLane (state : PortalState) (adminId : Nat) (user : PortalUserRow) : Bool :=
  decide (state.roleOf user = some .clientViewer) &&
    !(state.viewerGrants user.id adminId).isEmpty

variable {state after : PortalState} {viewerId adminId otherId userId : Nat} {now : Int}
  {ids : List Int}

theorem viewerGrants_ne_nil : state.viewerGrants viewerId adminId ≠ [] ↔
    state.Held viewerId adminId := by
  constructor
  · intro found
    obtain ⟨grant, member⟩ := List.exists_mem_of_ne_nil _ found
    exact ⟨grant, mem_viewerGrants.1 member⟩
  · rintro ⟨grant, holds⟩
    exact List.ne_nil_of_mem (mem_viewerGrants.2 holds)

theorem inLane_iff {user : PortalUserRow} : state.inLane adminId user = true ↔
    state.roleOf user = some .clientViewer ∧ state.Held user.id adminId := by
  rw [inLane, Bool.and_eq_true, decide_eq_true_eq, Bool.not_eq_true', List.isEmpty_eq_false_iff,
    viewerGrants_ne_nil]

theorem viewerCount_eq (state : PortalState) (adminId : Nat) :
    state.viewerCount adminId = state.users.rows.countP (state.inLane adminId) :=
  List.countP_eq_length_filter.symm

theorem held_insertGrants (owned : PostedOwned state adminId ids) :
    (state.insertGrants now viewerId ids).Held userId otherId ↔
      state.Held userId otherId ∨ (userId = viewerId ∧ otherId = adminId ∧ ids ≠ []) := by
  constructor
  · rintro ⟨grant, member, same, holds⟩
    rcases mem_of_mem_insertGrants member with before | ⟨viewer, id, posted, shortcode⟩
    · exact Or.inl ⟨grant, before, same, holds⟩
    · refine Or.inr ⟨same.symm.trans viewer, ?_, List.ne_nil_of_mem posted⟩
      by_contra apart
      have foreign := not_owns_of_owns (owned id posted) apart
      have holds : state.owns otherId grant.shortcodeId = true := holds
      rw [shortcode, foreign] at holds
      cases holds
  · rintro (⟨grant, member, same, holds⟩ | ⟨rfl, rfl, posted⟩)
    · exact ⟨grant, grants_kept member, same, holds⟩
    · obtain ⟨id, rest, rfl⟩ := List.exists_cons_of_ne_nil posted
      obtain ⟨grant, member, viewer, shortcode⟩ :=
        @granted state now userId id
      refine ⟨grant, ?_, viewer, ?_⟩
      · rw [insertGrants_cons]
        exact grants_kept member
      · rw [shortcode]
        exact owned id List.mem_cons_self

theorem held_revoked : (state.revoked viewerId adminId).Held userId otherId ↔
    state.Held userId otherId ∧ ¬ (userId = viewerId ∧ otherId = adminId) := by
  constructor
  · rintro ⟨grant, member, same, holds⟩
    obtain ⟨before, kept⟩ := List.mem_filter.1 member
    refine ⟨⟨grant, before, same, holds⟩, ?_⟩
    rintro ⟨rfl, rfl⟩
    have gone : state.owns otherId grant.shortcodeId = true := holds
    simp [same, gone] at kept
  · rintro ⟨⟨grant, member, same, holds⟩, apart⟩
    refine ⟨grant, List.mem_filter.2 ⟨member, ?_⟩, same, holds⟩
    rw [Bool.not_eq_true', Bool.and_eq_false_iff]
    by_cases viewer : userId = viewerId
    · refine Or.inr (not_owns_of_owns holds ?_)
      rintro rfl
      exact apart ⟨viewer, rfl⟩
    · exact Or.inl (decide_eq_false (same ▸ viewer))

theorem viewerCount_created (text : PortalText) (create : AdminViewerCreate) {role : RoleRow}
    (member : role ∈ state.roles.rows) (viewerRole : role.key = .clientViewer)
    (known : ∀ grant ∈ state.grants.rows, grant.portalUserId < state.nextUserId)
    (owned : PostedOwned state adminId create.shortcodeIds) (posted : create.shortcodeIds ≠ []) :
    ((state.insertUser (viewerRow text state create role.id adminId) rfl).insertGrants now
        state.nextUserId create.shortcodeIds).viewerCount otherId =
      state.viewerCount otherId + if otherId = adminId then 1 else 0 := by
  have unused : state.users.find state.nextUserId = none := by
    rw [KeyedTable.find_eq_none_iff]
    exact fun user inside => Nat.ne_of_lt (state.idsIssued user inside)
  have rows : (state.insertUser (viewerRow text state create role.id adminId) rfl).users.rows =
      state.users.rows ++ [viewerRow text state create role.id adminId] := by
    change ite _ _ _ = _
    rw [if_neg]
    rw [show (viewerRow text state create role.id adminId).id = state.nextUserId from rfl, unused]
    exact Bool.false_ne_true
  have held : ∀ userId, ((state.insertUser (viewerRow text state create role.id adminId)
      rfl).insertGrants now state.nextUserId create.shortcodeIds).Held userId otherId ↔
        state.Held userId otherId ∨ (userId = state.nextUserId ∧ otherId = adminId) := by
    intro userId
    refine (held_insertGrants owned).trans (or_congr_right ?_)
    rw [and_iff_left posted]
  rw [viewerCount_eq, viewerCount_eq]
  change List.countP _ (state.insertUser _ rfl).users.rows = _
  rw [rows, List.countP_append, List.countP_singleton]
  congr 1
  · apply List.countP_congr
    intro user inside
    have issued := state.idsIssued user inside
    rw [inLane_iff, inLane_iff, held]
    have apart : user.id ≠ state.nextUserId := Nat.ne_of_lt issued
    simp only [apart, false_and, or_false]
    rfl
  · have foreign : ¬ state.Held state.nextUserId otherId := by
      rintro ⟨grant, inside, same, _⟩
      exact absurd (known grant inside) (same ▸ Nat.lt_irrefl _)
    have viewer : state.roles.keyOf role.id = some .clientViewer :=
      viewerRole ▸ RoleTable.keyOf_of_mem member
    congr 1
    rw [eq_iff_iff, inLane_iff, held]
    simp only [viewerRow, true_and, foreign, false_or]
    exact and_iff_right viewer

theorem viewerCount_granted {user : PortalUserRow} (found : state.users.find viewerId = some user)
    (viewer : state.roleOf user = some .clientViewer) (owned : PostedOwned state adminId ids)
    (otherId : Nat) :
    ∃ rest, state.viewerCount otherId =
        (if state.viewerGrants viewerId otherId ≠ [] then 1 else 0) + rest ∧
      ((state.revoked viewerId adminId).insertGrants now viewerId ids).viewerCount otherId =
        (if (otherId ≠ adminId ∧ state.viewerGrants viewerId otherId ≠ []) ∨
            (otherId = adminId ∧ ids ≠ []) then 1 else 0) + rest := by
  obtain ⟨member, rfl⟩ := (KeyedTable.find_eq_some_iff _ _ _).1 found
  have held : ∀ userId, ((state.revoked user.id adminId).insertGrants now user.id ids).Held userId
      otherId ↔ (state.Held userId otherId ∧ ¬ (userId = user.id ∧ otherId = adminId)) ∨
        (userId = user.id ∧ otherId = adminId ∧ ids ≠ []) := by
    intro userId
    have postedOwned : PostedOwned (state.revoked user.id adminId) adminId ids := owned
    exact (held_insertGrants postedOwned).trans (or_congr_left held_revoked)
  refine ⟨(state.users.rows.filter fun other => !decide (other.id = user.id)).countP
    (state.inLane otherId), ?_, ?_⟩
  · rw [viewerCount_eq, KeyedTable.countP_key _ member, List.countP_singleton]
    congr 2
    rw [eq_iff_iff, inLane_iff, viewerGrants_ne_nil]
    exact and_iff_right viewer
  · rw [viewerCount_eq]
    refine (KeyedTable.countP_key state.users member _).trans ?_
    rw [List.countP_singleton]
    congr 1
    · congr 1
      rw [eq_iff_iff, inLane_iff, held, viewerGrants_ne_nil]
      simp only [true_and]
      rw [and_comm (a := state.Held user.id otherId)]
      exact and_iff_right viewer
    · apply List.countP_congr
      intro other kept
      have apart : other.id ≠ user.id := by simpa using (List.mem_filter.1 kept).2
      rw [inLane_iff, inLane_iff, held]
      simp only [apart, false_and, not_false_eq_true, and_true, or_false]
      rfl

end PortalState

/-! Runs. -/

/-- What a transaction has checked still holds. -/
def LanePhase.Sound (tables : PortalState) : LanePhase → Prop
  | .checked create adminId | .counted create adminId =>
      create.shortcodeIds ≠ [] ∧ PostedOwned tables adminId create.shortcodeIds
  | .holding viewerId _ _ =>
      ∃ user, tables.users.find viewerId = some user ∧ tables.roleOf user = some .clientViewer
  | .granting viewerId ids adminId =>
      PostedOwned tables adminId ids ∧
        ∃ user, tables.users.find viewerId = some user ∧ tables.roleOf user = some .clientViewer
  | .idle | .ended => True

structure LaneInv (state : LaneState) : Prop where
  sound : ∀ transaction, (state.phase transaction).Sound state.tables
  known : ∀ grant ∈ state.tables.grants.rows, grant.portalUserId < state.tables.nextUserId

structure TablesGrow (before after : PortalState) : Prop where
  shortcodes : after.shortcodes = before.shortcodes
  roles : after.roles = before.roles
  users : ∀ id user, before.users.find id = some user → after.users.find id = some user

section

variable {tables other : PortalState} {state after : LaneState} {transaction : Nat}
  {phase : LanePhase} {text : PortalText}

theorem TablesGrow.postedOwned (grows : TablesGrow tables other) {adminId : Nat} {ids : List Int}
    (owned : PostedOwned tables adminId ids) : PostedOwned other adminId ids := by
  intro id posted
  rw [owns_congr grows.shortcodes]
  exact owned id posted

theorem TablesGrow.viewer (grows : TablesGrow tables other) {viewerId : Nat}
    (viewer : ∃ user, tables.users.find viewerId = some user ∧
      tables.roleOf user = some .clientViewer) :
    ∃ user, other.users.find viewerId = some user ∧ other.roleOf user = some .clientViewer := by
  obtain ⟨user, found, role⟩ := viewer
  exact ⟨user, grows.users viewerId user found, by rw [roleOf_congr grows.roles, role]⟩

theorem LanePhase.Sound.extend (sound : phase.Sound tables) (grows : TablesGrow tables other) :
    phase.Sound other := by
  cases phase with
  | idle | ended => trivial
  | checked | counted => exact ⟨sound.1, grows.postedOwned sound.2⟩
  | holding => exact grows.viewer sound
  | granting => exact ⟨grows.postedOwned sound.1, grows.viewer sound.2⟩

theorem LaneInv.moves (inv : LaneInv state)
    (phases : after.phase = Function.update state.phase transaction phase)
    (grows : TablesGrow state.tables after.tables)
    (known : ∀ grant ∈ after.tables.grants.rows, grant.portalUserId < after.tables.nextUserId)
    (own : phase.Sound after.tables) : LaneInv after := by
  refine ⟨?_, known⟩
  intro other
  by_cases same : other = transaction
  · rw [phases, same, Function.update_self]
    exact own
  · rw [phases, Function.update_of_ne same]
    exact (inv.sound other).extend grows

theorem TablesGrow.refl (tables : PortalState) : TablesGrow tables tables :=
  ⟨rfl, rfl, fun _ _ found => found⟩

def LaneState.Moves (state after : LaneState) : Prop :=
  ∃ transaction phase, after.tables = state.tables ∧
    after.phase = Function.update state.phase transaction phase ∧ phase.Sound state.tables

theorem moves_ended (state : LaneState) (transaction : Nat) :
    state.Moves (state.finish transaction state.tables) :=
  ⟨transaction, .ended, rfl, rfl, trivial⟩

theorem moves_create {create : AdminViewerCreate} {adminId : Nat}
    (stepped : state.step text (.create transaction create adminId) = some after) :
    state.Moves after := by
  rw [LaneState.step] at stepped
  split at stepped
  next =>
    split at stepped
    next => exact Option.some.inj stepped ▸ moves_ended state transaction
    next posted =>
      split at stepped
      next passed =>
        rw [← Option.some.inj stepped]
        exact ⟨transaction, _, rfl, rfl, posted, postedOwned_of_ok passed⟩
      next => exact Option.some.inj stepped ▸ moves_ended state transaction
  next => cases stepped

theorem moves_setGrants {viewerId adminId : Nat} {ids : List Int}
    (stepped : state.step text (.setGrants transaction viewerId ids adminId) = some after) :
    state.Moves after := by
  rw [LaneState.step] at stepped
  split at stepped
  next =>
    split at stepped
    next => exact Option.some.inj stepped ▸ moves_ended state transaction
    next user found =>
      obtain ⟨locks, _, moved⟩ := Option.map_eq_some_iff.1 stepped
      split at moved
      next viewer =>
        rw [← moved]
        exact ⟨transaction, _, rfl, rfl, user, found, viewer⟩
      next => exact moved ▸ moves_ended state transaction
  next => cases stepped

theorem LaneInv.moves_proceed (inv : LaneInv state)
    (stepped : state.step text (.proceed transaction) = some after) : state.Moves after := by
  have sound := inv.sound transaction
  rw [LaneState.step] at stepped
  split at stepped
  next create adminId current =>
    rw [current] at sound
    split at stepped
    next => exact Option.some.inj stepped ▸ moves_ended state transaction
    next =>
      rw [← Option.some.inj stepped]
      exact ⟨transaction, _, rfl, rfl, sound⟩
  next viewerId ids adminId current =>
    rw [current] at sound
    split at stepped
    next passed =>
      rw [← Option.some.inj stepped]
      exact ⟨transaction, _, rfl, rfl, postedOwned_of_ok passed, sound⟩
    next => exact Option.some.inj stepped ▸ moves_ended state transaction
  next => cases stepped

theorem moves_abort (stepped : state.step text (.abort transaction) = some after) :
    state.Moves after := by
  rw [LaneState.step] at stepped
  split at stepped
  next => cases stepped
  next => cases stepped
  next => exact Option.some.inj stepped ▸ moves_ended state transaction

theorem commit_cases {now : Int}
    (stepped : state.step text (.commit transaction now) = some after) :
    (∃ create adminId role, state.phase transaction = .counted create adminId ∧
      role ∈ state.tables.roles.rows ∧ role.key = .clientViewer ∧
      state.tables.emailTaken text create.email none = false ∧
      after = state.finish transaction ((state.tables.insertUser
        (viewerRow text state.tables create role.id adminId) rfl).insertGrants now
          state.tables.nextUserId create.shortcodeIds)) ∨
    ∃ viewerId ids adminId, state.phase transaction = .granting viewerId ids adminId ∧
      after = state.finish transaction
        ((state.tables.revoked viewerId adminId).insertGrants now viewerId ids) := by
  rw [LaneState.step] at stepped
  split at stepped
  next create adminId current =>
    split at stepped
    next role found =>
      obtain ⟨untaken, moved⟩ := Option.ite_none_left_eq_some.1 stepped
      refine Or.inl ⟨create, adminId, role, current, List.mem_of_find?_eq_some found, ?_, ?_,
        (Option.some.inj moved).symm⟩
      · simpa using List.find?_some found
      · simpa using untaken
    next => cases stepped
  next viewerId ids adminId current =>
    exact Or.inr ⟨viewerId, ids, adminId, current, (Option.some.inj stepped).symm⟩
  next => cases stepped

theorem LaneInv.step_cases (inv : LaneInv state) {event : LaneEvent}
    (stepped : state.step text event = some after) :
    state.Moves after ∨ ∃ transaction now, event = .commit transaction now := by
  cases event with
  | create => exact Or.inl (moves_create stepped)
  | setGrants => exact Or.inl (moves_setGrants stepped)
  | proceed => exact Or.inl (inv.moves_proceed stepped)
  | commit transaction now => exact Or.inr ⟨transaction, now, rfl⟩
  | abort => exact Or.inl (moves_abort stepped)

theorem TablesGrow.created (tables : PortalState) (create : AdminViewerCreate)
    (roleId adminId : Nat) (now : Int) :
    TablesGrow tables ((tables.insertUser (viewerRow text tables create roleId adminId)
      rfl).insertGrants now tables.nextUserId create.shortcodeIds) where
  shortcodes := rfl
  roles := rfl
  users := by
    intro id user found
    obtain ⟨member, same⟩ := (KeyedTable.find_eq_some_iff _ _ _).1 found
    have apart : id ≠ tables.nextUserId := same ▸ Nat.ne_of_lt (tables.idsIssued user member)
    have kept := KeyedTable.find_upsert_of_ne (viewerRow text tables create roleId adminId)
      (fun old => old) (fun _ => rfl) tables.users apart
    exact kept.trans found

theorem LaneInv.kept (inv : LaneInv state) {event : LaneEvent}
    (stepped : state.step text event = some after) : LaneInv after := by
  rcases inv.step_cases stepped with ⟨transaction, phase, tables, phases, sound⟩ |
    ⟨transaction, now, rfl⟩
  · exact inv.moves phases (tables ▸ .refl _) (tables ▸ inv.known) (tables ▸ sound)
  rcases commit_cases stepped with ⟨create, adminId, role, _, _, _, _, rfl⟩ |
    ⟨viewerId, ids, adminId, current, rfl⟩
  · refine inv.moves rfl (.created _ _ _ _ _) ?_ trivial
    intro grant member
    rcases PortalState.mem_of_mem_insertGrants member with before | ⟨viewer, _⟩
    · exact Nat.lt_succ_of_lt (inv.known grant before)
    · rw [viewer]
      exact Nat.lt_succ_self _
  · refine inv.moves rfl ⟨rfl, rfl, fun _ _ found => found⟩ ?_ trivial
    have sound := inv.sound transaction
    rw [current] at sound
    obtain ⟨_, user, found, _⟩ := sound
    obtain ⟨inside, same⟩ := (KeyedTable.find_eq_some_iff _ _ _).1 found
    intro grant member
    rcases PortalState.mem_of_mem_insertGrants member with before | ⟨viewer, _⟩
    · exact inv.known grant (List.mem_filter.1 before).1
    · rw [viewer, ← same]
      exact state.tables.idsIssued user inside

theorem capped_finish {tables : PortalState} : (state.finish transaction tables).Capped ↔
    ∀ adminId, tables.viewerCount adminId ≤ adminMaxViewers := Iff.rfl

theorem LaneInv.created_iff (inv : LaneInv state) (capped : state.Capped) {now : Int}
    {create : AdminViewerCreate} {adminId : Nat} {role : RoleRow}
    (current : state.phase transaction = .counted create adminId)
    (member : role ∈ state.tables.roles.rows) (viewerRole : role.key = .clientViewer) :
    (state.finish transaction ((state.tables.insertUser
      (viewerRow text state.tables create role.id adminId) rfl).insertGrants now
        state.tables.nextUserId create.shortcodeIds)).Capped ↔
      state.tables.viewerCount adminId < adminMaxViewers := by
  have sound := inv.sound transaction
  rw [current] at sound
  have count := fun otherId => @PortalState.viewerCount_created state.tables adminId otherId now
    text create role member viewerRole inv.known sound.2 sound.1
  rw [capped_finish]
  constructor
  · intro after
    have own := after adminId
    rw [count, if_pos rfl] at own
    exact own
  · intro room otherId
    rw [count]
    split
    next same => exact same ▸ room
    next => exact capped otherId

theorem LaneInv.granted_iff (inv : LaneInv state) (capped : state.Capped) {now : Int}
    {viewerId adminId : Nat} {ids : List Int}
    (current : state.phase transaction = .granting viewerId ids adminId) :
    (state.finish transaction
      ((state.tables.revoked viewerId adminId).insertGrants now viewerId ids)).Capped ↔
      ids = [] ∨ state.tables.viewerGrants viewerId adminId ≠ [] ∨
        state.tables.viewerCount adminId < adminMaxViewers := by
  have sound := inv.sound transaction
  rw [current] at sound
  obtain ⟨owned, user, found, viewer⟩ := sound
  have count := @PortalState.viewerCount_granted state.tables viewerId adminId now ids user found
    viewer owned
  rw [capped_finish]
  constructor
  · intro after
    have own := after adminId
    obtain ⟨rest, before, later⟩ := count adminId
    rw [later] at own
    by_cases none_posted : ids = []
    · exact Or.inl none_posted
    · by_cases held : state.tables.viewerGrants viewerId adminId = []
      · refine Or.inr (Or.inr ?_)
        rw [if_pos (Or.inr ⟨rfl, none_posted⟩)] at own
        rw [before, if_neg (not_not.2 held)]
        omega
      · exact Or.inr (Or.inl held)
  · intro room otherId
    obtain ⟨rest, before, later⟩ := count otherId
    have kept := capped otherId
    rw [before] at kept
    rw [later]
    by_cases own : otherId = adminId
    · subst own
      rcases room with rfl | held | room
      · rw [if_neg (by simp)]
        omega
      · rw [if_pos held] at kept
        split <;> omega
      · rw [before] at room
        split <;> omega
    · simp only [own, ne_eq, not_false_eq_true, true_and, false_and, or_false]
      exact kept

theorem LaneInv.capped_iff (inv : LaneInv state) (capped : state.Capped) (event : LaneEvent) :
    (∀ after, (laneRuns text).step state event = some after → after.Capped) ↔
      state.HasRoom text event := by
  constructor
  · intro stays
    cases event with
    | commit transaction now =>
        rw [LaneState.HasRoom, LanePhase.HasRoom.eq_def]
        split
        next create adminId current =>
          intro untaken
          obtain ⟨role, member, viewerRole⟩ := state.tables.viewerSeeded
          rcases found : state.tables.roles.rows.find? (fun role => role.key = .clientViewer) with
            _ | role
          · rw [List.find?_eq_none] at found
            exact absurd viewerRole (by simpa using found role member)
          · have viewerRole : role.key = .clientViewer := by simpa using List.find?_some found
            have stepped : (laneRuns text).step state (.commit transaction now) =
                some (state.finish transaction ((state.tables.insertUser
                  (viewerRow text state.tables create role.id adminId) rfl).insertGrants now
                    state.tables.nextUserId create.shortcodeIds)) := by
              change state.step text (.commit transaction now) = _
              rw [LaneState.step, current]
              simp only [found, untaken, Bool.false_eq_true, if_false]
            exact (inv.created_iff capped current (List.mem_of_find?_eq_some found) viewerRole).1
              (stays _ stepped)
        next viewerId ids adminId current =>
          have stepped : (laneRuns text).step state (.commit transaction now) =
              some (state.finish transaction
                ((state.tables.revoked viewerId adminId).insertGrants now viewerId ids)) := by
            change state.step text (.commit transaction now) = _
            rw [LaneState.step, current]
          exact (inv.granted_iff capped current).1 (stays _ stepped)
        next => trivial
    | _ => trivial
  · intro room after stepped
    rcases inv.step_cases stepped with ⟨_, _, tables, _⟩ | ⟨transaction, now, rfl⟩
    · intro adminId
      rw [tables]
      exact capped adminId
    rcases commit_cases stepped with
      ⟨create, adminId, role, current, member, viewerRole, untaken, rfl⟩ |
      ⟨viewerId, ids, adminId, current, rfl⟩
    · rw [LaneState.HasRoom, current] at room
      exact (inv.created_iff capped current member viewerRole).2 (room untaken)
    · rw [LaneState.HasRoom, current] at room
      exact (inv.granted_iff capped current).2 room

theorem LaneState.Initial.inv (initial : state.Initial) : LaneInv state where
  sound := by
    intro transaction
    rw [initial.1 transaction]
    trivial
  known := initial.2

end

/-- Calls of any Admins that begin where nobody has more viewers than the limit: it stays so all
along a run exactly if there is room wherever a viewer comes to an Admin. -/
theorem viewer_cap_iff (text : PortalText) {start : LaneState} (initial : start.Initial)
    (capped : start.Capped) (events : List LaneEvent) :
    (laneRuns text).Along
        (fun state event => ∀ after, (laneRuns text).step state event = some after → after.Capped)
        start events ↔
      (laneRuns text).Along (fun state event => state.HasRoom text event) start events := by
  refine @StepSystem.along_iff_of_kept _ _ _ (fun state => LaneInv state ∧ state.Capped) _ _
    ?_ ?_ _ ⟨initial.inv, capped⟩ events
  · intro state event inv
    exact inv.1.capped_iff inv.2 event
  · intro state event after inv stays stepped
    exact ⟨inv.1.kept stepped, stays after stepped⟩

def laneViewer (email : String) : AdminViewerCreate where
  email := email
  name := "Viewer"
  phone := none
  password := "password"
  shortcodeIds := [10]

def exampleLanes : LaneState where
  tables := examplePortal
  locks := LockTable.free
  phase := fun _ => .idle

theorem exampleLanes_initial : exampleLanes.Initial :=
  ⟨fun _ => rfl, by decide⟩

theorem exampleLanes_capped : exampleLanes.Capped := by
  intro adminId
  have viewers : examplePortal.viewerCount adminId ≤ (examplePortal.users.rows.filter fun user =>
      decide (examplePortal.roleOf user = some .clientViewer)).length := by
    rw [PortalState.viewerCount, ← List.countP_eq_length_filter, ← List.countP_eq_length_filter]
    apply List.countP_mono_left
    intro user _ counted
    exact (Bool.and_eq_true _ _ ▸ counted).1
  exact Nat.le_trans viewers (by decide)

def oneCreation : List LaneEvent :=
  [.create 0 (laneViewer "first@example.org") 1, .proceed 0, .commit 0 0,
    .create 1 (laneViewer "second@example.org") 1, .proceed 1]

def twoCreations : List LaneEvent :=
  [.create 0 (laneViewer "first@example.org") 1, .create 1 (laneViewer "second@example.org") 1,
    .proceed 0, .proceed 1, .commit 0 0, .commit 1 0]

def creationAndGrants : List LaneEvent :=
  [.create 0 (laneViewer "first@example.org") 1, .proceed 0, .commit 0 0,
    .setGrants 1 3 [10] 1, .proceed 1, .commit 1 0]

theorem one_viewer_created :
    ((laneRuns asciiText).run exampleLanes oneCreation).any (fun state =>
        decide (state.tables.viewerCount 1 = 1)) = true ∧
      (laneRuns asciiText).Along (fun state event => ∀ after,
        (laneRuns asciiText).step state event = some after → after.Capped)
        exampleLanes oneCreation :=
  ⟨by decide +kernel,
    (viewer_cap_iff asciiText exampleLanes_initial exampleLanes_capped oneCreation).2
      (by decide +kernel)⟩

theorem two_viewers_of_one_admin :
    exampleLanes.Initial ∧ exampleLanes.Capped ∧
      ((laneRuns asciiText).run exampleLanes twoCreations).any (fun state =>
        decide (adminMaxViewers < state.tables.viewerCount 1)) = true ∧
      ((laneRuns asciiText).run exampleLanes creationAndGrants).any (fun state =>
        decide (adminMaxViewers < state.tables.viewerCount 1)) = true :=
  ⟨exampleLanes_initial, exampleLanes_capped, by decide +kernel, by decide +kernel⟩

end UssdGateway
