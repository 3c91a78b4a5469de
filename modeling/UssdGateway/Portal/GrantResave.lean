import UssdGateway.Portal.ViewerTakeover

/-!
An Admin saves a viewer's grants again. The helper deletes the Admin's grants and inserts the
posted ones anew, so a grant that was there before and stays is dated now.
-/

namespace UssdGateway

def PortalState.access (state : PortalState) (accounts : AccountTable) : AccessTables where
  accounts := accounts
  shortcodes := state.shortcodes
  grants := state.grants.rows

def writtenGrant (viewerId : Nat) (now : Int) (id : Int) : PortalGrant where
  portalUserId := viewerId
  shortcodeId := id.toNat
  grantedAt := now

def GrantsAccepted (state : PortalState) (viewerId : Nat) (ids : List Int) (adminId : Nat) : Prop :=
  (∃ user, state.users.find viewerId = some user ∧ state.roleOf user = some .clientViewer) ∧
    assertShortcodesOwnedBy state.shortcodes ids adminId = .ok ()

/-- Saving these grants once changes only what is not wanted as it is, and saving them a second
time changes nothing. -/
structure ResaveKeeps (state : PortalState) (later : Int) (viewerId : Nat) (ids : List Int)
    (adminId : Nat) (after : PortalState) : Prop where
  kept : ∀ grant ∈ state.viewerGrants viewerId adminId, Int.ofNat grant.shortcodeId ∈ ids →
    grant ∈ after.grants.rows
  history : ∀ accounts legs leg, ∀ grant ∈ state.viewerGrants viewerId adminId,
    Int.ofNat grant.shortcodeId ∈ ids → leg.shortcodeId = some grant.shortcodeId →
    (Reads (state.access accounts) viewerId legs leg ↔
      Reads (after.access accounts) viewerId legs leg)
  others : ∀ grant : PortalGrant,
    ¬ (grant.portalUserId = viewerId ∧ state.owns adminId grant.shortcodeId = true) →
    (grant ∈ after.grants.rows ↔ grant ∈ state.grants.rows)
  exactly : ∀ id : Int, id ∈ ids ↔
    ∃ grant ∈ after.viewerGrants viewerId adminId, Int.ofNat grant.shortcodeId = id
  again : ∃ twice, setViewerGrantsAsAdmin after later viewerId ids adminId = .ok twice ∧
    ∀ grant, grant ∈ twice.grants.rows ↔ grant ∈ after.grants.rows

/-- Nothing is posted, or both saves fall on one instant and each posted grant is already dated by
it. -/
def NothingToDate (state : PortalState) (now later : Int) (viewerId : Nat) (ids : List Int)
    (adminId : Nat) : Prop :=
  ids = [] ∨ later = now ∧ ∀ grant ∈ state.viewerGrants viewerId adminId,
    Int.ofNat grant.shortcodeId ∈ ids → grant.grantedAt = now ∧ grant.accessLevel = .view

section

variable {state after : PortalState} {now later : Int} {viewerId adminId : Nat} {ids : List Int}
  {grant : PortalGrant}

theorem setViewerGrantsAsAdmin_ok_iff :
    setViewerGrantsAsAdmin state now viewerId ids adminId = .ok after ↔
      GrantsAccepted state viewerId ids adminId ∧
        after = (state.revoked viewerId adminId).insertGrants now viewerId ids := by
  rw [setViewerGrantsAsAdmin, GrantsAccepted]
  rcases found : state.users.find viewerId with _ | user
  · simp
  by_cases viewer : state.roleOf user = some .clientViewer
  · rcases passed : assertShortcodesOwnedBy state.shortcodes ids adminId with error | ⟨⟩
    · simp [viewer]
    · simp only [viewer, ne_eq, not_true_eq_false, if_false, Except.ok.injEq,
        Option.some.injEq, exists_eq_left', and_self, true_and]
      exact eq_comm
  · simp [viewer]

theorem mem_insertGrants (fresh : ∀ grant ∈ state.grants.rows, grant.portalUserId = viewerId →
      (∃ id ∈ ids, grant.shortcodeId = id.toNat) →
        grant = writtenGrant viewerId now grant.shortcodeId) :
    grant ∈ (state.insertGrants now viewerId ids).grants.rows ↔
      grant ∈ state.grants.rows ∨ ∃ id ∈ ids, grant = writtenGrant viewerId now id := by
  induction ids generalizing state with
  | nil => simp [PortalState.insertGrants]
  | cons id rest ih =>
      have here : ∀ other, other ∈ (state.insertGrants now viewerId [id]).grants.rows ↔
          other ∈ state.grants.rows ∨ other = writtenGrant viewerId now id := by
        intro other
        rw [PortalState.mem_insertGrants_single]
        constructor
        · rintro (old | ⟨_, written⟩)
          · exact Or.inl old
          · exact Or.inr written
        · rintro (old | rfl)
          · exact Or.inl old
          · rcases found : state.grants.find (viewerId, id.toNat) with _ | old
            · exact Or.inr ⟨rfl, rfl⟩
            · obtain ⟨member, keyed⟩ := (state.grants.find_eq_some_iff _ old).1 found
              obtain ⟨viewer, shortcode⟩ := Prod.mk.inj keyed
              have same := fresh old member viewer ⟨id, List.mem_cons_self, shortcode⟩
              rw [shortcode] at same
              exact Or.inl (same ▸ member)
      rw [PortalState.insertGrants_cons, ih, here]
      · simp only [List.mem_cons, exists_eq_or_imp, or_assoc]
      · intro other member viewer posted
        rcases (here other).1 member with old | rfl
        · obtain ⟨posted, inside, same⟩ := posted
          exact fresh other old viewer ⟨posted, List.mem_cons_of_mem _ inside, same⟩
        · rfl

theorem mem_revoked :
    grant ∈ (state.revoked viewerId adminId).grants.rows ↔ grant ∈ state.grants.rows ∧
      ¬ (grant.portalUserId = viewerId ∧ state.owns adminId grant.shortcodeId = true) := by
  simp only [PortalState.revoked, KeyedTable.filter, List.mem_filter, Bool.not_eq_true',
    Bool.and_eq_false_iff, decide_eq_false_iff_not, not_and_or, Bool.not_eq_true]

theorem mem_resaved (owned : PostedOwned state adminId ids) :
    grant ∈ ((state.revoked viewerId adminId).insertGrants now viewerId ids).grants.rows ↔
      (grant ∈ state.grants.rows ∧
        ¬ (grant.portalUserId = viewerId ∧ state.owns adminId grant.shortcodeId = true)) ∨
      ∃ id ∈ ids, grant = writtenGrant viewerId now id := by
  rw [mem_insertGrants, mem_revoked]
  rintro other member viewer ⟨id, posted, same⟩
  exact absurd ⟨viewer, same ▸ owned id posted⟩ (mem_revoked.1 member).2

theorem owns_resaved (userId shortcodeId : Nat) :
    ((state.revoked viewerId adminId).insertGrants now viewerId ids).owns userId shortcodeId =
      state.owns userId shortcodeId := rfl

theorem ofNat_of_posted (passed : assertShortcodesOwnedBy state.shortcodes ids adminId = .ok ())
    {id : Int} (posted : id ∈ ids) : Int.ofNat id.toNat = id := by
  obtain ⟨row, _, same, _⟩ := (assertShortcodesOwnedBy_ok _ _ _).1 passed id posted
  rw [← same]
  rfl

theorem writtenGrant_inScope (owned : PostedOwned state adminId ids) {id : Int}
    (posted : id ∈ ids) :
    (writtenGrant viewerId now id).portalUserId = viewerId ∧
      state.owns adminId (writtenGrant viewerId now id).shortcodeId = true :=
  ⟨rfl, owned id posted⟩

theorem eq_writtenGrant_iff (member : grant ∈ state.viewerGrants viewerId adminId) :
    (∃ id ∈ ids, grant = writtenGrant viewerId now id) ↔
      (∃ id ∈ ids, grant.shortcodeId = id.toNat) ∧
        grant.grantedAt = now ∧ grant.accessLevel = .view := by
  obtain ⟨_, viewer, _⟩ := mem_viewerGrants.1 member
  constructor
  · rintro ⟨id, posted, rfl⟩
    exact ⟨⟨id, posted, rfl⟩, rfl, rfl⟩
  · rintro ⟨⟨id, posted, same⟩, dated, level⟩
    refine ⟨id, posted, ?_⟩
    rcases grant with ⟨user, shortcode, grantedAt, accessLevel⟩
    simp only at viewer same dated level
    rw [viewer, same, dated, level]
    rfl

theorem resave_others (owned : PostedOwned state adminId ids)
    (outside : ¬ (grant.portalUserId = viewerId ∧
      state.owns adminId grant.shortcodeId = true)) :
    grant ∈ ((state.revoked viewerId adminId).insertGrants now viewerId ids).grants.rows ↔
      grant ∈ state.grants.rows := by
  rw [mem_resaved owned]
  constructor
  · rintro (⟨old, _⟩ | ⟨id, posted, rfl⟩)
    · exact old
    · exact absurd (writtenGrant_inScope owned posted) outside
  · exact fun old => Or.inl ⟨old, outside⟩

theorem resave_exactly (passed : assertShortcodesOwnedBy state.shortcodes ids adminId = .ok ())
    (id : Int) :
    id ∈ ids ↔
      ∃ grant ∈ ((state.revoked viewerId adminId).insertGrants now viewerId ids).viewerGrants
        viewerId adminId, Int.ofNat grant.shortcodeId = id := by
  have owned := postedOwned_of_ok passed
  constructor
  · intro posted
    refine ⟨writtenGrant viewerId now id, ?_, ofNat_of_posted passed posted⟩
    rw [mem_viewerGrants, mem_resaved owned]
    exact ⟨Or.inr ⟨id, posted, rfl⟩, writtenGrant_inScope owned posted⟩
  · rintro ⟨grant, member, rfl⟩
    rw [mem_viewerGrants, mem_resaved owned] at member
    obtain ⟨⟨_, outside⟩ | ⟨id, posted, rfl⟩, inScope⟩ := member
    · exact absurd inScope outside
    · have same := ofNat_of_posted passed posted
      rw [writtenGrant]
      simp only
      rw [same]
      exact posted

theorem grantsAccepted_resaved :
    GrantsAccepted ((state.revoked viewerId adminId).insertGrants now viewerId ids) viewerId ids
      adminId ↔ GrantsAccepted state viewerId ids adminId := Iff.rfl

theorem resave_kept_iff (owned : PostedOwned state adminId ids)
    (member : grant ∈ state.viewerGrants viewerId adminId)
    (posted : Int.ofNat grant.shortcodeId ∈ ids) :
    grant ∈ ((state.revoked viewerId adminId).insertGrants now viewerId ids).grants.rows ↔
      grant.grantedAt = now ∧ grant.accessLevel = .view := by
  rw [mem_resaved owned, eq_writtenGrant_iff member]
  constructor
  · rintro (⟨_, outside⟩ | ⟨_, dated⟩)
    · exact absurd (mem_viewerGrants.1 member).2 outside
    · exact dated
  · exact fun dated => Or.inr ⟨⟨_, posted, rfl⟩, dated⟩

theorem resave_again_iff (owned : PostedOwned state adminId ids) :
    (∀ grant, grant ∈ ((((state.revoked viewerId adminId).insertGrants now viewerId ids).revoked
        viewerId adminId).insertGrants later viewerId ids).grants.rows ↔
      grant ∈ ((state.revoked viewerId adminId).insertGrants now viewerId ids).grants.rows) ↔
      ids = [] ∨ later = now := by
  have ownedAfter : PostedOwned ((state.revoked viewerId adminId).insertGrants now viewerId ids)
      adminId ids := owned
  constructor
  · intro same
    rcases ids with _ | ⟨id, rest⟩
    · exact Or.inl rfl
    · have second := (same (writtenGrant viewerId later id)).1
        ((mem_resaved ownedAfter).2 (Or.inr ⟨id, List.mem_cons_self, rfl⟩))
      rcases (mem_resaved owned).1 second with ⟨_, outside⟩ | ⟨other, _, written⟩
      · exact absurd (writtenGrant_inScope owned List.mem_cons_self) outside
      · exact Or.inr (congrArg PortalGrant.grantedAt written)
  · intro settled grant
    rw [mem_resaved ownedAfter, mem_resaved owned]
    simp only [owns_resaved]
    rcases settled with rfl | rfl
    · simp
    · constructor
      · rintro (⟨old | written, outside⟩ | written)
        · exact Or.inl old
        · exact Or.inr written
        · exact Or.inr written
      · rintro (⟨old, outside⟩ | written)
        · exact Or.inl ⟨Or.inl ⟨old, outside⟩, outside⟩
        · exact Or.inr written

/-! What is seen through a grant. -/

def PortalGrant.line (grant : PortalGrant) : AccessRow where
  id := grant.shortcodeId
  fromTs := grant.grantedAt
  floored := true

theorem lines_granted (accounts : AccountTable) (member : grant ∈ state.grants.rows) :
    (state.access accounts).lines grant.portalUserId grant.shortcodeId =
      ((state.access accounts).ownedRows grant.portalUserId).filter
        (fun access => access.id = grant.shortcodeId) ++ [grant.line] := by
  have alone := state.grants.filter_key_eq member
  rw [AccessTables.lines, List.filter_append, AccessTables.grantedRows, List.filter_map,
    List.filter_filter]
  congr 1
  have here : (state.access accounts).grants.filter (fun other =>
      ((fun access : AccessRow => decide (access.id = grant.shortcodeId)) ∘
        fun other : PortalGrant =>
          { id := other.shortcodeId, fromTs := other.grantedAt, floored := true }) other &&
        decide (other.portalUserId = grant.portalUserId)) = [grant] := by
    rw [← alone]
    apply List.filter_congr
    intro other _
    rw [Bool.eq_iff_iff]
    simp [and_comm]
  rw [here]
  rfl

theorem reads_of_kept (accounts : AccountTable) (legs : List LegRecord) (leg : LegRecord)
    (shortcodes : after.shortcodes = state.shortcodes) (before : grant ∈ state.grants.rows)
    (kept : grant ∈ after.grants.rows) (about : leg.shortcodeId = some grant.shortcodeId) :
    Reads (state.access accounts) grant.portalUserId legs leg ↔
      Reads (after.access accounts) grant.portalUserId legs leg := by
  have owned : (after.access accounts).ownedRows grant.portalUserId =
      (state.access accounts).ownedRows grant.portalUserId := by
    simp only [AccessTables.ownedRows, PortalState.access, shortcodes]
  have active : (after.access accounts).activeAccount grant.portalUserId =
      (state.access accounts).activeAccount grant.portalUserId := rfl
  rw [reads_iff about, reads_iff about, lines_granted accounts before, lines_granted accounts kept,
    owned, active]

end

/-- Saving a viewer's grants again keeps what did not change exactly when no posted grant has to be
dated. -/
theorem resave_keeps_iff (state : PortalState) (now later : Int) (viewerId : Nat) (ids : List Int)
    (adminId : Nat) :
    (∀ after, setViewerGrantsAsAdmin state now viewerId ids adminId = .ok after →
        ResaveKeeps state later viewerId ids adminId after) ↔
      (GrantsAccepted state viewerId ids adminId →
        NothingToDate state now later viewerId ids adminId) := by
  constructor
  · intro keeps accepted
    have resaved := keeps _ (setViewerGrantsAsAdmin_ok_iff.2 ⟨accepted, rfl⟩)
    have owned := postedOwned_of_ok accepted.2
    obtain ⟨twice, again, same⟩ := resaved.again
    obtain ⟨_, rfl⟩ := setViewerGrantsAsAdmin_ok_iff.1 again
    rcases (resave_again_iff owned).1 same with nothing | instant
    · exact Or.inl nothing
    · refine Or.inr ⟨instant, ?_⟩
      intro grant member posted
      exact (resave_kept_iff owned member posted).1 (resaved.kept grant member posted)
  · intro undated after saved
    obtain ⟨accepted, rfl⟩ := setViewerGrantsAsAdmin_ok_iff.1 saved
    have owned := postedOwned_of_ok accepted.2
    have settled := undated accepted
    have kept : ∀ grant ∈ state.viewerGrants viewerId adminId,
        Int.ofNat grant.shortcodeId ∈ ids →
        grant ∈ ((state.revoked viewerId adminId).insertGrants now viewerId ids).grants.rows := by
      intro grant member posted
      rcases settled with rfl | ⟨_, dated⟩
      · cases posted
      · exact (resave_kept_iff owned member posted).2 (dated grant member posted)
    refine ⟨kept, ?_, fun grant outside => resave_others owned outside,
      resave_exactly accepted.2, ?_⟩
    · intro accounts legs leg grant member posted about
      obtain ⟨before, rfl, _⟩ := mem_viewerGrants.1 member
      exact reads_of_kept accounts legs leg rfl before (kept grant member posted) about
    · refine ⟨_, setViewerGrantsAsAdmin_ok_iff.2 ⟨grantsAccepted_resaved.2 accepted, rfl⟩, ?_⟩
      exact (resave_again_iff owned).2 (settled.imp_right fun dated => dated.1)

def hour : Int := 3600 * microsPerSecond

def grantedPortal : PortalState :=
  { examplePortal with
    grants := ⟨[{ portalUserId := 3, shortcodeId := 20, grantedAt := 100 * hour }], by decide⟩ }

def viewerAccount : PortalAccount where
  id := 3
  email := "user@example.org"
  name := "User"
  roleKey := "client_viewer"
  perms := ["reports.view_own"]
  passwordVersion := 0
  active := true

def seenLeg : LegRecord :=
  { firstOwnersLeg with shortcodeId := some 20, ts := 101 * hour }

/-- The leg is gone from the viewer's history. -/
theorem resave_hides_history :
    ∃ after, setViewerGrantsAsAdmin grantedPortal (102 * hour) 3 [20] 2 = .ok after ∧
      Reads (grantedPortal.access ⟨[viewerAccount], by decide⟩) 3 [seenLeg] seenLeg ∧
      ¬ Reads (after.access ⟨[viewerAccount], by decide⟩) 3 [seenLeg] seenLeg ∧
      ¬ ResaveKeeps grantedPortal (103 * hour) 3 [20] 2 after := by
  have shown : Reads (grantedPortal.access ⟨[viewerAccount], by decide⟩) 3 [seenLeg] seenLeg := by
    rw [@reads_iff _ _ 20 _ _ rfl]
    exact ⟨viewerAccount, rfl, List.mem_cons_self, Or.inr (by decide)⟩
  have hidden : ¬ Reads
      ((((grantedPortal.revoked 3 2).insertGrants (102 * hour) 3 [20])).access
        ⟨[viewerAccount], by decide⟩) 3 [seenLeg] seenLeg := by
    rw [@reads_iff _ _ 20 _ _ rfl]
    rintro ⟨account, active, _, unrestricted | ⟨_, late⟩⟩
    · rw [← Option.some.inj active] at unrestricted
      cases unrestricted
    · exact absurd late (by decide)
  refine ⟨_, rfl, shown, hidden, ?_⟩
  intro keeps
  have member : { portalUserId := 3, shortcodeId := 20, grantedAt := 100 * hour } ∈
      grantedPortal.viewerGrants 3 2 := List.mem_cons_self
  exact hidden ((keeps.history _ _ _ _ member (by decide) rfl).1 shown)

end UssdGateway
