import UssdGateway.Portal.GrantResave

/-!
The end of access. The claims are taken at login and stand until the session is over; ownership and
grants are looked up at the next login only. Times are in microseconds.
-/

namespace UssdGateway

/-! Sessions of `lib/auth.ts`. -/

structure PortalSession where
  claims : SessionClaims
  expiresAt : Int
deriving DecidableEq

def ttlSeconds : Int := 28800

def epochSeconds (now : Int) : Int := now / microsPerSecond

def signSession (now : Int) (claims : SessionClaims) : PortalSession where
  claims := claims
  expiresAt := epochSeconds now + ttlSeconds

def verifySession (now : Int) (session : PortalSession) : Option SessionClaims :=
  if epochSeconds now < session.expiresAt then some session.claims else none

def userStillValid (accounts : AccountTable) (sub pwv : Nat) : Bool :=
  ((accounts.find sub).filter PortalAccount.active).any fun account =>
    decide (account.passwordVersion = pwv)

def getSession (accounts : AccountTable) (now : Int) (session : PortalSession) :
    Option SessionClaims :=
  (verifySession now session).filter fun claims => userStillValid accounts claims.sub claims.pwv

def bumpPasswordVersion (account : PortalAccount) : PortalAccount :=
  { account with passwordVersion := account.passwordVersion + 1 }

theorem bumpPasswordVersion_id (account : PortalAccount) :
    (bumpPasswordVersion account).id = account.id := rfl

def AccountTable.changePassword (accounts : AccountTable) (userId : Nat) : AccountTable :=
  accounts.modify userId bumpPasswordVersion bumpPasswordVersion_id

/-! The portal over time. -/

structure EndedAccess where
  userId : Nat
  shortcodeId : Nat
  since : Int
deriving DecidableEq

structure MadeGrant where
  viewerId : Nat
  shortcodeId : Nat
  makerId : Nat
deriving DecidableEq

/-- The tables with the sessions that were opened, every grant that was ever made, and whose access
has ended: these two are kept for the statements only. -/
structure PortalRun where
  portal : PortalState
  accounts : AccountTable
  now : Int
  sessions : List PortalSession
  made : List MadeGrant
  ended : List EndedAccess

inductive AccessEvent where
  | elapsed (micros : Nat)
  | loggedIn (userId : Nat)
  | passwordChanged (userId : Nat)
  | granted (adminId viewerId : Nat) (ids : List Int)
  | updated (id ownerUserId : Nat)

namespace PortalRun

variable (run : PortalRun)

def tables : AccessTables := run.portal.access run.accounts

/-- The previous owner, and every viewer to whom the previous owner ever made a grant. -/
def endedBy (id ownerUserId : Nat) : List EndedAccess :=
  match run.portal.shortcodes.find id with
  | none => []
  | some row =>
      if ownerUserId = row.ownerUserId then []
      else
        ⟨row.ownerUserId, id, run.now⟩ ::
          (run.made.filter fun grant =>
            grant.shortcodeId = id ∧ grant.makerId = row.ownerUserId).map
              fun grant => ⟨grant.viewerId, id, run.now⟩

def step : AccessEvent → PortalRun
  | .elapsed micros => { run with now := run.now + micros }
  | .loggedIn userId =>
      match loadUserClaims run.tables userId with
      | none => run
      | some claims => { run with sessions := run.sessions ++ [signSession run.now claims] }
  | .passwordChanged userId =>
      { run with accounts := AccountTable.changePassword run.accounts userId }
  | .granted adminId viewerId ids =>
      match setViewerGrantsAsAdmin run.portal run.now viewerId ids adminId with
      | .error _ => run
      | .ok portal =>
          { run with
            portal
            made := run.made ++ ids.map fun id => ⟨viewerId, id.toNat, adminId⟩ }
  | .updated id ownerUserId =>
      { run with
        portal := { run.portal with
          shortcodes := OwnershipTable.update run.portal.shortcodes id ownerUserId run.now }
        ended := run.ended ++ run.endedBy id ownerUserId }

def start (portal : PortalState) (accounts : AccountTable) (now : Int)
    (made : List MadeGrant) : PortalRun :=
  { portal, accounts, now, sessions := [], made, ended := [] }

/-- In no open session does any report show its user a leg from after the end of access. -/
def AccessEnded : Prop :=
  ∀ session ∈ run.sessions, ∀ claims, getSession run.accounts run.now session = some claims →
    ∀ ended ∈ run.ended, ended.userId = claims.sub → ∀ legs leg,
      leg.shortcodeId = some ended.shortcodeId → ended.since ≤ leg.ts → ¬ ShownTo claims legs leg

end PortalRun

def accessRuns : StepSystem PortalRun AccessEvent where
  initial run := ∃ portal accounts now made, run = .start portal accounts now made
  step run event := some (run.step event)

def EndsAccess (run : PortalRun) (event : AccessEvent) : Prop := (run.step event).AccessEnded

def SessionClaims.Carries (claims : SessionClaims) (id : Nat) : Prop :=
  ∀ ids, claims.shortcodeIds = some ids → id ∈ ids

def AccessTables.LetsIn (tables : AccessTables) (userId id : Nat) : Prop :=
  ∃ account, tables.activeAccount userId = some account ∧
    (account.viewsAll = true ∨ (∃ row ∈ tables.shortcodes.rows, row.id = id ∧
        row.ownerUserId = userId) ∨
      ∃ grant ∈ tables.grants, grant.shortcodeId = id ∧ grant.portalUserId = userId)

/-- A hand-over happens when none of those whose access it ends has a session open that carries the
shortcode, and they log in when nothing gives it to them any more. -/
def ClosesAccess (run : PortalRun) : AccessEvent → Prop
  | .loggedIn userId => ∀ ended ∈ run.ended, ended.userId = userId →
      ¬ run.tables.LetsIn userId ended.shortcodeId
  | .updated id ownerUserId => ∀ ended ∈ run.endedBy id ownerUserId, ∀ session ∈ run.sessions,
      ∀ claims, getSession run.accounts run.now session = some claims →
        claims.sub = ended.userId → ¬ claims.Carries id
  | .elapsed _ | .passwordChanged _ | .granted _ _ _ => True

section

variable {claims : SessionClaims} {tables : AccessTables} {userId id : Nat}

theorem admits_of_carries (carries : claims.Carries id) {leg : LegRecord}
    (about : leg.shortcodeId = some id) (late : claims.fromOf id * microsPerSecond ≤ leg.ts) :
    aclAdmits legColumns .ts (sessionAcl claims) leg = true := by
  rw [sessionAcl]
  rcases listed : claims.shortcodeIds with _ | ids
  · rfl
  · simp only [Option.map_some, aclAdmits, List.any_map, List.any_eq_true]
    refine ⟨id, carries ids listed, ?_⟩
    simp only [Function.comp_apply, Bool.and_eq_true, decide_eq_true_eq, fromFloor,
      Bool.or_eq_true]
    exact ⟨about, Or.inr late⟩

theorem carries_of_admits {leg : LegRecord} (about : leg.shortcodeId = some id)
    (admits : aclAdmits legColumns .ts (sessionAcl claims) leg = true) : claims.Carries id := by
  intro ids listed
  rw [sessionAcl, listed] at admits
  simp only [Option.map_some, aclAdmits, List.any_map, List.any_eq_true, Function.comp_apply,
    Bool.and_eq_true, decide_eq_true_eq] at admits
  obtain ⟨other, member, same, _⟩ := admits
  rw [Option.some.inj (about.symm.trans same)]
  exact member

theorem never_shown_iff (since : Int) :
    (∀ legs leg, leg.shortcodeId = some id → since ≤ leg.ts → ¬ ShownTo claims legs leg) ↔
      ¬ claims.Carries id := by
  constructor
  · intro never carries
    let leg : LegRecord :=
      { firstOwnersLeg with
        shortcodeId := some id, ts := max since (claims.fromOf id * microsPerSecond) }
    refine never [leg] leg rfl (le_max_left _ _) (shownTo_iff.2 ⟨List.mem_singleton_self _, ?_⟩)
    exact admits_of_carries carries rfl (le_max_right _ _)
  · intro apart legs leg about _ shown
    exact apart (carries_of_admits about (shownTo_iff.1 shown).2)

theorem lines_ne_nil_iff :
    tables.lines userId id ≠ [] ↔ (∃ row ∈ tables.shortcodes.rows, row.id = id ∧
        row.ownerUserId = userId) ∨
      ∃ grant ∈ tables.grants, grant.shortcodeId = id ∧ grant.portalUserId = userId := by
  simp only [AccessTables.lines, AccessTables.ownedRows, AccessTables.grantedRows,
    List.filter_append, ne_eq, List.append_eq_nil_iff, not_and_or, List.filter_map,
    List.map_eq_nil_iff, List.filter_eq_nil_iff, List.mem_filter, Function.comp_apply,
    decide_eq_true_eq, not_forall, not_not]
  constructor
  · rintro (⟨row, ⟨member, mine⟩, same⟩ | ⟨grant, ⟨member, mine⟩, same⟩)
    · exact Or.inl ⟨row, member, same, mine⟩
    · exact Or.inr ⟨grant, member, same, mine⟩
  · rintro (⟨row, member, same, mine⟩ | ⟨grant, member, same, mine⟩)
    · exact Or.inl ⟨row, ⟨member, mine⟩, same⟩
    · exact Or.inr ⟨grant, ⟨member, mine⟩, same⟩

theorem carries_iff_letsIn (loaded : loadUserClaims tables userId = some claims) :
    claims.Carries id ↔ tables.LetsIn userId id := by
  obtain ⟨account, active, _⟩ := Option.map_eq_some_iff.1 loaded
  rcases restricted : account.viewsAll with _ | _
  · obtain ⟨ids, _⟩ := claims_of_restricted active restricted loaded
    simp only [SessionClaims.Carries, ids, Option.some.injEq, forall_eq', mem_claimed_iff,
      lines_ne_nil_iff, AccessTables.LetsIn, active, exists_eq_left', restricted,
      Bool.false_eq_true, false_or]
  · have all : claims.shortcodeIds = none := by
      simp only [loadUserClaims, active, Option.map_some, restricted, Option.some.injEq] at loaded
      rw [← loaded]
      rfl
    simp [SessionClaims.Carries, all, AccessTables.LetsIn, active, restricted]

end

section

variable {accounts : AccountTable} {now later : Int} {session : PortalSession}
  {claims : SessionClaims}

theorem getSession_eq_some_iff : getSession accounts now session = some claims ↔
    session.claims = claims ∧ epochSeconds now < session.expiresAt ∧
      ∃ account, accounts.find claims.sub = some account ∧ account.active = true ∧
        account.passwordVersion = claims.pwv := by
  simp only [getSession, verifySession, userStillValid, Option.filter_eq_some_iff,
    Option.ite_none_right_eq_some, Option.some.injEq, Option.any_eq_true, decide_eq_true_eq,
    and_assoc]
  constructor
  · rintro ⟨open', same, account, found, active, version⟩
    exact ⟨same, open', account, found, active, version⟩
  · rintro ⟨same, open', account, found, active, version⟩
    exact ⟨open', same, account, found, active, version⟩

theorem getSession_of_later (order : now ≤ later)
    (opened : getSession accounts later session = some claims) :
    getSession accounts now session = some claims := by
  obtain ⟨same, unexpired, valid⟩ := getSession_eq_some_iff.1 opened
  have earlier : epochSeconds now ≤ epochSeconds later := Int.ediv_le_ediv (by decide) order
  exact getSession_eq_some_iff.2 ⟨same, lt_of_le_of_lt earlier unexpired, valid⟩

def PortalSession.Dated (accounts : AccountTable) (session : PortalSession) : Prop :=
  ∀ account, accounts.find session.claims.sub = some account →
    session.claims.pwv ≤ account.passwordVersion

theorem getSession_of_bumped {userId : Nat} (dated : session.Dated accounts)
    (opened : getSession (AccountTable.changePassword accounts userId) now session =
      some claims) :
    getSession accounts now session = some claims := by
  obtain ⟨rfl, unexpired, account, found, active, version⟩ := getSession_eq_some_iff.1 opened
  rw [AccountTable.changePassword, KeyedTable.find_modify] at found
  split at found
  · obtain ⟨old, before, rfl⟩ := Option.map_eq_some_iff.1 found
    have earlier := dated old before
    simp only [bumpPasswordVersion] at version
    omega
  · exact getSession_eq_some_iff.2 ⟨rfl, unexpired, account, found, active, version⟩

theorem PortalSession.Dated.bumped {userId : Nat} (dated : session.Dated accounts) :
    session.Dated (AccountTable.changePassword accounts userId) := by
  intro account found
  rw [AccountTable.changePassword, KeyedTable.find_modify] at found
  split at found
  · obtain ⟨old, before, rfl⟩ := Option.map_eq_some_iff.1 found
    exact le_trans (dated old before) (Nat.le_succ _)
  · exact dated account found

end

/-! Runs. -/

namespace PortalRun

variable {run : PortalRun} {event : AccessEvent}

def Open (run : PortalRun) (claims : SessionClaims) : Prop :=
  ∃ session ∈ run.sessions, getSession run.accounts run.now session = some claims

theorem accessEnded_iff :
    run.AccessEnded ↔ ∀ claims, run.Open claims → ∀ ended ∈ run.ended, ended.userId = claims.sub →
      ¬ claims.Carries ended.shortcodeId := by
  constructor
  · rintro never claims ⟨session, member, opened⟩ ended inside mine
    exact (never_shown_iff ended.since).1 (never session member claims opened ended inside mine)
  · intro never session member claims opened ended inside mine
    exact (never_shown_iff ended.since).2 (never claims ⟨session, member, opened⟩ ended inside mine)

structure Closed (run : PortalRun) : Prop where
  ended : run.AccessEnded
  dated : ∀ session ∈ run.sessions, session.Dated run.accounts

theorem open_signed {userId : Nat} {claims : SessionClaims}
    (loaded : loadUserClaims run.tables userId = some claims) :
    claims.sub = userId ∧
      getSession run.accounts run.now (signSession run.now claims) = some claims := by
  obtain ⟨account, active, made⟩ := Option.map_eq_some_iff.1 loaded
  obtain ⟨found, inService⟩ := Option.filter_eq_some_iff.1 active
  have keyed : account.id = userId := KeyedTable.key_of_find found
  subst made
  refine ⟨keyed, getSession_eq_some_iff.2 ⟨rfl, ?_, account, ?_, inService, rfl⟩⟩
  · simp only [signSession, ttlSeconds]
    omega
  · exact keyed ▸ found

theorem login_iff (closed : run.Closed) {userId : Nat} {claims : SessionClaims}
    (loaded : loadUserClaims run.tables userId = some claims) :
    (run.step (.loggedIn userId)).AccessEnded ↔
      ∀ ended ∈ run.ended, ended.userId = userId →
        ¬ run.tables.LetsIn userId ended.shortcodeId := by
  obtain ⟨mine, opened⟩ := open_signed loaded
  have before := accessEnded_iff.1 closed.ended
  have after : (run.step (.loggedIn userId)) =
      { run with sessions := run.sessions ++ [signSession run.now claims] } := by
    simp only [step, loaded]
  rw [after, accessEnded_iff]
  constructor
  · intro never ended inside same
    rw [← carries_iff_letsIn loaded]
    exact never claims ⟨_, List.mem_append_right _ (List.mem_singleton_self _), opened⟩ ended inside
      (same.trans mine.symm)
  · rintro gone other ⟨session, member, openedOther⟩ ended inside same
    rcases List.mem_append.1 member with old | new
    · exact before other ⟨session, old, openedOther⟩ ended inside same
    · rw [List.mem_singleton.1 new, opened, Option.some.injEq] at openedOther
      subst openedOther
      rw [carries_iff_letsIn loaded]
      exact gone ended inside (same.trans mine)

theorem shortcodeId_of_endedBy {id ownerUserId : Nat} {ended : EndedAccess}
    (member : ended ∈ run.endedBy id ownerUserId) : ended.shortcodeId = id := by
  rw [endedBy] at member
  split at member
  · cases member
  · split at member
    · cases member
    · rcases List.mem_cons.1 member with rfl | viewer
      · rfl
      · obtain ⟨_, _, rfl⟩ := List.mem_map.1 viewer
        rfl

theorem handOver_iff (closed : run.Closed) (id ownerUserId : Nat) :
    (run.step (.updated id ownerUserId)).AccessEnded ↔
      ClosesAccess run (.updated id ownerUserId) := by
  have before := accessEnded_iff.1 closed.ended
  rw [accessEnded_iff]
  constructor
  · intro never ended gone session member claims opened mine
    rw [← shortcodeId_of_endedBy gone]
    exact never claims ⟨session, member, opened⟩ ended (List.mem_append_right _ gone) mine.symm
  · rintro shut claims ⟨session, member, opened⟩ ended inside mine
    rcases List.mem_append.1 inside with old | gone
    · exact before claims ⟨session, member, opened⟩ ended old mine
    · rw [shortcodeId_of_endedBy gone]
      exact shut ended gone session member claims opened mine.symm

/-- An event that opens no session and ends no access. -/
theorem AccessEnded.mono {after : PortalRun} (ended : run.AccessEnded)
    (opens : ∀ claims, after.Open claims → run.Open claims) (same : after.ended = run.ended) :
    after.AccessEnded := by
  rw [accessEnded_iff] at ended ⊢
  intro claims opened access inside
  exact ended claims (opens claims opened) access (same ▸ inside)

theorem endsAccess_iff (closed : run.Closed) : EndsAccess run event ↔ ClosesAccess run event := by
  cases event with
  | elapsed micros =>
      refine iff_of_true (closed.ended.mono ?_ rfl) trivial
      rintro claims ⟨session, member, opened⟩
      have order : run.now ≤ run.now + micros := by omega
      exact ⟨session, member, getSession_of_later order opened⟩
  | loggedIn userId =>
      rcases loaded : loadUserClaims run.tables userId with _ | claims
      · have inactive : run.tables.activeAccount userId = none := Option.map_eq_none_iff.1 loaded
        have same : run.step (.loggedIn userId) = run := by simp only [step, loaded]
        rw [EndsAccess, same]
        refine iff_of_true closed.ended ?_
        rintro ended _ _ ⟨account, active, _⟩
        rw [inactive] at active
        cases active
      · exact login_iff closed loaded
  | passwordChanged userId =>
      refine iff_of_true (closed.ended.mono ?_ rfl) trivial
      rintro claims ⟨session, member, opened⟩
      exact ⟨session, member, getSession_of_bumped (closed.dated session member) opened⟩
  | granted adminId viewerId ids =>
      refine iff_of_true (closed.ended.mono ?_ ?_) trivial
      · intro claims opened
        simp only [step] at opened
        split at opened
        · exact opened
        · exact opened
      · simp only [step]
        split <;> rfl
  | updated id ownerUserId => exact handOver_iff closed id ownerUserId

theorem step_dated (closed : run.Closed) :
    ∀ session ∈ (run.step event).sessions, session.Dated (run.step event).accounts := by
  cases event with
  | elapsed micros => exact closed.dated
  | loggedIn userId =>
      rcases loaded : loadUserClaims run.tables userId with _ | claims
      · simp only [step, loaded]
        exact closed.dated
      · simp only [step, loaded]
        intro session member
        rcases List.mem_append.1 member with old | new
        · exact closed.dated session old
        · obtain ⟨_, _, account, found, _, version⟩ :=
            getSession_eq_some_iff.1 (open_signed loaded).2
          rw [List.mem_singleton.1 new]
          intro other foundOther
          rw [← Option.some.inj (found.symm.trans foundOther)]
          exact le_of_eq version.symm
  | passwordChanged userId => exact fun session member => (closed.dated session member).bumped
  | granted adminId viewerId ids =>
      simp only [step]
      split
      · exact closed.dated
      · exact closed.dated
  | updated id ownerUserId => exact closed.dated

end PortalRun

theorem along_endsAccess_iff {run : PortalRun} (closed : run.Closed) (events : List AccessEvent) :
    accessRuns.Along EndsAccess run events ↔ accessRuns.Along ClosesAccess run events := by
  refine StepSystem.along_iff_of_kept (fun run event closed => run.endsAccess_iff closed) ?_
    closed events
  intro run event after closed ends stepped
  obtain rfl := Option.some.inj stepped
  exact ⟨ends, PortalRun.step_dated closed⟩

theorem PortalRun.closed_start (portal : PortalState) (accounts : AccountTable) (now : Int)
    (made : List MadeGrant) : (start portal accounts now made).Closed where
  ended := fun _ member => absurd member List.not_mem_nil
  dated := fun _ member => absurd member List.not_mem_nil

/-- Over every run, access that has ended stays ended exactly if each hand-over finds no session
open that still carries the shortcode, and each later login nothing that still gives it. -/
theorem access_ends_iff (portal : PortalState) (accounts : AccountTable) (now : Int)
    (made : List MadeGrant) (events : List AccessEvent) :
    accessRuns.Along EndsAccess (.start portal accounts now made) events ↔
      accessRuns.Along ClosesAccess (.start portal accounts now made) events :=
  along_endsAccess_iff (PortalRun.closed_start portal accounts now made) events

instance (claims : SessionClaims) (id : Nat) : Decidable (claims.Carries id) :=
  match listed : claims.shortcodeIds with
  | none => isTrue fun ids same => by rw [listed] at same; cases same
  | some ids => decidable_of_iff (id ∈ ids) (by simp [SessionClaims.Carries, listed])

instance (tables : AccessTables) (userId id : Nat) : Decidable (tables.LetsIn userId id) :=
  match active : tables.activeAccount userId with
  | none => isFalse (by simp [AccessTables.LetsIn, active])
  | some account => decidable_of_iff (account.viewsAll = true ∨
      (∃ row ∈ tables.shortcodes.rows, row.id = id ∧ row.ownerUserId = userId) ∨
        ∃ grant ∈ tables.grants, grant.shortcodeId = id ∧ grant.portalUserId = userId)
      (by simp [AccessTables.LetsIn, active])

instance (run : PortalRun) : (event : AccessEvent) → Decidable (ClosesAccess run event)
  | .loggedIn userId => inferInstanceAs (Decidable (∀ ended ∈ run.ended, ended.userId = userId →
      ¬ run.tables.LetsIn userId ended.shortcodeId))
  | .updated id ownerUserId =>
      decidable_of_iff (∀ ended ∈ run.endedBy id ownerUserId, ∀ session ∈ run.sessions,
        (getSession run.accounts run.now session).all fun claims =>
          decide (claims.sub = ended.userId → ¬ claims.Carries id))
        (by simp only [ClosesAccess, Option.all_eq_true, decide_eq_true_eq])
  | .elapsed _ | .passwordChanged _ | .granted _ _ _ => isTrue trivial

def previousOwner : PortalAccount where
  id := 2
  email := "owner@example.org"
  name := "Owner"
  roleKey := "client"
  perms := ["reports.view_own", "viewers.manage_own"]
  passwordVersion := 0
  active := true

def handedRun : PortalRun :=
  .start grantedPortal ⟨[previousOwner, viewerAccount], by decide⟩ (200 * hour) [⟨3, 20, 2⟩]

/-- The sessions of the owner and of the viewers still show the shortcode's legs. -/
theorem hand_over_leaves_access :
    ¬ accessRuns.Along EndsAccess handedRun [.loggedIn 2, .elapsed 60000000, .updated 20 5] ∧
      ¬ accessRuns.Along EndsAccess handedRun [.updated 20 5, .elapsed 60000000, .loggedIn 3] ∧
      ¬ accessRuns.Along EndsAccess handedRun [.loggedIn 3, .granted 2 3 [], .updated 20 5] := by
  have closed : handedRun.Closed := PortalRun.closed_start _ _ _ _
  refine ⟨?_, ?_, ?_⟩
  · rw [along_endsAccess_iff closed]
    decide
  · rw [along_endsAccess_iff closed]
    decide
  · rw [along_endsAccess_iff closed]
    decide

end UssdGateway
