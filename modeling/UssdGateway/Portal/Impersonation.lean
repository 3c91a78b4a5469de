import UssdGateway.Portal.AccessLines
import UssdGateway.Portal.Middleware

/-!
Viewing the dashboard as another user. The permissions are those of the target that the actor's
cover; the data are the target's.
-/

namespace UssdGateway

open SqlClause

/-! `lib/auth.ts`. -/

def implies : List (String × List String) :=
  [(Perms.reportsViewAll, [Perms.reportsViewOwn]),
    (Perms.shortcodesManage, [Perms.shortcodesView, Perms.shortcodesManageSandbox]),
    (Perms.portalUsersManage, [Perms.portalUsersView])]

def impliedBy (perm : String) : List String := (List.lookup perm implies).getD []

def expandPerms (perms : List String) : List String := perms ++ perms.flatMap impliedBy

structure PortalClaims extends SessionClaims where
  imp : Option Impersonator
deriving DecidableEq

def impersonatedClaims (actor : PortalClaims) (target : SessionClaims) : PortalClaims where
  toSessionClaims :=
    { target with perms := target.perms.filter fun perm => decide (perm ∈ expandPerms actor.perms) }
  imp := some
    { sub := toString actor.sub
      email := actor.email
      name := actor.name
      role := actor.role
      pwv := actor.pwv }

def hasPerm (session : PortalClaims) (key : String) : Bool := decide (key ∈ session.perms)

/-! `POST /api/auth/impersonate`. -/

inductive ImpersonateResponse where
  | json (status : Nat) (error : String)
  | started (claims : PortalClaims) (viewingAs : String)
deriving DecidableEq

/-- `userId` is what `parseInt` makes of the posted value, `none` where that is no number. -/
def impersonate (tables : AccessTables) (sameOrigin : Bool) (session : Option PortalClaims)
    (userId : Option Int) : ImpersonateResponse :=
  if sameOrigin = false then .json 403 "forbidden"
  else
    match session with
    | none => .json 401 "unauthorized"
    | some session =>
        if hasPerm session Perms.portalUsersImpersonate = false then .json 403 "forbidden"
        else if session.imp.isSome then .json 409 "already impersonating — stop first"
        else
          match userId.filter fun id => decide (0 < id) with
          | none => .json 400 "userId required"
          | some id =>
              if toString id = toString session.sub then .json 400 "cannot impersonate yourself"
              else
                match loadUserClaims tables id.toNat with
                | none => .json 404 "user not found"
                | some target =>
                    let claims := impersonatedClaims session target
                    if claims.perms = [] then
                      .json 409 ("you hold no permission in common with " ++ target.role ++
                        " — nothing would be visible")
                    else .started claims target.email

/-- The permissions closed under what they imply. -/
inductive Dominates (perms : List String) : String → Prop where
  | held {perm : String} : perm ∈ perms → Dominates perms perm
  | implied {perm other : String} : Dominates perms perm → other ∈ impliedBy perm →
      Dominates perms other

theorem exists_of_mem_impliedBy {perm other : String} (implied : other ∈ impliedBy perm) :
    ∃ others, (perm, others) ∈ implies ∧ other ∈ others := by
  rw [impliedBy] at implied
  rcases found : List.lookup perm implies with _ | others
  · rw [found] at implied
    cases implied
  · rw [found, Option.getD_some] at implied
    obtain ⟨first, rest, split, _⟩ := List.lookup_eq_some_iff.1 found
    exact ⟨others, by simp [split], implied⟩

theorem impliedBy_implied {perm other : String} (implied : other ∈ impliedBy perm) :
    impliedBy other = [] := by
  obtain ⟨others, entry, member⟩ := exists_of_mem_impliedBy implied
  have last : ∀ entry ∈ implies, ∀ other ∈ entry.2, impliedBy other = [] := by decide
  exact last _ entry other member

theorem mem_expandPerms_iff {perms : List String} {perm : String} :
    perm ∈ expandPerms perms ↔ Dominates perms perm := by
  rw [expandPerms, List.mem_append, List.mem_flatMap]
  constructor
  · rintro (held | ⟨other, held, implied⟩)
    · exact .held held
    · exact .implied (.held held) implied
  · intro dominated
    induction dominated with
    | held held => exact Or.inl held
    | implied _ implied ih =>
        rcases ih with held | ⟨first, _, once⟩
        · exact Or.inr ⟨_, held, implied⟩
        · rw [impliedBy_implied once] at implied
          cases implied

def Clears (perms : List String) (pathname : String) : Prop :=
  ∀ required, requiredPermFor pathname = some required → ∃ perm ∈ required, perm ∈ perms

def guardLists : List (List String) :=
  [[Perms.reportsViewOwn, Perms.reportsViewAll], [Perms.shortcodesView, Perms.shortcodesManage],
    [Perms.operatorsView, Perms.shortcodesManage],
    [Perms.portalUsersView, Perms.portalUsersManage, Perms.viewersManageOwn], [Perms.auditView],
    [Perms.portalUsersImpersonate], [Perms.archiveView]]

theorem publicIf_mem {α : Type} {condition : Prop} [Decidable condition] {rest : Option α}
    {lists : List α} (later : ∀ perms, rest = some perms → perms ∈ lists) :
    ∀ perms, (if condition then none else rest) = some perms → perms ∈ lists := by
  intro perms guarded
  split at guarded
  · cases guarded
  · exact later perms guarded

theorem guardedIf_mem {α : Type} {condition : Prop} [Decidable condition] {own : α}
    {rest : Option α} {lists : List α} (here : own ∈ lists)
    (later : ∀ perms, rest = some perms → perms ∈ lists) :
    ∀ perms, (if condition then some own else rest) = some perms → perms ∈ lists := by
  intro perms guarded
  split at guarded
  · exact Option.some.inj guarded ▸ here
  · exact later perms guarded

theorem requiredPermFor_mem (pathname : String) :
    ∀ required, requiredPermFor pathname = some required → required ∈ guardLists := by
  unfold requiredPermFor
  repeat refine publicIf_mem ?_
  repeat refine guardedIf_mem (by decide) ?_
  rintro required guarded
  rw [← Option.some.inj guarded]
  decide

theorem required_implies {pathname : String} {required : List String}
    (guarded : requiredPermFor pathname = some required) {perm other : String}
    (takes : other ∈ required) (implied : other ∈ impliedBy perm) : perm ∈ required := by
  obtain ⟨others, entry, member⟩ := exists_of_mem_impliedBy implied
  have beside : ∀ required ∈ guardLists, ∀ entry ∈ implies, ∀ other ∈ entry.2,
      other ∈ required → entry.1 ∈ required := by decide
  exact beside required (requiredPermFor_mem pathname required guarded) _ entry other member takes

theorem clears_of_dominates {perms wider : List String} {pathname : String}
    (covered : ∀ perm ∈ perms, Dominates wider perm) (clears : Clears perms pathname) :
    Clears wider pathname := by
  intro required guarded
  obtain ⟨perm, takes, held⟩ := clears required guarded
  have reaches : ∀ {perm : String}, Dominates wider perm → perm ∈ required →
      ∃ perm ∈ required, perm ∈ wider := by
    intro perm dominated takes
    induction dominated with
    | held held => exact ⟨_, takes, held⟩
    | implied _ implied ih => exact ih (required_implies guarded takes implied)
  exact reaches (covered perm held) takes

/-! What an impersonated session may do and see. -/

theorem started_eq {tables : AccessTables} {sameOrigin : Bool} {actor claims : PortalClaims}
    {userId : Option Int} {viewingAs : String}
    (started : impersonate tables sameOrigin (some actor) userId = .started claims viewingAs) :
    actor.imp = none ∧ ∃ id target, userId = some id ∧
      loadUserClaims tables id.toNat = some target ∧ claims = impersonatedClaims actor target := by
  unfold impersonate at started
  split at started
  · cases started
  · dsimp only at started
    split at started
    · cases started
    · split at started
      · cases started
      next own =>
        split at started
        · cases started
        next id posted =>
          split at started
          · cases started
          · split at started
            · cases started
            next target loaded =>
              split at started
              · cases started
              · refine ⟨by simpa using own, id, target, ?_, loaded, ?_⟩
                · exact (Option.filter_eq_some_iff.1 posted).1
                · exact (ImpersonateResponse.started.inj started).1.symm

/-- The session does nothing that the actor could not do, and sees what the target sees. -/
structure Narrows (actor target claims : SessionClaims) : Prop where
  ofTarget : ∀ perm ∈ claims.perms, perm ∈ target.perms
  ofActor : ∀ perm ∈ claims.perms, Dominates actor.perms perm
  paths : ∀ pathname, Clears claims.perms pathname → Clears actor.perms pathname
  shownToActor : ∀ {ρ : Type} (columns : AclColumns ρ) (grain : Grain) (rows : List ρ),
    select (aclClause columns grain (sessionAcl claims)) rows ⊆
      select (aclClause columns grain (sessionAcl actor)) rows
  shownToTarget : ∀ {ρ : Type} (columns : AclColumns ρ) (grain : Grain) (rows : List ρ),
    select (aclClause columns grain (sessionAcl claims)) rows =
      select (aclClause columns grain (sessionAcl target)) rows

theorem sessionAcl_of_viewsAll {tables : AccessTables} {userId : Nat} {claims : SessionClaims}
    (loaded : loadUserClaims tables userId = some claims)
    (viewsAll : Perms.reportsViewAll ∈ claims.perms) : sessionAcl claims = none := by
  obtain ⟨account, active, rfl⟩ := Option.map_eq_some_iff.1 loaded
  have unrestricted : account.viewsAll = true := decide_eq_true viewsAll
  simp only [sessionAcl, unrestricted, if_true, Option.map_none]

/-- Whoever may impersonate and reads everything only narrows what they may do by it, whatever the
target, and sees the target's data. -/
theorem impersonation_narrows {login tables : AccessTables} {actorId : Nat}
    {actor claims : PortalClaims} {sameOrigin : Bool} {userId : Option Int} {viewingAs : String}
    (own : loadUserClaims login actorId = some actor.toSessionClaims)
    (viewsAll : Perms.reportsViewAll ∈ actor.perms)
    (started : impersonate tables sameOrigin (some actor) userId = .started claims viewingAs) :
    ∃ id target, userId = some id ∧ loadUserClaims tables id.toNat = some target ∧
      Narrows actor.toSessionClaims target claims.toSessionClaims := by
  obtain ⟨_, id, target, posted, loaded, rfl⟩ := started_eq started
  have kept : ∀ perm ∈ (impersonatedClaims actor target).perms,
      perm ∈ target.perms ∧ Dominates actor.perms perm := by
    intro perm member
    obtain ⟨held, covered⟩ := List.mem_filter.1 member
    exact ⟨held, mem_expandPerms_iff.1 (of_decide_eq_true covered)⟩
  refine ⟨id, target, posted, loaded,
    { ofTarget := fun perm member => (kept perm member).1
      ofActor := fun perm member => (kept perm member).2
      paths := fun _ => clears_of_dominates fun perm member => (kept perm member).2
      shownToActor := ?_
      shownToTarget := fun _ _ _ => rfl }⟩
  intro ρ columns grain rows row shown
  rw [select_eq (denotes_aclClause _), List.mem_filter] at shown
  rw [sessionAcl_of_viewsAll own viewsAll, select_eq (denotes_aclClause _), List.mem_filter]
  exact ⟨shown.1, rfl⟩

def auditor : PortalAccount where
  id := 1
  email := "auditor@example.org"
  name := "Auditor"
  roleKey := "auditor"
  perms := ["reports.view_all", "portal_users.view", "portal_users.impersonate"]
  passwordVersion := 2
  active := true

def client : PortalAccount where
  id := 2
  email := "client@example.org"
  name := "Client"
  roleKey := "client"
  perms := ["reports.view_own", "viewers.manage_own"]
  passwordVersion := 0
  active := true

def dashboardTables : AccessTables where
  accounts := ⟨[auditor, client], by decide⟩
  shortcodes := ⟨[{ id := 7, ownerUserId := 2, ownerSince := 0, createdAt := 0 }], by decide⟩
  grants := []

def auditorSession : PortalClaims where
  sub := 1
  email := "auditor@example.org"
  name := "Auditor"
  role := "auditor"
  perms := ["reports.view_all", "portal_users.view", "portal_users.impersonate"]
  shortcodeIds := none
  shortcodeFrom := []
  pwv := 2
  imp := none

def asClient : PortalClaims where
  sub := 2
  email := "client@example.org"
  name := "Client"
  role := "client"
  perms := ["reports.view_own"]
  shortcodeIds := some [7]
  shortcodeFrom := []
  pwv := 0
  imp := some
    { sub := "1", email := "auditor@example.org", name := "Auditor", role := "auditor", pwv := 2 }

theorem impersonation_narrows_auditor :
    impersonate dashboardTables true (some auditorSession) (some 2) =
        .started asClient "client@example.org" ∧
      ∃ id target, some (2 : Int) = some id ∧
        loadUserClaims dashboardTables id.toNat = some target ∧
        Narrows auditorSession.toSessionClaims target asClient.toSessionClaims := by
  have started : impersonate dashboardTables true (some auditorSession) (some 2) =
      .started asClient "client@example.org" := by decide +kernel
  have own : loadUserClaims dashboardTables 1 = some auditorSession.toSessionClaims := by
    decide +kernel
  exact ⟨started, impersonation_narrows own (by decide) started⟩

end UssdGateway
