import UssdGateway.Library.Transition
import UssdGateway.Portal.EndOfAccess
import UssdGateway.Portal.Impersonation

/-!
Who is behind a session. Tokens are signed at a login, when a view as another user begins and when
it ends; every request passes the middleware first, and a token that was once signed may come again
for as long as it is accepted. Times are in microseconds.
-/

namespace UssdGateway

namespace Driven

/-- What `signSession` puts under a token, in unix seconds. -/
structure SignedSession where
  claims : PortalClaims
  iat : Int
  exp : Int

def impersonationTtlSeconds : Int := 1800

def signSession (now : Int) (claims : PortalClaims) : SignedSession where
  claims := claims
  iat := epochSeconds now
  exp := epochSeconds now + if claims.imp.isSome then impersonationTtlSeconds else ttlSeconds

def idOf (sub : String) : Option Nat :=
  if sub.toList.all Char.isDigit then some (Nat.ofDigitChars 10 sub.toList 0) else none

/-- The tables, the clock and the tokens under the server's secret. Who gave a password, and what
users were given for themselves, is kept for the statements only. -/
structure Dashboard where
  tables : AccessTables
  now : Int
  signed : List (String × SignedSession)
  loggedIn : List Nat
  granted : List SessionClaims

namespace Dashboard

variable (dashboard : Dashboard)

/-- Nobody else can sign, so a token that verifies is one of those. -/
def verifySession (token : String) : Option PortalClaims :=
  ((List.lookup token dashboard.signed).filter fun session =>
    decide (epochSeconds dashboard.now < session.exp)).map SignedSession.claims

def payload (token : String) : Option TokenPayload :=
  (dashboard.verifySession token).map fun claims =>
    { perms := some claims.perms, imp := claims.imp }

def getSession (token : String) : Option PortalClaims :=
  ((dashboard.verifySession token).filter fun claims =>
    userStillValid dashboard.tables.accounts claims.sub claims.pwv).filter fun claims =>
      claims.imp.all fun origin =>
        (idOf origin.sub).any fun id => userStillValid dashboard.tables.accounts id origin.pwv

end Dashboard

/-- `POST /api/auth/login`. `matched` is the user whose password was given, if any. -/
def login (tables : AccessTables) (sameOrigin : Bool) (matched : Option Nat) :
    Option PortalClaims :=
  if sameOrigin = false then none
  else (matched.bind (loadUserClaims tables)).map fun claims => ⟨claims, none⟩

inductive StopResponse where
  | json (status : Nat) (error : String)
  | returned (claims : PortalClaims)
deriving DecidableEq

def stopImpersonating (tables : AccessTables) (sameOrigin : Bool) (session : Option PortalClaims) :
    StopResponse :=
  if sameOrigin = false then .json 403 "forbidden"
  else
    match session with
    | none => .json 401 "unauthorized"
    | some session =>
        match session.imp with
        | none => .json 400 "not impersonating"
        | some origin =>
            match (idOf origin.sub).bind (loadUserClaims tables) with
            | none => .json 401 "your account is no longer active"
            | some own => .returned ⟨own, none⟩

inductive AuthPost where
  | login (matched : Option Nat)
  | impersonate (userId : Option Int)
  | stop
deriving DecidableEq

def AuthPost.request (cookie : Option String) : AuthPost → MiddlewareRequest
  | .login _ => { pathname := "/api/auth/login", search := "", method := "POST", cookie }
  | .impersonate _ =>
      { pathname := "/api/auth/impersonate", search := "", method := "POST", cookie }
  | .stop => { pathname := stopImpersonationPath, search := "", method := "POST", cookie }

inductive DashboardEvent where
  | elapsed (micros : Nat)
  | tablesChanged (tables : AccessTables)
  | posted (post : AuthPost) (sameOrigin : Bool) (cookie : Option String) (jwt : String)

namespace Dashboard

variable (dashboard : Dashboard)

def answer (post : AuthPost) (sameOrigin : Bool) (cookie : Option String) : Option PortalClaims :=
  if middleware dashboard.payload (post.request cookie) ≠ .next then none
  else
    let session := (cookie.filter fun token => decide (token ≠ "")).bind dashboard.getSession
    match post with
    | .login matched => login dashboard.tables sameOrigin matched
    | .impersonate userId =>
        match impersonate dashboard.tables sameOrigin session userId with
        | .json _ _ => none
        | .started claims _ => some claims
    | .stop =>
        match stopImpersonating dashboard.tables sameOrigin session with
        | .json _ _ => none
        | .returned claims => some claims

def sign (jwt : String) (claims : PortalClaims) : Option Dashboard :=
  if (List.lookup jwt dashboard.signed).isSome then none
  else some { dashboard with
    signed := (jwt, signSession dashboard.now claims) :: dashboard.signed
    granted :=
      if claims.imp.isSome then dashboard.granted
      else claims.toSessionClaims :: dashboard.granted }

def noted (post : AuthPost) : Dashboard :=
  match post with
  | .login (some userId) => { dashboard with loggedIn := userId :: dashboard.loggedIn }
  | _ => dashboard

def step : DashboardEvent → Option Dashboard
  | .elapsed micros => some { dashboard with now := dashboard.now + micros }
  | .tablesChanged tables => some { dashboard with tables }
  | .posted post sameOrigin cookie jwt =>
      match dashboard.answer post sameOrigin cookie with
      | none => some dashboard
      | some claims => (dashboard.noted post).sign jwt claims

end Dashboard

def dashboardRuns : StepSystem Dashboard DashboardEvent where
  initial dashboard := dashboard.signed = [] ∧ dashboard.granted = []
  step := Dashboard.step

/-! What every step keeps. -/

def Vouched (granted : List SessionClaims) (claims : PortalClaims) : Prop :=
  match claims.imp with
  | none => claims.toSessionClaims ∈ granted
  | some origin => ∃ driver ∈ granted, origin.sub = toString driver.sub ∧ origin.pwv = driver.pwv ∧
      Perms.portalUsersImpersonate ∈ driver.perms ∧ claims.sub ≠ driver.sub ∧
      ∀ perm ∈ claims.perms, Dominates driver.perms perm

structure Dashboard.Sound (dashboard : Dashboard) : Prop where
  vouched : ∀ entry ∈ dashboard.signed, Vouched dashboard.granted entry.2.claims
  loggedIn : ∀ driver ∈ dashboard.granted, driver.sub ∈ dashboard.loggedIn

theorem Vouched.mono {granted more : List SessionClaims} {claims : PortalClaims}
    (vouched : Vouched granted claims) (subset : granted ⊆ more) : Vouched more claims := by
  rw [Vouched] at vouched ⊢
  split at vouched
  · exact subset vouched
  · obtain ⟨driver, member, rest⟩ := vouched
    exact ⟨driver, subset member, rest⟩

theorem mem_of_lookup {token : String} {session : SignedSession} :
    ∀ {signed : List (String × SignedSession)}, List.lookup token signed = some session →
      (token, session) ∈ signed := by
  intro signed found
  obtain ⟨before, after, rfl, _⟩ := List.lookup_eq_some_iff.1 found
  simp

section

variable {dashboard : Dashboard} {token : String} {claims : PortalClaims}

theorem verifySession_eq_some (verified : dashboard.verifySession token = some claims) :
    ∃ session, (token, session) ∈ dashboard.signed ∧ session.claims = claims ∧
      epochSeconds dashboard.now < session.exp := by
  obtain ⟨session, found, same⟩ := Option.map_eq_some_iff.1 verified
  obtain ⟨looked, unexpired⟩ := Option.filter_eq_some_iff.1 found
  exact ⟨session, mem_of_lookup looked, same, of_decide_eq_true unexpired⟩

theorem userStillValid_iff {accounts : AccountTable} {sub pwv : Nat} :
    userStillValid accounts sub pwv = true ↔ ∃ account, accounts.find sub = some account ∧
      account.active = true ∧ account.passwordVersion = pwv := by
  simp only [userStillValid, Option.any_eq_true, Option.filter_eq_some_iff, decide_eq_true_eq,
    and_assoc]

theorem getSession_eq_some (opened : dashboard.getSession token = some claims) :
    dashboard.verifySession token = some claims ∧
      userStillValid dashboard.tables.accounts claims.sub claims.pwv = true ∧
      ∀ origin id, claims.imp = some origin → idOf origin.sub = some id →
        userStillValid dashboard.tables.accounts id origin.pwv = true := by
  obtain ⟨valid, driven⟩ := Option.filter_eq_some_iff.1 opened
  obtain ⟨verified, ownValid⟩ := Option.filter_eq_some_iff.1 valid
  refine ⟨verified, ownValid, ?_⟩
  intro origin id behind named
  simpa [behind, named] using driven

theorem Dashboard.Sound.session (sound : dashboard.Sound)
    (opened : dashboard.getSession token = some claims) : Vouched dashboard.granted claims := by
  obtain ⟨session, member, rfl, _⟩ := verifySession_eq_some (getSession_eq_some opened).1
  exact sound.vouched _ member

end

theorem idOf_toString (id : Nat) : idOf (toString id) = some id := by
  have text : (toString id).toList = Nat.toDigits 10 id := Nat.toList_repr
  have digits : (Nat.toDigits 10 id).all Char.isDigit = true := by
    rw [List.all_eq_true]
    exact fun _ member => Nat.isDigit_of_mem_toDigits (by decide) (by decide) member
  rw [idOf, text, if_pos digits, Nat.ofDigitChars_ten_toDigits]

theorem sub_of_loaded {tables : AccessTables} {userId : Nat} {claims : SessionClaims}
    (loaded : loadUserClaims tables userId = some claims) : claims.sub = userId := by
  obtain ⟨account, active, rfl⟩ := Option.map_eq_some_iff.1 loaded
  have keyed : account.id = userId :=
    KeyedTable.key_of_find (Option.filter_eq_some_iff.1 active).1
  exact keyed

theorem started_by {tables : AccessTables} {sameOrigin : Bool} {actor claims : PortalClaims}
    {userId : Option Int} {viewingAs : String}
    (started : impersonate tables sameOrigin (some actor) userId = .started claims viewingAs) :
    Perms.portalUsersImpersonate ∈ actor.perms ∧ claims.sub ≠ actor.sub := by
  unfold impersonate at started
  split at started
  · cases started
  · dsimp only at started
    split at started
    · cases started
    next permitted =>
      split at started
      · cases started
      · split at started
        · cases started
        next id posted =>
          split at started
          · cases started
          next other =>
            split at started
            · cases started
            next target loaded =>
              split at started
              · cases started
              · obtain ⟨rfl, _⟩ := ImpersonateResponse.started.inj started
                refine ⟨by simpa [hasPerm] using permitted, ?_⟩
                have positive : 0 < id := by
                  simpa using (Option.filter_eq_some_iff.1 posted).2
                have named : target.sub = id.toNat := sub_of_loaded loaded
                intro same
                refine other ?_
                have whole : id = (actor.sub : Int) := by
                  have equal : target.sub = actor.sub := same
                  omega
                rw [whole]
                rfl

inductive Answered (dashboard : Dashboard) (post : AuthPost) : PortalClaims → Prop where
  | entered {userId : Nat} {own : SessionClaims} : post = .login (some userId) →
      loadUserClaims dashboard.tables userId = some own → Answered dashboard post ⟨own, none⟩
  | returned {token : String} {session : PortalClaims} {origin : Impersonator} {userId : Nat}
      {own : SessionClaims} : dashboard.getSession token = some session →
      session.imp = some origin → idOf origin.sub = some userId →
      loadUserClaims dashboard.tables userId = some own → Answered dashboard post ⟨own, none⟩
  | began {token : String} {actor claims : PortalClaims} {sameOrigin : Bool} {userId : Option Int}
      {viewingAs : String} : dashboard.getSession token = some actor →
      impersonate dashboard.tables sameOrigin (some actor) userId = .started claims viewingAs →
      Answered dashboard post claims

section

variable {dashboard after : Dashboard} {post : AuthPost} {sameOrigin : Bool}
  {cookie : Option String} {jwt : String} {claims : PortalClaims}

theorem actor_of_started {session : Option PortalClaims} {tables : AccessTables}
    {userId : Option Int} {viewingAs : String}
    (started : impersonate tables sameOrigin session userId = .started claims viewingAs) :
    ∃ actor, session = some actor := by
  cases session with
  | none =>
      rw [impersonate] at started
      split at started <;> cases started
  | some actor => exact ⟨actor, rfl⟩

theorem returned_eq {session : Option PortalClaims} {tables : AccessTables}
    (returned : stopImpersonating tables sameOrigin session = .returned claims) :
    ∃ viewed origin own, session = some viewed ∧ viewed.imp = some origin ∧
      (idOf origin.sub).bind (loadUserClaims tables) = some own ∧ claims = ⟨own, none⟩ := by
  unfold stopImpersonating at returned
  split at returned
  · cases returned
  · split at returned
    · cases returned
    next viewed =>
      split at returned
      · cases returned
      next origin behind =>
        split at returned
        · cases returned
        next own loaded =>
          have same := StopResponse.returned.inj returned
          exact ⟨viewed, origin, own, rfl, behind, loaded, same.symm⟩

theorem login_eq_some {matched : Option Nat} {tables : AccessTables}
    (entered : login tables sameOrigin matched = some claims) :
    ∃ userId own, matched = some userId ∧ loadUserClaims tables userId = some own ∧
      claims = ⟨own, none⟩ := by
  rw [login] at entered
  split at entered
  · cases entered
  · obtain ⟨own, found, rfl⟩ := Option.map_eq_some_iff.1 entered
    obtain ⟨userId, rfl, loaded⟩ := Option.bind_eq_some_iff.1 found
    exact ⟨userId, own, rfl, loaded, rfl⟩

theorem answered_of_answer
    (answered : dashboard.answer post sameOrigin cookie = some claims) :
    Answered dashboard post claims := by
  rw [Dashboard.answer] at answered
  split at answered
  · cases answered
  · dsimp only at answered
    cases post with
    | login matched =>
        obtain ⟨userId, own, rfl, loaded, rfl⟩ := login_eq_some answered
        exact .entered rfl loaded
    | impersonate userId =>
        dsimp only at answered
        split at answered
        · cases answered
        next started =>
          obtain rfl := Option.some.inj answered
          obtain ⟨actor, same⟩ := actor_of_started started
          obtain ⟨token, _, opened⟩ := Option.bind_eq_some_iff.1 same
          rw [same] at started
          exact .began opened started
    | stop =>
        dsimp only at answered
        split at answered
        · cases answered
        next returned =>
          obtain rfl := Option.some.inj answered
          obtain ⟨viewed, origin, own, same, behind, found, rfl⟩ := returned_eq returned
          obtain ⟨token, _, opened⟩ := Option.bind_eq_some_iff.1 same
          obtain ⟨userId, named, loaded⟩ := Option.bind_eq_some_iff.1 found
          exact .returned opened behind named loaded

theorem noted_keeps (post : AuthPost) :
    (dashboard.noted post).signed = dashboard.signed ∧
      (dashboard.noted post).granted = dashboard.granted ∧
      dashboard.loggedIn ⊆ (dashboard.noted post).loggedIn := by
  unfold Dashboard.noted
  split
  · exact ⟨rfl, rfl, List.subset_cons_self _ _⟩
  · exact ⟨rfl, rfl, List.Subset.refl _⟩

theorem Answered.vouched (sound : dashboard.Sound) (answered : Answered dashboard post claims) :
    claims.imp = none ∧ claims.sub ∈ (dashboard.noted post).loggedIn ∨
      claims.imp.isSome = true ∧ Vouched dashboard.granted claims := by
  cases answered with
  | entered given loaded =>
      subst given
      refine Or.inl ⟨rfl, ?_⟩
      rw [sub_of_loaded loaded]
      exact List.mem_cons_self
  | returned opened behind named loaded =>
      have vouched := sound.session opened
      rw [Vouched, behind] at vouched
      obtain ⟨driver, member, subject, _⟩ := vouched
      rw [subject, idOf_toString, Option.some.injEq] at named
      refine Or.inl ⟨rfl, (noted_keeps post).2.2 ?_⟩
      rw [sub_of_loaded loaded, ← named]
      exact sound.loggedIn driver member
  | @began _ actor _ _ _ _ opened started =>
      obtain ⟨permitted, other⟩ := started_by started
      obtain ⟨own, _, target, _, _, rfl⟩ := started_eq started
      have granted := sound.session opened
      rw [Vouched, own] at granted
      refine Or.inr ⟨rfl, actor.toSessionClaims, granted, rfl, rfl, permitted, other, ?_⟩
      intro perm member
      exact mem_expandPerms_iff.1 (of_decide_eq_true (List.mem_filter.1 member).2)

theorem Dashboard.Sound.sign (sound : dashboard.Sound)
    (allowed : claims.imp = none ∧ claims.sub ∈ dashboard.loggedIn ∨
      claims.imp.isSome = true ∧ Vouched dashboard.granted claims)
    (signed : dashboard.sign jwt claims = some after) : after.Sound := by
  rw [Dashboard.sign] at signed
  split at signed
  · cases signed
  · obtain rfl := Option.some.inj signed
    rcases allowed with ⟨own, entered⟩ | ⟨viewing, vouched⟩
    · constructor
      · intro entry member
        simp only [own, Option.isSome_none, Bool.false_eq_true, if_false] at member ⊢
        rcases List.mem_cons.1 member with rfl | old
        · rw [Vouched]
          simp only [signSession, own]
          exact List.mem_cons_self
        · exact (sound.vouched entry old).mono (List.subset_cons_self _ _)
      · intro driver member
        simp only [own, Option.isSome_none, Bool.false_eq_true, if_false] at member
        rcases List.mem_cons.1 member with rfl | old
        · exact entered
        · exact sound.loggedIn driver old
    · constructor
      · intro entry member
        simp only [viewing, if_true] at member ⊢
        rcases List.mem_cons.1 member with rfl | old
        · exact vouched
        · exact sound.vouched entry old
      · intro driver member
        simp only [viewing, if_true] at member
        exact sound.loggedIn driver member

theorem Dashboard.Sound.step {event : DashboardEvent} (sound : dashboard.Sound)
    (stepped : dashboard.step event = some after) : after.Sound := by
  cases event with
  | elapsed micros =>
      obtain rfl := Option.some.inj stepped
      exact ⟨sound.vouched, sound.loggedIn⟩
  | tablesChanged tables =>
      obtain rfl := Option.some.inj stepped
      exact ⟨sound.vouched, sound.loggedIn⟩
  | posted post sameOrigin cookie jwt =>
      rw [Dashboard.step] at stepped
      split at stepped
      · obtain rfl := Option.some.inj stepped
        exact sound
      next answered =>
        obtain ⟨signed, granted, more⟩ := @noted_keeps dashboard post
        have noted : (dashboard.noted post).Sound := by
          constructor
          · rw [signed, granted]
            exact sound.vouched
          · rw [granted]
            exact fun driver member => more (sound.loggedIn driver member)
        refine noted.sign ?_ stepped
        rw [granted]
        exact (answered_of_answer answered).vouched sound

end

theorem sound_of_reached {dashboard : Dashboard} (reached : dashboardRuns.Reachable dashboard) :
    dashboard.Sound := by
  refine StepSystem.Reachable.invariant ?_ (fun _ _ _ sound stepped => sound.step stepped) reached
  rintro fresh ⟨signed, granted⟩
  constructor
  · rw [signed]
    exact fun _ member => absurd member List.not_mem_nil
  · rw [granted]
    exact fun _ member => absurd member List.not_mem_nil

/-! Requests that are let through. -/

/-- The user behind a request: one who gave a password and whose account stands as it did then. -/
structure DrivenBy (dashboard : Dashboard) (request : MiddlewareRequest) (claims : PortalClaims)
    (driver : SessionClaims) : Prop where
  loggedIn : driver.sub ∈ dashboard.loggedIn
  stands : ∃ account, dashboard.tables.accounts.find driver.sub = some account ∧
    account.active = true ∧ account.passwordVersion = driver.pwv
  covers : ∀ perm ∈ claims.perms, Dominates driver.perms perm
  asSelf : claims.imp = none → claims.toSessionClaims = driver
  viewing : claims.imp.isSome = true → claims.sub ≠ driver.sub ∧
    Perms.portalUsersImpersonate ∈ driver.perms ∧
    (request.method ∈ safeMethods ∨ IsPublic request.pathname)

theorem view_reads {verify : String → Option TokenPayload} {request : MiddlewareRequest}
    {token : String} {payload : TokenPayload} (cookie : request.cookie = some token)
    (signed : token ≠ "") (verified : verify token = some payload)
    (viewing : payload.imp.isSome = true) (passed : middleware verify request = .next) :
    request.method ∈ safeMethods ∨ IsPublic request.pathname := by
  have carried : request.cookie.filter (fun token => decide (token ≠ "")) = some token := by
    rw [cookie]
    simp [signed]
  rw [← requiredPermFor_eq_none_iff]
  rw [middleware] at passed
  rcases required : requiredPermFor request.pathname with _ | perms
  · exact Or.inr rfl
  · refine Or.inl ?_
    simp only [required, carried, verified, viewing, Bool.true_and] at passed
    by_contra writes
    have guarded : request.pathname ≠ stopImpersonationPath ∧ request.pathname ≠ logoutPath := by
      constructor
      · intro same
        rw [same, (requiredPermFor_eq_none_iff _).2 public_stopImpersonation] at required
        cases required
      · intro same
        rw [same, (requiredPermFor_eq_none_iff _).2 public_logout] at required
        cases required
    simp only [writes, not_false_eq_true, decide_true, if_true, guarded, ne_eq,
      and_self] at passed
    split at passed
    · rw [forbidden] at passed
      split at passed <;> cases passed
    · rw [impersonationReadOnly] at passed
      split at passed <;> cases passed

def freshDashboard : Dashboard where
  tables := dashboardTables
  now := 0
  signed := []
  loggedIn := []
  granted := []

def loggedInDashboard : Dashboard where
  tables := dashboardTables
  now := 0
  signed := [("first", ⟨auditorSession, 0, 28800⟩)]
  loggedIn := [1]
  granted := [auditorSession.toSessionClaims]

def viewedDashboard : Dashboard where
  tables := dashboardTables
  now := 0
  signed := [("second", ⟨asClient, 0, 1800⟩), ("first", ⟨auditorSession, 0, 28800⟩)]
  loggedIn := [1]
  granted := [auditorSession.toSessionClaims]

theorem viewedDashboard_reached : dashboardRuns.Reachable viewedDashboard := by
  have entered : freshDashboard.answer (.login (some 1)) true none = some auditorSession := by
    decide +kernel
  have begun : loggedInDashboard.answer (.impersonate (some 2)) true (some "first") =
      some asClient := by
    decide +kernel
  have fresh : dashboardRuns.Reachable freshDashboard := .start ⟨rfl, rfl⟩
  have loggedIn : dashboardRuns.step freshDashboard
      (.posted (.login (some 1)) true none "first") = some loggedInDashboard := by
    simp only [dashboardRuns, Dashboard.step, entered]
    rfl
  have viewed : dashboardRuns.step loggedInDashboard
      (.posted (.impersonate (some 2)) true (some "first") "second") = some viewedDashboard := by
    simp only [dashboardRuns, Dashboard.step, begun]
    rfl
  exact .next (.next fresh trivial loggedIn) trivial viewed

def readsReports : MiddlewareRequest where
  pathname := "/reports"
  search := ""
  method := "GET"
  cookie := some "second"

end Driven

end UssdGateway
