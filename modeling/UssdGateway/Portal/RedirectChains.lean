import UssdGateway.Portal.DrivenSessions
import UssdGateway.Portal.RoleSeeds

/-!
Where a browser that follows redirects comes to rest. The middleware answers first; a page that it
lets through may still send the browser on, as may the layout around it, whichever comes first.
-/

namespace UssdGateway

namespace Driven

/-! The pages. -/

def plainPages : List String :=
  ["/", "/account", "/exports", "/my-shortcodes", "/operators", "/reports", "/sessions",
    "/shortcodes", "/simulator", "/summary"]

/-- A form for one row, or a new one, with the permission it asks for and where it sends others. -/
structure Editor where
  start : String
  perm : String
  back : String
deriving DecidableEq

def editors : List Editor :=
  [⟨"/users/", Perms.portalUsersManage, "/users"⟩,
    ⟨"/shortcodes/", Perms.shortcodesManage, "/shortcodes"⟩,
    ⟨"/operators/", Perms.shortcodesManage, "/operators"⟩]

inductive Page where
  | plain
  | users
  | audit
  | archive
  | editing (form : Editor)
deriving DecidableEq

def continues (pathname : String) (form : Editor) : Bool :=
  let segment := pathname.toList.drop form.start.toList.length
  pathStartsWith pathname form.start && (decide (segment ≠ []) && decide ('/' ∉ segment))

def pageOf (pathname : String) : Option Page :=
  if pathname ∈ plainPages then some .plain
  else if pathname = "/users" then some .users
  else if pathname = "/audit" then some .audit
  else if pathname = "/archive" then some .archive
  else (editors.find? (continues pathname)).map .editing

def holds (session : Option PortalClaims) (perm : String) : Bool :=
  session.any fun claims => hasPerm claims perm

def Page.redirects (session : Option PortalClaims) : Page → List String
  | .plain => []
  | .users =>
      if session.isNone then ["/login"]
      else if holds session Perms.portalUsersManage || holds session Perms.portalUsersView then []
      else if holds session Perms.viewersManageOwn then []
      else ["/"]
  | .audit => if holds session Perms.auditView then [] else ["/"]
  | .archive => if holds session Perms.archiveView then [] else ["/"]
  | .editing form => if holds session form.perm then [] else [form.back]

def layoutRedirects (session : Option PortalClaims) : List String :=
  if session.isNone then ["/login"] else []

def pageRedirects (session : Option PortalClaims) (pathname : String) : List String :=
  match pageOf pathname with
  | none => []
  | some page => layoutRedirects session ++ page.redirects session

/-! Following redirects. -/

def browse (cookie : Option String) (pathname search : String) : MiddlewareRequest where
  pathname := pathname
  search := search
  method := "GET"
  cookie := cookie

namespace Dashboard

variable (dashboard : Dashboard) (cookie : Option String)

def token : Option String := cookie.filter fun token => decide (token ≠ "")

def carried : Option PortalClaims := (token cookie).bind dashboard.verifySession

def session : Option PortalClaims := (token cookie).bind dashboard.getSession

inductive Redirects : String → String → Prop where
  | middleware {pathname search target : String} {status : Nat}
      {params : List (String × String)} :
      middleware dashboard.payload (browse cookie pathname search) =
        .redirect status target params → Redirects pathname target
  | page {pathname search target : String} :
      middleware dashboard.payload (browse cookie pathname search) = .next →
      target ∈ pageRedirects (dashboard.session cookie) pathname → Redirects pathname target

/-- Whichever redirects are taken, there are no more of them than this. -/
def RestsWithin : Nat → String → Prop
  | 0, pathname => ∀ target, ¬ dashboard.Redirects cookie pathname target
  | hops + 1, pathname => ∀ target, dashboard.Redirects cookie pathname target →
      RestsWithin hops target

/-- The landing page itself refuses the claims, and the path may lead there. -/
def Stranded (pathname : String) : Prop :=
  ∃ claims, dashboard.carried cookie = some claims ∧ ¬ Clears claims.perms "/" ∧
    ¬ IsPublic pathname ∧ pathStartsWith pathname "/api/" = false ∧
    (¬ Clears claims.perms pathname ∨ dashboard.session cookie = none ∧
      (pageOf pathname = some .audit ∨ pageOf pathname = some .archive))

end Dashboard

def namedPaths : List String := publicPaths ++ ["/", "/api/auth/impersonate", "/account"]

def namedStarts : List String :=
  publicPrefixes ++ ["/reports", "/sessions", "/summary", "/simulator", "/api/reports",
    "/api/sessions", "/api/summary", "/shortcodes", "/api/shortcodes", "/operators",
    "/api/operators", "/exports", "/api/exports", "/users", "/api/users", "/audit", "/api/audit",
    "/archive", "/api/archive", "/account/"]

theorem requiredPermFor_congr {first second : String}
    (paths : ∀ path ∈ namedPaths, first = path ↔ second = path)
    (starts : ∀ start ∈ namedStarts, pathStartsWith first start = pathStartsWith second start) :
    requiredPermFor first = requiredPermFor second := by
  simp only [namedPaths, publicPaths, logoutPath, stopImpersonationPath, List.cons_append,
    List.nil_append, List.forall_mem_cons] at paths
  simp only [namedStarts, publicPrefixes, List.cons_append, List.nil_append,
    List.forall_mem_cons] at starts
  simp only [requiredPermFor, paths, starts]

theorem startsWith_iff {pathname start : String} :
    pathStartsWith pathname start = true ↔ start.toList <+: pathname.toList :=
  List.isPrefixOf_iff_prefix

theorem startsWith_trans {pathname middle start : String}
    (outer : pathStartsWith pathname middle = true) (inner : pathStartsWith middle start = true) :
    pathStartsWith pathname start = true :=
  startsWith_iff.2 ((startsWith_iff.1 inner).trans (startsWith_iff.1 outer))

theorem startsWith_apart {pathname first second : String}
    (begins : pathStartsWith pathname first = true)
    (apart : pathStartsWith first second = false ∧ pathStartsWith second first = false) :
    pathStartsWith pathname second = false := by
  rw [Bool.eq_false_iff]
  intro other
  rcases List.prefix_or_prefix_of_prefix (startsWith_iff.1 begins) (startsWith_iff.1 other) with
    inner | inner
  · rw [startsWith_iff.2 inner] at apart
    cases apart.2
  · rw [startsWith_iff.2 inner] at apart
    cases apart.1

theorem requiredPermFor_editor {form : Editor} (known : form ∈ editors) {pathname : String}
    (below : pathStartsWith pathname form.start = true) :
    requiredPermFor pathname = requiredPermFor form.back := by
  have paths : ∀ form ∈ editors, ∀ path ∈ namedPaths,
      pathStartsWith path form.start = false ∧ form.back ≠ path := by decide +kernel
  have starts : ∀ form ∈ editors, ∀ start ∈ namedStarts,
      pathStartsWith form.back start = true ∨
        pathStartsWith form.start start = false ∧ pathStartsWith start form.start = false := by
    decide +kernel
  have backs : ∀ form ∈ editors, pathStartsWith form.start form.back = true := by decide +kernel
  refine requiredPermFor_congr ?_ ?_
  · intro path named
    obtain ⟨elsewhere, other⟩ := paths form known path named
    refine iff_of_false ?_ other
    rintro rfl
    rw [elsewhere] at below
    cases below
  · intro start named
    rcases starts form known start named with same | apart
    · rw [same]
      exact startsWith_trans below (startsWith_trans (backs form known) same)
    · rw [startsWith_apart below apart, eq_comm, Bool.eq_false_iff]
      intro inner
      rw [startsWith_trans (backs form known) inner] at apart
      cases apart.1

theorem pageOf_cases {pathname : String} {page : Page} (found : pageOf pathname = some page) :
    pathname ∈ plainPages ∧ page = .plain ∨ pathname = "/users" ∧ page = .users ∨
      pathname = "/audit" ∧ page = .audit ∨ pathname = "/archive" ∧ page = .archive ∨
      ∃ form ∈ editors, pathStartsWith pathname form.start = true ∧ page = .editing form := by
  rw [pageOf] at found
  split at found
  next plain => exact Or.inl ⟨plain, (Option.some.inj found).symm⟩
  · split at found
    next users => exact Or.inr (Or.inl ⟨users, (Option.some.inj found).symm⟩)
    · split at found
      next audit => exact Or.inr (Or.inr (Or.inl ⟨audit, (Option.some.inj found).symm⟩))
      · split at found
        next archive =>
          exact Or.inr (Or.inr (Or.inr (Or.inl ⟨archive, (Option.some.inj found).symm⟩)))
        · obtain ⟨form, first, rfl⟩ := Option.map_eq_some_iff.1 found
          have below := List.find?_some first
          simp only [continues, Bool.and_eq_true] at below
          exact Or.inr (Or.inr (Or.inr (Or.inr
            ⟨form, List.mem_of_find?_eq_some first, below.1, rfl⟩)))

theorem page_guarded {pathname : String} {page : Page} (found : pageOf pathname = some page) :
    ¬ IsPublic pathname ∧ pathStartsWith pathname "/api/" = false := by
  rw [← requiredPermFor_eq_none_iff]
  have fixed : ∀ path ∈ "/users" :: "/audit" :: "/archive" :: plainPages,
      ¬ requiredPermFor path = none ∧ pathStartsWith path "/api/" = false := by decide +kernel
  have below : ∀ form ∈ editors, ¬ requiredPermFor form.back = none ∧
      pathStartsWith form.start "/api/" = false ∧ pathStartsWith "/api/" form.start = false := by
    decide +kernel
  rcases pageOf_cases found with ⟨plain, _⟩ | ⟨rfl, _⟩ | ⟨rfl, _⟩ | ⟨rfl, _⟩ |
    ⟨form, known, begins, _⟩
  · exact fixed pathname (by simp [plain])
  · exact fixed _ (by decide)
  · exact fixed _ (by decide)
  · exact fixed _ (by decide)
  · rw [requiredPermFor_editor known begins]
    exact ⟨(below form known).1, startsWith_apart begins (below form known).2⟩

section

variable {dashboard : Dashboard} {cookie : Option String} {pathname search target : String}
  {claims : PortalClaims}

theorem browse_public (isPublic : IsPublic pathname) :
    middleware dashboard.payload (browse cookie pathname search) = .next := by
  rw [← requiredPermFor_eq_none_iff] at isPublic
  simp only [middleware, browse, isPublic]

theorem browse_guest (guarded : ¬ IsPublic pathname)
    (nobody : dashboard.carried cookie = none) :
    middleware dashboard.payload (browse cookie pathname search) =
      unauthorized (browse cookie pathname search) := by
  rw [← requiredPermFor_eq_none_iff] at guarded
  obtain ⟨required, asks⟩ := Option.ne_none_iff_exists'.1 guarded
  rw [Dashboard.carried, Dashboard.token] at nobody
  simp only [middleware, browse, asks]
  rcases present : cookie.filter (fun token => decide (token ≠ "")) with _ | token
  · rfl
  · rw [present, Option.bind_some] at nobody
    simp only [Dashboard.payload, nobody, Option.map_none]

theorem browse_user (known : dashboard.carried cookie = some claims) :
    middleware dashboard.payload (browse cookie pathname search) =
      if (requiredPermFor pathname).all fun required =>
        required.any fun perm => decide (perm ∈ claims.perms) then .next
      else forbidden (browse cookie pathname search) := by
  rw [Dashboard.carried, Dashboard.token] at known
  obtain ⟨token, present, verified⟩ := Option.bind_eq_some_iff.1 known
  have reads : "GET" ∈ safeMethods := by decide
  simp only [middleware, browse, present, Dashboard.payload, verified, Option.map_some,
    Option.getD_some, reads, not_true_eq_false, decide_false, Bool.and_false, Bool.false_eq_true,
    if_false]
  rcases requiredPermFor pathname with _ | required
  · rfl
  · by_cases held : (required.any fun perm => decide (perm ∈ claims.perms)) = true
    · simp only [Option.all_some, held, Bool.not_true, Bool.false_eq_true, if_false, if_true]
    · rw [Bool.not_eq_true] at held
      simp only [Option.all_some, held, Bool.not_false, Bool.false_eq_true, if_false, if_true]

theorem clears_iff {perms : List String} :
    Clears perms pathname ↔ ((requiredPermFor pathname).all fun required =>
      required.any fun perm => decide (perm ∈ perms)) = true := by
  simp only [Clears, Option.all_eq_true, List.any_eq_true, decide_eq_true_eq]

theorem browse_cleared (known : dashboard.carried cookie = some claims)
    (clears : Clears claims.perms pathname) :
    middleware dashboard.payload (browse cookie pathname search) = .next := by
  rw [browse_user known, if_pos (clears_iff.1 clears)]

theorem browse_refused (known : dashboard.carried cookie = some claims)
    (refused : ¬ Clears claims.perms pathname) :
    middleware dashboard.payload (browse cookie pathname search) =
      forbidden (browse cookie pathname search) := by
  rw [browse_user known, if_neg (clears_iff.not.1 refused)]

theorem forbidden_redirect {status : Nat} {params : List (String × String)}
    {request : MiddlewareRequest}
    (redirected : forbidden request = .redirect status target params) : target = "/" := by
  rw [forbidden] at redirected
  split at redirected
  · cases redirected
  · cases redirected
    rfl

theorem unauthorized_redirect {status : Nat} {params : List (String × String)}
    {request : MiddlewareRequest}
    (redirected : unauthorized request = .redirect status target params) : target = "/login" := by
  rw [unauthorized] at redirected
  split at redirected
  · cases redirected
  · cases redirected
    rfl

theorem pageRedirects_api (api : pathStartsWith pathname "/api/" = true)
    (session : Option PortalClaims) : pageRedirects session pathname = [] := by
  rw [pageRedirects]
  split
  · rfl
  next page found =>
    rw [(page_guarded found).2] at api
    cases api

theorem public_rests (isPublic : IsPublic pathname) :
    ¬ dashboard.Redirects cookie pathname target := by
  rintro (redirected | ⟨_, listed⟩)
  · rw [browse_public isPublic] at redirected
    cases redirected
  · rw [pageRedirects] at listed
    split at listed
    · cases listed
    next page found => exact (page_guarded found).1 isPublic

theorem login_rests : ¬ dashboard.Redirects cookie "/login" target :=
  public_rests (Or.inl (by decide))

theorem api_rests (api : pathStartsWith pathname "/api/" = true) :
    ¬ dashboard.Redirects cookie pathname target := by
  have answers : ∀ search, isApi (browse cookie pathname search) = true := fun _ => api
  rintro (redirected | ⟨_, listed⟩)
  · by_cases isPublic : IsPublic pathname
    · rw [browse_public isPublic] at redirected
      cases redirected
    · rcases known : dashboard.carried cookie with _ | claims
      · rw [browse_guest isPublic known, unauthorized, if_pos (answers _)] at redirected
        cases redirected
      · by_cases clears : Clears claims.perms pathname
        · rw [browse_cleared known clears] at redirected
          cases redirected
        · rw [browse_refused known clears, forbidden, if_pos (answers _)] at redirected
          cases redirected
  · rw [pageRedirects_api api] at listed
    cases listed

theorem guest_redirects (nobody : dashboard.carried cookie = none)
    (redirected : dashboard.Redirects cookie pathname target) : target = "/login" := by
  by_cases isPublic : IsPublic pathname
  · exact absurd redirected (public_rests isPublic)
  · rcases redirected with moved | ⟨passed, _⟩
    · rw [browse_guest isPublic nobody] at moved
      exact unauthorized_redirect moved
    · rw [browse_guest isPublic nobody, unauthorized] at passed
      split at passed <;> cases passed

theorem user_redirects (known : dashboard.carried cookie = some claims)
    (redirected : dashboard.Redirects cookie pathname target) :
    ¬ Clears claims.perms pathname ∧ target = "/" ∨
      Clears claims.perms pathname ∧
        target ∈ pageRedirects (dashboard.session cookie) pathname := by
  by_cases clears : Clears claims.perms pathname
  · refine Or.inr ⟨clears, ?_⟩
    rcases redirected with moved | ⟨_, listed⟩
    · rw [browse_cleared known clears] at moved
      cases moved
    · exact listed
  · refine Or.inl ⟨clears, ?_⟩
    rcases redirected with moved | ⟨passed, _⟩
    · rw [browse_refused known clears] at moved
      exact forbidden_redirect moved
    · rw [browse_refused known clears, forbidden] at passed
      split at passed <;> cases passed

theorem refused_redirects (known : dashboard.carried cookie = some claims)
    (refused : ¬ Clears claims.perms pathname)
    (page : pathStartsWith pathname "/api/" = false) :
    dashboard.Redirects cookie pathname "/" := by
  have answer : middleware dashboard.payload (browse cookie pathname "") =
      .redirect 307 "/" [] := by
    rw [browse_refused known refused, forbidden, if_neg]
    rw [isApi, browse, page]
    exact Bool.false_ne_true
  exact .middleware answer

/-! Sessions that stand. -/

theorem session_eq_carried {own : PortalClaims} (stands : dashboard.session cookie = some own) :
    dashboard.carried cookie = some own := by
  obtain ⟨token, present, opened⟩ := Option.bind_eq_some_iff.1 stands
  exact Option.bind_eq_some_iff.2 ⟨token, present, (getSession_eq_some opened).1⟩

theorem holds_of_clears {perm : String} (asks : requiredPermFor pathname = some [perm])
    (clears : Clears claims.perms pathname) : holds (some claims) perm = true := by
  obtain ⟨only, listed, held⟩ := clears _ asks
  rw [List.mem_singleton.1 listed] at held
  exact decide_eq_true held

theorem clears_back {form : Editor} (known : form ∈ editors)
    (below : pathStartsWith pathname form.start = true) (clears : Clears claims.perms pathname) :
    Clears claims.perms form.back := by
  intro required asks
  rw [← requiredPermFor_editor known below] at asks
  exact clears required asks

theorem cleared_redirects {page : Page} (found : pageOf pathname = some page)
    (clears : Clears claims.perms pathname)
    (listed : target ∈ page.redirects (some claims)) :
    ∃ form ∈ editors, page = .editing form ∧ target = form.back ∧
      Clears claims.perms form.back := by
  rcases pageOf_cases found with ⟨_, rfl⟩ | ⟨rfl, rfl⟩ | ⟨rfl, rfl⟩ | ⟨rfl, rfl⟩ |
    ⟨form, known, below, rfl⟩
  · cases listed
  · have asks : requiredPermFor "/users" = some
        [Perms.portalUsersView, Perms.portalUsersManage, Perms.viewersManageOwn] := by
      decide +kernel
    obtain ⟨perm, listed', held⟩ := clears _ asks
    have holding : holds (some claims) perm = true := decide_eq_true held
    simp only [List.mem_cons, List.not_mem_nil, or_false] at listed'
    simp only [Page.redirects, Option.isNone_some, Bool.false_eq_true, if_false] at listed
    rcases listed' with rfl | rfl | rfl
    · simp [holding] at listed
    · simp [holding] at listed
    · simp [holding] at listed
  · have held := @holds_of_clears _ claims Perms.auditView (by decide +kernel) clears
    rw [Page.redirects, held, if_pos rfl] at listed
    cases listed
  · have held := @holds_of_clears _ claims Perms.archiveView (by decide +kernel) clears
    rw [Page.redirects, held, if_pos rfl] at listed
    cases listed
  · rw [Page.redirects] at listed
    split at listed
    · cases listed
    · refine ⟨form, known, rfl, List.mem_singleton.1 listed, ?_⟩
      exact clears_back known below clears

theorem standing_redirects (stands : dashboard.session cookie = some claims)
    (clears : Clears claims.perms pathname)
    (redirected : dashboard.Redirects cookie pathname target) :
    ∃ form ∈ editors, pageOf pathname = some (.editing form) ∧ target = form.back ∧
      Clears claims.perms form.back := by
  rcases user_redirects (session_eq_carried stands) redirected with ⟨refused, _⟩ | ⟨_, listed⟩
  · exact absurd clears refused
  · rw [stands, pageRedirects] at listed
    split at listed
    · cases listed
    next page found =>
      rw [layoutRedirects, Option.isNone_some, if_neg Bool.false_ne_true, List.nil_append] at listed
      obtain ⟨form, known, rfl, back, cleared⟩ := cleared_redirects found clears listed
      exact ⟨form, known, found, back, cleared⟩

theorem lists_plain : ∀ path ∈ "/" :: editors.map Editor.back,
    pageOf path = some .plain ∨ pageOf path = some .users := by
  decide +kernel

theorem back_listed {form : Editor} (known : form ∈ editors) :
    form.back ∈ "/" :: editors.map Editor.back :=
  List.mem_cons_of_mem _ (List.mem_map.2 ⟨form, known, rfl⟩)

theorem standing_rests (stands : dashboard.session cookie = some claims)
    (clears : Clears claims.perms pathname) (list : pathname ∈ "/" :: editors.map Editor.back) :
    ¬ dashboard.Redirects cookie pathname target := by
  intro redirected
  obtain ⟨form, _, found, _⟩ := standing_redirects stands clears redirected
  rcases lists_plain pathname list with plain | users
  · rw [plain] at found
    cases found
  · rw [users] at found
    cases found

theorem revoked_redirects (known : dashboard.carried cookie = some claims)
    (ended : dashboard.session cookie = none) (clears : Clears claims.perms pathname)
    (redirected : dashboard.Redirects cookie pathname target) :
    target = "/login" ∨
      (pageOf pathname = some .audit ∨ pageOf pathname = some .archive) ∧ target = "/" ∨
      ∃ form ∈ editors, pageOf pathname = some (.editing form) ∧ target = form.back ∧
        Clears claims.perms form.back := by
  rcases user_redirects known redirected with ⟨refused, _⟩ | ⟨_, listed⟩
  · exact absurd clears refused
  · rw [ended, pageRedirects] at listed
    split at listed
    · cases listed
    next page found =>
      have none_holds : ∀ perm, holds none perm = false := fun _ => rfl
      simp only [layoutRedirects, Option.isNone_none, if_true, List.cons_append, List.nil_append,
        List.mem_cons] at listed
      rcases listed with login | listed
      · exact Or.inl login
      · rcases pageOf_cases found with ⟨_, rfl⟩ | ⟨_, rfl⟩ | ⟨_, rfl⟩ | ⟨_, rfl⟩ |
          ⟨form, member, below, rfl⟩
        · cases listed
        · exact Or.inl (List.mem_singleton.1 listed)
        · exact Or.inr (Or.inl ⟨Or.inl found, List.mem_singleton.1 listed⟩)
        · exact Or.inr (Or.inl ⟨Or.inr found, List.mem_singleton.1 listed⟩)
        · exact Or.inr (Or.inr ⟨form, member, found, List.mem_singleton.1 listed,
            clears_back member below clears⟩)

theorem revoked_leads_to_login (known : dashboard.carried cookie = some claims)
    (ended : dashboard.session cookie = none) (clears : Clears claims.perms pathname)
    (list : pathname ∈ "/" :: editors.map Editor.back)
    (redirected : dashboard.Redirects cookie pathname target) : target = "/login" := by
  have plain := lists_plain pathname list
  rcases revoked_redirects known ended clears redirected with login | ⟨found, _⟩ |
    ⟨form, _, found, _⟩
  · exact login
  · rcases plain with page | page <;>
    · rw [page] at found
      rcases found with found | found <;> cases found
  · rcases plain with page | page <;>
    · rw [page] at found
      cases found

/-! Rest. -/

theorem Dashboard.RestsWithin.succ {hops : Nat}
    (rests : dashboard.RestsWithin cookie hops pathname) :
    dashboard.RestsWithin cookie (hops + 1) pathname := by
  induction hops generalizing pathname with
  | zero => exact fun target redirected => absurd redirected (rests target)
  | succ hops ih => exact fun target redirected => ih (rests target redirected)

theorem rests_of_not_stranded (kept : ¬ dashboard.Stranded cookie pathname) :
    dashboard.RestsWithin cookie 2 pathname := by
  intro first redirected second next target onward
  by_cases isPublic : IsPublic pathname
  · exact public_rests isPublic redirected
  by_cases api : pathStartsWith pathname "/api/" = true
  · exact api_rests api redirected
  rw [Bool.not_eq_true] at api
  rcases known : dashboard.carried cookie with _ | claims
  · obtain rfl := guest_redirects known redirected
    exact login_rests next
  by_cases clears : Clears claims.perms pathname
  · rcases stands : dashboard.session cookie with _ | own
    · rcases revoked_redirects known stands clears redirected with rfl | ⟨page, rfl⟩ |
        ⟨form, member, _, rfl, cleared⟩
      · exact login_rests next
      · have home : Clears claims.perms "/" := by
          by_contra refused
          exact kept ⟨claims, known, refused, isPublic, api, Or.inr ⟨stands, page⟩⟩
        obtain rfl := revoked_leads_to_login known stands home List.mem_cons_self next
        exact login_rests onward
      · have list := back_listed member
        obtain rfl := revoked_leads_to_login known stands cleared list next
        exact login_rests onward
    · obtain rfl := Option.some.inj (known.symm.trans (session_eq_carried stands))
      obtain ⟨form, member, _, rfl, cleared⟩ := standing_redirects stands clears redirected
      have list := back_listed member
      exact standing_rests stands cleared list next
  · have home : Clears claims.perms "/" := by
      by_contra refused
      exact kept ⟨claims, known, refused, isPublic, api, Or.inl clears⟩
    rcases user_redirects known redirected with ⟨_, rfl⟩ | ⟨cleared, _⟩
    · rcases stands : dashboard.session cookie with _ | own
      · obtain rfl := revoked_leads_to_login known stands home List.mem_cons_self next
        exact login_rests onward
      · obtain rfl := Option.some.inj (known.symm.trans (session_eq_carried stands))
        exact standing_rests stands home List.mem_cons_self next
    · exact clears cleared

theorem home_never_rests (known : dashboard.carried cookie = some claims)
    (refused : ¬ Clears claims.perms "/") (hops : Nat) :
    ¬ dashboard.RestsWithin cookie hops "/" := by
  have again : dashboard.Redirects cookie "/" "/" :=
    refused_redirects known refused (by decide +kernel)
  induction hops with
  | zero => exact fun rests => rests "/" again
  | succ hops ih => exact fun rests => ih (rests "/" again)

theorem stranded_leads_home (known : dashboard.carried cookie = some claims)
    (page : pathStartsWith pathname "/api/" = false)
    (lost : ¬ Clears claims.perms pathname ∨ dashboard.session cookie = none ∧
      (pageOf pathname = some .audit ∨ pageOf pathname = some .archive)) :
    dashboard.Redirects cookie pathname "/" := by
  by_cases clears : Clears claims.perms pathname
  · obtain ⟨ended, found⟩ := lost.resolve_left (not_not_intro clears)
    refine .page (@browse_cleared _ _ _ "" _ known clears) ?_
    rw [ended, pageRedirects]
    rcases found with found | found <;>
    · rw [found]
      exact List.mem_cons_of_mem _ List.mem_cons_self
  · exact refused_redirects known clears page

/-- Whoever browses comes to rest after two redirects or is stranded and never does, whichever of
the layout and the page sends the browser on. -/
theorem comes_to_rest_iff (dashboard : Dashboard) (cookie : Option String) (pathname : String)
    (more : Nat) :
    dashboard.RestsWithin cookie (2 + more) pathname ↔ ¬ dashboard.Stranded cookie pathname := by
  constructor
  · rintro rests ⟨claims, known, refused, _, page, lost⟩
    have onward := stranded_leads_home known page lost
    rw [Nat.add_comm] at rests
    exact home_never_rests known refused (more + 1) (rests "/" onward)
  · intro kept
    induction more with
    | zero => exact rests_of_not_stranded kept
    | succ more ih => exact ih.succ

end

def SeededAccounts (tables : AccessTables) : Prop :=
  ∀ account ∈ tables.accounts.rows, ∃ perms, (account.roleKey, perms) ∈ seededRoles ∧
    ∀ perm, perm ∈ account.perms ↔ perm ∈ perms

structure Lands (claims : PortalClaims) : Prop where
  reports : Perms.reportsViewOwn ∈ claims.perms ∨ Perms.reportsViewAll ∈ claims.perms
  viewers : claims.imp = none → Perms.portalUsersImpersonate ∈ claims.perms →
    Perms.reportsViewAll ∈ claims.perms

theorem seededRoles_land : ∀ role ∈ seededRoles,
    (Perms.reportsViewOwn ∈ role.2 ∨ Perms.reportsViewAll ∈ role.2) ∧
      (Perms.portalUsersImpersonate ∈ role.2 → Perms.reportsViewAll ∈ role.2) := by
  decide

section

variable {dashboard after : Dashboard} {post : AuthPost} {claims : PortalClaims}

theorem lands_of_loaded {tables : AccessTables} {userId : Nat} {own : SessionClaims}
    (seeded : SeededAccounts tables) (loaded : loadUserClaims tables userId = some own) :
    Lands ⟨own, none⟩ := by
  obtain ⟨account, active, rfl⟩ := Option.map_eq_some_iff.1 loaded
  obtain ⟨found, _⟩ := Option.filter_eq_some_iff.1 active
  have member : account ∈ tables.accounts.rows := ((KeyedTable.find_eq_some_iff _ _ _).1 found).1
  obtain ⟨perms, role, same⟩ := seeded account member
  obtain ⟨reports, viewers⟩ := seededRoles_land _ role
  refine ⟨?_, fun _ => ?_⟩
  · simpa only [same] using reports
  · simpa only [same] using viewers

theorem Lands.viewed {actor : PortalClaims} {target : SessionClaims} (lands : Lands actor)
    (own : actor.imp = none) (permitted : Perms.portalUsersImpersonate ∈ actor.perms)
    (seen : Lands ⟨target, none⟩) : Lands (impersonatedClaims actor target) := by
  have all := lands.viewers own permitted
  have covered : ∀ perm ∈ [Perms.reportsViewOwn, Perms.reportsViewAll],
      perm ∈ expandPerms actor.perms := by
    intro perm listed
    rw [mem_expandPerms_iff]
    simp only [List.mem_cons, List.not_mem_nil, or_false] at listed
    rcases listed with rfl | rfl
    · exact .implied (.held all) (by decide)
    · exact .held all
  refine ⟨?_, fun none => absurd none (Option.some_ne_none _)⟩
  have kept : ∀ perm, perm ∈ target.perms → perm ∈ expandPerms actor.perms →
      perm ∈ (impersonatedClaims actor target).perms :=
    fun perm held dominated => List.mem_filter.2 ⟨held, decide_eq_true dominated⟩
  rcases seen.reports with held | held
  · exact Or.inl (kept _ held (covered _ (by simp)))
  · exact Or.inr (kept _ held (covered _ (by simp)))

theorem Answered.lands (landed : ∀ entry ∈ dashboard.signed, Lands entry.2.claims)
    (seeded : SeededAccounts dashboard.tables) (answered : Answered dashboard post claims) :
    Lands claims := by
  cases answered with
  | entered _ loaded => exact lands_of_loaded seeded loaded
  | returned _ _ _ loaded => exact lands_of_loaded seeded loaded
  | began opened started =>
      obtain ⟨permitted, _⟩ := started_by started
      obtain ⟨own, _, target, _, loaded, rfl⟩ := started_eq started
      obtain ⟨session, member, rfl, _⟩ := verifySession_eq_some (getSession_eq_some opened).1
      exact (landed _ member).viewed own permitted (lands_of_loaded seeded loaded)

theorem lands_step {event : DashboardEvent}
    (landed : ∀ entry ∈ dashboard.signed, Lands entry.2.claims)
    (seeded : SeededAccounts dashboard.tables) (stepped : dashboard.step event = some after) :
    ∀ entry ∈ after.signed, Lands entry.2.claims := by
  cases event with
  | elapsed micros =>
      obtain rfl := Option.some.inj stepped
      exact landed
  | tablesChanged tables =>
      obtain rfl := Option.some.inj stepped
      exact landed
  | posted post sameOrigin cookie jwt =>
      rw [Dashboard.step] at stepped
      split at stepped
      · obtain rfl := Option.some.inj stepped
        exact landed
      next answered =>
        rw [Dashboard.sign] at stepped
        split at stepped
        · cases stepped
        · obtain rfl := Option.some.inj stepped
          intro entry member
          rcases List.mem_cons.1 member with rfl | old
          · exact (answered_of_answer answered).lands landed seeded
          · rw [(noted_keeps post).1] at old
            exact landed entry old

end

/-- In every run over accounts with the permissions of the seeded roles nobody is ever stranded:
whatever cookie comes with it, and whether or not the session behind it still stands, a browser
rests after two redirects. -/
theorem seeded_roles_rest {dashboard : Dashboard}
    (reached : dashboardRuns.ReachableBy (fun state _ => SeededAccounts state.tables) dashboard)
    (cookie : Option String) (pathname : String) :
    dashboard.RestsWithin cookie 2 pathname := by
  have landed : ∀ entry ∈ dashboard.signed, Lands entry.2.claims := by
    refine StepSystem.ReachableBy.invariant ?_ (fun _ _ _ => lands_step) reached
    rintro fresh ⟨signed, _⟩ entry member
    rw [signed] at member
    cases member
  refine rests_of_not_stranded ?_
  rintro ⟨claims, known, refused, _⟩
  obtain ⟨token, _, verified⟩ := Option.bind_eq_some_iff.1 known
  obtain ⟨session, member, rfl, _⟩ := verifySession_eq_some verified
  have asks : requiredPermFor "/" = some [Perms.reportsViewOwn, Perms.reportsViewAll] := by
    decide +kernel
  refine refused ?_
  intro required asked
  obtain rfl := Option.some.inj (asks.symm.trans asked)
  rcases (landed _ member).reports with own | all
  · exact ⟨_, List.mem_cons_self, own⟩
  · exact ⟨_, List.mem_cons_of_mem _ List.mem_cons_self, all⟩

def seededAuditor : PortalAccount := { auditor with perms := auditorPerms }

def seededClient : PortalAccount := { client with perms := clientPerms }

def seededDashboard : Dashboard :=
  { freshDashboard with
    tables := { dashboardTables with accounts := ⟨[seededAuditor, seededClient], by decide⟩ } }

def auditorsDashboard : Dashboard :=
  (seededDashboard.step (.posted (.login (some 1)) true none "first")).getD seededDashboard

theorem auditor_rests : auditorsDashboard.RestsWithin (some "first") 2 "/archive" := by
  have seeded : SeededAccounts seededDashboard.tables := by
    intro account member
    simp only [seededDashboard, List.mem_cons, List.not_mem_nil, or_false] at member
    rcases member with rfl | rfl
    · exact ⟨auditorPerms, by decide, fun _ => Iff.rfl⟩
    · exact ⟨clientPerms, by decide, fun _ => Iff.rfl⟩
  have signs : (seededDashboard.step (.posted (.login (some 1)) true none "first")).isSome =
      true := by
    decide +kernel
  have stepped : dashboardRuns.step seededDashboard
      (.posted (.login (some 1)) true none "first") = some auditorsDashboard := by
    simp only [dashboardRuns]
    obtain ⟨after, found⟩ := Option.isSome_iff_exists.1 signs
    rw [auditorsDashboard, found, Option.getD_some]
  exact seeded_roles_rest (.next (.start ⟨rfl, rfl⟩) seeded stepped) _ _

end Driven

end UssdGateway
