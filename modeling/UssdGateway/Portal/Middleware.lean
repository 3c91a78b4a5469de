import Mathlib.Tactic.Tauto

/-!
The edge middleware: which permission a path asks for, and what a request without it, or one that
would write while impersonating, is answered.
-/

namespace UssdGateway

namespace Perms

def reportsViewOwn : String := "reports.view_own"
def reportsViewAll : String := "reports.view_all"
def shortcodesView : String := "shortcodes.view"
def shortcodesManage : String := "shortcodes.manage"
def shortcodesManageSandbox : String := "shortcodes.manage_sandbox"
def operatorsView : String := "operators.view"
def portalUsersView : String := "portal_users.view"
def portalUsersManage : String := "portal_users.manage"
def viewersManageOwn : String := "viewers.manage_own"
def auditView : String := "audit.view"
def archiveView : String := "archive.view"
def portalUsersImpersonate : String := "portal_users.impersonate"

end Perms

def pathStartsWith (pathname start : String) : Bool := start.toList.isPrefixOf pathname.toList

/-- The permissions of which one is needed, or `none` for a public path. -/
def requiredPermFor (pathname : String) : Option (List String) :=
  if pathname = "/login" then none
  else if pathname = "/api/auth/login" then none
  else if pathname = "/api/auth/logout" then none
  else if pathname = "/forgot-password" ∨ pathname = "/reset-password" then none
  else if pathname = "/api/auth/forgot-password" then none
  else if pathname = "/api/auth/reset-password" then none
  else if pathname = "/api/auth/impersonate/stop" then none
  else if pathname = "/healthz" then none
  else if pathStartsWith pathname "/_next/" then none
  else if pathStartsWith pathname "/favicon" then none
  else if pathname = "/integration" ∨ pathStartsWith pathname "/integration/" then none
  else if pathname = "/" ∨ pathStartsWith pathname "/reports" ∨
      pathStartsWith pathname "/sessions" ∨ pathStartsWith pathname "/summary" ∨
      pathStartsWith pathname "/simulator" ∨
      pathStartsWith pathname "/api/reports" ∨ pathStartsWith pathname "/api/sessions" ∨
      pathStartsWith pathname "/api/summary" then
    some [Perms.reportsViewOwn, Perms.reportsViewAll]
  else if pathStartsWith pathname "/shortcodes" ∨ pathStartsWith pathname "/api/shortcodes" then
    some [Perms.shortcodesView, Perms.shortcodesManage]
  else if pathStartsWith pathname "/operators" ∨ pathStartsWith pathname "/api/operators" then
    some [Perms.operatorsView, Perms.shortcodesManage]
  else if pathStartsWith pathname "/exports" ∨ pathStartsWith pathname "/api/exports" then
    some [Perms.reportsViewOwn, Perms.reportsViewAll]
  else if pathStartsWith pathname "/users" ∨ pathStartsWith pathname "/api/users" then
    some [Perms.portalUsersView, Perms.portalUsersManage, Perms.viewersManageOwn]
  else if pathStartsWith pathname "/audit" ∨ pathStartsWith pathname "/api/audit" then
    some [Perms.auditView]
  else if pathname = "/api/auth/impersonate" then some [Perms.portalUsersImpersonate]
  else if pathStartsWith pathname "/archive" ∨ pathStartsWith pathname "/api/archive" then
    some [Perms.archiveView]
  else if pathname = "/account" ∨ pathStartsWith pathname "/account/" then
    some [Perms.reportsViewOwn, Perms.reportsViewAll]
  else some [Perms.reportsViewOwn, Perms.reportsViewAll]

structure Impersonator where
  sub : String
  email : String
  name : String
  role : String
  pwv : Nat
deriving DecidableEq

structure TokenPayload where
  perms : Option (List String)
  imp : Option Impersonator
deriving DecidableEq

structure MiddlewareRequest where
  pathname : String
  search : String
  method : String
  cookie : Option String
deriving DecidableEq

inductive MiddlewareResponse where
  | next
  | json (status : Nat) (error : String) (detail : Option String)
  | redirect (status : Nat) (pathname : String) (params : List (String × String))
deriving DecidableEq

def isApi (request : MiddlewareRequest) : Bool := pathStartsWith request.pathname "/api/"

def unauthorized (request : MiddlewareRequest) : MiddlewareResponse :=
  if isApi request then .json 401 "unauthorized" none
  else .redirect 307 "/login" [("next", request.pathname ++ request.search)]

def forbidden (request : MiddlewareRequest) : MiddlewareResponse :=
  if isApi request then .json 403 "forbidden" none else .redirect 307 "/" []

def safeMethods : List String := ["GET", "HEAD", "OPTIONS"]

def impersonationReadOnly (request : MiddlewareRequest) : MiddlewareResponse :=
  if isApi request then
    .json 403 "read-only while impersonating"
      (some "Stop impersonating to make changes as yourself.")
  else
    .redirect 303 request.pathname
      [("error", "Read-only while impersonating — stop first to make changes.")]

def stopImpersonationPath : String := "/api/auth/impersonate/stop"

def logoutPath : String := "/api/auth/logout"

/-- `verify` is `jwtVerify`, `none` where it throws. -/
def middleware (verify : String → Option TokenPayload) (request : MiddlewareRequest) :
    MiddlewareResponse :=
  match requiredPermFor request.pathname with
  | none => .next
  | some required =>
      match request.cookie.filter fun token => decide (token ≠ "") with
      | none => unauthorized request
      | some token =>
          match verify token with
          | none => unauthorized request
          | some payload =>
              if !required.any fun perm => decide (perm ∈ payload.perms.getD []) then
                forbidden request
              else if payload.imp.isSome && decide (request.method ∉ safeMethods) then
                if request.pathname ≠ stopImpersonationPath ∧
                    request.pathname ≠ logoutPath then
                  impersonationReadOnly request
                else .next
              else .next

/-! The paths that are answered before the token is looked at. -/

def publicPaths : List String :=
  ["/login", "/api/auth/login", logoutPath, "/forgot-password", "/reset-password",
    "/api/auth/forgot-password", "/api/auth/reset-password", stopImpersonationPath, "/healthz",
    "/integration"]

def publicPrefixes : List String := ["/_next/", "/favicon", "/integration/"]

def IsPublic (pathname : String) : Prop :=
  pathname ∈ publicPaths ∨ ∃ start ∈ publicPrefixes, pathStartsWith pathname start = true

theorem publicIf_iff {α : Type} {condition : Prop} [Decidable condition] {rest : Option α} :
    (if condition then none else rest) = none ↔ condition ∨ rest = none := by
  by_cases holds : condition
  · simp [holds]
  · simp [holds]

theorem guardedIf_iff {α : Type} {condition : Prop} [Decidable condition] {perms : α}
    {rest : Option α} :
    (if condition then some perms else rest) = none ↔ ¬ condition ∧ rest = none := by
  by_cases holds : condition
  · simp [holds]
  · simp [holds]

theorem requiredPermFor_eq_none_iff (pathname : String) :
    requiredPermFor pathname = none ↔ IsPublic pathname := by
  simp only [requiredPermFor, publicIf_iff, guardedIf_iff, reduceCtorEq, and_false, or_false,
    IsPublic, publicPaths, publicPrefixes, logoutPath, stopImpersonationPath, List.mem_cons,
    List.not_mem_nil, exists_eq_or_imp, exists_eq_left]
  tauto

theorem public_stopImpersonation : IsPublic stopImpersonationPath :=
  Or.inl (by decide)

theorem public_logout : IsPublic logoutPath := Or.inl (by decide)

/-- A writing request of an impersonated session passes exactly on the public paths. -/
theorem impersonation_passes_iff (verify : String → Option TokenPayload)
    {request : MiddlewareRequest} {token : String} {payload : TokenPayload}
    (cookie : request.cookie = some token) (signed : token ≠ "")
    (verified : verify token = some payload) (impersonates : payload.imp.isSome = true)
    (writes : request.method ∉ safeMethods) :
    middleware verify request = .next ↔ IsPublic request.pathname := by
  have carried : request.cookie.filter (fun token => decide (token ≠ "")) = some token := by
    rw [cookie]
    simp [signed]
  rw [← requiredPermFor_eq_none_iff, middleware]
  rcases required : requiredPermFor request.pathname with _ | perms
  · simp
  · simp only [carried, verified, reduceCtorEq, iff_false]
    have notPublic : ¬ IsPublic request.pathname := by
      rw [← requiredPermFor_eq_none_iff, required]
      exact Option.some_ne_none perms
    -- neither exit is left, since both are public
    have elsewhere :
        request.pathname ≠ stopImpersonationPath ∧ request.pathname ≠ logoutPath := by
      constructor
      · intro same
        exact notPublic (same ▸ public_stopImpersonation)
      · intro same
        exact notPublic (same ▸ public_logout)
    intro passed
    split at passed
    · rw [forbidden] at passed
      split at passed <;> cases passed
    · rw [impersonates, decide_eq_true writes, Bool.and_true, if_pos rfl,
        impersonationReadOnly] at passed
      split at passed <;> cases passed

/-- Such a session only reads but for the two exits, exactly on the paths that are one of them or
are not public. -/
theorem impersonation_reads_only_iff (verify : String → Option TokenPayload)
    {request : MiddlewareRequest} {token : String} {payload : TokenPayload}
    (cookie : request.cookie = some token) (signed : token ≠ "")
    (verified : verify token = some payload) (impersonates : payload.imp.isSome = true)
    (writes : request.method ∉ safeMethods) :
    (middleware verify request = .next →
        request.pathname = stopImpersonationPath ∨ request.pathname = logoutPath) ↔
      (IsPublic request.pathname →
        request.pathname = stopImpersonationPath ∨ request.pathname = logoutPath) := by
  rw [impersonation_passes_iff verify cookie signed verified impersonates writes]

def impersonated : TokenPayload where
  perms := some ["reports.view_own"]
  imp := some { sub := "1", email := "admin@example.org", name := "Admin", role := "super_admin",
                pwv := 0 }

def postTo (pathname : String) : MiddlewareRequest where
  pathname := pathname
  search := ""
  method := "POST"
  cookie := some "token"

/-- The login route is neither of the two exits, and a post to it passes. -/
theorem impersonated_post_passes :
    ¬ ∀ (verify : String → Option TokenPayload) (request : MiddlewareRequest) (token : String)
      (payload : TokenPayload), request.cookie = some token → verify token = some payload →
      payload.imp.isSome = true → request.method ∉ safeMethods →
      middleware verify request = .next →
        request.pathname = stopImpersonationPath ∨ request.pathname = logoutPath := by
  intro only
  have exit := only (fun _ => some impersonated) (postTo "/api/auth/login") "token" impersonated rfl
    rfl rfl (by decide) (by decide)
  exact absurd exit (by decide)

theorem impersonated_post_refused :
    middleware (fun _ => some impersonated) (postTo "/users") ≠ .next := by
  intro passed
  have exit := (impersonation_reads_only_iff (fun _ => some impersonated) rfl (by decide) rfl rfl
    (by decide)).2 (fun isPublic => ?_) passed
  · exact absurd exit (by decide)
  · rw [← requiredPermFor_eq_none_iff] at isPublic
    exact absurd isPublic (by decide)

end UssdGateway
