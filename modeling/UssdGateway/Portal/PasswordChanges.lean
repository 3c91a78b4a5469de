import UssdGateway.Library.Transition
import Mathlib.Logic.Function.Basic

/-!
Password changes and sessions of one user. A session carries the password version of the moment its
claims were loaded, which is not the moment the password was checked or changed.
-/

namespace UssdGateway

open StepSystem

structure CredentialRow where
  passwordHash : String
  passwordVersion : Nat
  active : Bool
deriving DecidableEq

structure ResetTokenRow where
  tokenHash : String
  used : Bool
deriving DecidableEq

/-- What a session was minted from: a password checked against the hash of a version, or the change
that made a version. Nothing in the code records this. -/
inductive MintedFrom where
  | credentials (version : Nat)
  | change (version : Nat)
deriving DecidableEq

def MintedFrom.version : MintedFrom → Nat
  | credentials version => version
  | change version => version

structure MintedSession where
  pwv : Nat
  mintedFrom : MintedFrom
deriving DecidableEq

inductive CredentialPhase where
  | idle
  | verified (version : Nat)
  | changing (current newHash : String)
  | updating (newHash : String) (mints consumes : Bool)
  | holding (newHash : String) (mints consumes : Bool)
  | changed (version : Nat)
  | ended
deriving DecidableEq

structure CredentialState where
  row : CredentialRow
  rowLock : Option Nat
  resetTokens : List ResetTokenRow
  tokenLock : Option Nat
  sessions : List MintedSession
  phase : Nat → CredentialPhase

inductive CredentialEvent where
  | login (request : Nat) (password : String)
  | changeOwnPassword (request : Nat) (session : MintedSession) (current newHash : String)
  | resetPassword (request : Nat) (own : Bool) (newHash : String)
  | consumeResetToken (request : Nat) (tokenHash newHash : String)
  | lockRow (request : Nat)
  | commit (request : Nat)
  | rollback (request : Nat)
  | loadUserClaims (request : Nat)
  | expire (session : MintedSession)
  | issueResetToken (tokenHash : String)
deriving DecidableEq

namespace CredentialState

def setPhase (state : CredentialState) (request : Nat) (phase : CredentialPhase) :
    CredentialState :=
  { state with phase := Function.update state.phase request phase }

def finish (state : CredentialState) (request : Nat) (phase : CredentialPhase) :
    CredentialState :=
  { state with
    rowLock := if state.rowLock = some request then none else state.rowLock
    tokenLock := if state.tokenLock = some request then none else state.tokenLock
    phase := Function.update state.phase request phase }

def userStillValid (state : CredentialState) (pwv : Nat) : Bool :=
  state.row.active && decide (state.row.passwordVersion = pwv)

/-- `getSession` accepts a signed session of the user while its version is current. -/
def getSession (state : CredentialState) (session : MintedSession) : Bool :=
  decide (session ∈ state.sessions) && state.userStillValid session.pwv

def usable (state : CredentialState) (tokenHash : String) : Bool :=
  state.resetTokens.any fun token => decide (token.tokenHash = tokenHash) && !token.used

/-- The `UPDATE` of the row, and of the reset tokens when one is consumed. -/
def changePassword (state : CredentialState) (newHash : String) (consumes : Bool) :
    CredentialState :=
  { state with
    row := { state.row with
      passwordHash := newHash
      passwordVersion := state.row.passwordVersion + 1 }
    resetTokens :=
      if consumes then state.resetTokens.map fun token => { token with used := true }
      else state.resetTokens }

def mint (state : CredentialState) (mintedFrom : MintedFrom) : CredentialState :=
  if state.row.active then
    { state with
      sessions := state.sessions ++ [{ pwv := state.row.passwordVersion, mintedFrom }] }
  else state

end CredentialState

/-- What an event does, `none` where it is not possible. `compare` is bcrypt's. -/
def credentialStep (compare : String → String → Bool) (state : CredentialState) :
    CredentialEvent → Option CredentialState
  | .login request password =>
      match state.phase request with
      | .idle =>
          if state.row.active && compare password state.row.passwordHash then
            some (state.setPhase request (.verified state.row.passwordVersion))
          else some (state.setPhase request .ended)
      | _ => none
  | .changeOwnPassword request session current newHash =>
      match state.phase request with
      | .idle =>
          if state.getSession session then
            some (state.setPhase request (.changing current newHash))
          else some (state.setPhase request .ended)
      | _ => none
  | .resetPassword request own newHash =>
      match state.phase request with
      | .idle => some (state.setPhase request (.updating newHash own false))
      | _ => none
  | .consumeResetToken request tokenHash newHash =>
      match state.phase request, state.tokenLock with
      | .idle, none =>
          if state.usable tokenHash && state.row.active then
            some ({ state with tokenLock := some request }.setPhase request
              (.updating newHash false true))
          else some (state.setPhase request .ended)
      | _, _ => none
  | .lockRow request =>
      match state.phase request, state.rowLock with
      | .changing current newHash, none =>
          if state.row.active && compare current state.row.passwordHash then
            some ({ state with rowLock := some request }.setPhase request
              (.holding newHash true false))
          else some (state.setPhase request .ended)
      | .updating newHash mints consumes, none =>
          some ({ state with rowLock := some request }.setPhase request
            (.holding newHash mints consumes))
      | _, _ => none
  | .commit request =>
      match state.phase request with
      | .holding newHash mints consumes =>
          let written := state.changePassword newHash consumes
          some (written.finish request
            (if mints then .changed written.row.passwordVersion else .ended))
      | _ => none
  | .rollback request =>
      match state.phase request with
      | .holding _ _ _ => some (state.finish request .ended)
      | .updating _ _ _ => some (state.finish request .ended)
      | _ => none
  | .loadUserClaims request =>
      match state.phase request with
      | .verified version =>
          some ((state.mint (.credentials version)).setPhase request .ended)
      | .changed version => some ((state.mint (.change version)).setPhase request .ended)
      | _ => none
  | .expire session => some { state with sessions := state.sessions.erase session }
  | .issueResetToken tokenHash =>
      some { state with
        resetTokens := state.resetTokens.map (fun token => { token with used := true }) ++
          [{ tokenHash, used := false }] }

def credentials (compare : String → String → Bool) :
    StepSystem CredentialState CredentialEvent where
  initial state := state.rowLock = none ∧ state.tokenLock = none ∧ state.sessions = [] ∧
    ∀ request, state.phase request = .idle
  step := credentialStep compare

def CredentialState.Revoked (state : CredentialState) : Prop :=
  ∀ session, state.getSession session = true →
    session.mintedFrom.version = state.row.passwordVersion

/-- After each step of the run, only sessions of the current password are accepted. -/
def RevokedThroughout (compare : String → String → Bool) (start : CredentialState)
    (events : List CredentialEvent) : Prop :=
  (credentials compare).Along (fun state event =>
    ∀ after, (credentials compare).step state event = some after → after.Revoked) start events

/-- The claims are loaded while the password is the one that was checked, or just set. -/
def LoadsInTime (state : CredentialState) : CredentialEvent → Prop
  | .loadUserClaims request =>
      state.row.active = true → ∀ version,
        (state.phase request = .verified version ∨ state.phase request = .changed version) →
        state.row.passwordVersion = version
  | _ => True

/-! What holds however the requests interleave. -/

structure CredentialInv (state : CredentialState) : Prop where
  bounded : ∀ session ∈ state.sessions, session.pwv ≤ state.row.passwordVersion
  revoked : state.Revoked

section

variable {state : CredentialState}

theorem getSession_iff (session : MintedSession) :
    state.getSession session = true ↔ session ∈ state.sessions ∧ state.row.active = true ∧
      state.row.passwordVersion = session.pwv := by
  simp [CredentialState.getSession, CredentialState.userStillValid]

theorem CredentialInv.of_same (inv : CredentialInv state) {after : CredentialState}
    (row : after.row = state.row)
    (sessions : ∀ session ∈ after.sessions, session ∈ state.sessions) : CredentialInv after := by
  constructor
  · intro session member
    rw [row]
    exact inv.bounded session (sessions session member)
  · intro session accepted
    obtain ⟨member, active, version⟩ := (getSession_iff session).1 accepted
    rw [row] at active version ⊢
    exact inv.revoked session
      ((getSession_iff session).2 ⟨sessions session member, active, version⟩)

theorem CredentialInv.of_change (inv : CredentialInv state) {after : CredentialState}
    (version : after.row.passwordVersion = state.row.passwordVersion + 1)
    (sessions : after.sessions = state.sessions) : CredentialInv after := by
  constructor
  · intro session member
    rw [sessions] at member
    have bound := inv.bounded session member
    omega
  · intro session accepted
    obtain ⟨member, _, current⟩ := (getSession_iff session).1 accepted
    rw [sessions] at member
    have bound := inv.bounded session member
    omega

theorem CredentialInv.mint_iff (inv : CredentialInv state) (mintedFrom : MintedFrom) :
    (state.mint mintedFrom).Revoked ↔
      (state.row.active = true → state.row.passwordVersion = mintedFrom.version) := by
  by_cases active : state.row.active = true
  · have minted : state.mint mintedFrom = { state with
        sessions := state.sessions ++ [{ pwv := state.row.passwordVersion, mintedFrom }] } := by
      rw [CredentialState.mint, if_pos active]
    rw [minted]
    constructor
    · intro revoked _
      exact (revoked ⟨state.row.passwordVersion, mintedFrom⟩
        ((getSession_iff _).2 ⟨by simp, active, rfl⟩)).symm
    · intro inTime session accepted
      obtain ⟨member, _, version⟩ := (getSession_iff session).1 accepted
      rcases List.mem_append.1 member with earlier | new
      · exact inv.revoked session ((getSession_iff session).2 ⟨earlier, active, version⟩)
      · rw [List.mem_singleton.1 new]
        exact (inTime active).symm
  · rw [CredentialState.mint, if_neg active]
    exact ⟨fun _ impossible => absurd impossible active, fun _ => inv.revoked⟩

theorem mint_bounded (inv : CredentialInv state) (mintedFrom : MintedFrom) :
    ∀ session ∈ (state.mint mintedFrom).sessions,
      session.pwv ≤ (state.mint mintedFrom).row.passwordVersion := by
  rw [CredentialState.mint]
  split
  · intro session member
    rcases List.mem_append.1 member with earlier | new
    · exact inv.bounded session earlier
    · have minted := List.mem_singleton.1 new
      subst minted
      exact Nat.le_refl _
  · exact inv.bounded

theorem credentialStep_frame {compare : String → String → Bool} {event : CredentialEvent}
    {after : CredentialState} (stepped : credentialStep compare state event = some after)
    (noLoad : ∀ request, event ≠ .loadUserClaims request) :
    (after.row = state.row ∧ ∀ session ∈ after.sessions, session ∈ state.sessions) ∨
      (after.row.passwordVersion = state.row.passwordVersion + 1 ∧
        after.sessions = state.sessions) := by
  have kept : ∀ {other : CredentialState}, some other = some after → other.row = state.row →
      other.sessions = state.sessions → after.row = state.row ∧
        ∀ session ∈ after.sessions, session ∈ state.sessions := by
    intro other same row sessions
    obtain rfl := Option.some.inj same
    exact ⟨row, fun session member => sessions ▸ member⟩
  cases event with
  | login request password =>
      simp only [credentialStep] at stepped
      split at stepped
      · split at stepped
        · exact Or.inl (kept stepped rfl rfl)
        · exact Or.inl (kept stepped rfl rfl)
      · cases stepped
  | changeOwnPassword request session current newHash =>
      simp only [credentialStep] at stepped
      split at stepped
      · split at stepped
        · exact Or.inl (kept stepped rfl rfl)
        · exact Or.inl (kept stepped rfl rfl)
      · cases stepped
  | resetPassword request own newHash =>
      simp only [credentialStep] at stepped
      split at stepped
      · exact Or.inl (kept stepped rfl rfl)
      · cases stepped
  | consumeResetToken request tokenHash newHash =>
      simp only [credentialStep] at stepped
      split at stepped
      · split at stepped
        · exact Or.inl (kept stepped rfl rfl)
        · exact Or.inl (kept stepped rfl rfl)
      · cases stepped
  | lockRow request =>
      simp only [credentialStep] at stepped
      split at stepped
      · split at stepped
        · exact Or.inl (kept stepped rfl rfl)
        · exact Or.inl (kept stepped rfl rfl)
      · exact Or.inl (kept stepped rfl rfl)
      · cases stepped
  | commit request =>
      simp only [credentialStep] at stepped
      split at stepped
      · obtain rfl := Option.some.inj stepped
        exact Or.inr ⟨rfl, rfl⟩
      · cases stepped
  | rollback request =>
      simp only [credentialStep] at stepped
      split at stepped
      · exact Or.inl (kept stepped rfl rfl)
      · exact Or.inl (kept stepped rfl rfl)
      · cases stepped
  | loadUserClaims request => exact absurd rfl (noLoad request)
  | expire session =>
      obtain rfl := Option.some.inj stepped
      exact Or.inl ⟨rfl, fun other member => List.mem_of_mem_erase member⟩
  | issueResetToken tokenHash => exact Or.inl (kept stepped rfl rfl)

theorem CredentialInv.step (inv : CredentialInv state) {compare : String → String → Bool}
    {event : CredentialEvent} {after : CredentialState}
    (stepped : credentialStep compare state event = some after)
    (noLoad : ∀ request, event ≠ .loadUserClaims request) : CredentialInv after := by
  rcases credentialStep_frame stepped noLoad with ⟨row, sessions⟩ | ⟨version, sessions⟩
  · exact inv.of_same row sessions
  · exact inv.of_change version sessions

theorem step_loadUserClaims {compare : String → String → Bool} {request : Nat}
    {after : CredentialState}
    (stepped : credentialStep compare state (.loadUserClaims request) = some after) :
    ∃ mintedFrom : MintedFrom, after = (state.mint mintedFrom).setPhase request .ended ∧
      ∀ version, (state.phase request = .verified version ∨
        state.phase request = .changed version) ↔ mintedFrom.version = version := by
  simp only [credentialStep] at stepped
  split at stepped
  next version phase =>
    refine ⟨.credentials version, (Option.some.inj stepped).symm, ?_⟩
    simp [phase, MintedFrom.version]
  next version phase =>
    refine ⟨.change version, (Option.some.inj stepped).symm, ?_⟩
    simp [phase, MintedFrom.version]
  · cases stepped

theorem CredentialInv.step_iff (inv : CredentialInv state) (compare : String → String → Bool)
    (event : CredentialEvent)
    (possible : ∃ after, credentialStep compare state event = some after) :
    (∀ after, (credentials compare).step state event = some after → after.Revoked) ↔
      LoadsInTime state event := by
  obtain ⟨after, stepped⟩ := possible
  have unique : (∀ other, (credentials compare).step state event = some other → other.Revoked) ↔
      after.Revoked := by
    constructor
    · exact fun all => all after stepped
    · intro revoked other otherStepped
      rw [← Option.some.inj (stepped.symm.trans otherStepped)]
      exact revoked
  rw [unique]
  by_cases loads : ∃ request, event = .loadUserClaims request
  · obtain ⟨request, rfl⟩ := loads
    obtain ⟨mintedFrom, rfl, phase⟩ := step_loadUserClaims stepped
    change (state.mint mintedFrom).Revoked ↔ _
    rw [inv.mint_iff mintedFrom]
    constructor
    · intro inTime active version origin
      rw [← (phase version).1 origin]
      exact inTime active
    · intro inTime active
      exact inTime active _ ((phase _).2 rfl)
  · have noLoad : ∀ request, event ≠ .loadUserClaims request := by
      intro request same
      exact loads ⟨request, same⟩
    constructor
    · intro _
      cases event with
      | loadUserClaims request => exact absurd rfl (noLoad request)
      | _ => trivial
    · exact fun _ => (inv.step stepped noLoad).revoked

end

def LoadsInTimeThroughout (compare : String → String → Bool) (start : CredentialState)
    (events : List CredentialEvent) : Prop :=
  (credentials compare).Along (fun state event =>
    (∃ after, credentialStep compare state event = some after) → LoadsInTime state event)
    start events

/-- In a run from nobody signed in, every accepted session stems from the current password
throughout exactly when no password change commits between the check or the change a request
relies on and its loading of the claims. -/
theorem revoked_throughout_iff (compare : String → String → Bool) {start : CredentialState}
    (initial : (credentials compare).initial start) (events : List CredentialEvent) :
    RevokedThroughout compare start events ↔ LoadsInTimeThroughout compare start events := by
  have inv : CredentialInv start := by
    obtain ⟨_, _, none, _⟩ := initial
    constructor
    · intro session member
      rw [none] at member
      cases member
    · intro session accepted
      have member := ((getSession_iff session).1 accepted).1
      rw [none] at member
      cases member
  refine along_iff_of_kept ?_ ?_ inv events
  · intro state event inv
    by_cases possible : ∃ after, credentialStep compare state event = some after
    · rw [inv.step_iff compare event possible]
      exact ⟨fun inTime _ => inTime, fun inTime => inTime possible⟩
    · constructor
      · exact fun _ impossible => absurd impossible possible
      · exact fun _ after stepped => absurd ⟨after, stepped⟩ possible
  · intro state event after inv revoked stepped
    by_cases loads : ∃ request, event = .loadUserClaims request
    · obtain ⟨request, rfl⟩ := loads
      have loaded : credentialStep compare state (.loadUserClaims request) = some after := stepped
      obtain ⟨mintedFrom, rfl, _⟩ := step_loadUserClaims loaded
      exact ⟨mint_bounded inv mintedFrom, revoked _ stepped⟩
    · exact inv.step stepped fun request same => loads ⟨request, same⟩

def exampleCompare (password hash : String) : Bool := decide (password = hash)

def signedOut : CredentialState where
  row := { passwordHash := "old", passwordVersion := 0, active := true }
  rowLock := none
  resetTokens := []
  tokenLock := none
  sessions := []
  phase := fun _ => .idle

def adminReset : List CredentialEvent := [.resetPassword 1 false "new", .lockRow 1, .commit 1]

/-- The old password is checked before the reset and its session accepted after it. -/
theorem old_password_signs_in :
    ¬ RevokedThroughout exampleCompare signedOut
      (.login 0 "old" :: adminReset ++ [.loadUserClaims 0]) := by
  intro revoked
  have last := ((((revoked.2 _ rfl).2 _ rfl).2 _ rfl).2 _ rfl).1 _ rfl
  exact absurd (last ⟨1, .credentials 0⟩ (by decide)) (by decide)

theorem prompt_login_revoked :
    RevokedThroughout exampleCompare signedOut
      (.login 0 "old" :: .loadUserClaims 0 :: adminReset) := by
  refine (revoked_throughout_iff exampleCompare ⟨rfl, rfl, rfl, fun _ => rfl⟩ _).2 ?_
  refine ⟨fun _ => trivial, ?_⟩
  intro verified stepped
  obtain rfl := Option.some.inj stepped
  refine ⟨?_, ?_⟩
  · rintro _ _ version (origin | origin)
    · exact CredentialPhase.verified.inj origin
    · cases origin
  · intro loaded _
    exact ⟨fun _ => trivial, fun _ _ => ⟨fun _ => trivial, fun _ _ => ⟨fun _ => trivial,
      fun _ _ => trivial⟩⟩⟩

end UssdGateway
