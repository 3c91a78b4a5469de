import UssdGateway.Library.SlidingWindow
import UssdGateway.Portal.AuditLog
import UssdGateway.Portal.PasswordChanges
import UssdGateway.Portal.Viewers

/-!
`actionChangeOwnPassword` for the holders of one session. The failures are counted first, then the
current password is compared, then its failure is recorded: a request does not count the ones that
are still between these steps.
-/

namespace UssdGateway

structure ChangeRequest where
  currentPassword : String
  password : String
  passwordConfirm : String
  -- `bcrypt.hash` of the new password
  newHash : String
  ip : Option String
deriving DecidableEq

/-- What `changeOwnPassword` has returned, and when a password was compared and found wrong. -/
structure ComparedChange where
  request : ChangeRequest
  ok : Bool
  wrongAt : Option Int
deriving DecidableEq

structure GuessSession where
  sub : String
  email : String

structure GuessState where
  now : Int
  row : Option CredentialRow
  -- the newest first
  log : List AuditRow
  passed : List ChangeRequest
  compared : List ComparedChange
  wrong : List Int
deriving DecidableEq

inductive GuessEvent where
  | submit (request : ChangeRequest)
  | compare (request : ChangeRequest)
  | record (change : ComparedChange)
  -- somebody else changes the user
  | changed (row : Option CredentialRow)
  | elapsed (micros : Nat)
deriving DecidableEq

def changePasswordAction : String := "auth.change_password"

def maxFailures : Nat := 5

def windowMinutes : Nat := 15

def guessWindow : Int := windowMinutes * minuteMicros

def maxPasswordBytes : Nat := 72

def newPasswordError (pw confirm : String) : Option String :=
  if utf16Length pw < 8 then some "new password must be ≥8 chars"
  else if maxPasswordBytes < pw.utf8ByteSize then
    some ("new password must be at most " ++ toString maxPasswordBytes ++ " bytes")
  else if pw ≠ confirm then some "new passwords do not match"
  else none

def ChangeRequest.formError (request : ChangeRequest) : Option String :=
  if request.currentPassword = "" then some "enter your current password"
  else
    match newPasswordError request.password request.passwordConfirm with
    | some error => some error
    | none =>
        if request.password = request.currentPassword then
          some "new password must differ from the current one"
        else none

namespace GuessState

variable (session : GuessSession) (state : GuessState)

def failures : Nat :=
  recentAuditCount state.log state.now session.email changePasswordAction .failure windowMinutes

def submit (request : ChangeRequest) : Option String × GuessState :=
  match request.formError with
  | some error => (some error, state)
  | none =>
      if maxFailures ≤ state.failures session then
        (some ("too many wrong attempts — try again in " ++ toString windowMinutes ++ " minutes"),
          { state with
            log :=
              { ts := state.now, actor := some session.email, action := changePasswordAction
                target := some session.sub, outcome := .denied, ip := request.ip
                detail := [("reason", "too_many_failures")] } :: state.log })
      else (none, { state with passed := request :: state.passed })

/-- `changeOwnPassword`, under the lock of the user. Nothing is compared where no active user is
found. -/
def changeOwnPassword (compare : String → String → Bool) (request : ChangeRequest) : GuessState :=
  let waiting := state.passed.erase request
  match state.row with
  | some row =>
      if !row.active then
        { state with
          passed := waiting
          compared := { request, ok := false, wrongAt := none } :: state.compared }
      else if compare request.currentPassword row.passwordHash then
        { state with
          passed := waiting
          compared := { request, ok := true, wrongAt := none } :: state.compared
          row := some { row with
            passwordHash := request.newHash
            passwordVersion := row.passwordVersion + 1 } }
      else
        { state with
          passed := waiting
          compared := { request, ok := false, wrongAt := some state.now } :: state.compared
          wrong := state.now :: state.wrong }
  | none =>
      { state with
        passed := waiting
        compared := { request, ok := false, wrongAt := none } :: state.compared }

def record (change : ComparedChange) : GuessState :=
  { state with
    compared := state.compared.erase change
    log :=
      { ts := state.now, actor := some session.email, action := changePasswordAction
        target := some session.sub, outcome := if change.ok then .success else .failure
        ip := change.request.ip
        detail := if change.ok then [] else [("reason", "bad_current_password")] } :: state.log }

def step (compare : String → String → Bool) : GuessEvent → Option GuessState
  | .submit request => some (state.submit session request).2
  | .compare request =>
      if request ∈ state.passed then some (state.changeOwnPassword compare request) else none
  | .record change => if change ∈ state.compared then some (state.record session change) else none
  | .changed row => some { state with row }
  | .elapsed micros => some { state with now := state.now + micros }

/-- The wrong comparisons after a moment that the log does not have yet. -/
def unrecorded (moment : Int) : Nat :=
  state.compared.countP fun change => change.wrongAt.any fun wrongAt => decide (moment < wrongAt)

/-- A request that passes would also pass if all those between the steps had failed by then. -/
def CountsAll : GuessEvent → Prop
  | .submit request => request.formError = none → state.failures session < maxFailures →
      state.failures session + state.unrecorded (state.now - guessWindow) + state.passed.length <
        maxFailures
  | _ => True

instance decidableCountsAll : (event : GuessEvent) → Decidable (state.CountsAll session event)
  | .submit _ => inferInstanceAs (Decidable (_ → _ → _))
  | .compare _ | .record _ | .changed _ | .elapsed _ => isTrue trivial

end GuessState

def guessRuns (compare : String → String → Bool) (session : GuessSession) :
    StepSystem GuessState GuessEvent where
  initial := fun state => state.passed = [] ∧ state.compared = [] ∧ state.wrong = []
  step := fun state event => state.step session compare event

structure GuessInv (session : GuessSession) (state : GuessState) : Prop where
  logged : ∀ moment, SlidingWindow.after moment state.wrong ≤
    auditCountAfter state.log moment session.email changePasswordAction .failure +
      state.unrecorded moment
  past : ∀ change ∈ state.compared, ∀ wrongAt ∈ change.wrongAt,
    change.ok = false ∧ wrongAt ≤ state.now
  bounded : SlidingWindow.after (state.now - guessWindow) state.wrong + state.passed.length ≤
    maxFailures
  limited : SlidingWindow.Limited maxFailures guessWindow state.wrong

section

variable {compare : String → String → Bool} {session : GuessSession} {state after : GuessState}

theorem GuessInv.submit (inv : GuessInv session state) {request : ChangeRequest}
    (counted : state.CountsAll session (.submit request)) :
    GuessInv session (state.submit session request).2 := by
  rw [GuessState.submit]
  split
  next => exact inv
  next valid =>
    split
    next =>
      refine ⟨?_, inv.past, inv.bounded, inv.limited⟩
      intro moment
      have before := inv.logged moment
      simp only [auditCountAfter_cons]
      exact Nat.le_trans before (Nat.add_le_add_right (Nat.le_add_right _ _) _)
    next few =>
      refine ⟨inv.logged, inv.past, ?_, inv.limited⟩
      have room := counted valid (Nat.lt_of_not_le few)
      have recent := inv.logged (state.now - guessWindow)
      rw [GuessState.failures, recentAuditCount] at room
      change SlidingWindow.after (state.now - guessWindow) state.wrong +
        (state.passed.length + 1) ≤ maxFailures
      change auditCountAfter state.log (state.now - guessWindow) _ _ _ + _ + _ < _ at room
      omega

theorem GuessInv.compared (inv : GuessInv session state) {request : ChangeRequest}
    (waiting : request ∈ state.passed) :
    GuessInv session (state.changeOwnPassword compare request) := by
  have fewer : (state.passed.erase request).length + 1 = state.passed.length := by
    rw [List.length_erase_of_mem waiting]
    have some_passed := List.length_pos_of_mem waiting
    omega
  have bounded := inv.bounded
  -- No password was compared, or the right one.
  have silent : ∀ ok row, GuessInv session
      { state with
        passed := state.passed.erase request
        compared := { request, ok, wrongAt := none } :: state.compared
        row } := by
    intro ok row
    refine ⟨?_, ?_, ?_, inv.limited⟩
    · intro moment
      have before := inv.logged moment
      simpa [GuessState.unrecorded, List.countP_cons] using before
    · intro change member
      rcases List.mem_cons.1 member with rfl | earlier
      · nofun
      · exact inv.past change earlier
    · change SlidingWindow.after (state.now - guessWindow) state.wrong +
        (state.passed.erase request).length ≤ maxFailures
      omega
  rw [GuessState.changeOwnPassword]
  split
  next row found =>
    split
    next => exact found ▸ silent false state.row
    next =>
      split
      next => exact silent true _
      next =>
        refine ⟨?_, ?_, ?_, ?_, inv.limited⟩
        · intro moment
          have before := inv.logged moment
          rw [SlidingWindow.after_cons]
          simp only [GuessState.unrecorded, List.countP_cons, Option.any_some, decide_eq_true_eq]
          rw [← Nat.add_assoc]
          exact Nat.add_le_add_right before _
        · intro change member
          rcases List.mem_cons.1 member with rfl | earlier
          · rintro _ ⟨⟩
            exact ⟨rfl, Int.le_refl _⟩
          · exact inv.past change earlier
        · rw [SlidingWindow.after_cons]
          change SlidingWindow.after (state.now - guessWindow) state.wrong + _ +
            (state.passed.erase request).length ≤ maxFailures
          split <;> omega
        · omega
  next => exact silent false state.row

theorem GuessInv.recorded (inv : GuessInv session state) {change : ComparedChange}
    (member : change ∈ state.compared) : GuessInv session (state.record session change) := by
  have same := List.perm_cons_erase member
  refine ⟨?_, ?_, inv.bounded, inv.limited⟩
  · intro moment
    have before := inv.logged moment
    rw [GuessState.unrecorded, same.countP_eq, List.countP_cons] at before
    simp only [GuessState.record, auditCountAfter_cons, GuessState.unrecorded, true_and]
    rcases late : change.wrongAt.any fun wrongAt => decide (moment < wrongAt) with _ | _
    · rw [late, if_neg Bool.false_ne_true] at before
      omega
    · obtain ⟨wrongAt, wrong, later⟩ := (Option.any_eq_true _ _).1 late
      obtain ⟨failed, before_now⟩ := inv.past change member wrongAt wrong
      have recent : moment < state.now := Int.lt_of_lt_of_le (of_decide_eq_true later) before_now
      rw [late, if_pos rfl] at before
      rw [failed, if_pos ⟨rfl, recent⟩]
      omega
  · intro other kept
    exact inv.past other (List.mem_of_mem_erase kept)

theorem GuessInv.kept (inv : GuessInv session state) {event : GuessEvent}
    (counted : state.CountsAll session event)
    (stepped : (guessRuns compare session).step state event = some after) :
    GuessInv session after := by
  change state.step session compare event = some after at stepped
  cases event with
  | submit request => exact Option.some.inj stepped ▸ inv.submit counted
  | compare request =>
      obtain ⟨waiting, moved⟩ := Option.ite_none_right_eq_some.1 stepped
      exact Option.some.inj moved ▸ inv.compared waiting
  | record change =>
      obtain ⟨member, moved⟩ := Option.ite_none_right_eq_some.1 stepped
      exact Option.some.inj moved ▸ inv.recorded member
  | changed row => exact Option.some.inj stepped ▸ ⟨inv.logged, inv.past, inv.bounded, inv.limited⟩
  | elapsed micros =>
      rw [← Option.some.inj stepped]
      refine ⟨inv.logged, ?_, ?_, inv.limited⟩
      · intro change member wrongAt wrong
        obtain ⟨failed, before⟩ := inv.past change member wrongAt wrong
        refine ⟨failed, ?_⟩
        change wrongAt ≤ state.now + micros
        omega
      · have later : state.now - guessWindow ≤ state.now + micros - guessWindow := by omega
        exact Nat.le_trans
          (Nat.add_le_add_right (SlidingWindow.after_mono later state.wrong) _) inv.bounded

theorem guess_inv
    (reached : (guessRuns compare session).ReachableBy
      (fun state event => state.CountsAll session event) state) : GuessInv session state := by
  refine reached.invariant ?_ ?_
  · rintro start ⟨passed, compared, wrong⟩
    refine ⟨?_, ?_, ?_, ?_⟩
    · rw [wrong]
      exact fun _ => Nat.zero_le _
    · rw [compared]
      nofun
    · rw [wrong, passed]
      exact Nat.zero_le _
    · rw [wrong]
      trivial
  · intro state event after inv counted stepped
    exact inv.kept counted stepped

end

/-- Where every request that passes has counted the ones between the steps too, no window of
fifteen minutes has more wrong comparisons than the limit. -/
theorem wrong_comparisons_limited {compare : String → String → Bool} {session : GuessSession}
    {state : GuessState}
    (reached : (guessRuns compare session).ReachableBy
      (fun state event => state.CountsAll session event) state) (begins : Int) :
    SlidingWindow.within guessWindow begins state.wrong ≤ maxFailures :=
  (guess_inv reached).limited.within_le begins

def plainCompare (password hash : String) : Bool := decide (password = hash)

def stolenSession : GuessSession where
  sub := "1"
  email := "user@example.com"

def guess (password : String) : ChangeRequest where
  currentPassword := password
  password := "new password"
  passwordConfirm := "new password"
  newHash := "new hash"
  ip := none

def guessedState : GuessState where
  now := 0
  row := some ⟨"right", 0, true⟩
  log := []
  passed := []
  compared := []
  wrong := []

def guesses : List ChangeRequest :=
  [guess "a", guess "b", guess "c", guess "d", guess "e", guess "f"]

def wrongChange (request : ChangeRequest) : ComparedChange where
  request := request
  ok := false
  wrongAt := some 0

def guessedInTurn : List GuessEvent :=
  (guesses.take 5).flatMap (fun request =>
    [.submit request, .compare request, .record (wrongChange request)]) ++ [.submit (guess "f")]

def guessedAtOnce : List GuessEvent :=
  guesses.map .submit ++ guesses.map .compare ++
    guesses.map fun request => .record (wrongChange request)

theorem guessedState_initial (compare : String → String → Bool) (session : GuessSession) :
    (guessRuns compare session).initial guessedState :=
  ⟨rfl, rfl, rfl⟩

theorem sixth_guess_refused :
    ∃ state, (guessRuns plainCompare stolenSession).run guessedState guessedInTurn = some state ∧
      state.passed = [] ∧ state.wrong.length = 5 ∧
      SlidingWindow.within guessWindow 0 state.wrong ≤ maxFailures := by
  have evaluated : ((guessRuns plainCompare stolenSession).run guessedState guessedInTurn).any
      (fun state => decide (state.passed = []) && decide (state.wrong.length = 5)) = true := by
    decide +kernel
  simp only [Option.any_eq_true, Bool.and_eq_true, decide_eq_true_eq] at evaluated
  obtain ⟨state, ran, passed, wrong⟩ := evaluated
  have along : (guessRuns plainCompare stolenSession).Along
      (fun state event => state.CountsAll stolenSession event) guessedState guessedInTurn := by
    decide +kernel
  exact ⟨state, ran, passed, wrong, wrong_comparisons_limited
    (.along (.start (guessedState_initial _ _)) along ran) 0⟩

theorem six_guesses_at_once :
    ∃ state, (guessRuns plainCompare stolenSession).Reachable state ∧
      SlidingWindow.within guessWindow 0 state.wrong = 6 ∧ maxFailures = 5 := by
  have evaluated : ((guessRuns plainCompare stolenSession).run guessedState guessedAtOnce).any
      (fun state => decide (SlidingWindow.within guessWindow 0 state.wrong = 6)) = true := by
    decide +kernel
  obtain ⟨state, ran, six⟩ := (Option.any_eq_true _ _).1 evaluated
  exact ⟨state, .run (.start (guessedState_initial _ _)) ran, of_decide_eq_true six, rfl⟩

end UssdGateway
