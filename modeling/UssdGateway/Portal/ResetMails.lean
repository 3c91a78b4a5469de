import UssdGateway.Portal.ForgotPassword

/-!
How many reset mails an account gets within an hour. What a request has counted may have missed
the requests that overtake it, and every mail to an address that is stored in another spelling.
-/

namespace UssdGateway

def ForgotSettings.KeysStored (settings : ForgotSettings) (users : UserTable) : Prop :=
  settings.mailEnabled = true → ∀ user ∈ users.rows, ∀ typed,
    ForgotSettings.accepts (settings.typedEmail typed) = true →
      settings.matchesEmail (settings.typedEmail typed) user = true →
      user.email = settings.typedEmail typed

def mailWindow : Int := 60 * minuteMicros

def ForgotSettings.findsUser (settings : ForgotSettings) (users : UserTable) (userId : Nat)
    (request : ForgotRequest) : Bool :=
  (settings.findActiveUserByEmail users (settings.typedEmail request.typed) request.pick).any
    fun user => decide (user.id = userId)

def FoundAccount.isOf (userId : Nat) (account : FoundAccount) : Bool :=
  decide (account.user.id = userId)

namespace ForgotState

variable (settings : ForgotSettings) (users : UserTable) (state : ForgotState)

def mailTimes (userId : Nat) : List Int :=
  (state.mails.filter fun mail => decide (mail.userId = userId)).map ResetMail.sentAt

def answering (userId : Nat) : Nat :=
  state.finding.countP (settings.findsUser users userId) +
    state.found.countP (FoundAccount.isOf userId) + state.recorded.countP (FoundAccount.isOf userId)

/-- A request that passes would also pass if it counted the mails of the last hour, and the
requests under way as if they were sent. -/
def CountsMails : ForgotEvent → Prop
  | .counts request =>
      state.recentlySent (settings.typedEmail request.typed) < perEmailPerHour →
        ∀ user, settings.findActiveUserByEmail users (settings.typedEmail request.typed)
            request.pick = some user →
          SlidingWindow.after (state.now - mailWindow) (state.mailTimes user.id) +
            state.answering settings users user.id < perEmailPerHour
  | _ => True

/-- Requests do not overtake each other, and a mail goes out as soon as its row is written. -/
def InTurn : ForgotEvent → Prop
  | .counts _ => state.finding = [] ∧ state.found = [] ∧ state.recorded = []
  | .elapsed _ => state.recorded = []
  | _ => True

instance decidableInTurn : (event : ForgotEvent) → Decidable (state.InTurn event)
  | .counts _ => inferInstanceAs (Decidable (_ ∧ _ ∧ _))
  | .elapsed _ => inferInstanceAs (Decidable (_ = _))
  | .asks _ | .finds _ | .findFails _ | .issueFails _ | .records _ | .sends _ | .sendFails _ _ _
  | .writes _ => isTrue trivial

def MailsLimited : Prop :=
  ∀ id begins, SlidingWindow.within mailWindow begins (state.mailTimes id) ≤ perEmailPerHour

end ForgotState

section

variable {settings : ForgotSettings} {users : UserTable} {state after : ForgotState}
  {request : ForgotRequest} {account : FoundAccount} {event : ForgotEvent}

theorem mem_findActiveUserByEmail {email : String} {pick : Nat} {user : PortalUserRow}
    (found : settings.findActiveUserByEmail users email pick = some user) :
    user ∈ users.rows ∧ settings.matchesEmail email user = true :=
  List.mem_filter.1 (List.mem_of_getElem? found)

theorem findActiveUserByEmail_picks {email : String} {user : PortalUserRow}
    (member : user ∈ users.rows) (matched : settings.matchesEmail email user = true) :
    ∃ pick, settings.findActiveUserByEmail users email pick = some user := by
  obtain ⟨pick, picked⟩ := List.getElem?_of_mem (List.mem_filter.2 ⟨member, matched⟩)
  obtain ⟨bound, _⟩ := List.getElem?_eq_some_iff.1 picked
  exact ⟨pick, by rw [ForgotSettings.findActiveUserByEmail, Nat.mod_eq_of_lt bound, picked]⟩

theorem countP_erase_add {α : Type} [DecidableEq α] (holds : α → Bool) {item : α} {items : List α}
    (member : item ∈ items) :
    (items.erase item).countP holds + (if holds item then 1 else 0) = items.countP holds := by
  rw [(List.perm_cons_erase member).countP_eq holds, List.countP_cons]

theorem countP_erase_le {α : Type} [DecidableEq α] (holds : α → Bool) (item : α) (items : List α) :
    (items.erase item).countP holds ≤ items.countP holds :=
  (List.erase_sublist).countP_le

structure MailInv (settings : ForgotSettings) (users : UserTable) (state : ForgotState) : Prop where
  bounded : ∀ id, SlidingWindow.after (state.now - mailWindow) (state.mailTimes id) +
    state.answering settings users id ≤ perEmailPerHour
  limited : ∀ id, SlidingWindow.Limited perEmailPerHour mailWindow (state.mailTimes id)

theorem MailInv.framed (inv : MailInv settings users state) (mails : after.mails = state.mails)
    (later : state.now ≤ after.now)
    (fewer : ∀ id, after.answering settings users id ≤ state.answering settings users id) :
    MailInv settings users after := by
  refine ⟨?_, ?_⟩
  · intro id
    have behind := SlidingWindow.after_mono (show state.now - mailWindow ≤ after.now - mailWindow by
      omega) (state.mailTimes id)
    have before := inv.bounded id
    have under_way := fewer id
    rw [ForgotState.mailTimes, mails]
    change SlidingWindow.after (after.now - mailWindow) (state.mailTimes id) + _ ≤ _
    omega
  · intro id
    rw [ForgotState.mailTimes, mails]
    exact inv.limited id

theorem MailInv.asks (inv : MailInv settings users state) (request : ForgotRequest) :
    MailInv settings users (state.asks settings request).2 := by
  have same : (state.asks settings request).2.mails = state.mails ∧
      (state.asks settings request).2.now = state.now ∧
      (state.asks settings request).2.finding = state.finding ∧
      (state.asks settings request).2.found = state.found ∧
      (state.asks settings request).2.recorded = state.recorded := by
    rw [ForgotState.asks]
    repeat' split
    all_goals exact ⟨rfl, rfl, rfl, rfl, rfl⟩
  obtain ⟨mails, now, finding, found, recorded⟩ := same
  refine inv.framed mails (Int.le_of_eq now.symm) ?_
  intro id
  rw [ForgotState.answering, ForgotState.answering, finding, found, recorded]

theorem MailInv.counts (inv : MailInv settings users state)
    (counted : state.CountsMails settings users (.counts request)) :
    MailInv settings users (state.counts settings request).2 := by
  rw [ForgotState.counts]
  dsimp only
  split
  next => exact inv.framed rfl (Int.le_refl _) fun _ => Nat.le_refl _
  next few =>
    refine ⟨?_, inv.limited⟩
    intro id
    have before := inv.bounded id
    have passed := counted (Nat.lt_of_not_le few)
    change SlidingWindow.after (state.now - mailWindow) (state.mailTimes id) +
      ((request :: state.finding).countP _ + state.found.countP _ + state.recorded.countP _) ≤ _
    rw [List.countP_cons]
    rcases finds : settings.findsUser users id request with _ | _
    · exact before
    · obtain ⟨user, found, own⟩ := (Option.any_eq_true _ _).1 finds
      obtain rfl := of_decide_eq_true own
      have room := passed user found
      rw [ForgotState.answering] at room
      rw [if_pos rfl]
      omega

theorem MailInv.finds (inv : MailInv settings users state) (waiting : request ∈ state.finding) :
    MailInv settings users (state.finds settings users request).2 := by
  rw [ForgotState.finds]
  dsimp only
  split
  next =>
    refine inv.framed rfl (Int.le_refl _) ?_
    intro id
    have fewer := countP_erase_le (settings.findsUser users id) request state.finding
    simp only [ForgotState.answering, ForgotState.note]
    omega
  next user found =>
    refine inv.framed rfl (Int.le_refl _) ?_
    intro id
    have moved := countP_erase_add (settings.findsUser users id) waiting
    have same : settings.findsUser users id request = FoundAccount.isOf id ⟨request, user⟩ := by
      rw [ForgotSettings.findsUser, found]
      rfl
    rw [same] at moved
    simp only [ForgotState.answering, List.countP_cons]
    omega

theorem MailInv.records (inv : MailInv settings users state) (waiting : account ∈ state.found) :
    MailInv settings users (state.records account) := by
  refine inv.framed rfl (Int.le_refl _) ?_
  intro id
  have moved := countP_erase_add (FoundAccount.isOf id) waiting
  simp only [ForgotState.answering, ForgotState.records, List.countP_cons]
  omega

theorem mailTimes_sends (id : Nat) :
    (state.sends settings account).2.mailTimes id =
      if account.isOf id then state.now :: state.mailTimes id else state.mailTimes id := by
  rw [ForgotState.mailTimes, ForgotState.sends, List.filter_cons]
  by_cases same : account.user.id = id
  · simp [same, resetMailTo, FoundAccount.isOf, ForgotState.mailTimes]
  · simp [same, resetMailTo, FoundAccount.isOf, ForgotState.mailTimes]

theorem MailInv.sends (inv : MailInv settings users state) (waiting : account ∈ state.recorded) :
    MailInv settings users (state.sends settings account).2 := by
  have room : ∀ id, SlidingWindow.after (state.now - mailWindow) (state.mailTimes id) +
      (state.sends settings account).2.answering settings users id +
        (if account.isOf id then 1 else 0) ≤ perEmailPerHour := by
    intro id
    have before := inv.bounded id
    have moved := countP_erase_add (FoundAccount.isOf id) waiting
    simp only [ForgotState.answering, ForgotState.sends] at before ⊢
    omega
  refine ⟨?_, ?_⟩
  · intro id
    have left := room id
    rw [mailTimes_sends]
    change SlidingWindow.after (state.now - mailWindow) _ + _ ≤ _
    split at left
    next own =>
      have recent : state.now - mailWindow < state.now := by
        rw [mailWindow, minuteMicros]
        omega
      rw [if_pos own, SlidingWindow.after_cons, if_pos recent]
      omega
    next other =>
      rw [if_neg other]
      omega
  · intro id
    have left := room id
    rw [mailTimes_sends]
    split at left
    next own =>
      rw [if_pos own]
      refine ⟨?_, inv.limited id⟩
      omega
    next other =>
      rw [if_neg other]
      exact inv.limited id

theorem MailInv.kept (inv : MailInv settings users state)
    (counted : state.CountsMails settings users event)
    (stepped : (forgotRuns settings users).step state event = some after) :
    MailInv settings users after := by
  change state.step settings users event = some after at stepped
  cases event with
  | asks request => exact Option.some.inj stepped ▸ inv.asks request
  | counts request =>
      obtain ⟨_, moved⟩ := Option.ite_none_right_eq_some.1 stepped
      exact Option.some.inj moved ▸ inv.counts counted
  | finds request =>
      obtain ⟨waiting, moved⟩ := Option.ite_none_right_eq_some.1 stepped
      exact Option.some.inj moved ▸ inv.finds waiting
  | findFails request =>
      obtain ⟨_, moved⟩ := Option.ite_none_right_eq_some.1 stepped
      rw [← Option.some.inj moved]
      refine inv.framed rfl (Int.le_refl _) ?_
      intro id
      have fewer := countP_erase_le (settings.findsUser users id) request state.finding
      simp only [ForgotState.answering]
      omega
  | issueFails account =>
      obtain ⟨_, moved⟩ := Option.ite_none_right_eq_some.1 stepped
      rw [← Option.some.inj moved]
      refine inv.framed rfl (Int.le_refl _) ?_
      intro id
      have fewer := countP_erase_le (FoundAccount.isOf id) account state.found
      simp only [ForgotState.answering]
      omega
  | records account =>
      obtain ⟨waiting, moved⟩ := Option.ite_none_right_eq_some.1 stepped
      exact Option.some.inj moved ▸ inv.records waiting
  | sends account =>
      obtain ⟨waiting, moved⟩ := Option.ite_none_right_eq_some.1 stepped
      exact Option.some.inj moved ▸ inv.sends waiting
  | sendFails mail ip error =>
      obtain ⟨_, moved⟩ := Option.ite_none_right_eq_some.1 stepped
      rw [← Option.some.inj moved]
      exact inv.framed rfl (Int.le_refl _) fun _ => Nat.le_refl _
  | writes row =>
      obtain ⟨_, moved⟩ := Option.ite_none_right_eq_some.1 stepped
      rw [← Option.some.inj moved]
      exact inv.framed rfl (Int.le_refl _) fun _ => Nat.le_refl _
  | elapsed micros =>
      rw [← Option.some.inj stepped]
      refine inv.framed rfl ?_ fun _ => Nat.le_refl _
      change state.now ≤ state.now + micros
      omega

theorem ForgotState.mailTimes_nil (unsent : state.mails = []) (id : Nat) :
    state.mailTimes id = [] := by
  rw [ForgotState.mailTimes, unsent]
  rfl

theorem mails_limited
    (reached : (forgotRuns settings users).ReachableBy
      (fun state event => state.CountsMails settings users event) state) :
    MailInv settings users state := by
  refine reached.invariant ?_ ?_
  · rintro start ⟨mails, _, finding, found, recorded, _⟩
    refine ⟨?_, ?_⟩
    · intro id
      rw [start.mailTimes_nil mails, ForgotState.answering, finding, found, recorded]
      exact Nat.zero_le _
    · intro id
      rw [start.mailTimes_nil mails]
      trivial
  · intro state event after inv counted stepped
    exact inv.kept counted stepped

/-! Requests in turn: no mail is ahead of its row. -/

structure InTurnInv (settings : ForgotSettings) (users : UserTable) (state : ForgotState) :
    Prop where
  accepted : ∀ request ∈ state.counting, settings.mailEnabled = true ∧
    ForgotSettings.accepts (settings.typedEmail request.typed) = true
  stored : (∀ account ∈ state.found, account.user ∈ users.rows) ∧
    ∀ account ∈ state.recorded, account.user ∈ users.rows
  logged : ∀ user ∈ users.rows, ∀ moment,
    SlidingWindow.after moment (state.mailTimes user.id) +
        (if moment < state.now then state.recorded.countP (FoundAccount.isOf user.id) else 0) ≤
      auditCountAfter state.log moment user.email resetRequestAction .success

theorem InTurnInv.framed (inv : InTurnInv settings users state) (mails : after.mails = state.mails)
    (now : after.now = state.now) (recorded : after.recorded = state.recorded)
    (log : after.log = state.log ∨ ∃ row, after.log = row :: state.log)
    (accepted : ∀ request ∈ after.counting, settings.mailEnabled = true ∧
      ForgotSettings.accepts (settings.typedEmail request.typed) = true)
    (found : ∀ account ∈ after.found, account.user ∈ users.rows) :
    InTurnInv settings users after := by
  refine ⟨accepted, ⟨found, recorded ▸ inv.stored.2⟩, ?_⟩
  intro user member moment
  have before := inv.logged user member moment
  rw [ForgotState.mailTimes, mails, now, recorded]
  refine Nat.le_trans before ?_
  rcases log with same | ⟨row, added⟩
  · rw [same]
  · rw [added, auditCountAfter_cons]
    exact Nat.le_add_right _ _

theorem InTurnInv.asks (inv : InTurnInv settings users state) (request : ForgotRequest) :
    InTurnInv settings users (state.asks settings request).2 := by
  have same : ∀ noted : ForgotState, noted = { state with writing := noted.writing } →
      InTurnInv settings users noted := by
    intro noted frame
    rw [frame]
    exact inv.framed rfl rfl rfl (Or.inl rfl) inv.accepted inv.stored.1
  rw [ForgotState.asks]
  split
  next => exact same _ rfl
  next =>
    split
    next => exact inv
    next enabled =>
      split
      next => exact same _ rfl
      next =>
        split
        next => exact inv
        next valid =>
          simp only [Bool.not_eq_true', Bool.not_eq_false] at enabled valid
          refine inv.framed rfl rfl rfl (Or.inl rfl) ?_ inv.stored.1
          intro other member
          rcases List.mem_cons.1 member with rfl | earlier
          · exact ⟨enabled, valid⟩
          · exact inv.accepted other earlier

theorem InTurnInv.counts (inv : InTurnInv settings users state) (request : ForgotRequest) :
    InTurnInv settings users (state.counts settings request).2 := by
  have left : ∀ other ∈ state.counting.erase request, settings.mailEnabled = true ∧
      ForgotSettings.accepts (settings.typedEmail other.typed) = true :=
    fun other member => inv.accepted other (List.mem_of_mem_erase member)
  rw [ForgotState.counts]
  dsimp only
  split
  · exact inv.framed rfl rfl rfl (Or.inl rfl) left inv.stored.1
  · exact inv.framed rfl rfl rfl (Or.inl rfl) left inv.stored.1

theorem InTurnInv.finds (inv : InTurnInv settings users state) (request : ForgotRequest) :
    InTurnInv settings users (state.finds settings users request).2 := by
  rw [ForgotState.finds]
  dsimp only
  split
  next => exact inv.framed rfl rfl rfl (Or.inl rfl) inv.accepted inv.stored.1
  next user found =>
    refine inv.framed rfl rfl rfl (Or.inl rfl) inv.accepted ?_
    intro account member
    rcases List.mem_cons.1 member with rfl | earlier
    · exact (mem_findActiveUserByEmail found).1
    · exact inv.stored.1 account earlier

theorem InTurnInv.records (inv : InTurnInv settings users state)
    (waiting : account ∈ state.found) : InTurnInv settings users (state.records account) := by
  have member := inv.stored.1 account waiting
  refine ⟨inv.accepted, ⟨?_, ?_⟩, ?_⟩
  · intro other kept
    exact inv.stored.1 other (List.mem_of_mem_erase kept)
  · intro other kept
    rcases List.mem_cons.1 kept with rfl | earlier
    · exact member
    · exact inv.stored.2 other earlier
  · intro user userMember moment
    have before := inv.logged user userMember moment
    change SlidingWindow.after moment (state.mailTimes user.id) +
      (if moment < state.now then (account :: state.recorded).countP _ else 0) ≤
        auditCountAfter (_ :: state.log) moment user.email resetRequestAction .success
    rw [auditCountAfter_cons]
    by_cases recent : moment < state.now
    · rw [if_pos recent] at before ⊢
      rw [List.countP_cons]
      by_cases own : account.isOf user.id = true
      · have same := users.eq_of_key member userMember (of_decide_eq_true own)
        have counted : some account.user.email = some user.email := by rw [same]
        rw [if_pos own, if_pos ⟨counted, rfl, rfl, recent⟩]
        omega
      · rw [if_neg own]
        omega
    · rw [if_neg recent] at before ⊢
      omega

theorem InTurnInv.sends (inv : InTurnInv settings users state)
    (waiting : account ∈ state.recorded) :
    InTurnInv settings users (state.sends settings account).2 := by
  refine ⟨inv.accepted, ⟨inv.stored.1, ?_⟩, ?_⟩
  · intro other kept
    exact inv.stored.2 other (List.mem_of_mem_erase kept)
  · intro user member moment
    have before := inv.logged user member moment
    have moved := countP_erase_add (FoundAccount.isOf user.id) waiting
    rw [mailTimes_sends]
    change SlidingWindow.after moment _ +
      (if moment < state.now then (state.recorded.erase account).countP _ else 0) ≤
        auditCountAfter state.log moment user.email resetRequestAction .success
    by_cases own : account.isOf user.id = true
    · rw [if_pos own] at moved
      rw [if_pos own, SlidingWindow.after_cons]
      by_cases recent : moment < state.now
      · rw [if_pos recent] at before
        rw [if_pos recent, if_pos recent]
        omega
      · rw [if_neg recent] at before
        rw [if_neg recent, if_neg recent]
        omega
    · rw [if_neg own, Nat.add_zero] at moved
      rw [if_neg own, moved]
      exact before

theorem InTurnInv.kept (inv : InTurnInv settings users state) (turn : state.InTurn event)
    (stepped : (forgotRuns settings users).step state event = some after) :
    InTurnInv settings users after := by
  change state.step settings users event = some after at stepped
  cases event with
  | asks request => exact Option.some.inj stepped ▸ inv.asks request
  | counts request =>
      obtain ⟨_, moved⟩ := Option.ite_none_right_eq_some.1 stepped
      exact Option.some.inj moved ▸ inv.counts request
  | finds request =>
      obtain ⟨_, moved⟩ := Option.ite_none_right_eq_some.1 stepped
      exact Option.some.inj moved ▸ inv.finds request
  | findFails request =>
      obtain ⟨_, moved⟩ := Option.ite_none_right_eq_some.1 stepped
      rw [← Option.some.inj moved]
      exact inv.framed rfl rfl rfl (Or.inl rfl) inv.accepted inv.stored.1
  | issueFails account =>
      obtain ⟨_, moved⟩ := Option.ite_none_right_eq_some.1 stepped
      rw [← Option.some.inj moved]
      refine inv.framed rfl rfl rfl (Or.inl rfl) inv.accepted ?_
      intro other kept
      exact inv.stored.1 other (List.mem_of_mem_erase kept)
  | records account =>
      obtain ⟨waiting, moved⟩ := Option.ite_none_right_eq_some.1 stepped
      exact Option.some.inj moved ▸ inv.records waiting
  | sends account =>
      obtain ⟨waiting, moved⟩ := Option.ite_none_right_eq_some.1 stepped
      exact Option.some.inj moved ▸ inv.sends waiting
  | sendFails mail ip error =>
      obtain ⟨_, moved⟩ := Option.ite_none_right_eq_some.1 stepped
      rw [← Option.some.inj moved]
      exact inv.framed rfl rfl rfl (Or.inl rfl) inv.accepted inv.stored.1
  | writes row =>
      obtain ⟨_, moved⟩ := Option.ite_none_right_eq_some.1 stepped
      rw [← Option.some.inj moved]
      exact inv.framed rfl rfl rfl (Or.inr ⟨_, rfl⟩) inv.accepted inv.stored.1
  | elapsed micros =>
      rw [← Option.some.inj stepped]
      refine ⟨inv.accepted, inv.stored, ?_⟩
      intro user member moment
      have before := inv.logged user member moment
      have none_due : state.recorded = [] := turn
      rw [none_due, List.countP_nil, ite_self] at before
      change SlidingWindow.after moment (state.mailTimes user.id) +
        (if moment < state.now + micros then state.recorded.countP _ else 0) ≤ _
      rw [none_due, List.countP_nil, ite_self]
      exact before

theorem InTurnInv.countsMails (inv : InTurnInv settings users state)
    (keys : settings.KeysStored users) (turn : state.InTurn event)
    (stepped : (forgotRuns settings users).step state event = some after) :
    state.CountsMails settings users event := by
  cases event with
  | counts request =>
      intro few user picked
      obtain ⟨waiting, _⟩ := Option.ite_none_right_eq_some.1 stepped
      obtain ⟨enabled, valid⟩ := inv.accepted request waiting
      obtain ⟨member, matched⟩ := mem_findActiveUserByEmail picked
      obtain ⟨finding, found, recorded⟩ := turn
      have logged := inv.logged user member (state.now - mailWindow)
      rw [recorded, List.countP_nil, ite_self] at logged
      rw [ForgotState.answering, finding, found, recorded]
      rw [← keys enabled user member request.typed valid matched] at few
      exact Nat.lt_of_le_of_lt logged few
  | asks | finds | findFails | issueFails | records | sends | sendFails | writes | elapsed =>
      trivial

theorem countsMails_of_inTurn (keys : settings.KeysStored users)
    (reached : (forgotRuns settings users).ReachableBy (fun state event => state.InTurn event)
      state) :
    InTurnInv settings users state ∧ (forgotRuns settings users).ReachableBy
      (fun state event => state.CountsMails settings users event) state := by
  induction reached with
  | @start state initial =>
      refine ⟨?_, .start initial⟩
      obtain ⟨mails, counting, _, found, recorded, _⟩ := initial
      refine ⟨?_, ?_, ?_⟩
      · rw [counting]
        exact fun _ member => absurd member List.not_mem_nil
      · rw [found, recorded]
        exact ⟨fun _ member => absurd member List.not_mem_nil,
          fun _ member => absurd member List.not_mem_nil⟩
      · intro user _ moment
        rw [state.mailTimes_nil mails, recorded, List.countP_nil, ite_self]
        exact Nat.zero_le _
  | next _ turn stepped ih =>
      exact ⟨ih.1.kept turn stepped, .next ih.2 (ih.1.countsMails keys turn stepped) stepped⟩

structure Unheard (email : String) (state : ForgotState) : Prop where
  counting : state.counting = []
  finding : state.finding = []
  found : state.found = []
  recorded : state.recorded = []
  uncounted : ∀ row ∈ state.log, row.actor ≠ some email

theorem Unheard.answered {user : PortalUserRow} (enabled : settings.mailEnabled = true)
    (origin : request.sameOrigin = true) (anonymous : request.ip = none)
    (accepted : ForgotSettings.accepts (settings.typedEmail request.typed) = true)
    (picked : settings.findActiveUserByEmail users (settings.typedEmail request.typed)
      request.pick = some user)
    (unstored : user.email ≠ settings.typedEmail request.typed)
    (unheard : Unheard (settings.typedEmail request.typed) state)
    (reached : (forgotRuns settings users).ReachableBy (fun state event => state.InTurn event)
      state) :
    ∃ after, (forgotRuns settings users).ReachableBy (fun state event => state.InTurn event) after ∧
      Unheard (settings.typedEmail request.typed) after ∧ after.now = state.now ∧
      after.mailTimes user.id = state.now :: state.mailTimes user.id := by
  obtain ⟨counting, finding, found, recorded, uncounted⟩ := unheard
  have unlimited : recentAuditCountByIp state.log state.now none resetRequestAction 60 = 0 := rfl
  have none_counted : state.recentlySent (settings.typedEmail request.typed) = 0 := by
    rw [ForgotState.recentlySent, recentAuditCount, auditCountAfter, List.countP_eq_zero]
    intro row member
    simp [uncounted row member]
  let account : FoundAccount := ⟨request, user⟩
  let asked : ForgotState := { state with counting := [request] }
  let counted : ForgotState := { state with finding := [request] }
  let looked : ForgotState := { state with found := [account] }
  let written : ForgotState := { state.records account with found := [] }
  have asks : (forgotRuns settings users).step state (.asks request) = some asked := by
    change some (state.asks settings request).2 = some asked
    simp [ForgotState.asks, origin, enabled, anonymous, accepted, unlimited, perIpPerHour,
      counting, asked]
  have counts : (forgotRuns settings users).step asked (.counts request) = some counted := by
    have few : ¬ perEmailPerHour ≤ asked.recentlySent (settings.typedEmail request.typed) := by
      change ¬ perEmailPerHour ≤ state.recentlySent _
      rw [none_counted]
      decide
    change (if request ∈ [request] then some (asked.counts settings request).2 else none) = _
    rw [if_pos List.mem_cons_self, ForgotState.counts]
    dsimp only
    rw [if_neg few]
    simp [asked, counted, counting, finding]
  have finds : (forgotRuns settings users).step counted (.finds request) = some looked := by
    change (if request ∈ [request] then some (counted.finds settings users request).2 else none) = _
    rw [if_pos List.mem_cons_self, ForgotState.finds, picked]
    simp [counted, looked, finding, found, account]
  have records : (forgotRuns settings users).step looked (.records account) = some written := by
    change (if account ∈ [account] then some (looked.records account) else none) = _
    rw [if_pos List.mem_cons_self]
    simp [ForgotState.records, looked, written]
  have sends : (forgotRuns settings users).step written (.sends account) =
      some (written.sends settings account).2 := by
    refine if_pos ?_
    exact List.mem_cons_self
  refine ⟨(written.sends settings account).2, ?_, ?_, rfl, ?_⟩
  · have reached := reached.next (show state.InTurn (.asks request) from trivial) asks
    have reached := reached.next
      (show asked.InTurn (.counts request) from ⟨finding, found, recorded⟩) counts
    have reached := reached.next (show counted.InTurn (.finds request) from trivial) finds
    have reached := reached.next (show looked.InTurn (.records account) from trivial) records
    exact reached.next (show written.InTurn (.sends account) from trivial) sends
  · refine ⟨counting, finding, rfl, ?_, ?_⟩
    · simp [ForgotState.sends, written, ForgotState.records, recorded]
    · intro row member
      rcases List.mem_cons.1 member with rfl | earlier
      · exact fun same => unstored (Option.some.inj same)
      · exact uncounted row earlier
  · rw [mailTimes_sends, if_pos (show account.isOf user.id = true from decide_eq_true rfl)]
    rfl

theorem Unheard.flooded {user : PortalUserRow} (enabled : settings.mailEnabled = true)
    (origin : request.sameOrigin = true) (anonymous : request.ip = none)
    (accepted : ForgotSettings.accepts (settings.typedEmail request.typed) = true)
    (picked : settings.findActiveUserByEmail users (settings.typedEmail request.typed)
      request.pick = some user)
    (unstored : user.email ≠ settings.typedEmail request.typed)
    (unheard : Unheard (settings.typedEmail request.typed) state)
    (reached : (forgotRuns settings users).ReachableBy (fun state event => state.InTurn event)
      state) (count : Nat) :
    ∃ after, (forgotRuns settings users).ReachableBy (fun state event => state.InTurn event) after ∧
      after.mailTimes user.id = List.replicate count state.now ++ state.mailTimes user.id := by
  induction count generalizing state with
  | zero => exact ⟨state, reached, rfl⟩
  | succ count ih =>
      obtain ⟨middle, reached, unheard, now, times⟩ :=
        unheard.answered enabled origin anonymous accepted picked unstored reached
      obtain ⟨after, reached, more⟩ := ih unheard reached
      refine ⟨after, reached, ?_⟩
      rw [more, times, now, List.replicate_succ', List.append_assoc]
      rfl

end

/-- No account gets more reset mails within an hour than the limit in the runs where every request
that passes has counted the mails, also those under way. Where requests come in turn, they do so
exactly if the addresses that find an account are the stored ones. -/
theorem reset_mails_limited (settings : ForgotSettings) (users : UserTable) :
    (∀ state, (forgotRuns settings users).ReachableBy
        (fun state event => state.CountsMails settings users event) state → state.MailsLimited) ∧
      ((∀ state, (forgotRuns settings users).ReachableBy
          (fun state event => state.InTurn event) state → state.MailsLimited) ↔
        settings.KeysStored users) := by
  have limited : ∀ state, (forgotRuns settings users).ReachableBy
      (fun state event => state.CountsMails settings users event) state → state.MailsLimited :=
    fun state reached id begins => ((mails_limited reached).limited id).within_le begins
  refine ⟨limited, ?_, ?_⟩
  · intro in_turn enabled user member typed accepted matched
    by_contra unstored
    obtain ⟨pick, picked⟩ := findActiveUserByEmail_picks member matched
    obtain ⟨after, reached, times⟩ := @Unheard.flooded settings users
      ⟨0, [], [], [], [], [], [], []⟩
      { sameOrigin := true, ip := none, typed, pick, token := "" } user
      enabled rfl rfl accepted picked unstored
      ⟨rfl, rfl, rfl, rfl, fun _ member => absurd member List.not_mem_nil⟩
      (.start ⟨rfl, rfl, rfl, rfl, rfl, rfl⟩) 4
    have few := in_turn after reached user.id 0
    rw [times] at few
    change SlidingWindow.within mailWindow 0 (List.replicate 4 0) ≤ perEmailPerHour at few
    exact absurd few (by decide)
  · intro keys state reached
    exact limited state (countsMails_of_inTurn keys reached).2

def mailSettings : ForgotSettings where
  smtpHost := "smtp.example.com"
  smtpFrom := "portal@example.com"
  publicBaseUrl := some "https://portal.example.com"
  toLowerCase := fun text => String.ofList (text.toList.map Char.toLower)
  lower := fun text => String.ofList (text.toList.map Char.toLower)

def ashaUser (email : String) : PortalUserRow where
  id := 1
  email := email
  name := "Asha"
  phone := none
  roleId := 1
  active := true
  passwordHash := "hash"
  passwordVersion := 0
  createdByUserId := none

def capitalUser : UserTable := ⟨[ashaUser "Asha@Example.com"], by decide⟩

def lowerUser : UserTable := ⟨[ashaUser "asha@example.com"], by decide⟩

def askedFrom (ip : String) : ForgotRequest where
  sameOrigin := true
  ip := some ip
  typed := "asha@example.com"
  pick := 0
  token := "token"

def fourPlaces : List ForgotRequest :=
  [askedFrom "10.0.0.1", askedFrom "10.0.0.2", askedFrom "10.0.0.3", askedFrom "10.0.0.4"]

def askedInTurn (user : PortalUserRow) : List ForgotEvent :=
  fourPlaces.flatMap fun request =>
    [.asks request, .counts request, .finds request, .records ⟨request, user⟩,
      .sends ⟨request, user⟩, .elapsed 60000000]

def askedAtOnce (user : PortalUserRow) : List ForgotEvent :=
  fourPlaces.map .asks ++ fourPlaces.map .counts ++ fourPlaces.map .finds ++
    fourPlaces.flatMap fun request => [.records ⟨request, user⟩, .sends ⟨request, user⟩]

def unaskedState : ForgotState := ⟨0, [], [], [], [], [], [], []⟩

theorem four_mails_in_an_hour :
    (∃ state, (forgotRuns mailSettings capitalUser).run unaskedState
        (askedInTurn (ashaUser "Asha@Example.com")) = some state ∧
      SlidingWindow.within mailWindow 0 (state.mailTimes 1) = 4) ∧
    (forgotRuns mailSettings capitalUser).Along (fun state event => state.InTurn event) unaskedState
      (askedInTurn (ashaUser "Asha@Example.com")) ∧
    (∃ state, (forgotRuns mailSettings lowerUser).run unaskedState
        (askedAtOnce (ashaUser "asha@example.com")) = some state ∧
      SlidingWindow.within mailWindow 0 (state.mailTimes 1) = 4) ∧
    (forgotRuns mailSettings capitalUser).initial unaskedState ∧
    (forgotRuns mailSettings lowerUser).initial unaskedState ∧ perEmailPerHour = 3 := by
  have in_turn : ((forgotRuns mailSettings capitalUser).run unaskedState
      (askedInTurn (ashaUser "Asha@Example.com"))).any (fun state =>
        decide (SlidingWindow.within mailWindow 0 (state.mailTimes 1) = 4)) = true := by
    decide +kernel
  have at_once : ((forgotRuns mailSettings lowerUser).run unaskedState
      (askedAtOnce (ashaUser "asha@example.com"))).any (fun state =>
        decide (SlidingWindow.within mailWindow 0 (state.mailTimes 1) = 4)) = true := by
    decide +kernel
  obtain ⟨first, ran, four⟩ := (Option.any_eq_true _ _).1 in_turn
  obtain ⟨second, ran', four'⟩ := (Option.any_eq_true _ _).1 at_once
  exact ⟨⟨first, ran, of_decide_eq_true four⟩, by decide +kernel,
    ⟨second, ran', of_decide_eq_true four'⟩,
    ⟨rfl, rfl, rfl, rfl, rfl, rfl⟩, ⟨rfl, rfl, rfl, rfl, rfl, rfl⟩, rfl⟩

end UssdGateway
