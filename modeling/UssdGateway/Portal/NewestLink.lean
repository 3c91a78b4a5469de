import UssdGateway.Portal.ResetOnce

/-!
Whether only the newest reset link of a user works. Issuing retires the links that its statement's
snapshot has, so a link that is committed later stays.
-/

namespace UssdGateway

namespace ResetPhase

def retires : ResetPhase → Option ResetWork
  | retiring work _ | inserted work _ _ => some work
  | _ => none

def issued : ResetPhase → Option ResetWork
  | inserted work _ _ => some work
  | _ => none

variable {phase : ResetPhase} {work : ResetWork}

theorem retires_of_issued (found : phase.issued = some work) : phase.retires = some work := by
  cases phase with
  | inserted => exact found
  | _ => cases found

theorem work_of_retires (found : phase.retires = some work) : phase.work = some work := by
  cases phase with
  | retiring | inserted => exact found
  | _ => cases found

end ResetPhase

namespace ResetState

def NewestOnly (state : ResetState) : Prop :=
  ∀ first ∈ state.tokens.rows, ∀ second ∈ state.tokens.rows,
    first.portalUserId = second.portalUserId → first.usable state.now = true →
    second.usable state.now = true → first = second

instance decidableNewestOnly (state : ResetState) : Decidable state.NewestOnly :=
  inferInstanceAs (Decidable (∀ first ∈ state.tokens.rows, ∀ second ∈ state.tokens.rows, _))

/-- A link is committed in its time only where every link of the user that works was committed
before the snapshot of the statement that retired them. -/
def Unsurpassed (state : ResetState) : ResetEvent → Prop
  | .commit transaction =>
      ∀ work ∈ (state.phase transaction).issued,
        state.now < work.startedAt + resetTtlMinutes * minuteMicros →
        ∀ token ∈ state.tokens.rows, token.portalUserId = work.userId →
          token.usable state.now = true → token.id ∈ work.snapshot
  | _ => True

instance decidableUnsurpassed (state : ResetState) :
    (event : ResetEvent) → Decidable (state.Unsurpassed event)
  | .commit transaction =>
      inferInstanceAs (Decidable (∀ work ∈ (state.phase transaction).issued, _))
  | .begins _ | .issue .. | .consume .. | .lock _ | .visit .. | .proceed _ | .abort _
  | .elapsed _ => isTrue trivial

end ResetState

structure LinkSound (state : ResetState) (phase : ResetPhase) : Prop where
  seen : ∀ work, phase.retires = some work → ∀ id ∈ work.snapshot,
    id < state.nextId ∧ ¬ state.Uncommitted id
  bounded : ∀ work, phase.retires = some work → ∀ id,
    id ∈ work.remaining ∨ id ∈ work.deleted ∨ id ∈ work.retired → id ∈ work.snapshot
  covered : ∀ work, phase.retires = some work → ∀ id token, state.tokens.find id = some token →
    token.portalUserId = work.userId → token.usable state.now = true → id ∈ work.snapshot →
    id ∈ work.remaining ∨ id ∈ work.deleted ∨ id ∈ work.retired
  visited : ∀ work, phase.issued = some work → work.remaining = []

structure LinkInv (state : ResetState) : Prop extends ResetInv state where
  links : ∀ transaction, LinkSound state (state.phase transaction)

theorem PasswordResetToken.usable_iff {now : Int} {token : PasswordResetToken} :
    token.usable now = true ↔ token.usedAt = none ∧ now < token.expiresAt := by
  rw [PasswordResetToken.usable, Bool.and_eq_true, Option.isNone_iff_eq_none, decide_eq_true_eq]

theorem PasswordResetToken.usable_of_later {now later : Int} {token : PasswordResetToken}
    (elapsed : now ≤ later) (usable : token.usable later = true) : token.usable now = true := by
  rw [PasswordResetToken.usable_iff] at usable ⊢
  exact ⟨usable.1, Int.lt_of_le_of_lt elapsed usable.2⟩

theorem PasswordResetToken.outstanding_iff {userId : Nat} {token : PasswordResetToken} :
    token.outstanding userId = true ↔ token.portalUserId = userId ∧ token.usedAt = none := by
  rw [PasswordResetToken.outstanding, Bool.and_eq_true, Option.isNone_iff_eq_none,
    decide_eq_true_eq]

theorem find_written_usable {tokens : ResetTokenTable} {work : ResetWork} {id : Nat} {now : Int}
    {token : PasswordResetToken} :
    ((tokens.written work).find id = some token ∧ token.usable now = true) ↔
      (tokens.find id = some token ∧ token.usable now = true) ∧
        id ∉ work.deleted ∧ id ∉ work.retired := by
  constructor
  · rintro ⟨found, usable⟩
    rw [find_written] at found
    split at found
    next => cases found
    next kept =>
      obtain ⟨before, stored, rfl⟩ := Option.map_eq_some_iff.1 found
      have named : before.id = id := KeyedTable.key_of_find stored
      have unmarked : id ∉ work.retired := by
        intro marked
        exact mark_usedAt (Or.inr (named ▸ marked)) (PasswordResetToken.usable_iff.1 usable).1
      have same : work.mark before = before := by
        rw [ResetWork.mark, named, if_neg unmarked]
      rw [same] at usable ⊢
      exact ⟨⟨stored, usable⟩, kept, unmarked⟩
  · rintro ⟨⟨stored, usable⟩, kept, unmarked⟩
    rw [find_written_of_untouched tokens (not_or.2 ⟨kept, unmarked⟩)]
    exact ⟨stored, usable⟩

section

variable {state after : ResetState} {transaction : Nat} {phase : ResetPhase}

theorem linkSound_of_none (nothing : phase.retires = none) : LinkSound state phase := by
  have none_found : ∀ work, phase.retires ≠ some work := by
    rw [nothing]
    nofun
  refine ⟨?_, ?_, ?_, ?_⟩
  · intro work found
    exact absurd found (none_found work)
  · intro work found
    exact absurd found (none_found work)
  · intro work found
    exact absurd found (none_found work)
  · intro work found
    exact absurd (ResetPhase.retires_of_issued found) (none_found work)

theorem LinkSound.frame (sound : LinkSound state phase) (issued : state.nextId ≤ after.nextId)
    (committed : ∀ id < state.nextId, after.Uncommitted id → state.Uncommitted id)
    (narrows : ∀ id token, ¬ state.Uncommitted id → after.tokens.find id = some token →
      token.usable after.now = true →
      state.tokens.find id = some token ∧ token.usable state.now = true) :
    LinkSound after phase where
  seen := by
    intro work found id member
    obtain ⟨known, earlier⟩ := sound.seen work found id member
    exact ⟨Nat.lt_of_lt_of_le known issued, earlier ∘ committed id known⟩
  bounded := sound.bounded
  covered := by
    intro work found id token stored mine usable early
    obtain ⟨before, still⟩ :=
      narrows id token (sound.seen work found id early).2 stored usable
    exact sound.covered work found id token before mine still early
  visited := sound.visited

theorem LinkInv.moves (inv : LinkInv state) (kept : ResetInv after)
    (phases : after.phase = Function.update state.phase transaction phase)
    (issued : state.nextId ≤ after.nextId)
    (committed : ∀ id < state.nextId, after.Uncommitted id → state.Uncommitted id)
    (narrows : ∀ id token, ¬ state.Uncommitted id → after.tokens.find id = some token →
      token.usable after.now = true →
      state.tokens.find id = some token ∧ token.usable state.now = true)
    (own : LinkSound after phase) : LinkInv after where
  toResetInv := kept
  links := by
    intro other
    by_cases same : other = transaction
    · subst same
      rw [phases, Function.update_self]
      exact own
    · rw [phases, Function.update_of_ne same]
      exact (inv.links other).frame issued committed narrows

theorem LinkInv.proceeds (inv : LinkInv state) (kept : ResetInv after)
    (phases : after.phase = Function.update state.phase transaction phase)
    (fresh : phase.newId = none) (issued : after.nextId = state.nextId)
    (tokens : after.tokens = state.tokens) (now : after.now = state.now)
    (own : LinkSound after phase) : LinkInv after := by
  refine inv.moves kept phases (Nat.le_of_eq issued.symm)
    (fun _ _ => uncommitted_of_update phases fresh) ?_ own
  intro id token _ found usable
  rw [tokens] at found
  rw [now] at usable
  exact ⟨found, usable⟩

theorem mem_committed {id : Nat} : id ∈ state.committed ↔ (state.tokens.find id).isSome := by
  simp only [ResetState.committed, List.mem_map, Option.isSome_iff_exists,
    KeyedTable.find_eq_some_iff]

theorem LinkSound.retire (inv : ResetInv state) {work : ResetWork}
    (written : ∀ id, id ∈ work.deleted ∨ id ∈ work.retired → (state.tokens.find id).isSome)
    (phases : phase.work = some (state.retire work.userId work)) (waiting : phase.issued = none) :
    LinkSound state phase := by
  have same : ∀ found, phase.retires = some found → found = state.retire work.userId work :=
    fun found retires => Option.some.inj ((ResetPhase.work_of_retires retires).symm.trans phases)
  refine ⟨?_, ?_, ?_, ?_⟩
  · intro found retires id member
    obtain rfl := same found retires
    obtain ⟨token, stored⟩ := Option.isSome_iff_exists.1 (mem_committed.1 member)
    refine ⟨inv.ids id token stored, ?_⟩
    rintro ⟨other, new⟩
    rw [(inv.inserted other id new).2.1] at stored
    cases stored
  · intro found retires id
    obtain rfl := same found retires
    rintro (member | touched)
    · obtain ⟨token, stored, _⟩ := mem_found.1 (List.mem_filter.1 member).1
      exact mem_committed.2 (Option.isSome_iff_exists.2 ⟨token, stored⟩)
    · exact mem_committed.2 (written id touched)
  · intro found retires id token stored mine usable _
    obtain rfl := same found retires
    by_cases gone : id ∈ work.deleted
    · exact Or.inr (Or.inl gone)
    · have outstanding := PasswordResetToken.outstanding_iff.2
        ⟨mine, (PasswordResetToken.usable_iff.1 usable).1⟩
      exact Or.inl (List.mem_filter.2
        ⟨mem_found.2 ⟨token, stored, outstanding⟩, by simpa using gone⟩)
  · intro work found
    rw [waiting] at found
    cases found

theorem LinkInv.retires (inv : LinkInv state) (kept : ResetInv after) {work : ResetWork}
    {job : ResetJob} {id : Nat} (current : state.phase transaction = .retiring work job)
    (visited : state.visitRow transaction work id (PasswordResetToken.outstanding work.userId)
      (fun work => { work with retired := id :: work.retired })
      (fun work => .retiring work job) = some after) : LinkInv after := by
  have mine := inv.links transaction
  rw [current] at mine
  have inside := mine.bounded work rfl
  have seen := mine.seen work rfl
  obtain ⟨waiting, ⟨_, _, _, rfl⟩ | ⟨fails, rfl⟩⟩ := visitRow_cases visited
  · refine inv.proceeds kept rfl rfl rfl rfl rfl ⟨?_, ?_, ?_, nofun⟩
    · rintro _ ⟨⟩ other member
      exact (seen other member).imp_right (· ∘ uncommitted_of_update rfl rfl)
    · rintro _ ⟨⟩ other (member | member | member)
      · exact inside other (Or.inl (List.mem_filter.1 member).1)
      · exact inside other (Or.inr (Or.inl member))
      · rcases List.mem_cons.1 member with rfl | earlier
        · exact inside other (Or.inl waiting)
        · exact inside other (Or.inr (Or.inr earlier))
    · rintro _ ⟨⟩ other token stored owner usable early
      by_cases same : other = id
      · exact Or.inr (Or.inr (same ▸ List.mem_cons_self))
      · rcases mine.covered work rfl other token stored owner usable early with
          left | deleted | retired
        · exact Or.inl (List.mem_filter.2 ⟨left, by simpa using same⟩)
        · exact Or.inr (Or.inl deleted)
        · exact Or.inr (Or.inr (List.mem_cons_of_mem _ retired))
  · refine inv.proceeds kept rfl rfl rfl rfl rfl ⟨?_, ?_, ?_, nofun⟩
    · rintro _ ⟨⟩ other member
      exact (seen other member).imp_right (· ∘ uncommitted_of_update rfl rfl)
    · rintro _ ⟨⟩ other member
      exact inside other (member.imp_left fun left => (List.mem_filter.1 left).1)
    · rintro _ ⟨⟩ other token stored owner usable early
      have apart : other ≠ id := by
        rintro rfl
        have outstanding : token.outstanding work.userId = true :=
          PasswordResetToken.outstanding_iff.2 ⟨owner, (PasswordResetToken.usable_iff.1 usable).1⟩
        rw [fails token stored] at outstanding
        cases outstanding
      exact (mine.covered work rfl other token stored owner usable early).imp_left fun left =>
        List.mem_filter.2 ⟨left, by simpa using apart⟩

theorem LinkInv.insert (inv : LinkInv state) {work : ResetWork} {tokenHash : String}
    (current : state.phase transaction = .retiring work (.issue tokenHash))
    (visited : work.remaining = []) : LinkInv (state.insert transaction work tokenHash) := by
  have mine := inv.links transaction
  rw [current] at mine
  have own : LinkSound state (.inserted work state.nextId tokenHash) := by
    refine ⟨?_, ?_, ?_, ?_⟩
    · rintro _ ⟨⟩
      exact mine.seen work rfl
    · rintro _ ⟨⟩
      exact mine.bounded work rfl
    · rintro _ ⟨⟩
      exact mine.covered work rfl
    · rintro _ ⟨⟩
      exact visited
  have committed : ∀ id < state.nextId,
      (state.insert transaction work tokenHash).Uncommitted id → state.Uncommitted id :=
    fun id known => uncommitted_insert known
  exact inv.moves (inv.toResetInv.insert current) rfl (Nat.le_succ _) committed
    (fun id token _ found usable => ⟨found, usable⟩)
    (own.frame (Nat.le_succ _) committed fun id token _ found usable => ⟨found, usable⟩)

theorem LinkInv.kept (inv : LinkInv state) {event : ResetEvent}
    (moved : ResetMove state event after) : LinkInv after := by
  have kept := inv.toResetInv.kept moved
  cases moved with
  | begins | issues | presents | unknown | locks | misses | changes | aborts =>
      exact inv.proceeds kept rfl rfl rfl rfl rfl (linkSound_of_none rfl)
  | purges current visited =>
      rcases (visitRow_cases visited).2 with ⟨_, _, _, rfl⟩ | ⟨_, rfl⟩
      · exact inv.proceeds kept rfl rfl rfl rfl rfl (linkSound_of_none rfl)
      · exact inv.proceeds kept rfl rfl rfl rfl rfl (linkSound_of_none rfl)
  | retires current visited => exact inv.retires kept current visited
  | @purged transaction work _ current =>
      have mine := inv.sound transaction
      rw [current] at mine
      refine inv.proceeds kept rfl rfl rfl rfl rfl (.retire kept ?_ rfl rfl)
      exact fun id touched => (mine.writes work rfl id touched).2
  | @changed transaction tokenId userId newHash _ current =>
      refine inv.proceeds kept rfl rfl rfl rfl rfl (.retire kept ?_ rfl rfl)
      rintro id (member | member)
      · exact absurd member List.not_mem_nil
      · exact absurd member List.not_mem_nil
  | inserts current visited => exact inv.insert current visited
  | @issued transaction tokenId work tokenHash current =>
      refine inv.moves kept rfl (Nat.le_refl _) (fun _ _ => uncommitted_of_update rfl rfl) ?_
        (linkSound_of_none rfl)
      intro id token committed found usable
      have apart : id ≠ tokenId := by
        rintro rfl
        exact committed ⟨transaction, by rw [current]; rfl⟩
      rw [find_commitIssue apart] at found
      exact (find_written_usable.1 ⟨found, usable⟩).1
  | @consumed transaction tokenId work newHash current visited =>
      refine inv.moves kept rfl (Nat.le_refl _) (fun _ _ => uncommitted_of_update rfl rfl) ?_
        (linkSound_of_none rfl)
      intro id token _ found usable
      exact (find_written_usable.1 ⟨found, usable⟩).1
  | elapsed =>
      refine ⟨kept, fun other =>
        (inv.links other).frame (Nat.le_refl _) (fun _ _ found => found) ?_⟩
      exact fun id token _ found usable =>
        ⟨found, PasswordResetToken.usable_of_later (Int.le_add_of_nonneg_right (by omega)) usable⟩

theorem mem_iff_find {tokens : ResetTokenTable} {token : PasswordResetToken} :
    token ∈ tokens.rows ↔ tokens.find token.id = some token := by
  rw [KeyedTable.find_eq_some_iff, and_iff_left rfl]

theorem ResetInv.usable_commitIssue (inv : ResetInv state) {work : ResetWork} {tokenId : Nat}
    {tokenHash : String} {token : PasswordResetToken}
    (current : state.phase transaction = .inserted work tokenId tokenHash) :
    (token ∈ (state.commitIssue transaction work tokenId tokenHash).tokens.rows ∧
        token.usable state.now = true) ↔
      (token = work.freshToken tokenId tokenHash ∧ token.usable state.now = true) ∨
        ((token ∈ state.tokens.rows ∧ token.usable state.now = true) ∧
          token.id ∉ work.deleted ∧ token.id ∉ work.retired) := by
  have new : (state.phase transaction).newId = some tokenId := by
    rw [current]
    rfl
  have unknown :
      (state.tokens.written work).find (work.freshToken tokenId tokenHash).id = none := by
    refine (find_written _ _ tokenId).trans ?_
    rw [(inv.inserted transaction tokenId new).2.1]
    exact ite_self _
  have rows : token ∈ (state.commitIssue transaction work tokenId tokenHash).tokens.rows ↔
      token ∈ (state.tokens.written work).rows ∨ token = work.freshToken tokenId tokenHash :=
    (KeyedTable.mem_upsert_of_kept _ _ (fun _ => rfl) _).trans
      (or_congr_right (and_iff_right unknown))
  rw [rows, or_and_right, or_comm, mem_iff_find, mem_iff_find, find_written_usable]

theorem ResetState.NewestOnly.narrows (newest : state.NewestOnly)
    (narrows : ∀ id token, after.tokens.find id = some token → token.usable after.now = true →
      state.tokens.find id = some token ∧ token.usable state.now = true) : after.NewestOnly := by
  intro first firstMember second secondMember same firstUsable secondUsable
  obtain ⟨firstBefore, firstWorked⟩ := narrows _ first (mem_iff_find.1 firstMember) firstUsable
  obtain ⟨secondBefore, secondWorked⟩ := narrows _ second (mem_iff_find.1 secondMember) secondUsable
  exact newest first (mem_iff_find.2 firstBefore) second (mem_iff_find.2 secondBefore) same
    firstWorked secondWorked

/-- An issue's commit leaves one link that works exactly where its snapshot had every other. -/
theorem LinkInv.commitIssue_iff (inv : LinkInv state) (newest : state.NewestOnly)
    {work : ResetWork} {tokenId : Nat} {tokenHash : String}
    (current : state.phase transaction = .inserted work tokenId tokenHash) :
    (state.commitIssue transaction work tokenId tokenHash).NewestOnly ↔
      (state.now < work.startedAt + resetTtlMinutes * minuteMicros →
        ∀ token ∈ state.tokens.rows, token.portalUserId = work.userId →
          token.usable state.now = true → token.id ∈ work.snapshot) := by
  have mine := inv.links transaction
  rw [current] at mine
  have links := fun token =>
    @ResetInv.usable_commitIssue state transaction inv.toResetInv work tokenId tokenHash token
      current
  have fresh : (work.freshToken tokenId tokenHash).usable state.now = true ↔
      state.now < work.startedAt + resetTtlMinutes * minuteMicros :=
    PasswordResetToken.usable_iff.trans (and_iff_right rfl)
  constructor
  · intro single inTime token member owner usable
    by_contra newer
    have unwritten : token.id ∉ work.deleted ∧ token.id ∉ work.retired := by
      rw [← not_or]
      intro written
      exact newer (mine.bounded work rfl token.id (Or.inr written))
    have both := ((links token).2 (Or.inr ⟨⟨member, usable⟩, unwritten⟩)).1
    have own := ((links _).2 (Or.inl ⟨rfl, fresh.2 inTime⟩)).1
    have same : token = work.freshToken tokenId tokenHash :=
      single token both _ own owner usable (fresh.2 inTime)
    have new : (state.phase transaction).newId = some tokenId := by
      rw [current]
      rfl
    have known : state.tokens.find tokenId = some token := by
      rw [KeyedTable.find_eq_some_iff]
      exact ⟨member, congrArg PasswordResetToken.id same⟩
    rw [(inv.inserted transaction tokenId new).2.1] at known
    cases known
  · intro unsurpassed
    -- Whatever the issue has not written belongs to another user.
    have apart : ∀ token, token ∈ state.tokens.rows ∧ token.usable state.now = true →
        token.id ∉ work.deleted ∧ token.id ∉ work.retired →
        (work.freshToken tokenId tokenHash).usable state.now = true →
        token.portalUserId ≠ work.userId := by
      intro token known unwritten inTime owner
      have early := unsurpassed (fresh.1 inTime) token known.1 owner known.2
      rcases mine.covered work rfl token.id token (mem_iff_find.1 known.1) owner known.2 early with
        left | deleted | retired
      · rw [mine.visited work rfl] at left
        exact List.not_mem_nil left
      · exact unwritten.1 deleted
      · exact unwritten.2 retired
    intro first firstMember second secondMember same firstUsable secondUsable
    rcases (links _).1 ⟨firstMember, firstUsable⟩ with ⟨rfl, inTime⟩ | ⟨firstKnown, firstKept⟩
    · rcases (links _).1 ⟨secondMember, secondUsable⟩ with ⟨rfl, _⟩ | ⟨secondKnown, secondKept⟩
      · rfl
      · exact absurd same.symm (apart second secondKnown secondKept inTime)
    · rcases (links _).1 ⟨secondMember, secondUsable⟩ with ⟨rfl, inTime⟩ | ⟨secondKnown, _⟩
      · exact absurd same (apart first firstKnown firstKept inTime)
      · exact newest first firstKnown.1 second secondKnown.1 same firstKnown.2 secondKnown.2

theorem LinkInv.newest_iff (inv : LinkInv state) (newest : state.NewestOnly) (event : ResetEvent) :
    (∀ after, resetRuns.step state event = some after → after.NewestOnly) ↔
      state.Unsurpassed event := by
  constructor
  · intro stays
    cases event with
    | commit transaction =>
        intro work found
        rcases current : state.phase transaction with
          _ | _ | _ | _ | _ | _ | _ | ⟨work, tokenId, hash⟩ | _
        all_goals rw [current] at found
        all_goals cases found
        refine (inv.commitIssue_iff newest current).1 (stays _ ?_)
        change resetStep state (.commit transaction) = _
        rw [resetStep, current]
    | _ => trivial
  · intro unsurpassed after stepped
    have moved := resetMove_of_step stepped
    cases moved with
    | begins | issues | presents | unknown | locks | misses | changes | purged | changed | inserts
    | aborts => exact newest
    | purges _ visited | retires _ visited =>
        rcases (visitRow_cases visited).2 with ⟨_, _, _, rfl⟩ | ⟨_, rfl⟩
        · exact newest
        · exact newest
    | @issued transaction tokenId work tokenHash current =>
        refine (inv.commitIssue_iff newest current).2 (unsurpassed work ?_)
        rw [current]
        rfl
    | consumed =>
        refine newest.narrows ?_
        intro id token found usable
        exact (find_written_usable.1 ⟨found, usable⟩).1
    | elapsed =>
        refine newest.narrows ?_
        exact fun id token found usable =>
          ⟨found, PasswordResetToken.usable_of_later (Int.le_add_of_nonneg_right (by omega)) usable⟩

theorem ResetState.Initial.links (initial : state.Initial) : LinkInv state where
  toResetInv := initial.inv
  links := by
    intro transaction
    rw [initial.1 transaction]
    exact linkSound_of_none rfl

end

/-- Requests that begin where no user has two links that work: it stays so all along a run exactly
if no link is committed in its time beside one that its snapshot did not have. -/
theorem newest_link_only_iff {start : ResetState} (initial : start.Initial)
    (newest : start.NewestOnly) (events : List ResetEvent) :
    resetRuns.Along
        (fun state event => ∀ after, resetRuns.step state event = some after → after.NewestOnly)
        start events ↔
      resetRuns.Along ResetState.Unsurpassed start events := by
  refine @StepSystem.along_iff_of_kept _ _ _ (fun state => LinkInv state ∧ state.NewestOnly) _ _
    ?_ ?_ _ ⟨initial.links, newest⟩ events
  · intro state event inv
    exact inv.1.newest_iff inv.2 event
  · intro state event after inv single stepped
    exact ⟨inv.1.kept (resetMove_of_step stepped), single after stepped⟩

def noLinks : ResetState where
  now := 0
  users := fun id => if id = 1 then some ⟨"user@example.com", true, "old", 0⟩ else none
  tokens := KeyedTable.empty
  nextId := 1
  hashes := []
  locks := LockTable.free
  phase := fun _ => .idle
  passwordSets := []

theorem noLinks_initial : noLinks.Initial :=
  ⟨fun _ => rfl, rfl, nofun, rfl⟩

theorem noLinks_newest : noLinks.NewestOnly :=
  nofun

def issuedInTurn : List ResetEvent :=
  [.begins 0, .issue 0 1 "first", .proceed 0, .proceed 0, .commit 0,
    .begins 1, .issue 1 1 "second", .proceed 1, .visit 1 1, .proceed 1, .commit 1]

def issuedTogether : List ResetEvent :=
  [.begins 0, .begins 1, .issue 0 1 "first", .issue 1 1 "second", .proceed 0, .proceed 1,
    .proceed 0, .proceed 1, .commit 0, .commit 1]

theorem second_link_alone :
    (resetRuns.run noLinks issuedInTurn).isSome = true ∧
      resetRuns.Along
        (fun state event => ∀ after, resetRuns.step state event = some after → after.NewestOnly)
        noLinks issuedInTurn :=
  ⟨by decide +kernel,
    (newest_link_only_iff noLinks_initial noLinks_newest issuedInTurn).2 (by decide +kernel)⟩

theorem both_links_work :
    noLinks.Initial ∧ noLinks.NewestOnly ∧
      ∃ state, resetRuns.run noLinks issuedTogether = some state ∧ ¬ state.NewestOnly := by
  refine ⟨noLinks_initial, noLinks_newest, ?_⟩
  have evaluated : (resetRuns.run noLinks issuedTogether).any (fun state =>
      !decide state.NewestOnly) = true := by
    decide +kernel
  obtain ⟨state, ran, fails⟩ := (Option.any_eq_true _ _).1 evaluated
  exact ⟨state, ran, by simpa using fails⟩

end UssdGateway
