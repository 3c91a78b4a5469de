import UssdGateway.Portal.ResetTokens

/-!
A reset link sets a password once at most. Whoever is past the lock of a token has seen it unused
under that lock, and only the holder of the lock can change it.
-/

namespace UssdGateway

namespace ResetPhase

def work : ResetPhase → Option ResetWork
  | purging work _ | retiring work _ | inserted work _ _ => some work
  | _ => none

def newId : ResetPhase → Option Nat
  | inserted _ tokenId _ => some tokenId
  | _ => none

def target : ResetPhase → Option (Nat × Nat)
  | holding _ tokenId userId _ | changed _ tokenId userId _ => some (tokenId, userId)
  | retiring work (.consume tokenId _) => some (tokenId, work.userId)
  | _ => none

end ResetPhase

def ResetState.Uncommitted (state : ResetState) (id : Nat) : Prop :=
  ∃ transaction, (state.phase transaction).newId = some id

def ResetState.Spent (state : ResetState) (id : Nat) : Prop :=
  id < state.nextId ∧ ¬ state.Uncommitted id ∧
    ∀ token, state.tokens.find id = some token → token.usedAt ≠ none

/-- What a transaction has written is locked by it. The token it sets a password with is locked and
outstanding, and will be retired with the others. -/
structure TransactionSound (state : ResetState) (transaction : Nat) (phase : ResetPhase) :
    Prop where
  writes : ∀ work, phase.work = some work → ∀ id, id ∈ work.deleted ∨ id ∈ work.retired →
    state.locks.Holds transaction (.token id) ∧ (state.tokens.find id).isSome
  target : ∀ id userId, phase.target = some (id, userId) →
    state.locks.Holds transaction (.token id) ∧
      ∃ token, state.tokens.find id = some token ∧ token.outstanding userId = true
  own : ∀ work id newHash, phase = .retiring work (.consume id newHash) →
    work.deleted = [] ∧ (id ∈ work.remaining ∨ id ∈ work.retired)

structure ResetInv (state : ResetState) : Prop where
  sound : ∀ transaction, TransactionSound state transaction (state.phase transaction)
  ids : ∀ id token, state.tokens.find id = some token → id < state.nextId
  inserted : ∀ transaction id, (state.phase transaction).newId = some id →
    id < state.nextId ∧ state.tokens.find id = none ∧
      ∀ other, (state.phase other).newId = some id → other = transaction
  spent : ∀ set ∈ state.passwordSets, state.Spent set.tokenId
  once : (state.passwordSets.map PasswordSet.tokenId).Nodup

theorem find_written (tokens : ResetTokenTable) (work : ResetWork) (id : Nat) :
    (tokens.written work).find id =
      if id ∈ work.deleted then none else (tokens.find id).map work.mark := by
  rw [ResetTokenTable.written, KeyedTable.find_mapRows, KeyedTable.find_filter]
  rcases found : tokens.find id with _ | token
  · simp
  · have named : token.id = id := KeyedTable.key_of_find found
    by_cases gone : id ∈ work.deleted
    · simp [Option.filter, named, gone]
    · simp [Option.filter, named, gone]

theorem find_written_of_untouched (tokens : ResetTokenTable) {work : ResetWork} {id : Nat}
    (untouched : ¬ (id ∈ work.deleted ∨ id ∈ work.retired)) :
    (tokens.written work).find id = tokens.find id := by
  rw [not_or] at untouched
  rw [find_written, if_neg untouched.1]
  rcases found : tokens.find id with _ | token
  · rfl
  · have named : token.id = id := KeyedTable.key_of_find found
    rw [Option.map_some, ResetWork.mark, named, if_neg untouched.2]

theorem mark_usedAt {work : ResetWork} {token : PasswordResetToken}
    (used : token.usedAt ≠ none ∨ token.id ∈ work.retired) : (work.mark token).usedAt ≠ none := by
  rw [ResetWork.mark]
  split
  · exact Option.some_ne_none _
  next kept => exact used.resolve_right kept

section

variable {state after : ResetState} {transaction other : Nat} {phase : ResetPhase}

theorem TransactionSound.frame (sound : TransactionSound state other phase)
    (locks : ∀ row, state.locks.Holds other row → after.locks.Holds other row)
    (tokens : ∀ id, state.locks.Holds other (.token id) →
      after.tokens.find id = state.tokens.find id) : TransactionSound after other phase where
  writes := by
    intro work found id member
    obtain ⟨held, stored⟩ := sound.writes work found id member
    exact ⟨locks _ held, (tokens id held) ▸ stored⟩
  target := by
    intro id userId found
    obtain ⟨held, token, stored, outstanding⟩ := sound.target id userId found
    exact ⟨locks _ held, token, (tokens id held).trans stored, outstanding⟩
  own := sound.own

theorem transactionSound_of_blank (workless : phase.work = none)
    (targetless : phase.target = none) : TransactionSound state transaction phase where
  writes := by
    intro work found
    rw [workless] at found
    cases found
  target := by
    intro id userId found
    rw [targetless] at found
    cases found
  own := by
    rintro work id newHash rfl
    cases workless

theorem newId_update {other id : Nat} {phase : ResetPhase} (fresh : phase.newId = none)
    (found : (Function.update state.phase transaction phase other).newId = some id) :
    other ≠ transaction ∧ (state.phase other).newId = some id := by
  by_cases same : other = transaction
  · rw [same, Function.update_self, fresh] at found
    cases found
  · rw [Function.update_of_ne same] at found
    exact ⟨same, found⟩

theorem uncommitted_of_update {id : Nat}
    (phases : after.phase = Function.update state.phase transaction phase)
    (fresh : phase.newId = none) (uncommitted : after.Uncommitted id) : state.Uncommitted id := by
  obtain ⟨other, found⟩ := uncommitted
  rw [phases] at found
  exact ⟨other, (newId_update fresh found).2⟩

theorem ResetState.Spent.moves {id : Nat} (spent : state.Spent id)
    (phases : after.phase = Function.update state.phase transaction phase)
    (fresh : phase.newId = none) (tokens : after.tokens = state.tokens)
    (nextId : after.nextId = state.nextId) : after.Spent id := by
  obtain ⟨issued, committed, used⟩ := spent
  rw [ResetState.Spent, tokens, nextId]
  exact ⟨issued, committed ∘ uncommitted_of_update phases fresh, used⟩

theorem ResetInv.moves (inv : ResetInv state)
    (phases : after.phase = Function.update state.phase transaction phase)
    (fresh : phase.newId = none)
    (locks : ∀ other ≠ transaction, ∀ row, state.locks.Holds other row →
      after.locks.Holds other row)
    (tokens : after.tokens = state.tokens) (nextId : after.nextId = state.nextId)
    (sets : after.passwordSets = state.passwordSets)
    (own : TransactionSound after transaction phase) : ResetInv after := by
  have still : ∀ other id, (after.phase other).newId = some id →
      (state.phase other).newId = some id := by
    intro other id found
    rw [phases] at found
    exact (newId_update fresh found).2
  refine ⟨?_, ?_, ?_, ?_, ?_⟩
  · intro other
    by_cases same : other = transaction
    · subst same
      rw [phases, Function.update_self]
      exact own
    · rw [phases, Function.update_of_ne same]
      exact (inv.sound other).frame (locks other same) fun id _ => by rw [tokens]
  · intro id token found
    rw [tokens] at found
    rw [nextId]
    exact inv.ids id token found
  · intro other id found
    obtain ⟨issued, unknown, alone⟩ := inv.inserted other id (still other id found)
    rw [nextId, tokens]
    exact ⟨issued, unknown, fun third also => alone third (still third id also)⟩
  · intro set member
    rw [sets] at member
    exact (inv.spent set member).moves phases fresh tokens nextId
  · rw [sets]
    exact inv.once

theorem ResetInv.finish (inv : ResetInv state) (transaction : Nat) :
    ResetInv (state.finish transaction) :=
  inv.moves rfl rfl (fun _ apart _ holds => holds.releaseAll apart) rfl rfl rfl
    (transactionSound_of_blank rfl rfl)

theorem ResetInv.setPhase (inv : ResetInv state) (fresh : phase.newId = none)
    (own : TransactionSound (state.setPhase transaction phase) transaction phase) :
    ResetInv (state.setPhase transaction phase) :=
  inv.moves rfl fresh (fun _ _ _ holds => holds) rfl rfl rfl own

theorem ResetInv.acquired (inv : ResetInv state) {row : ResetLock}
    {locks : LockTable ResetLock Nat}
    (acquired : state.locks.acquire transaction row = some locks) (fresh : phase.newId = none)
    (own : TransactionSound ({ state with locks }.setPhase transaction phase) transaction phase) :
    ResetInv ({ state with locks }.setPhase transaction phase) :=
  inv.moves rfl fresh (fun _ _ _ holds => holds.acquire acquired) rfl rfl rfl own

theorem visitRow_cases {work : ResetWork} {id : Nat} {condition : PasswordResetToken → Bool}
    {write : ResetWork → ResetWork} {next : ResetWork → ResetPhase}
    (visited : state.visitRow transaction work id condition write next = some after) :
    id ∈ work.remaining ∧
    ((∃ locks, state.locks.acquire transaction (.token id) = some locks ∧
      (state.tokens.find id).isSome ∧
      after = { state with locks }.setPhase transaction (next (write (work.visited id)))) ∨
    ((∀ token, state.tokens.find id = some token → condition token = false) ∧
      after = state.setPhase transaction (next (work.visited id)))) := by
  obtain ⟨waiting, moved⟩ := Option.ite_none_right_eq_some.1 visited
  obtain ⟨result, locked, moved⟩ := Option.map_eq_some_iff.1 moved
  refine ⟨waiting, ?_⟩
  cases result with
  | some locks =>
      obtain ⟨acquired, token, stored, _⟩ := lockToken_some locked
      exact Or.inl ⟨locks, acquired, Option.isSome_iff_exists.2 ⟨token, stored⟩, moved.symm⟩
  | none =>
      refine Or.inr ⟨?_, moved.symm⟩
      obtain ⟨_, _, checked⟩ := Option.map_eq_some_iff.1 locked
      split at checked
      next => cases checked
      next fails =>
        intro token found
        rw [found, Option.any_some] at fails
        exact Bool.eq_false_iff.2 fails

theorem mem_found {condition : PasswordResetToken → Bool} {id : Nat} :
    id ∈ state.found condition ↔
      ∃ token, state.tokens.find id = some token ∧ condition token = true := by
  simp only [ResetState.found, List.mem_map, List.mem_filter, KeyedTable.find_eq_some_iff]
  constructor
  · rintro ⟨token, ⟨member, meets⟩, rfl⟩
    exact ⟨token, ⟨member, rfl⟩, meets⟩
  · rintro ⟨token, ⟨member, named⟩, meets⟩
    exact ⟨token, ⟨member, meets⟩, named⟩

theorem ResetInv.purges (inv : ResetInv state) {work : ResetWork} {tokenHash : String} {id : Nat}
    (current : state.phase transaction = .purging work tokenHash)
    (visited : state.visitRow transaction work id (PasswordResetToken.purgeable work.startedAt)
      (fun work => { work with deleted := id :: work.deleted })
      (fun work => .purging work tokenHash) = some after) : ResetInv after := by
  have sound := inv.sound transaction
  rw [current] at sound
  rcases (visitRow_cases visited).2 with ⟨locks, acquired, stored, rfl⟩ | ⟨_, rfl⟩
  · refine inv.acquired acquired rfl ⟨?_, nofun, nofun⟩
    rintro _ ⟨⟩ other (member | member)
    · rcases List.mem_cons.1 member with rfl | earlier
      · exact ⟨LockTable.holds_of_acquire acquired, stored⟩
      · exact (sound.writes work rfl other (Or.inl earlier)).imp_left (·.acquire acquired)
    · exact (sound.writes work rfl other (Or.inr member)).imp_left (·.acquire acquired)
  · refine inv.setPhase rfl ⟨?_, nofun, nofun⟩
    rintro _ ⟨⟩ other member
    exact sound.writes work rfl other member

theorem ResetInv.retires (inv : ResetInv state) {work : ResetWork} {job : ResetJob} {id : Nat}
    (current : state.phase transaction = .retiring work job)
    (visited : state.visitRow transaction work id (PasswordResetToken.outstanding work.userId)
      (fun work => { work with retired := id :: work.retired })
      (fun work => .retiring work job) = some after) : ResetInv after := by
  have sound := inv.sound transaction
  rw [current] at sound
  rcases (visitRow_cases visited).2 with ⟨locks, acquired, stored, rfl⟩ | ⟨fails, rfl⟩
  · refine inv.acquired acquired rfl ⟨?_, ?_, ?_⟩
    · rintro _ ⟨⟩ other (member | member)
      · exact (sound.writes work rfl other (Or.inl member)).imp_left (·.acquire acquired)
      · rcases List.mem_cons.1 member with rfl | earlier
        · exact ⟨LockTable.holds_of_acquire acquired, stored⟩
        · exact (sound.writes work rfl other (Or.inr earlier)).imp_left (·.acquire acquired)
    · intro tokenId userId found
      have before : (ResetPhase.retiring work job).target = some (tokenId, userId) := by
        cases job with
        | issue => cases found
        | consume => exact found
      obtain ⟨held, stored⟩ := sound.target tokenId userId before
      exact ⟨held.acquire acquired, stored⟩
    · rintro _ tokenId newHash ⟨⟩
      obtain ⟨kept, own⟩ := sound.own work tokenId newHash rfl
      refine ⟨kept, ?_⟩
      by_cases same : tokenId = id
      · exact Or.inr (same ▸ List.mem_cons_self)
      · rcases own with waiting | done
        · exact Or.inl (List.mem_filter.2 ⟨waiting, by simpa using same⟩)
        · exact Or.inr (List.mem_cons_of_mem _ done)
  · refine inv.setPhase rfl ⟨?_, ?_, ?_⟩
    · rintro _ ⟨⟩ other member
      exact sound.writes work rfl other member
    · intro tokenId userId found
      have before : (ResetPhase.retiring work job).target = some (tokenId, userId) := by
        cases job with
        | issue => cases found
        | consume => exact found
      exact sound.target tokenId userId before
    · rintro _ tokenId newHash ⟨⟩
      obtain ⟨kept, own⟩ := sound.own work tokenId newHash rfl
      refine ⟨kept, own.imp_left fun waiting => List.mem_filter.2 ⟨waiting, ?_⟩⟩
      -- The transaction's own token still meets the condition under its lock.
      obtain ⟨_, token, stored, outstanding⟩ := sound.target tokenId work.userId rfl
      have apart : tokenId ≠ id := by
        rintro rfl
        rw [fails token stored] at outstanding
        cases outstanding
      simpa using apart

theorem ResetInv.commits (inv : ResetInv state) {work : ResetWork}
    (current : (state.phase transaction).work = some work)
    (phases : after.phase = Function.update state.phase transaction .ended)
    (locks : after.locks = state.locks.releaseAll transaction)
    (tokens : ∀ id, (state.phase transaction).newId ≠ some id →
      after.tokens.find id = (state.tokens.written work).find id)
    (nextId : after.nextId = state.nextId) :
    (∀ other, TransactionSound after other (after.phase other)) ∧
      (∀ other id, (after.phase other).newId = some id → id < after.nextId ∧
        after.tokens.find id = none ∧
          ∀ third, (after.phase third).newId = some id → third = other) ∧
      ∀ id, state.Spent id → after.Spent id := by
  have still : ∀ other id, (after.phase other).newId = some id →
      other ≠ transaction ∧ (state.phase other).newId = some id := by
    intro other id found
    rw [phases] at found
    exact newId_update rfl found
  have stays : ∀ id token, state.tokens.find id = some token →
      after.tokens.find id = (state.tokens.written work).find id := by
    intro id token stored
    refine tokens id fun new => ?_
    rw [(inv.inserted transaction id new).2.1] at stored
    cases stored
  refine ⟨?_, ?_, ?_⟩
  · intro other
    rw [phases]
    by_cases same : other = transaction
    · subst same
      rw [Function.update_self]
      exact transactionSound_of_blank rfl rfl
    · rw [Function.update_of_ne same]
      have mine := (inv.sound other)
      have kept : ∀ id, state.locks.Holds other (.token id) →
          (state.tokens.written work).find id = state.tokens.find id := by
        intro id held
        refine find_written_of_untouched _ fun touched => same ?_
        exact held.unique ((inv.sound transaction).writes work current id touched).1
      refine ⟨?_, ?_, mine.own⟩
      · intro theirs found id member
        obtain ⟨held, stored⟩ := mine.writes theirs found id member
        obtain ⟨token, here⟩ := Option.isSome_iff_exists.1 stored
        rw [locks, stays id token here, kept id held]
        exact ⟨held.releaseAll same, stored⟩
      · intro id userId found
        obtain ⟨held, token, stored, outstanding⟩ := mine.target id userId found
        rw [locks]
        refine ⟨held.releaseAll same, token, ?_, outstanding⟩
        rw [stays id token stored, kept id held]
        exact stored
  · intro other id found
    obtain ⟨apart, before⟩ := still other id found
    obtain ⟨issued, unknown, alone⟩ := inv.inserted other id before
    refine ⟨nextId ▸ issued, ?_, fun third also => alone third (still third id also).2⟩
    rw [tokens id fun new => apart (alone transaction new).symm, find_written, unknown]
    exact ite_self _
  · rintro id ⟨issued, committed, used⟩
    refine ⟨nextId ▸ issued, committed ∘ uncommitted_of_update phases rfl, ?_⟩
    intro token found
    rw [tokens id fun new => committed ⟨transaction, new⟩, find_written] at found
    split at found
    · cases found
    · obtain ⟨before, stored, rfl⟩ := Option.map_eq_some_iff.1 found
      exact mark_usedAt (Or.inl (used before stored))

theorem ResetInv.written_ids (inv : ResetInv state) (work : ResetWork) {id : Nat}
    {token : PasswordResetToken} (found : (state.tokens.written work).find id = some token) :
    id < state.nextId := by
  rw [find_written] at found
  split at found
  · cases found
  · obtain ⟨before, stored, _⟩ := Option.map_eq_some_iff.1 found
    exact inv.ids id before stored

theorem find_commitIssue {work : ResetWork} {tokenId id : Nat} {tokenHash : String}
    (apart : id ≠ tokenId) :
    (state.commitIssue transaction work tokenId tokenHash).tokens.find id =
      (state.tokens.written work).find id :=
  KeyedTable.find_upsert_of_ne (work.freshToken tokenId tokenHash) (fun token => token)
    (fun _ => rfl) (state.tokens.written work) apart

theorem ResetInv.commitIssue (inv : ResetInv state) {work : ResetWork} {tokenId : Nat}
    {tokenHash : String} (current : state.phase transaction = .inserted work tokenId tokenHash) :
    ResetInv (state.commitIssue transaction work tokenId tokenHash) ∧
      ∀ id, state.Spent id → (state.commitIssue transaction work tokenId tokenHash).Spent id := by
  have writes : (state.phase transaction).work = some work := by
    rw [current]
    rfl
  have new : (state.phase transaction).newId = some tokenId := by
    rw [current]
    rfl
  obtain ⟨sound, inserted, spent⟩ := @ResetInv.commits state
    (state.commitIssue transaction work tokenId tokenHash) transaction inv work writes rfl rfl
    (fun id other => find_commitIssue fun same => other (same ▸ new)) rfl
  refine ⟨⟨sound, ?_, inserted, fun set member => spent _ (inv.spent set member), inv.once⟩, spent⟩
  intro id token found
  by_cases same : id = tokenId
  · exact same ▸ (inv.inserted transaction tokenId new).1
  · rw [find_commitIssue same] at found
    exact inv.written_ids work found

theorem ResetInv.commitConsume (inv : ResetInv state) {work : ResetWork} {tokenId : Nat}
    {newHash : String}
    (current : state.phase transaction = .retiring work (.consume tokenId newHash))
    (visited : work.remaining = []) :
    (ResetInv (state.commitConsume transaction work tokenId newHash) ∧
      ∀ id, state.Spent id → (state.commitConsume transaction work tokenId newHash).Spent id) ∧
      ¬ state.Spent tokenId := by
  have writes : (state.phase transaction).work = some work := by
    rw [current]
    rfl
  have mine := inv.sound transaction
  rw [current] at mine
  obtain ⟨_, token, stored, outstanding⟩ := mine.target tokenId work.userId rfl
  have unused : token.usedAt = none := by
    rw [PasswordResetToken.outstanding, Bool.and_eq_true, Option.isNone_iff_eq_none] at outstanding
    exact outstanding.2
  have unspent : ¬ state.Spent tokenId := fun spent => spent.2.2 token stored unused
  have named : token.id = tokenId := KeyedTable.key_of_find stored
  obtain ⟨kept, own⟩ := mine.own work tokenId newHash rfl
  have retired : tokenId ∈ work.retired := by
    rcases own with waiting | done
    · rw [visited] at waiting
      exact absurd waiting List.not_mem_nil
    · exact done
  obtain ⟨sound, inserted, spent⟩ := @ResetInv.commits state
    (state.commitConsume transaction work tokenId newHash) transaction inv work writes rfl rfl
    (fun _ _ => rfl) rfl
  refine ⟨⟨⟨sound, fun id token found => inv.written_ids work found, inserted, ?_, ?_⟩, spent⟩,
    unspent⟩
  · intro set member
    rcases List.mem_append.1 member with earlier | added
    · exact spent _ (inv.spent set earlier)
    · rw [List.mem_singleton.1 added]
      refine ⟨inv.ids tokenId token stored, ?_, ?_⟩
      · intro uncommitted
        obtain ⟨other, before⟩ := uncommitted_of_update rfl rfl uncommitted
        rw [(inv.inserted other tokenId before).2.1] at stored
        cases stored
      intro left found
      have found : (state.tokens.written work).find tokenId = some left := found
      rw [find_written, stored, kept] at found
      simp only [List.not_mem_nil, if_false, Option.map_some, Option.some.injEq] at found
      rw [← found]
      exact mark_usedAt (Or.inr (named ▸ retired))
  · have sets : (state.commitConsume transaction work tokenId newHash).passwordSets.map
        PasswordSet.tokenId = state.passwordSets.map PasswordSet.tokenId ++ [tokenId] := by
      simp [ResetState.commitConsume]
    rw [sets, List.nodup_append]
    refine ⟨inv.once, List.nodup_singleton _, ?_⟩
    rintro earlier member added new rfl
    obtain ⟨set, inSets, rfl⟩ := List.mem_map.1 member
    exact unspent (List.mem_singleton.1 new ▸ inv.spent set inSets)

theorem newId_insert {work : ResetWork} {tokenHash : String} {other id : Nat}
    (found : ((state.insert transaction work tokenHash).phase other).newId = some id) :
    other = transaction ∧ id = state.nextId ∨ (state.phase other).newId = some id := by
  have found : (Function.update state.phase transaction
      (.inserted work state.nextId tokenHash) other).newId = some id := found
  by_cases same : other = transaction
  · rw [same, Function.update_self] at found
    exact Or.inl ⟨same, (Option.some.inj found).symm⟩
  · rw [Function.update_of_ne same] at found
    exact Or.inr found

theorem uncommitted_insert {work : ResetWork} {tokenHash : String} {id : Nat}
    (issued : id < state.nextId)
    (uncommitted : (state.insert transaction work tokenHash).Uncommitted id) :
    state.Uncommitted id := by
  obtain ⟨other, found⟩ := uncommitted
  rcases newId_insert found with ⟨_, rfl⟩ | before
  · exact absurd issued (Nat.lt_irrefl _)
  · exact ⟨other, before⟩

theorem spent_insert {work : ResetWork} {tokenHash : String} {id : Nat} (spent : state.Spent id) :
    (state.insert transaction work tokenHash).Spent id := by
  obtain ⟨issued, committed, used⟩ := spent
  exact ⟨Nat.lt_succ_of_lt issued, committed ∘ uncommitted_insert issued, used⟩

theorem ResetInv.insert (inv : ResetInv state) {work : ResetWork} {tokenHash : String}
    (current : state.phase transaction = .retiring work (.issue tokenHash)) :
    ResetInv (state.insert transaction work tokenHash) := by
  refine ⟨?_, ?_, ?_, fun set member => spent_insert (inv.spent set member), inv.once⟩
  · intro other
    by_cases same : other = transaction
    · subst same
      have mine := inv.sound other
      rw [current] at mine
      have phases : (state.insert other work tokenHash).phase other =
          .inserted work state.nextId tokenHash := Function.update_self _ _ _
      rw [phases]
      refine ⟨?_, nofun, nofun⟩
      rintro _ ⟨⟩ id member
      exact mine.writes work rfl id member
    · have phases : (state.insert transaction work tokenHash).phase other = state.phase other :=
        Function.update_of_ne same _ _
      rw [phases]
      exact (inv.sound other).frame (fun _ holds => holds) fun _ _ => rfl
  · exact fun id token found => Nat.lt_succ_of_lt (inv.ids id token found)
  · intro other id found
    rcases newId_insert found with ⟨rfl, rfl⟩ | before
    · refine ⟨Nat.lt_succ_self _, ?_, ?_⟩
      · rcases stored : state.tokens.find state.nextId with _ | token
        · exact stored
        · exact absurd (inv.ids _ token stored) (Nat.lt_irrefl _)
      · intro third also
        rcases newId_insert also with ⟨same, _⟩ | earlier
        · exact same
        · exact absurd (inv.inserted third _ earlier).1 (Nat.lt_irrefl _)
    · obtain ⟨issued, unknown, alone⟩ := inv.inserted other id before
      refine ⟨Nat.lt_succ_of_lt issued, unknown, ?_⟩
      intro third also
      rcases newId_insert also with ⟨_, rfl⟩ | earlier
      · exact absurd issued (Nat.lt_irrefl _)
      · exact alone third earlier

theorem ResetInv.kept (inv : ResetInv state) {event : ResetEvent}
    (moved : ResetMove state event after) : ResetInv after := by
  cases moved with
  | begins | presents | unknown => exact inv.setPhase rfl (transactionSound_of_blank rfl rfl)
  | issues =>
      refine inv.setPhase rfl ⟨?_, nofun, nofun⟩
      rintro _ ⟨⟩ id (member | member)
      · exact absurd member List.not_mem_nil
      · exact absurd member List.not_mem_nil
  | @locks transaction tokenId userId newHash startedAt locks token current acquired stored mine
      usable =>
      refine inv.acquired acquired rfl ⟨nofun, ?_, nofun⟩
      rintro _ _ ⟨⟩
      rw [PasswordResetToken.usable, Bool.and_eq_true] at usable
      refine ⟨LockTable.holds_of_acquire acquired, token, stored, ?_⟩
      rw [PasswordResetToken.outstanding, usable.1, Bool.and_true]
      exact decide_eq_true mine
  | misses | aborts => exact inv.finish _
  | @changes transaction _ _ _ _ _ current acquired =>
      have mine := inv.sound transaction
      rw [current] at mine
      refine inv.acquired acquired rfl ⟨nofun, ?_, nofun⟩
      rintro _ _ ⟨⟩
      obtain ⟨held, stored⟩ := mine.target _ _ rfl
      exact ⟨held.acquire acquired, stored⟩
  | purges current visited => exact inv.purges current visited
  | retires current visited => exact inv.retires current visited
  | @purged transaction work _ current =>
      have mine := inv.sound transaction
      rw [current] at mine
      refine inv.setPhase rfl ⟨?_, ?_, ?_⟩
      · rintro _ ⟨⟩ id member
        exact mine.writes work rfl id member
      · intro _ _ found
        cases found
      · intro _ _ _ found
        cases found
  | @changed transaction tokenId userId newHash _ current =>
      have mine := inv.sound transaction
      rw [current] at mine
      have held := mine.target tokenId userId rfl
      refine inv.setPhase rfl ⟨?_, ?_, ?_⟩
      · rintro _ ⟨⟩ id (member | member)
        · exact absurd member List.not_mem_nil
        · exact absurd member List.not_mem_nil
      · rintro _ _ ⟨⟩
        exact held
      · rintro _ _ _ ⟨⟩
        -- The snapshot of the statement has the token it locked.
        exact ⟨rfl, Or.inl (List.mem_filter.2 ⟨mem_found.2 held.2, by simp⟩)⟩
  | inserts current => exact inv.insert current
  | issued current => exact (inv.commitIssue current).1
  | consumed current visited => exact (inv.commitConsume current visited).1.1
  | elapsed => exact ⟨fun other => (inv.sound other).frame (fun _ holds => holds) fun _ _ => rfl,
      inv.ids, inv.inserted, inv.spent, inv.once⟩

theorem ResetInv.spent_kept (inv : ResetInv state) {event : ResetEvent}
    (moved : ResetMove state event after) {id : Nat} (spent : state.Spent id) :
    after.Spent id ∧ after.passwordSets.filter (fun set => decide (set.tokenId = id)) =
      state.passwordSets.filter fun set => decide (set.tokenId = id) := by
  cases moved with
  | begins | issues | presents | unknown | locks | misses | changes | purged | changed | aborts =>
      exact ⟨spent.moves rfl rfl rfl rfl, rfl⟩
  | elapsed => exact ⟨spent, rfl⟩
  | inserts => exact ⟨spent_insert spent, rfl⟩
  | purges current visited | retires current visited =>
      rcases (visitRow_cases visited).2 with ⟨_, _, _, rfl⟩ | ⟨_, rfl⟩
      · exact ⟨spent.moves rfl rfl rfl rfl, rfl⟩
      · exact ⟨spent.moves rfl rfl rfl rfl, rfl⟩
  | issued current => exact ⟨(inv.commitIssue current).2 id spent, rfl⟩
  | @consumed _ tokenId _ _ current visited =>
      obtain ⟨⟨_, keeps⟩, unspent⟩ := inv.commitConsume current visited
      refine ⟨keeps id spent, ?_⟩
      have apart : tokenId ≠ id := by
        rintro rfl
        exact unspent spent
      simp [ResetState.commitConsume, List.filter_append, apart]

theorem ResetMove.phases {event : ResetEvent} (moved : ResetMove state event after) :
    (after.phase = state.phase ∧ ∀ other, event ≠ .abort other ∧ event ≠ .commit other) ∨
      ∃ transaction phase, state.phase transaction ≠ .ended ∧
        after.phase = Function.update state.phase transaction phase ∧
        ∀ other, event = .abort other ∨ event = .commit other →
          other = transaction ∧ phase = .ended := by
  cases moved with
  | elapsed => exact Or.inl ⟨rfl, fun _ => ⟨nofun, nofun⟩⟩
  | begins current | issues current | presents current | unknown current | locks current
  | misses current | changes current | purged current | changed current | inserts current =>
      refine Or.inr ⟨_, _, ?_, rfl, nofun⟩
      rw [current]
      nofun
  | purges current visited | retires current visited =>
      rcases (visitRow_cases visited).2 with ⟨_, _, _, rfl⟩ | ⟨_, rfl⟩
      · refine Or.inr ⟨_, _, ?_, rfl, nofun⟩
        rw [current]
        nofun
      · refine Or.inr ⟨_, _, ?_, rfl, nofun⟩
        rw [current]
        nofun
  | issued current | consumed current =>
      refine Or.inr ⟨_, _, ?_, rfl, ?_⟩
      · rw [current]
        nofun
      · rintro _ (⟨⟨⟩⟩ | ⟨⟨⟩⟩)
        exact ⟨rfl, rfl⟩
  | aborts running =>
      refine Or.inr ⟨_, _, running, rfl, ?_⟩
      rintro _ (⟨⟨⟩⟩ | ⟨⟨⟩⟩)
      exact ⟨rfl, rfl⟩

theorem ResetMove.ended {event : ResetEvent} (moved : ResetMove state event after)
    (done : state.phase transaction = .ended) :
    after.phase transaction = .ended ∧ event ≠ .abort transaction ∧
      event ≠ .commit transaction := by
  rcases moved.phases with ⟨same, others⟩ | ⟨mover, phase, running, phases, ends⟩
  · rw [same]
    exact ⟨done, others transaction⟩
  · have apart : transaction ≠ mover := by
      rintro rfl
      exact running done
    rw [phases, Function.update_of_ne apart]
    exact ⟨done, fun aborts => apart (ends transaction (Or.inl aborts)).1,
      fun commits => apart (ends transaction (Or.inr commits)).1⟩

theorem ResetMove.ends {event : ResetEvent} (moved : ResetMove state event after)
    (last : event = .abort transaction ∨ event = .commit transaction) :
    after.phase transaction = .ended := by
  rcases moved.phases with ⟨_, others⟩ | ⟨mover, phase, _, phases, ends⟩
  · rcases last with aborts | commits
    · exact absurd aborts (others transaction).1
    · exact absurd commits (others transaction).2
  · obtain ⟨rfl, rfl⟩ := ends transaction last
    rw [phases, Function.update_self]

theorem ended_run {events : List ResetEvent} (done : state.phase transaction = .ended)
    (ran : resetRuns.run state events = some after) :
    .abort transaction ∉ events ∧ .commit transaction ∉ events := by
  induction events generalizing state with
  | nil => exact ⟨List.not_mem_nil, List.not_mem_nil⟩
  | cons event rest ih =>
      obtain ⟨middle, stepped, ran⟩ := Option.bind_eq_some_iff.1 ran
      obtain ⟨still, noAbort, noCommit⟩ := (resetMove_of_step stepped).ended done
      obtain ⟨restAbort, restCommit⟩ := ih still ran
      exact ⟨List.not_mem_cons_of_ne_of_not_mem noAbort.symm restAbort,
        List.not_mem_cons_of_ne_of_not_mem noCommit.symm restCommit⟩

theorem aborted_never_commits {events : List ResetEvent}
    (ran : resetRuns.run state events = some after) (aborted : .abort transaction ∈ events) :
    .commit transaction ∉ events := by
  induction events generalizing state with
  | nil => exact List.not_mem_nil
  | cons event rest ih =>
      obtain ⟨middle, stepped, onward⟩ := Option.bind_eq_some_iff.1 ran
      intro committed
      rcases List.mem_cons.1 aborted with rfl | later
      · have done := (resetMove_of_step stepped).ends (Or.inl rfl)
        rcases List.mem_cons.1 committed with same | commits
        · cases same
        · exact (ended_run done onward).2 commits
      · rcases List.mem_cons.1 committed with rfl | commits
        · have done := (resetMove_of_step stepped).ends (Or.inr rfl)
          exact (ended_run done onward).1 later
        · exact ih onward later commits

theorem ResetMove.uncommitted {event : ResetEvent} (moved : ResetMove state event after)
    (uncommitted : ∀ transaction, event ≠ .commit transaction) :
    after.users = state.users ∧ after.tokens = state.tokens ∧
      after.passwordSets = state.passwordSets := by
  cases moved with
  | begins | issues | presents | unknown | locks | misses | changes | purged | changed | inserts
  | aborts | elapsed => exact ⟨rfl, rfl, rfl⟩
  | purges _ visited | retires _ visited =>
      rcases (visitRow_cases visited).2 with ⟨_, _, _, rfl⟩ | ⟨_, rfl⟩
      · exact ⟨rfl, rfl, rfl⟩
      · exact ⟨rfl, rfl, rfl⟩
  | issued | consumed => exact absurd rfl (uncommitted _)

theorem ResetState.Initial.inv (initial : state.Initial) : ResetInv state where
  sound := by
    intro transaction
    rw [initial.1 transaction]
    exact transactionSound_of_blank rfl rfl
  ids := fun id token found => by
    obtain ⟨member, rfl⟩ := (KeyedTable.find_eq_some_iff _ _ _).1 found
    exact initial.2.2.1 token member
  inserted := by
    intro transaction id new
    rw [initial.1 transaction] at new
    cases new
  spent := by
    rw [initial.2.2.2]
    exact fun set member => absurd member List.not_mem_nil
  once := by
    rw [initial.2.2.2]
    exact List.nodup_nil

theorem reset_inv (reached : resetRuns.Reachable state) : ResetInv state :=
  StepSystem.Reachable.invariant (fun _ initial => ResetState.Initial.inv initial)
    (fun _ _ _ inv stepped => inv.kept (resetMove_of_step stepped)) reached

theorem ResetInv.spent_run (inv : ResetInv state) {events : List ResetEvent} {id : Nat}
    (spent : state.Spent id) (ran : resetRuns.run state events = some after) :
    after.passwordSets.filter (fun set => decide (set.tokenId = id)) =
      state.passwordSets.filter fun set => decide (set.tokenId = id) := by
  induction events generalizing state with
  | nil =>
      cases ran
      rfl
  | cons event rest ih =>
      obtain ⟨middle, stepped, ran⟩ := Option.bind_eq_some_iff.1 ran
      have moved := resetMove_of_step stepped
      obtain ⟨still, same⟩ := inv.spent_kept moved spent
      rw [ih (inv.kept moved) still ran, same]

end

/-- However resets interleave: a token sets a password once at most, one that is used or gone sets
none any more, and only transactions that commit change anything. -/
theorem reset_link_works_once {state : ResetState} (reached : resetRuns.Reachable state) :
    (state.passwordSets.map PasswordSet.tokenId).Nodup ∧
    (∀ id events after, state.Spent id → resetRuns.run state events = some after →
      after.passwordSets.filter (fun set => decide (set.tokenId = id)) =
        state.passwordSets.filter fun set => decide (set.tokenId = id)) ∧
    (∀ event after, resetRuns.step state event = some after →
      (∀ transaction, event ≠ .commit transaction) →
      after.users = state.users ∧ after.tokens = state.tokens ∧
        after.passwordSets = state.passwordSets) ∧
    ∀ events after transaction, resetRuns.run state events = some after →
      .abort transaction ∈ events → .commit transaction ∉ events := by
  have inv := reset_inv reached
  refine ⟨inv.once, ?_, ?_, ?_⟩
  · intro id events after spent ran
    exact inv.spent_run spent ran
  · intro event after stepped
    exact (resetMove_of_step stepped).uncommitted
  · intro events after transaction ran
    exact aborted_never_commits ran

def resetLink (id : Nat) (tokenHash : String) : PasswordResetToken where
  id := id
  portalUserId := 1
  tokenHash := tokenHash
  expiresAt := 30
  usedAt := none

def twoLinks : ResetState where
  now := 0
  users := fun id => if id = 1 then some ⟨"user@example.com", true, "old", 0⟩ else none
  tokens := ⟨[resetLink 1 "first", resetLink 2 "second"], by decide⟩
  nextId := 3
  hashes := ["first", "second"]
  locks := LockTable.free
  phase := fun _ => .idle
  passwordSets := []

theorem twoLinks_initial : resetRuns.initial twoLinks :=
  ⟨fun _ => rfl, rfl, by decide, rfl⟩

def crossedResets : List ResetEvent :=
  [.begins 0, .begins 1, .consume 0 "first" "new", .consume 1 "second" "newer", .lock 0, .lock 1,
    .lock 0, .proceed 0, .visit 0 1, .abort 1, .visit 0 2, .commit 0]

theorem second_link_retired :
    ∃ state, resetRuns.Reachable state ∧ state.passwordSets = [⟨1, 1, "new"⟩] ∧
      (state.users 1).map ResetUser.passwordHash = some "new" ∧
      ∀ events after, resetRuns.run state events = some after →
        after.passwordSets.filter (fun set => decide (set.tokenId = 2)) = [] := by
  have evaluated : ((resetRuns.run twoLinks crossedResets).any fun state =>
      decide (state.passwordSets = [⟨1, 1, "new"⟩]) &&
      decide ((state.users 1).map ResetUser.passwordHash = some "new") &&
      decide (state.nextId = 3) &&
      decide ((state.tokens.find 2).map PasswordResetToken.usedAt = some (some 0))) = true := by
    decide +kernel
  simp only [Option.any_eq_true, Bool.and_eq_true, decide_eq_true_eq] at evaluated
  obtain ⟨state, ran, ⟨⟨sets, changed⟩, issued⟩, used⟩ := evaluated
  have reached : resetRuns.Reachable state := .run (.start twoLinks_initial) ran
  have spent : state.Spent 2 := by
    refine ⟨issued ▸ by decide, ?_, ?_⟩
    · rintro ⟨transaction, new⟩
      rw [((reset_inv reached).inserted transaction 2 new).2.1] at used
      cases used
    · intro token found
      rw [found, Option.map_some, Option.some.injEq] at used
      rw [used]
      exact Option.some_ne_none _
  refine ⟨state, reached, sets, changed, ?_⟩
  intro events after onward
  rw [(reset_link_works_once reached).2.1 2 events after spent onward, sets]
  decide

end UssdGateway
