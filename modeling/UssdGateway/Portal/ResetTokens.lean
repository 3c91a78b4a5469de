import UssdGateway.Library.KeyedTable
import UssdGateway.Library.RowLocks
import UssdGateway.Library.Transition
import UssdGateway.Portal.AuditLog
import Mathlib.Logic.Function.Basic

/-!
`issueResetToken` and `consumeResetToken` as transactions under READ COMMITTED. A statement takes
its snapshot of the committed rows when it begins, comes to its rows one by one, waits for their
locks and looks at them again under the lock. A transaction's writes are seen when it commits.
-/

namespace UssdGateway

structure PasswordResetToken where
  id : Nat
  portalUserId : Nat
  tokenHash : String
  expiresAt : Int
  usedAt : Option Int
deriving DecidableEq

abbrev ResetTokenTable := KeyedTable Nat PasswordResetToken PasswordResetToken.id

structure ResetUser where
  email : String
  active : Bool
  passwordHash : String
  passwordVersion : Nat
deriving DecidableEq

def resetTtlMinutes : Int := 30

def PasswordResetToken.purgeable (now : Int) (token : PasswordResetToken) : Bool :=
  decide (token.expiresAt < now - 24 * 60 * minuteMicros)

def PasswordResetToken.outstanding (userId : Nat) (token : PasswordResetToken) : Bool :=
  decide (token.portalUserId = userId) && token.usedAt.isNone

def PasswordResetToken.usable (now : Int) (token : PasswordResetToken) : Bool :=
  token.usedAt.isNone && decide (now < token.expiresAt)

inductive ResetLock where
  | token (id : Nat)
  | user (id : Nat)
deriving DecidableEq

/-- A transaction at a statement that goes through several rows, and what it has written so far.
`now()` is when it began. `snapshot` has the ids of the rows the statement sees. -/
structure ResetWork where
  startedAt : Int
  userId : Nat
  snapshot : List Nat
  remaining : List Nat
  deleted : List Nat
  retired : List Nat
deriving DecidableEq

inductive ResetJob where
  | issue (tokenHash : String)
  | consume (tokenId : Nat) (newHash : String)
deriving DecidableEq

inductive ResetPhase where
  | idle
  | begun (startedAt : Int)
  | purging (work : ResetWork) (tokenHash : String)
  | seeking (startedAt : Int) (tokenId userId : Nat) (newHash : String)
  | holding (startedAt : Int) (tokenId userId : Nat) (newHash : String)
  | changed (startedAt : Int) (tokenId userId : Nat) (newHash : String)
  | retiring (work : ResetWork) (job : ResetJob)
  | inserted (work : ResetWork) (tokenId : Nat) (tokenHash : String)
  | ended
deriving DecidableEq

structure PasswordSet where
  tokenId : Nat
  userId : Nat
  newHash : String
deriving DecidableEq

structure ResetState where
  now : Int
  users : Nat → Option ResetUser
  tokens : ResetTokenTable
  nextId : Nat
  hashes : List String
  locks : LockTable ResetLock Nat
  phase : Nat → ResetPhase
  passwordSets : List PasswordSet

inductive ResetEvent where
  | begins (transaction : Nat)
  | issue (transaction userId : Nat) (tokenHash : String)
  | consume (transaction : Nat) (tokenHash newHash : String)
  -- the one row of the running statement
  | lock (transaction : Nat)
  -- the running statement comes to one of its rows
  | visit (transaction id : Nat)
  -- the next statement begins
  | proceed (transaction : Nat)
  | commit (transaction : Nat)
  | abort (transaction : Nat)
  | elapsed (micros : Nat)
deriving DecidableEq

def ResetWork.mark (work : ResetWork) (token : PasswordResetToken) : PasswordResetToken :=
  if token.id ∈ work.retired then { token with usedAt := some work.startedAt } else token

theorem ResetWork.mark_id (work : ResetWork) (token : PasswordResetToken) :
    (work.mark token).id = token.id := by
  rw [ResetWork.mark]
  split <;> rfl

def ResetWork.visited (work : ResetWork) (id : Nat) : ResetWork :=
  { work with remaining := work.remaining.filter fun other => !decide (other = id) }

def ResetWork.freshToken (work : ResetWork) (tokenId : Nat) (tokenHash : String) :
    PasswordResetToken where
  id := tokenId
  portalUserId := work.userId
  tokenHash := tokenHash
  expiresAt := work.startedAt + resetTtlMinutes * minuteMicros
  usedAt := none

def ResetTokenTable.written (tokens : ResetTokenTable) (work : ResetWork) : ResetTokenTable :=
  (KeyedTable.filter tokens fun token => !decide (token.id ∈ work.deleted)).mapRows work.mark
    work.mark_id

namespace ResetState

variable (state : ResetState) (transaction : Nat)

def setPhase (phase : ResetPhase) : ResetState :=
  { state with phase := Function.update state.phase transaction phase }

def finish : ResetState :=
  { state with
    locks := state.locks.releaseAll transaction
    phase := Function.update state.phase transaction .ended }

def committed : List Nat := state.tokens.rows.map PasswordResetToken.id

def found (condition : PasswordResetToken → Bool) : List Nat :=
  (state.tokens.rows.filter condition).map PasswordResetToken.id

/-- The lock of a token, waited for while another transaction has it, and the condition checked
again on the newest row. None inside where the row is gone or does not meet it any more. -/
def lockToken (id : Nat) (condition : PasswordResetToken → Bool) :
    Option (Option (LockTable ResetLock Nat)) :=
  (state.locks.acquire transaction (.token id)).map fun locks =>
    if (state.tokens.find id).any condition then some locks else none

/-- A statement comes to one of its rows, and writes it if it still meets the condition. -/
def visitRow (work : ResetWork) (id : Nat) (condition : PasswordResetToken → Bool)
    (write : ResetWork → ResetWork) (phase : ResetWork → ResetPhase) : Option ResetState :=
  if id ∈ work.remaining then
    (state.lockToken transaction id condition).map fun
      | some locks =>
          { state with locks }.setPhase transaction (phase (write (work.visited id)))
      | none => state.setPhase transaction (phase (work.visited id))
  else none

def retire (userId : Nat) (work : ResetWork) : ResetWork :=
  { work with
    snapshot := state.committed
    remaining := (state.found (PasswordResetToken.outstanding userId)).filter fun id =>
      !decide (id ∈ work.deleted) }

def insert (work : ResetWork) (tokenHash : String) : ResetState :=
  { state with hashes := tokenHash :: state.hashes, nextId := state.nextId + 1 }.setPhase
    transaction (.inserted work state.nextId tokenHash)

def commitIssue (work : ResetWork) (tokenId : Nat) (tokenHash : String) : ResetState :=
  { state with
    tokens := (state.tokens.written work).upsert (work.freshToken tokenId tokenHash)
      (fun token => token) fun _ => rfl
    locks := state.locks.releaseAll transaction
    phase := Function.update state.phase transaction .ended }

def setPassword (newHash : String) (user : ResetUser) : ResetUser :=
  { user with passwordHash := newHash, passwordVersion := user.passwordVersion + 1 }

def commitConsume (work : ResetWork) (tokenId : Nat) (newHash : String) : ResetState :=
  { state with
    users := Function.update state.users work.userId
      ((state.users work.userId).map (setPassword newHash))
    tokens := state.tokens.written work
    passwordSets := state.passwordSets ++ [{ tokenId, userId := work.userId, newHash }]
    locks := state.locks.releaseAll transaction
    phase := Function.update state.phase transaction .ended }

end ResetState

def ResetState.Initial (state : ResetState) : Prop :=
  (∀ transaction, state.phase transaction = .idle) ∧ state.locks = LockTable.free ∧
    (∀ token ∈ state.tokens.rows, token.id < state.nextId) ∧ state.passwordSets = []

/-- What an event does, `none` where it is not possible. A token is presented by its hash. -/
def resetStep (state : ResetState) : ResetEvent → Option ResetState
  | .begins transaction =>
      match state.phase transaction with
      | .idle => some (state.setPhase transaction (.begun state.now))
      | _ => none
  | .issue transaction userId tokenHash =>
      match state.phase transaction with
      | .begun startedAt =>
          some (state.setPhase transaction (.purging
            { startedAt, userId, snapshot := state.committed
              remaining := state.found (PasswordResetToken.purgeable startedAt)
              deleted := [], retired := [] } tokenHash))
      | _ => none
  | .consume transaction tokenHash newHash =>
      match state.phase transaction with
      | .begun startedAt =>
          match state.tokens.rows.find? fun token =>
              decide (token.tokenHash = tokenHash) && token.usable startedAt &&
                (state.users token.portalUserId).any ResetUser.active with
          | some token => some (state.setPhase transaction
              (.seeking startedAt token.id token.portalUserId newHash))
          | none => some (state.setPhase transaction .ended)
      | _ => none
  | .lock transaction =>
      match state.phase transaction with
      | .seeking startedAt tokenId userId newHash =>
          (state.lockToken transaction tokenId fun token =>
              decide (token.portalUserId = userId) && token.usable startedAt).map fun
            | some locks => { state with locks }.setPhase transaction
                (.holding startedAt tokenId userId newHash)
            | none => state.finish transaction
      | .holding startedAt tokenId userId newHash =>
          (state.locks.acquire transaction (.user userId)).map fun locks =>
            { state with locks }.setPhase transaction (.changed startedAt tokenId userId newHash)
      | _ => none
  | .visit transaction id =>
      match state.phase transaction with
      | .purging work tokenHash =>
          state.visitRow transaction work id (PasswordResetToken.purgeable work.startedAt)
            (fun work => { work with deleted := id :: work.deleted })
            fun work => .purging work tokenHash
      | .retiring work job =>
          state.visitRow transaction work id (PasswordResetToken.outstanding work.userId)
            (fun work => { work with retired := id :: work.retired })
            fun work => .retiring work job
      | _ => none
  | .proceed transaction =>
      match state.phase transaction with
      | .purging work tokenHash =>
          if work.remaining = [] then
            some (state.setPhase transaction
              (.retiring (state.retire work.userId work) (.issue tokenHash)))
          else none
      | .changed startedAt tokenId userId newHash =>
          some (state.setPhase transaction
            (.retiring (state.retire userId
              { startedAt, userId, snapshot := state.committed
                remaining := [], deleted := [], retired := [] })
              (.consume tokenId newHash)))
      | .retiring work (.issue tokenHash) =>
          if work.remaining = [] ∧ tokenHash ∉ state.hashes then
            some (state.insert transaction work tokenHash)
          else none
      | _ => none
  | .commit transaction =>
      match state.phase transaction with
      | .inserted work tokenId tokenHash =>
          some (state.commitIssue transaction work tokenId tokenHash)
      | .retiring work (.consume tokenId newHash) =>
          if work.remaining = [] then
            some (state.commitConsume transaction work tokenId newHash)
          else none
      | _ => none
  | .abort transaction =>
      match state.phase transaction with
      | .idle | .ended => none
      | _ => some (state.finish transaction)
  | .elapsed micros => some { state with now := state.now + micros }

def resetRuns : StepSystem ResetState ResetEvent where
  initial := ResetState.Initial
  step := resetStep

inductive ResetMove (state : ResetState) : ResetEvent → ResetState → Prop where
  | begins {transaction : Nat} : state.phase transaction = .idle →
      ResetMove state (.begins transaction) (state.setPhase transaction (.begun state.now))
  | issues {transaction userId : Nat} {tokenHash : String} {startedAt : Int} :
      state.phase transaction = .begun startedAt →
      ResetMove state (.issue transaction userId tokenHash)
        (state.setPhase transaction (.purging
          { startedAt, userId, snapshot := state.committed
            remaining := state.found (PasswordResetToken.purgeable startedAt)
            deleted := [], retired := [] } tokenHash))
  | presents {transaction : Nat} {tokenHash newHash : String} {startedAt : Int}
      {token : PasswordResetToken} : state.phase transaction = .begun startedAt →
      token ∈ state.tokens.rows → token.tokenHash = tokenHash →
      ResetMove state (.consume transaction tokenHash newHash)
        (state.setPhase transaction (.seeking startedAt token.id token.portalUserId newHash))
  | unknown {transaction : Nat} {tokenHash newHash : String} {startedAt : Int} :
      state.phase transaction = .begun startedAt →
      ResetMove state (.consume transaction tokenHash newHash) (state.setPhase transaction .ended)
  | locks {transaction tokenId userId : Nat} {newHash : String} {startedAt : Int}
      {locks : LockTable ResetLock Nat} {token : PasswordResetToken} :
      state.phase transaction = .seeking startedAt tokenId userId newHash →
      state.locks.acquire transaction (.token tokenId) = some locks →
      state.tokens.find tokenId = some token → token.portalUserId = userId →
      token.usable startedAt = true →
      ResetMove state (.lock transaction) ({ state with locks }.setPhase transaction
        (.holding startedAt tokenId userId newHash))
  | misses {transaction tokenId userId : Nat} {newHash : String} {startedAt : Int} :
      state.phase transaction = .seeking startedAt tokenId userId newHash →
      ResetMove state (.lock transaction) (state.finish transaction)
  | changes {transaction tokenId userId : Nat} {newHash : String} {startedAt : Int}
      {locks : LockTable ResetLock Nat} :
      state.phase transaction = .holding startedAt tokenId userId newHash →
      state.locks.acquire transaction (.user userId) = some locks →
      ResetMove state (.lock transaction) ({ state with locks }.setPhase transaction
        (.changed startedAt tokenId userId newHash))
  | purges {transaction id : Nat} {work : ResetWork} {tokenHash : String} {after : ResetState} :
      state.phase transaction = .purging work tokenHash →
      state.visitRow transaction work id (PasswordResetToken.purgeable work.startedAt)
        (fun work => { work with deleted := id :: work.deleted })
        (fun work => .purging work tokenHash) = some after →
      ResetMove state (.visit transaction id) after
  | retires {transaction id : Nat} {work : ResetWork} {job : ResetJob} {after : ResetState} :
      state.phase transaction = .retiring work job →
      state.visitRow transaction work id (PasswordResetToken.outstanding work.userId)
        (fun work => { work with retired := id :: work.retired })
        (fun work => .retiring work job) = some after →
      ResetMove state (.visit transaction id) after
  | purged {transaction : Nat} {work : ResetWork} {tokenHash : String} :
      state.phase transaction = .purging work tokenHash → work.remaining = [] →
      ResetMove state (.proceed transaction)
        (state.setPhase transaction
          (.retiring (state.retire work.userId work) (.issue tokenHash)))
  | changed {transaction tokenId userId : Nat} {newHash : String} {startedAt : Int} :
      state.phase transaction = .changed startedAt tokenId userId newHash →
      ResetMove state (.proceed transaction)
        (state.setPhase transaction
          (.retiring (state.retire userId
            { startedAt, userId, snapshot := state.committed
              remaining := [], deleted := [], retired := [] })
            (.consume tokenId newHash)))
  | inserts {transaction : Nat} {work : ResetWork} {tokenHash : String} :
      state.phase transaction = .retiring work (.issue tokenHash) → work.remaining = [] →
      ResetMove state (.proceed transaction) (state.insert transaction work tokenHash)
  | issued {transaction tokenId : Nat} {work : ResetWork} {tokenHash : String} :
      state.phase transaction = .inserted work tokenId tokenHash →
      ResetMove state (.commit transaction)
        (state.commitIssue transaction work tokenId tokenHash)
  | consumed {transaction tokenId : Nat} {work : ResetWork} {newHash : String} :
      state.phase transaction = .retiring work (.consume tokenId newHash) → work.remaining = [] →
      ResetMove state (.commit transaction) (state.commitConsume transaction work tokenId newHash)
  | aborts {transaction : Nat} : state.phase transaction ≠ .ended →
      ResetMove state (.abort transaction) (state.finish transaction)
  | elapsed {micros : Nat} :
      ResetMove state (.elapsed micros) { state with now := state.now + micros }

theorem lockToken_some {state : ResetState} {transaction id : Nat}
    {condition : PasswordResetToken → Bool} {locks : LockTable ResetLock Nat}
    (locked : state.lockToken transaction id condition = some (some locks)) :
    state.locks.acquire transaction (.token id) = some locks ∧
      ∃ token, state.tokens.find id = some token ∧ condition token = true := by
  obtain ⟨taken, acquired, checked⟩ := Option.map_eq_some_iff.1 locked
  split at checked
  next holds =>
    cases checked
    exact ⟨acquired, (Option.any_eq_true _ _).1 holds⟩
  next => cases checked

theorem resetMove_of_step {state after : ResetState} {event : ResetEvent}
    (stepped : resetRuns.step state event = some after) : ResetMove state event after := by
  change resetStep state event = some after at stepped
  cases event with
  | begins transaction =>
      rw [resetStep] at stepped
      split at stepped
      next current => exact Option.some.inj stepped ▸ .begins current
      next => cases stepped
  | issue transaction userId tokenHash =>
      rw [resetStep] at stepped
      split at stepped
      next startedAt current => exact Option.some.inj stepped ▸ .issues current
      next => cases stepped
  | consume transaction tokenHash newHash =>
      rw [resetStep] at stepped
      split at stepped
      next startedAt current =>
        split at stepped
        next token found =>
          have meets := List.find?_some found
          simp only [Bool.and_eq_true, decide_eq_true_eq] at meets
          exact Option.some.inj stepped ▸
            .presents current (List.mem_of_find?_eq_some found) meets.1.1
        next => exact Option.some.inj stepped ▸ .unknown current
      next => cases stepped
  | lock transaction =>
      rw [resetStep] at stepped
      split at stepped
      next startedAt tokenId userId newHash current =>
        obtain ⟨result, locked, moved⟩ := Option.map_eq_some_iff.1 stepped
        cases result with
        | none => exact moved ▸ .misses current
        | some locks =>
            obtain ⟨acquired, token, found, meets⟩ := lockToken_some locked
            rw [Bool.and_eq_true, decide_eq_true_eq] at meets
            exact moved ▸ .locks current acquired found meets.1 meets.2
      next startedAt tokenId userId newHash current =>
        obtain ⟨locks, acquired, moved⟩ := Option.map_eq_some_iff.1 stepped
        exact moved ▸ .changes current acquired
      next => cases stepped
  | visit transaction id =>
      rw [resetStep] at stepped
      split at stepped
      next work tokenHash current => exact .purges current stepped
      next work job current => exact .retires current stepped
      next => cases stepped
  | proceed transaction =>
      rw [resetStep] at stepped
      split at stepped
      next work tokenHash current =>
        obtain ⟨visited, moved⟩ := Option.ite_none_right_eq_some.1 stepped
        exact Option.some.inj moved ▸ .purged current visited
      next startedAt tokenId userId newHash current =>
        exact Option.some.inj stepped ▸ .changed current
      next work tokenHash current =>
        obtain ⟨⟨visited, _⟩, moved⟩ := Option.ite_none_right_eq_some.1 stepped
        exact Option.some.inj moved ▸ .inserts current visited
      next => cases stepped
  | commit transaction =>
      rw [resetStep] at stepped
      split at stepped
      next work tokenId tokenHash current => exact Option.some.inj stepped ▸ .issued current
      next work tokenId newHash current =>
        obtain ⟨visited, moved⟩ := Option.ite_none_right_eq_some.1 stepped
        exact Option.some.inj moved ▸ .consumed current visited
      next => cases stepped
  | abort transaction =>
      rw [resetStep] at stepped
      split at stepped
      next => cases stepped
      next => cases stepped
      next running => exact Option.some.inj stepped ▸ .aborts running
  | elapsed micros => exact Option.some.inj stepped ▸ .elapsed

end UssdGateway
