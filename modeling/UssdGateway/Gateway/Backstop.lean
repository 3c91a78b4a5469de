import UssdGateway.Gateway.ExpiryClaims

/-!
The scheduler's backstop, which deletes long idle sessions without a word, beside the sweepers that
notify the handlers.
-/

namespace UssdGateway

structure BackstopArgs where
  idleMinutes : Int
  batchSize : Nat
  maxBatches : Nat

def intradayBackstop : BackstopArgs where
  idleMinutes := 60
  batchSize := 20000
  maxBatches := 200

/-- A CALL before one of its batches. Each batch is a transaction, with a cutoff of its own. -/
structure BackstopCall where
  i : Nat
  cutoff : Int
  deleted : Nat

structure ExpirySweeping where
  config : SessionExpiryConfig
  enabled : Bool

def BackstopArgs.nextBatch (args : BackstopArgs) (now i deleted : Nat) : Option BackstopCall :=
  if args.maxBatches < i then none
  else some { i, cutoff := now - args.idleMinutes * 60 * microsPerSec, deleted }

def BackstopCall.stale (call : BackstopCall) (row : ActiveSessionRow) : Bool :=
  decide ((row.lastSeenAt : Int) < call.cutoff)

structure BackstopRace extends SweepRace where
  calls : Nat → Option BackstopCall

inductive BackstopEvent where
  | gateway (event : SweepEvent)
  | called (scheduler : Nat)
  | batch (scheduler : Nat) (victims : List SessionKey)
  -- the lock timeout, or a crash
  | aborted (scheduler : Nat)

namespace BackstopRace

variable (registry : Registry) (sweeping : ExpirySweeping) (args : BackstopArgs)
  (race : BackstopRace)

def withCall (scheduler : Nat) (call : Option BackstopCall) : BackstopRace :=
  { race with calls := fun other => if other = scheduler then call else race.calls other }

def Selects (call : BackstopCall) (victims : List SessionKey) : Prop :=
  victims.Nodup ∧ victims.length = min args.batchSize (race.table.rows.countP call.stale) ∧
    ∀ key ∈ victims, race.locks key = none ∧ (race.table.find key).any call.stale = true

instance (call : BackstopCall) (victims : List SessionKey) :
    Decidable (race.Selects args call victims) :=
  inferInstanceAs (Decidable (_ ∧ _ ∧ _))

def batch (scheduler : Nat) (call : BackstopCall) (victims : List SessionKey) :
    Option BackstopRace :=
  if race.Selects args call victims then
    some ({ race with table := race.table.filter fun row => row.key ∉ victims }.withCall scheduler
      (if victims.length < args.batchSize then none
      else args.nextBatch race.now (call.i + 1) (call.deleted + victims.length)))
  else none

def gateway (event : SweepEvent) : Option BackstopRace :=
  (race.toSweepRace.step registry sweeping.config sweeping.config.batch event).map fun next =>
    { toSweepRace := next, calls := race.calls }

def step : BackstopEvent → Option BackstopRace
  | .gateway (.begin sweeper) =>
      if sweeping.enabled then race.gateway registry sweeping (.begin sweeper) else none
  | .gateway event => race.gateway registry sweeping event
  | .called scheduler =>
      if (race.calls scheduler).isNone then
        some (race.withCall scheduler (args.nextBatch race.now 1 0))
      else none
  | .batch scheduler victims =>
      (race.calls scheduler).bind fun call => race.batch args scheduler call victims
  | .aborted scheduler => some (race.withCall scheduler none)

def Entitled (row : ActiveSessionRow) : Prop :=
  sweeping.enabled = true ∧ (dueSession registry sweeping.config race.now row).isSome = true

/-- The event deletes a row that a notifying sweeper is entitled to. -/
def Steals : BackstopEvent → Prop
  | .batch _ victims =>
      ∃ row ∈ race.table.rows, row.key ∈ victims ∧ race.Entitled registry sweeping row
  | _ => False

end BackstopRace

def backstopRaces (registry : Registry) (sweeping : ExpirySweeping) (args : BackstopArgs) :
    StepSystem BackstopRace BackstopEvent where
  initial race :=
    (sweepRaces registry sweeping.config sweeping.config.batch).initial race.toSweepRace ∧
      ∀ scheduler, race.calls scheduler = none
  step race event := race.step registry sweeping args event

def NeverSteals (registry : Registry) (sweeping : ExpirySweeping) (args : BackstopArgs) : Prop :=
  ∀ race event after, (backstopRaces registry sweeping args).Reachable race →
    race.step registry sweeping args event = some after → ¬ race.Steals registry sweeping event

/-! The clock. -/

theorem SweepRace.now_le {registry : Registry} {config : SessionExpiryConfig} {limit : Int}
    {race after : SweepRace} {event : SweepEvent}
    (stepped : race.step registry config limit event = some after) : race.now ≤ after.now := by
  cases event with
  | elapsed micros =>
      cases stepped
      exact Nat.le_add_right _ _
  | visit sweeper =>
      obtain ⟨sweep, _, moved⟩ := Option.bind_eq_some_iff.1 stepped
      rw [SweepRace.visit] at moved
      split at moved
      · cases moved
      · split at moved
        · split at moved <;> cases moved <;> exact le_refl _
        · cases moved
  | commit sweeper =>
      obtain ⟨sweep, _, moved⟩ := Option.bind_eq_some_iff.1 stepped
      rw [SweepRace.commit] at moved
      split at moved
      · cases moved
        exact le_refl _
      · cases moved
  | begin sweeper =>
      simp only [SweepRace.step] at stepped
      split at stepped
      · split at stepped <;> cases stepped <;> exact le_refl _
      · cases stepped
  | abort | upserted | closed =>
      simp only [SweepRace.step] at stepped
      split at stepped
      · cases stepped
        exact le_refl _
      · cases stepped

namespace BackstopRace

variable {registry : Registry} {sweeping : ExpirySweeping} {args : BackstopArgs}
  {race after : BackstopRace}

def CutoffsPast (args : BackstopArgs) (race : BackstopRace) : Prop :=
  ∀ scheduler call, race.calls scheduler = some call →
    call.cutoff ≤ race.now - args.idleMinutes * 60 * microsPerSec

theorem CutoffsPast.withCall (past : race.CutoffsPast args) {scheduler : Nat}
    {call : Option BackstopCall} (same : after.now = race.now) (calls : after.calls = race.calls)
    (fresh : ∀ next ∈ call, next.cutoff ≤ race.now - args.idleMinutes * 60 * microsPerSec) :
    (after.withCall scheduler call).CutoffsPast args := by
  intro other next found
  change (if other = scheduler then call else after.calls other) = some next at found
  change next.cutoff ≤ after.now - _
  rw [same]
  split at found
  · exact fresh next found
  · rw [calls] at found
    exact past other next found

theorem nextBatch_cutoff {now i deleted : Nat} {call : BackstopCall}
    (next : call ∈ args.nextBatch now i deleted) :
    call.cutoff ≤ now - args.idleMinutes * 60 * microsPerSec := by
  rw [BackstopArgs.nextBatch] at next
  split at next
  · cases next
  · cases next
    exact le_refl _

theorem CutoffsPast.step (past : race.CutoffsPast args) {event : BackstopEvent}
    (stepped : race.step registry sweeping args event = some after) :
    after.CutoffsPast args := by
  have lifted : ∀ event, race.gateway registry sweeping event = some after →
      after.CutoffsPast args := by
    intro event moved
    obtain ⟨next, swept, rfl⟩ := Option.map_eq_some_iff.1 moved
    have later := SweepRace.now_le swept
    intro scheduler call found
    have before := past scheduler call found
    change call.cutoff ≤ next.now - _
    omega
  cases event with
  | gateway event =>
      cases event with
      | begin sweeper =>
          simp only [BackstopRace.step] at stepped
          split at stepped
          · exact lifted _ stepped
          · cases stepped
      | _ => exact lifted _ stepped
  | called scheduler =>
      simp only [BackstopRace.step] at stepped
      split at stepped
      · cases stepped
        exact past.withCall rfl rfl fun call next => nextBatch_cutoff next
      · cases stepped
  | batch scheduler victims =>
      obtain ⟨call, _, moved⟩ := Option.bind_eq_some_iff.1 stepped
      rw [BackstopRace.batch] at moved
      split at moved
      · cases moved
        refine past.withCall rfl rfl fun next member => ?_
        split at member
        · cases member
        · exact nextBatch_cutoff member
      · cases moved
  | aborted scheduler =>
      cases stepped
      exact past.withCall rfl rfl fun next member => nomatch member

theorem CutoffsPast.of_reachable
    (reached : (backstopRaces registry sweeping args).Reachable race) :
    race.CutoffsPast args := by
  refine reached.invariant ?_ fun _ _ _ past stepped => past.step stepped
  rintro start ⟨_, idle⟩ scheduler call found
  rw [idle] at found
  cases found

end BackstopRace

/-! The two windows. -/

def SessionExpiryConfig.limitOf (config : SessionExpiryConfig) (operatorName : Str) : Int :=
  (List.lookup operatorName config.idleSecsByOperator).getD config.idleSecs

/-- The backstop's age is beyond the reach of every claim. -/
def WindowsApart (registry : Registry) (sweeping : ExpirySweeping) (args : BackstopArgs) : Prop :=
  sweeping.enabled = false ∨ sweeping.config.notifyMaxAgeSecs ≤ args.idleMinutes * 60 ∨
    ∀ operator ∈ registry.operators,
      sweeping.config.notifyMaxAgeSecs ≤ sweeping.config.limitOf operator.name

section

variable {registry : Registry} {sweeping : ExpirySweeping} {args : BackstopArgs}

theorem stale_of_batch {race after : BackstopRace} {scheduler : Nat} {call : BackstopCall}
    {victims : List SessionKey} {row : ActiveSessionRow}
    (moved : race.batch args scheduler call victims = some after) (member : row ∈ race.table.rows)
    (chosen : row.key ∈ victims) : (row.lastSeenAt : Int) < call.cutoff := by
  rw [BackstopRace.batch] at moved
  split at moved
  next selects =>
    obtain ⟨_, _, all⟩ := selects
    have stale := (all row.key chosen).2
    rw [(KeyedTable.find_eq_some_iff _ _ _).2 ⟨member, rfl⟩] at stale
    simpa [BackstopCall.stale] using stale
  next => cases moved

theorem neverSteals_of_windowsApart (apart : WindowsApart registry sweeping args) :
    NeverSteals registry sweeping args := by
  intro race event after reached stepped steals
  have past := BackstopRace.CutoffsPast.of_reachable reached
  cases event with
  | batch scheduler victims =>
      obtain ⟨call, calling, moved⟩ := Option.bind_eq_some_iff.1 stepped
      obtain ⟨row, member, chosen, enabled, due⟩ := steals
      obtain ⟨expired, isDue⟩ := Option.isSome_iff_exists.1 due
      obtain ⟨operatorName, named, victim, _⟩ := (dueSession_eq_some_iff row expired).1 isDue
      obtain ⟨operator, listed, rfl⟩ := operatorName_mem named
      have stale := stale_of_batch moved member chosen
      have cutoff := past scheduler call calling
      simp only [isVictim, Bool.and_eq_true, decide_eq_true_eq] at victim
      rw [microsPerSec] at victim cutoff
      rcases apart with off | below | never
      · rw [off] at enabled
        cases enabled
      · omega
      · have limit := never operator listed
        rw [SessionExpiryConfig.limitOf] at limit
        omega
  | _ => exact steals

def noSessions : BackstopRace where
  table := KeyedTable.empty
  now := 0
  locks := LockTable.free
  sweeps _ := none
  returned := []
  born := []
  calls _ := none

def lateBackstop (operator : OperatorRow) (micros : Nat) : List BackstopEvent :=
  [.gateway (.upserted (sessionOf operator)), .gateway (.elapsed micros), .called 0]

theorem steals_of_windows_overlap (overlap : ¬ WindowsApart registry sweeping args)
    (room : 0 < args.batchSize) (begun : 0 < args.maxBatches) :
    ¬ NeverSteals registry sweeping args := by
  rw [WindowsApart] at overlap
  push Not at overlap
  obtain ⟨enabled, above, operator, listed, limit⟩ := overlap
  intro never
  have positive : 0 ≤ sweeping.config.notifyMaxAgeSecs * microsPerSec := by
    have checked := sweeping.config.accepted _ List.mem_cons_self
    rw [microsPerSec]
    omega
  obtain ⟨micros, span⟩ := Int.eq_ofNat_of_zero_le positive
  have reached : (backstopRaces registry sweeping args).Reachable noSessions :=
    .start ⟨⟨rfl, fun _ => rfl, rfl, rfl⟩, fun _ => rfl⟩
  let row := SessionTable.freshRow (sessionOf operator) 0
  obtain ⟨race, ran, table, now, locks, calls⟩ :
      ∃ race, (backstopRaces registry sweeping args).run noSessions
          (lateBackstop operator micros) = some race ∧ race.table.rows = [row] ∧
        race.now = 0 + micros ∧ race.locks = LockTable.free ∧
        race.calls 0 = args.nextBatch (0 + micros) 1 0 :=
    ⟨_, rfl, rfl, rfl, rfl, rfl⟩
  rw [Nat.zero_add] at now calls
  let call : BackstopCall := ⟨1, micros - args.idleMinutes * 60 * microsPerSec, 0⟩
  have calling : race.calls 0 = some call := by
    rw [calls, BackstopArgs.nextBatch, if_neg (by omega)]
  have seen : row.lastSeenAt = 0 := rfl
  have member : row ∈ race.table.rows := by
    rw [table]
    exact List.mem_cons_self
  have stale : call.stale row = true := by
    rw [microsPerSec] at span
    simp only [call, BackstopCall.stale, seen, microsPerSec, decide_eq_true_eq]
    omega
  have selects : race.Selects args call [row.key] := by
    refine ⟨List.nodup_singleton _, ?_, fun key only => ?_⟩
    · rw [table, List.countP_singleton, if_pos stale, List.length_singleton]
      omega
    · rw [List.mem_singleton.1 only, locks, (KeyedTable.find_eq_some_iff _ _ _).2 ⟨member, rfl⟩]
      exact ⟨rfl, stale⟩
  have moved : (race.step registry sweeping args (.batch 0 [row.key])).isSome = true := by
    rw [BackstopRace.step, calling, Option.bind_some, BackstopRace.batch, if_pos selects]
    rfl
  obtain ⟨after, stepped⟩ := Option.isSome_iff_exists.1 moved
  refine never race (.batch 0 [row.key]) after (reached.run ran) stepped
    ⟨row, member, List.mem_cons_self, by simpa using enabled, ?_⟩
  have victim : isVictim race.now sweeping.config.idleSecs sweeping.config.notifyMaxAgeSecs
      sweeping.config.idleSecsByOperator operator.name row = true := by
    have least := @minIdle_le sweeping.config operator.name
    rw [SessionExpiryConfig.limitOf] at limit
    rw [microsPerSec] at span
    simp only [isVictim, now, seen, microsPerSec, Bool.and_eq_true, decide_eq_true_eq]
    omega
  rw [Option.isSome_iff_exists]
  exact ⟨_, (dueSession_eq_some_iff row _).2
    ⟨operator.name, operatorName_of_mem listed, victim, rfl⟩⟩

/-- The scheduled backstop takes no notification away exactly where the gateway never sweeps, looks
back an hour at most, or no operator's limit is below how far it looks back. -/
theorem neverSteals_iff (registry : Registry) (sweeping : ExpirySweeping) :
    NeverSteals registry sweeping intradayBackstop ↔
      sweeping.enabled = false ∨ sweeping.config.notifyMaxAgeSecs ≤ 3600 ∨
        ∀ operator ∈ registry.operators,
          sweeping.config.notifyMaxAgeSecs ≤ sweeping.config.limitOf operator.name := by
  change _ ↔ WindowsApart registry sweeping intradayBackstop
  constructor
  · intro never
    by_contra overlap
    exact steals_of_windows_overlap overlap (by decide) (by decide) never
  · exact neverSteals_of_windowsApart

end

def twoHours : ExpirySweeping where
  config :=
    { idleSecs := 130, notifyMaxAgeSecs := 7200, batch := 200, idleSecsByOperator := []
      accepted := by decide }
  enabled := true

theorem two_hours_stolen : ¬ NeverSteals sampleRegistry twoHours intradayBackstop := by
  refine steals_of_windows_overlap ?_ (by decide) (by decide)
  rintro (off | below | never)
  · cases off
  · exact absurd below (by decide)
  · exact absurd (never ⟨3, lit "tigo"⟩ (by decide)) (by decide)

end UssdGateway
