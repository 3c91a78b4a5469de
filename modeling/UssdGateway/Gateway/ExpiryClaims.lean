import UssdGateway.Gateway.World
import UssdGateway.Library.Paging
import UssdGateway.Library.RowLocks
import UssdGateway.Library.Transition

/-!
The claim of idle sessions. One call takes the oldest sessions inside their operator's window, and
sweepers that run at the same time never take one row twice. The windows themselves are checked
at start, except for a default limit behind an entry named `default`.
-/

namespace UssdGateway

section

variable (lower : Str → Str) (registry : Registry) (config : SessionExpiryConfig)

def InWindow (operatorName : Str) (idle : Int) : Prop :=
  config.idleSecsFor lower operatorName * microsPerSec < idle ∧
    idle ≤ config.notifyMaxAgeSecs * microsPerSec

def Claimable (now : Nat) (locked : SessionKey → Bool) (row : ActiveSessionRow) : Prop :=
  locked row.key = false ∧ ∃ operatorName,
    registry.operatorName row.operatorId = some operatorName ∧
    InWindow lower config operatorName (now - row.lastSeenAt)

def claimCall (table : SessionTable) (now : Nat) (limit : Int) (locked : SessionKey → Bool) :
    Option (List ExpiredSession × SessionTable) :=
  claimExpiredSessions registry table now config.idleSecs config.notifyMaxAgeSecs limit
    config.idleSecsByOperator locked

/-- The oldest claimable rows, at most `limit` of them, are returned and removed. -/
structure ClaimsOldest (table : SessionTable) (now : Nat) (limit : Int)
    (locked : SessionKey → Bool) (claimed : List ExpiredSession) (after : SessionTable) :
    Prop where
  due : ∀ expired ∈ claimed, ∃ row ∈ table.rows, ∃ operatorName,
    Claimable lower registry config now locked row ∧
    registry.operatorName row.operatorId = some operatorName ∧ expired = row.expired operatorName
  once : (claimed.map ExpiredSession.key).Nodup
  bounded : claimed.length ≤ limit
  oldest : ∀ row ∈ table.rows, Claimable lower registry config now locked row →
    row.key ∉ claimed.map ExpiredSession.key →
      claimed.length = limit ∧ ∀ expired ∈ claimed, expired.lastSeenAt ≤ row.lastSeenAt
  removed : ∀ row, row ∈ after.rows ↔
    row ∈ table.rows ∧ row.key ∉ claimed.map ExpiredSession.key

end

/-! Sweepers at the same time. -/

/-- A claim in progress: its clock, the rows it has still to visit and those it has locked. -/
structure Sweep where
  startedAt : Nat
  remaining : List ExpiredSession
  picked : List ExpiredSession

structure SweepRace where
  table : SessionTable
  now : Nat
  locks : LockTable SessionKey Nat
  sweeps : Nat → Option Sweep
  returned : List ExpiredSession
  born : List SessionKey

inductive SweepEvent where
  | begin (sweeper : Nat)
  | visit (sweeper : Nat)
  | commit (sweeper : Nat)
  | abort (sweeper : Nat)
  | upserted (values : SessionUpsert)
  | closed (key : SessionKey)
  | elapsed (micros : Nat)

section

variable (registry : Registry) (config : SessionExpiryConfig) (limit : Int)

def dueSession (now : Nat) (row : ActiveSessionRow) : Option ExpiredSession :=
  (registry.operatorName row.operatorId).bind fun name =>
    if isVictim now config.idleSecs config.notifyMaxAgeSecs config.idleSecsByOperator name row then
      some (row.expired name)
    else none

def candidates (table : SessionTable) (now : Nat) : List ExpiredSession :=
  (table.rows.filterMap (dueSession registry config now)).insertionSort fun first second =>
    first.lastSeenAt ≤ second.lastSeenAt

namespace SweepRace

variable (race : SweepRace) (sweeper : Nat)

def withSweep (sweep : Option Sweep) : SweepRace :=
  { race with sweeps := fun other => if other = sweeper then sweep else race.sweeps other }

/-- Lock the row a claim comes to, and check it again as it stands now. -/
def lockDue (startedAt : Nat) (key : SessionKey) :
    Option (ExpiredSession × LockTable SessionKey Nat) :=
  (race.table.find key).bind fun row =>
    (dueSession registry config startedAt row).bind fun expired =>
      (race.locks.acquire sweeper key).map fun locks => (expired, locks)

def visit (sweep : Sweep) : Option SweepRace :=
  match sweep.remaining with
  | [] => none
  | candidate :: rest =>
      if sweep.picked.length < limit then
        match race.lockDue registry config sweeper sweep.startedAt candidate.key with
        | some (expired, locks) =>
            some ({ race with locks }.withSweep sweeper
              (some { sweep with remaining := rest, picked := sweep.picked ++ [expired] }))
        | none => some (race.withSweep sweeper (some { sweep with remaining := rest }))
      else none

def commit (sweep : Sweep) : Option SweepRace :=
  if sweep.remaining = [] ∨ limit ≤ sweep.picked.length then
    some ({ race with
      table := race.table.filter fun row => row.key ∉ sweep.picked.map ExpiredSession.key
      locks := race.locks.releaseAll sweeper
      returned := race.returned ++ sweep.picked }.withSweep sweeper none)
  else none

def step : SweepEvent → Option SweepRace
  | .begin sweeper =>
      if (race.sweeps sweeper).isNone then
        -- a statement that raises has done nothing
        if claimRaises registry race.table race.now config.idleSecs config.notifyMaxAgeSecs limit
            config.idleSecsByOperator then some race
        else
          some (race.withSweep sweeper
            (some ⟨race.now, candidates registry config race.table race.now, []⟩))
      else none
  | .visit sweeper => (race.sweeps sweeper).bind (race.visit registry config limit sweeper)
  | .commit sweeper => (race.sweeps sweeper).bind (race.commit limit sweeper)
  | .abort sweeper =>
      if (race.sweeps sweeper).isSome then
        some ({ race with locks := race.locks.releaseAll sweeper }.withSweep sweeper none)
      else none
  | .upserted values =>
      -- a statement on a locked row waits
      if race.locks values.key = none then
        some { race with
          table := race.table.upsertActiveSession race.now values
          born :=
            if race.table.find values.key = none then values.key :: race.born else race.born }
      else none
  | .closed key =>
      if race.locks key = none then
        some { race with table := race.table.expireActiveSession key }
      else none
  | .elapsed micros => some { race with now := race.now + micros }

end SweepRace

def sweepRaces : StepSystem SweepRace SweepEvent where
  initial race := race.locks = LockTable.free ∧ (∀ sweeper, race.sweeps sweeper = none) ∧
    race.returned = [] ∧ race.born = race.table.rows.map ActiveSessionRow.key
  step race event := race.step registry config limit event

def SweepRace.ReturnedOnce (race : SweepRace) : Prop :=
  (race.returned.map ExpiredSession.key).Subperm race.born

end

/-- Every interval that a claim subtracts stays among the timestamps, every limit of an operator is
an `int4`, and the statement takes its parameters. -/
structure LimitsInRange (registry : Registry) (config : SessionExpiryConfig) (limit : Int) :
    Prop where
  parameters : parametersRaise limit config.idleSecsByOperator = false
  reach : config.notifyMaxAgeSecs ≤ -minTimestampSecs
  entries : ∀ operator ∈ registry.operators,
    ∀ secs ∈ List.lookup operator.name config.idleSecsByOperator, secs ≤ maxInt4
  fallback : ∀ operator ∈ registry.operators,
    List.lookup operator.name config.idleSecsByOperator = none →
      config.idleSecs ≤ -minTimestampSecs

/-- What the sweeper relies on, for a configuration it has started with. -/
structure ClaimsExactly (lower : Str → Str) (registry : Registry)
    (config : SessionExpiryConfig) (limit : Int) : Prop where
  oldest : ∀ table now locked, ∃ claimed after,
    claimCall registry config table now limit locked = some (claimed, after) ∧
      ClaimsOldest lower registry config table now limit locked claimed after
  prefilter : ∀ operatorName,
    minIdle config.idleSecs config.idleSecsByOperator ≤ config.idleSecsFor lower operatorName
  windows : ∀ operator ∈ registry.operators, ∃ idle, InWindow lower config operator.name idle
  once : ∀ race, (sweepRaces registry config limit).Reachable race → race.ReturnedOnce

section

variable {lower : Str → Str} {registry : Registry} {config : SessionExpiryConfig}
  {table : SessionTable} {now : Nat} {limit : Int} {locked : SessionKey → Bool}

theorem foldr_min_le (values : List Int) (start : Int) :
    values.foldr min start ≤ start ∧ ∀ value ∈ values, values.foldr min start ≤ value := by
  induction values with
  | nil => exact ⟨le_refl start, fun _ member => absurd member List.not_mem_nil⟩
  | cons value rest ih =>
      rw [List.foldr_cons]
      refine ⟨(min_le_right _ _).trans ih.1, ?_⟩
      rintro other (_ | ⟨_, member⟩)
      · exact min_le_left _ _
      · exact (min_le_right _ _).trans (ih.2 other member)

theorem lookup_getD_mem {entries : List (Str × Int)} (name : Str) (fallback : Int) :
    (List.lookup name entries).getD fallback = fallback ∧ List.lookup name entries = none ∨
      (List.lookup name entries).getD fallback ∈ entries.map Prod.snd ∧
        (List.lookup name entries).isSome := by
  rcases found : List.lookup name entries with _ | secs
  · exact .inl ⟨rfl, rfl⟩
  · obtain ⟨before, after, split, _⟩ := List.lookup_eq_some_iff.1 found
    refine .inr ⟨?_, rfl⟩
    rw [split]
    simp

theorem minIdle_le (name : Str) :
    minIdle config.idleSecs config.idleSecsByOperator ≤
      (List.lookup name config.idleSecsByOperator).getD config.idleSecs := by
  have least := foldr_min_le (config.idleSecsByOperator.map Prod.snd) config.idleSecs
  rcases @lookup_getD_mem config.idleSecsByOperator name config.idleSecs with
    ⟨same, _⟩ | ⟨member, _⟩
  · rw [same]
    exact least.1
  · exact least.2 _ member

theorem isVictim_iff {operatorName : Str} (lowered : lower operatorName = operatorName)
    (row : ActiveSessionRow) :
    isVictim now config.idleSecs config.notifyMaxAgeSecs config.idleSecsByOperator operatorName
        row = true ↔
      InWindow lower config operatorName (now - row.lastSeenAt) := by
  have least := @minIdle_le config operatorName
  simp only [isVictim, InWindow, SessionExpiryConfig.idleSecsFor, lowered, Bool.and_eq_true,
    decide_eq_true_eq]
  rw [microsPerSec]
  constructor
  · rintro ⟨⟨_, idle⟩, recent⟩
    constructor <;> omega
  · rintro ⟨idle, recent⟩
    refine ⟨⟨?_, ?_⟩, ?_⟩ <;> omega

theorem operatorName_mem {id : Nat} {operatorName : Str}
    (named : registry.operatorName id = some operatorName) :
    ∃ operator ∈ registry.operators, operator.name = operatorName := by
  obtain ⟨operator, found, name⟩ := Option.map_eq_some_iff.1 named
  exact ⟨operator, List.mem_of_find?_eq_some found, name⟩

theorem dueSession_eq_some_iff (row : ActiveSessionRow) (expired : ExpiredSession) :
    dueSession registry config now row = some expired ↔
      ∃ operatorName, registry.operatorName row.operatorId = some operatorName ∧
        isVictim now config.idleSecs config.notifyMaxAgeSecs config.idleSecsByOperator
          operatorName row = true ∧ expired = row.expired operatorName := by
  rw [dueSession, Option.bind_eq_some_iff]
  constructor
  · rintro ⟨operatorName, named, chosen⟩
    split at chosen
    next victim => exact ⟨operatorName, named, victim, (Option.some.inj chosen).symm⟩
    next => cases chosen
  · rintro ⟨operatorName, named, victim, rfl⟩
    exact ⟨operatorName, named, if_pos victim⟩

theorem dueSession_key {row : ActiveSessionRow} {expired : ExpiredSession}
    (due : dueSession registry config now row = some expired) : expired.key = row.key := by
  obtain ⟨_, _, _, rfl⟩ := (dueSession_eq_some_iff row expired).1 due
  rfl

theorem mem_candidates (expired : ExpiredSession) :
    expired ∈ candidates registry config table now ↔
      ∃ row ∈ table.rows, dueSession registry config now row = some expired := by
  rw [candidates, List.mem_insertionSort, List.mem_filterMap]

theorem candidates_sorted :
    (candidates registry config table now).Pairwise fun first second =>
      first.lastSeenAt ≤ second.lastSeenAt := by
  have total : Std.Total fun first second : ExpiredSession =>
      first.lastSeenAt ≤ second.lastSeenAt := ⟨fun first second => Nat.le_total _ _⟩
  have trans : IsTrans ExpiredSession fun first second =>
      first.lastSeenAt ≤ second.lastSeenAt := ⟨fun _ _ _ => Nat.le_trans⟩
  exact List.pairwise_insertionSort _ _

theorem candidates_once :
    ((candidates registry config table now).map ExpiredSession.key).Nodup := by
  have sorted := (List.perm_insertionSort (fun first second : ExpiredSession =>
    first.lastSeenAt ≤ second.lastSeenAt) (table.rows.filterMap
      (dueSession registry config now))).map ExpiredSession.key
  rw [candidates, sorted.nodup_iff]
  exact (map_key_filterMap (fun _ _ => dueSession_key) table.rows).nodup table.unique

theorem victims_eq :
    victims registry table now config.idleSecs config.notifyMaxAgeSecs limit.toNat
        config.idleSecsByOperator locked =
      ((candidates registry config table now).filter fun expired =>
        !locked expired.key).take limit.toNat := rfl

theorem nonneg_of_returned {returned : List ExpiredSession × SessionTable}
    (call : claimCall registry config table now limit locked = some returned) : 0 ≤ limit := by
  by_contra negative
  have refused : parametersRaise limit config.idleSecsByOperator = true := by
    simp [parametersRaise, not_le.1 negative]
  rw [claimCall, claimExpiredSessions, claimRaises, refused] at call
  cases call

theorem claimCall_oldest {claimed : List ExpiredSession} {after : SessionTable}
    (lowerCase : ∀ operator ∈ registry.operators, lower operator.name = operator.name)
    (returned : claimCall registry config table now limit locked = some (claimed, after)) :
    ClaimsOldest lower registry config table now limit locked claimed after := by
  obtain ⟨taken, kept⟩ := claimExpiredSessions_eq_some returned
  have nonneg := nonneg_of_returned returned
  have lowered : ∀ {id operatorName}, registry.operatorName id = some operatorName →
      lower operatorName = operatorName := by
    intro id operatorName named
    obtain ⟨operator, member, rfl⟩ := operatorName_mem named
    exact lowerCase operator member
  constructor
  case due =>
    intro expired member
    rw [taken, victims_eq] at member
    obtain ⟨offered, unlocked⟩ := List.mem_filter.1 (List.mem_of_mem_take member)
    obtain ⟨row, present, due⟩ := (mem_candidates expired).1 offered
    obtain ⟨operatorName, named, victim, same⟩ := (dueSession_eq_some_iff row expired).1 due
    have window := (isVictim_iff (lowered named) row).1 victim
    rw [dueSession_key due] at unlocked
    exact ⟨row, present, operatorName, ⟨by simpa using unlocked, operatorName, named, window⟩,
      named, same⟩
  case once =>
    rw [taken]
    exact victims_once _ _ _ _ _ _ _ _
  case bounded =>
    rw [taken, victims_eq]
    have short := List.length_take_le limit.toNat
      ((candidates registry config table now).filter fun expired => !locked expired.key)
    omega
  case oldest =>
    rintro row present ⟨unlocked, operatorName, named, window⟩ left
    rw [taken, victims_eq] at left ⊢
    have victim := (isVictim_iff (lowered named) row).2 window
    have offered : row.expired operatorName ∈ (candidates registry config table now).filter
        fun expired => !locked expired.key := by
      refine List.mem_filter.2 ⟨(mem_candidates _).2 ⟨row, present, ?_⟩, ?_⟩
      · exact (dueSession_eq_some_iff row _).2 ⟨operatorName, named, victim, rfl⟩
      · have same : (row.expired operatorName).key = row.key := rfl
        rw [same, unlocked]
        rfl
    have sorted := candidates_sorted.filter (fun expired => !locked expired.key)
      (l := candidates registry config table now)
    have untaken : row.expired operatorName ∉ List.take limit.toNat
        ((candidates registry config table now).filter fun expired => !locked expired.key) :=
      fun taken => left (List.mem_map_of_mem taken)
    obtain ⟨full, older⟩ := Paging.take_precedes sorted offered untaken
    exact ⟨by rw [full, Int.toNat_of_nonneg nonneg], older⟩
  case removed =>
    intro row
    have filtered : row ∈ after.rows ↔ row ∈ table.rows.filter fun row =>
        row.key ∉ claimed.map ExpiredSession.key := by
      rw [kept]
      rfl
    rw [filtered, List.mem_filter, decide_eq_true_eq]

theorem claimCall_of_quiet
    (quiet : claimRaises registry table now config.idleSecs config.notifyMaxAgeSecs limit
      config.idleSecsByOperator = false) :
    ∃ claimed after, claimCall registry config table now limit locked = some (claimed, after) := by
  rw [claimCall, claimExpiredSessions, quiet]
  exact ⟨_, _, rfl⟩

end

namespace SweepRace

def present (race : SweepRace) (key : SessionKey) : Nat :=
  if (race.table.find key).isSome then 1 else 0

structure Consistent (race : SweepRace) : Prop where
  held : ∀ sweeper sweep, race.sweeps sweeper = some sweep → ∀ expired ∈ sweep.picked,
    race.locks.Holds sweeper expired.key ∧ (race.table.find expired.key).isSome
  apart : ∀ sweeper sweep, race.sweeps sweeper = some sweep →
    ((sweep.picked ++ sweep.remaining).map ExpiredSession.key).Nodup
  counted : ∀ key, (race.returned.map ExpiredSession.key).count key + race.present key ≤
    race.born.count key

variable {registry : Registry} {config : SessionExpiryConfig} {limit : Int}
  {race after : SweepRace} {sweeper : Nat} {sweep : Sweep}

theorem withSweep_cases {property : Nat → Sweep → Prop} {next : Option Sweep}
    (own : ∀ sweep, next = some sweep → property sweeper sweep)
    (others : ∀ other sweep, other ≠ sweeper → race.sweeps other = some sweep →
      property other sweep) :
    ∀ other sweep, (race.withSweep sweeper next).sweeps other = some sweep →
      property other sweep := by
  intro other sweep found
  rw [withSweep] at found
  by_cases same : other = sweeper
  · subst same
    exact own sweep (by simpa using found)
  · exact others other sweep same (by simpa [same] using found)

theorem Consistent.begin (consistent : race.Consistent) :
    (race.withSweep sweeper
      (some ⟨race.now, candidates registry config race.table race.now, []⟩)).Consistent where
  held := by
    apply withSweep_cases
    · rintro _ ⟨rfl⟩ expired member
      cases member
    · exact fun other sweep _ => consistent.held other sweep
  apart := by
    apply withSweep_cases
    · rintro _ ⟨rfl⟩
      exact candidates_once
    · exact fun other sweep _ => consistent.apart other sweep
  counted := consistent.counted

theorem lockDue_eq_some {startedAt : Nat} {key : SessionKey} {expired : ExpiredSession}
    {locks : LockTable SessionKey Nat}
    (locked : race.lockDue registry config sweeper startedAt key = some (expired, locks)) :
    expired.key = key ∧ (race.table.find key).isSome ∧
      race.locks.acquire sweeper key = some locks := by
  obtain ⟨row, found, rest⟩ := Option.bind_eq_some_iff.1 locked
  obtain ⟨due, isDue, rest⟩ := Option.bind_eq_some_iff.1 rest
  obtain ⟨acquired, taken, same⟩ := Option.map_eq_some_iff.1 rest
  cases same
  have keyed : row.key = key := KeyedTable.key_of_find found
  exact ⟨(dueSession_key isDue).trans keyed, by rw [found]; rfl, taken⟩

theorem Consistent.visit (consistent : race.Consistent)
    (begun : race.sweeps sweeper = some sweep)
    (visited : race.visit registry config limit sweeper sweep = some after) :
    after.Consistent := by
  rw [SweepRace.visit] at visited
  split at visited
  next => cases visited
  next candidate rest remaining =>
    have distinct := consistent.apart sweeper sweep begun
    rw [remaining] at distinct
    split at visited
    next =>
      split at visited
      next expired locks locked =>
        cases visited
        obtain ⟨keyed, found, acquired⟩ := lockDue_eq_some locked
        constructor
        · apply withSweep_cases
          · rintro _ ⟨rfl⟩ other member
            rcases List.mem_append.1 member with earlier | last
            · obtain ⟨holds, stays⟩ := consistent.held sweeper sweep begun other earlier
              exact ⟨holds.acquire acquired, stays⟩
            · rw [List.mem_singleton.1 last, keyed]
              exact ⟨LockTable.holds_of_acquire acquired, found⟩
          · intro other held _ running expired picked
            obtain ⟨holds, stays⟩ := consistent.held other held running expired picked
            exact ⟨holds.acquire acquired, stays⟩
        · apply withSweep_cases
          · rintro _ ⟨rfl⟩
            simpa [keyed] using distinct
          · exact fun other sweep _ => consistent.apart other sweep
        · exact consistent.counted
      next =>
        cases visited
        constructor
        · apply withSweep_cases
          · rintro _ ⟨rfl⟩
            exact consistent.held sweeper sweep begun
          · exact fun other sweep _ => consistent.held other sweep
        · apply withSweep_cases
          · rintro _ ⟨rfl⟩
            have fewer : (sweep.picked ++ rest).Sublist (sweep.picked ++ candidate :: rest) :=
              (List.Sublist.refl _).append (List.sublist_cons_self _ _)
            exact (fewer.map ExpiredSession.key).nodup distinct
          · exact fun other sweep _ => consistent.apart other sweep
        · exact consistent.counted
    next => cases visited

theorem Consistent.abort (consistent : race.Consistent) :
    ({ race with locks := race.locks.releaseAll sweeper }.withSweep sweeper none).Consistent where
  held := by
    apply withSweep_cases
    · intro _ none
      cases none
    · intro other held others running expired picked
      obtain ⟨holds, stays⟩ := consistent.held other held running expired picked
      exact ⟨holds.releaseAll others, stays⟩
  apart := by
    apply withSweep_cases
    · intro _ none
      cases none
    · exact fun other sweep _ => consistent.apart other sweep
  counted := consistent.counted

theorem Consistent.commit (consistent : race.Consistent)
    (begun : race.sweeps sweeper = some sweep)
    (committed : race.commit limit sweeper sweep = some after) : after.Consistent := by
  rw [SweepRace.commit] at committed
  split at committed
  next =>
    cases committed
    have own := consistent.held sweeper sweep begun
    constructor
    · apply withSweep_cases
      · intro _ none
        cases none
      · intro other held others running expired picked
        obtain ⟨holds, found⟩ := consistent.held other held running expired picked
        refine ⟨holds.releaseAll others, ?_⟩
        have kept := SessionTable.find_without race.table
          (sweep.picked.map ExpiredSession.key) expired.key
        refine (congrArg Option.isSome (kept.trans (if_neg ?_))).trans found
        intro shared
        obtain ⟨taken, member, same⟩ := List.mem_map.1 shared
        have alsoHolds := (own taken member).1
        rw [same] at alsoHolds
        exact others (holds.unique alsoHolds)
    · apply withSweep_cases
      · intro _ none
        cases none
      · exact fun other sweep _ => consistent.apart other sweep
    · intro key
      have before := consistent.counted key
      have distinct := consistent.apart sweeper sweep begun
      rw [List.map_append] at distinct
      have once := (List.sublist_append_left _ _).nodup distinct
      simp only [withSweep, present, List.map_append, List.count_append] at before ⊢
      by_cases picked : key ∈ sweep.picked.map ExpiredSession.key
      · obtain ⟨expired, member, same⟩ := List.mem_map.1 picked
        have found := (own expired member).2
        rw [same] at found
        rw [found] at before
        rw [SessionTable.find_without, if_pos picked, List.count_eq_one_of_mem once picked]
        simpa using before
      · rw [SessionTable.find_without, if_neg picked, List.count_eq_zero_of_not_mem picked]
        exact before
  next => cases committed

theorem Consistent.upserted (consistent : race.Consistent) {values : SessionUpsert}
    (free : race.locks values.key = none) :
    Consistent { race with
      table := race.table.upsertActiveSession race.now values
      born :=
        if race.table.find values.key = none then values.key :: race.born else race.born } := by
  constructor
  · intro other sweep running expired picked
    obtain ⟨holds, found⟩ := consistent.held other sweep running expired picked
    have apart : expired.key ≠ values.key := by
      intro same
      rw [LockTable.Holds, same, free] at holds
      cases holds
    refine ⟨holds, ?_⟩
    rw [SessionTable.find_upsertActiveSession_of_ne race.table race.now values apart]
    exact found
  · exact consistent.apart
  · intro key
    have before := consistent.counted key
    simp only [present] at before ⊢
    by_cases same : key = values.key
    · subst same
      rw [SessionTable.find_upsertActiveSession_self]
      rcases found : race.table.find values.key with _ | row
      · rw [found] at before
        simpa using before
      · rw [found] at before
        simpa using before
    · rw [SessionTable.find_upsertActiveSession_of_ne race.table race.now values same]
      refine before.trans ?_
      split
      · exact List.count_le_count_cons
      · exact le_refl _

theorem Consistent.closed (consistent : race.Consistent) {gone : SessionKey}
    (free : race.locks gone = none) :
    Consistent { race with table := race.table.expireActiveSession gone } := by
  constructor
  · intro other sweep running expired picked
    obtain ⟨holds, found⟩ := consistent.held other sweep running expired picked
    have apart : expired.key ≠ gone := by
      intro same
      rw [LockTable.Holds, same, free] at holds
      cases holds
    refine ⟨holds, ?_⟩
    rw [SessionTable.expireActiveSession, KeyedTable.find_erase_of_ne race.table apart]
    exact found
  · exact consistent.apart
  · intro key
    have before := consistent.counted key
    refine le_trans ?_ before
    simp only [present, SessionTable.expireActiveSession, KeyedTable.find_erase]
    split <;> simp

theorem Consistent.step (consistent : race.Consistent) {event : SweepEvent}
    (stepped : race.step registry config limit event = some after) : after.Consistent := by
  cases event with
  | begin sweeper =>
      rw [SweepRace.step] at stepped
      split at stepped
      · split at stepped
        · cases stepped
          exact consistent
        · cases stepped
          exact consistent.begin
      · cases stepped
  | visit sweeper =>
      obtain ⟨sweep, begun, visited⟩ := Option.bind_eq_some_iff.1 stepped
      exact consistent.visit begun visited
  | commit sweeper =>
      obtain ⟨sweep, begun, committed⟩ := Option.bind_eq_some_iff.1 stepped
      exact consistent.commit begun committed
  | abort sweeper =>
      rw [SweepRace.step] at stepped
      split at stepped
      · cases stepped
        exact consistent.abort
      · cases stepped
  | upserted values =>
      rw [SweepRace.step] at stepped
      split at stepped
      next free =>
        cases stepped
        exact consistent.upserted free
      next => cases stepped
  | closed key =>
      rw [SweepRace.step] at stepped
      split at stepped
      next free =>
        cases stepped
        exact consistent.closed free
      next => cases stepped
  | elapsed micros =>
      cases stepped
      exact ⟨consistent.held, consistent.apart, consistent.counted⟩

theorem consistent_of_initial (starts : (sweepRaces registry config limit).initial race) :
    race.Consistent := by
  obtain ⟨_, idle, returned, born⟩ := starts
  constructor
  · intro sweeper sweep running
    rw [idle sweeper] at running
    cases running
  · intro sweeper sweep running
    rw [idle sweeper] at running
    cases running
  · intro key
    rw [returned, born, present]
    rcases found : race.table.find key with _ | row
    · simp
    · obtain ⟨member, keyed⟩ := (race.table.find_eq_some_iff key row).1 found
      have counted : key ∈ race.table.rows.map ActiveSessionRow.key :=
        keyed ▸ List.mem_map_of_mem member
      simpa using List.count_pos_iff.2 counted

theorem returnedOnce_of_reachable
    (reached : (sweepRaces registry config limit).Reachable race) : race.ReturnedOnce := by
  have consistent : race.Consistent := reached.invariant
    (fun _ starts => consistent_of_initial starts)
    (fun _ _ _ kept stepped => kept.step stepped)
  rw [ReturnedOnce, List.subperm_ext_iff]
  intro key _
  exact (Nat.le_add_right _ _).trans (consistent.counted key)

/-! A sweep that nobody interrupts is one call of the claim. -/

theorem lockDue_of_free {startedAt : Nat} {candidate : ExpiredSession} {row : ActiveSessionRow}
    (found : race.table.find candidate.key = some row)
    (due : dueSession registry config startedAt row = some candidate)
    (free : race.locks candidate.key = none) :
    race.lockDue registry config sweeper startedAt candidate.key =
      some (candidate, fun other =>
        if other = candidate.key then some sweeper else race.locks other) := by
  rw [lockDue, found, Option.bind_some, due, Option.bind_some, LockTable.acquire,
    if_pos (.inl free)]
  rfl

theorem lockDue_of_locked {startedAt : Nat} {key : SessionKey} {holder : Nat}
    (holds : race.locks key = some holder) (other : holder ≠ sweeper) :
    race.lockDue registry config sweeper startedAt key = none := by
  rw [lockDue, Option.bind_eq_none_iff]
  intro row _
  rw [Option.bind_eq_none_iff]
  intro expired _
  rw [LockTable.acquire, holds, if_neg (by simp [other])]
  rfl

structure Picked (race after : SweepRace) (sweeper : Nat) (sweep : Sweep)
    (limit : Int) : Prop where
  sweeps : after.sweeps sweeper = some sweep
  finished : sweep.remaining = [] ∨ limit ≤ sweep.picked.length
  table : after.table = race.table
  returned : after.returned = race.returned
  locks : after.locks.releaseAll sweeper = race.locks.releaseAll sweeper

def picking (race : SweepRace) (sweeper : Nat) (candidate : ExpiredSession) (sweep : Sweep) :
    SweepRace :=
  { race with locks := fun other =>
      if other = candidate.key then some sweeper else race.locks other }.withSweep
    sweeper (some sweep)

theorem picking_locks_of_ne {candidate : ExpiredSession} {key : SessionKey}
    (apart : key ≠ candidate.key) :
    (race.picking sweeper candidate sweep).locks key = race.locks key := if_neg apart

theorem picking_releaseAll {candidate : ExpiredSession} (free : race.locks candidate.key = none) :
    (race.picking sweeper candidate sweep).locks.releaseAll sweeper =
      race.locks.releaseAll sweeper := by
  funext key
  by_cases same : key = candidate.key
  · simp [LockTable.releaseAll, picking, withSweep, same, free]
  · simp [LockTable.releaseAll, picking, withSweep, same]

theorem visit_free {startedAt : Nat} {candidate : ExpiredSession}
    {rest picked : List ExpiredSession} {row : ActiveSessionRow}
    (running : race.sweeps sweeper = some ⟨startedAt, candidate :: rest, picked⟩)
    (room : picked.length < limit) (found : race.table.find candidate.key = some row)
    (due : dueSession registry config startedAt row = some candidate)
    (free : race.locks candidate.key = none) :
    race.step registry config limit (.visit sweeper) =
      some (race.picking sweeper candidate ⟨startedAt, rest, picked ++ [candidate]⟩) := by
  have locked := @lockDue_of_free registry config race sweeper _ _ _ found due free
  simp only [SweepRace.step, running, Option.bind_some, SweepRace.visit, room, if_true, locked]
  rfl

theorem visit_locked {startedAt holder : Nat} {candidate : ExpiredSession}
    {rest picked : List ExpiredSession}
    (running : race.sweeps sweeper = some ⟨startedAt, candidate :: rest, picked⟩)
    (room : picked.length < limit) (holds : race.locks candidate.key = some holder)
    (other : holder ≠ sweeper) :
    race.step registry config limit (.visit sweeper) =
      some (race.withSweep sweeper (some ⟨startedAt, rest, picked⟩)) := by
  have locked := @lockDue_of_locked registry config race sweeper startedAt _ _ holds other
  simp only [SweepRace.step, running, Option.bind_some, SweepRace.visit, room, if_true, locked]

theorem take_filter_cons {offered : ExpiredSession → Bool} {candidate : ExpiredSession}
    {rest picked : List ExpiredSession} (room : picked.length < limit)
    (taken : offered candidate = true) :
    picked ++ [candidate] ++
        (rest.filter offered).take (limit.toNat - (picked ++ [candidate]).length) =
      picked ++ ((candidate :: rest).filter offered).take (limit.toNat - picked.length) := by
  obtain ⟨spare, spareEq⟩ : ∃ spare, limit.toNat - picked.length = spare + 1 :=
    ⟨limit.toNat - picked.length - 1, by omega⟩
  have smaller : limit.toNat - (picked ++ [candidate]).length = spare := by
    rw [List.length_append, List.length_singleton]
    omega
  rw [smaller, spareEq, List.filter_cons_of_pos taken, List.take_succ_cons, List.append_assoc,
    List.singleton_append]

theorem visits_pick {startedAt : Nat} {remaining picked : List ExpiredSession}
    (running : race.sweeps sweeper = some ⟨startedAt, remaining, picked⟩)
    (due : ∀ candidate ∈ remaining, ∃ row, race.table.find candidate.key = some row ∧
      dueSession registry config startedAt row = some candidate)
    (distinct : (remaining.map ExpiredSession.key).Nodup)
    (unheld : ∀ candidate ∈ remaining, ¬ race.locks.Holds sweeper candidate.key) :
    ∃ visits rest after,
      (sweepRaces registry config limit).run race (List.replicate visits (.visit sweeper)) =
        some after ∧
      Picked race after sweeper ⟨startedAt, rest, picked ++
        (remaining.filter fun candidate => !(race.locks candidate.key).isSome).take
          (limit.toNat - picked.length)⟩ limit := by
  induction remaining generalizing race picked with
  | nil => exact ⟨0, [], race, rfl, by simpa using running, .inl rfl, rfl, rfl, rfl⟩
  | cons candidate rest ih =>
      by_cases room : picked.length < limit
      case neg =>
        have none : limit.toNat - picked.length = 0 := by omega
        refine ⟨0, candidate :: rest, race, rfl, ?_, ?_, rfl, rfl, rfl⟩
        · simpa [none] using running
        · simp only [none, List.take_zero, List.append_nil]
          omega
      case pos =>
        obtain ⟨fresh, distinctRest⟩ := List.nodup_cons.1 distinct
        obtain ⟨row, found, isDue⟩ := due candidate List.mem_cons_self
        have dueRest := fun other member => due other (List.mem_cons_of_mem _ member)
        have unheldRest := fun other member => unheld other (List.mem_cons_of_mem _ member)
        rcases holder : race.locks candidate.key with _ | owner
        · let moved := race.picking sweeper candidate ⟨startedAt, rest, picked ++ [candidate]⟩
          have stepped : race.step registry config limit (.visit sweeper) = some moved :=
            visit_free running room found isDue holder
          have sameLock : ∀ other ∈ rest, moved.locks other.key = race.locks other.key := by
            intro other member
            apply picking_locks_of_ne
            intro same
            exact fresh (same ▸ List.mem_map_of_mem member)
          have unheldMoved : ∀ other ∈ rest, ¬ moved.locks.Holds sweeper other.key := by
            intro other member
            rw [LockTable.Holds, sameLock other member]
            exact unheldRest other member
          obtain ⟨visits, left, after, ran, reached⟩ :=
            @ih moved _ (if_pos rfl) dueRest distinctRest unheldMoved
          have sameFilter :
              (rest.filter fun other => !(moved.locks other.key).isSome) =
                rest.filter fun other => !(race.locks other.key).isSome :=
            List.filter_congr fun other member => by rw [sameLock other member]
          rw [sameFilter, take_filter_cons room (by simp [holder])] at reached
          refine ⟨visits + 1, left, after, ?_, reached.sweeps, reached.finished, reached.table,
            reached.returned, reached.locks.trans (picking_releaseAll holder)⟩
          rw [List.replicate_succ, StepSystem.run]
          exact (congrArg (Option.bind · _) stepped).trans ran
        · have other : owner ≠ sweeper := by
            intro same
            exact unheld candidate List.mem_cons_self (holder.trans (congrArg some same))
          let moved := race.withSweep sweeper (some ⟨startedAt, rest, picked⟩)
          have stepped : race.step registry config limit (.visit sweeper) = some moved :=
            visit_locked running room holder other
          obtain ⟨visits, left, after, ran, reached⟩ :=
            @ih moved _ (if_pos rfl) dueRest distinctRest unheldRest
          refine ⟨visits + 1, left, after, ?_, ?_⟩
          · rw [List.replicate_succ, StepSystem.run]
            exact (congrArg (Option.bind · _) stepped).trans ran
          · rw [List.filter_cons_of_neg (by simp [holder])]
            exact ⟨reached.sweeps, reached.finished, reached.table, reached.returned, reached.locks⟩

theorem sweep_uninterrupted {claimed : List ExpiredSession} {table : SessionTable}
    (idle : race.sweeps sweeper = none) (unheld : ∀ key, ¬ race.locks.Holds sweeper key)
    (call : claimCall registry config race.table race.now limit
      (fun key => (race.locks key).isSome) = some (claimed, table)) :
    ∃ visits after,
      (sweepRaces registry config limit).run race
        (.begin sweeper :: (List.replicate visits (.visit sweeper) ++ [.commit sweeper])) =
          some after ∧
      after.returned = race.returned ++ claimed ∧ after.table = table ∧
      after.locks = race.locks := by
  obtain ⟨taken, kept⟩ := claimExpiredSessions_eq_some call
  let begun := race.withSweep sweeper
    (some ⟨race.now, candidates registry config race.table race.now, []⟩)
  have started : race.step registry config limit (.begin sweeper) = some begun := by
    have quiet : claimRaises registry race.table race.now config.idleSecs config.notifyMaxAgeSecs
        limit config.idleSecsByOperator = false := by
      by_contra raises
      rw [claimCall, claimExpiredSessions, if_pos (by simpa using raises)] at call
      cases call
    simp only [SweepRace.step, idle, quiet, Option.isNone_none, if_true, Bool.false_eq_true,
      if_false]
    rfl
  have due : ∀ candidate ∈ candidates registry config race.table race.now, ∃ row,
      begun.table.find candidate.key = some row ∧
        dueSession registry config race.now row = some candidate := by
    intro candidate offered
    obtain ⟨row, member, isDue⟩ := (mem_candidates candidate).1 offered
    refine ⟨row, ?_, isDue⟩
    exact (race.table.find_eq_some_iff _ row).2 ⟨member, (dueSession_key isDue).symm⟩
  obtain ⟨visits, rest, picked, ran, reached⟩ :=
    @visits_pick registry config limit begun sweeper race.now _ [] (if_pos rfl) due
      candidates_once fun candidate _ => unheld candidate.key
  have released : picked.locks.releaseAll sweeper = race.locks := by
    rw [reached.locks]
    funext key
    exact if_neg (unheld key)
  have sweeping : picked.sweeps sweeper = some ⟨race.now, rest, claimed⟩ := by
    rw [taken]
    exact reached.sweeps
  have finished : rest = [] ∨ limit ≤ claimed.length := by
    rw [taken]
    exact reached.finished
  let ended := { picked with
    table := picked.table.filter fun row => row.key ∉ claimed.map ExpiredSession.key
    locks := picked.locks.releaseAll sweeper
    returned := picked.returned ++ claimed }.withSweep sweeper none
  have stepped : picked.step registry config limit (.commit sweeper) = some ended := by
    simp only [SweepRace.step, sweeping, Option.bind_some, SweepRace.commit, finished, if_true]
    rfl
  refine ⟨visits, ended, ?_, ?_, ?_, released⟩
  · have committed : (sweepRaces registry config limit).run picked [.commit sweeper] =
        some ended := congrArg (Option.bind · some) stepped
    rw [StepSystem.run]
    refine (congrArg (Option.bind · _) started).trans ?_
    rw [Option.bind_some, StepSystem.run_append, ran, Option.bind_some, committed]
  · exact congrArg (· ++ claimed) reached.returned
  · rw [kept]
    exact congrArg (fun table : SessionTable => table.filter fun row =>
      row.key ∉ claimed.map ExpiredSession.key) reached.table

end SweepRace

/-! The windows. -/

section

variable {lower : Str → Str} {registry : Registry} {config : SessionExpiryConfig} {limit : Int}

theorem operatorName_of_mem {operator : OperatorRow} (listed : operator ∈ registry.operators) :
    registry.operatorName operator.id = some operator.name := by
  rw [Registry.operatorName]
  rcases found : registry.operators.find? (fun other => other.id = operator.id) with _ | other
  · exact absurd (decide_eq_true rfl) (List.find?_eq_none.1 found operator listed)
  · have sameId : other.id = operator.id := by simpa using List.find?_some found
    have same := List.inj_on_of_nodup_map registry.operatorIdsUnique
      (List.mem_of_find?_eq_some found) listed sameId
    rw [found, same]
    rfl

theorem minIdle_lt : minIdle config.idleSecs config.idleSecsByOperator < config.notifyMaxAgeSecs :=
  (minIdle_le (lit "default")).trans_lt (config.accepted _ List.mem_cons_self).2

theorem reachesBack_of_le {now : Nat} {secs : Int} (near : secs ≤ -minTimestampSecs) :
    reachesBack now secs = true := by
  rw [minTimestampSecs] at near
  rw [reachesBack, decide_eq_true_eq, minTimestampSecs, microsPerSec]
  omega

theorem parametersRaise_eq_false_iff {perOp : List (Str × Int)} :
    parametersRaise limit perOp = false ↔
      (0 ≤ limit ∧ limit ≤ maxInt8) ∧ ∀ entry ∈ perOp, jsonbText entry.1 = true := by
  rw [parametersRaise, Bool.or_eq_false_iff, Bool.or_eq_false_iff, decide_eq_false_iff_not,
    decide_eq_false_iff_not, not_lt, not_lt, Bool.not_eq_false', List.all_eq_true]

theorem LimitsInRange.quiet (inRange : LimitsInRange registry config limit) (table : SessionTable)
    (now : Nat) :
    claimRaises registry table now config.idleSecs config.notifyMaxAgeSecs limit
      config.idleSecsByOperator = false := by
  have least : reachesBack now (minIdle config.idleSecs config.idleSecsByOperator) = true :=
    reachesBack_of_le (minIdle_lt.le.trans inRange.reach)
  rw [claimRaises, inRange.parameters, least, reachesBack_of_le inRange.reach, Bool.not_true,
    Bool.or_false, Bool.or_false, Bool.false_or, List.any_eq_false]
  intro row _ raises
  obtain ⟨operatorName, named, raised⟩ := (Option.any_eq_true _ _).1 raises
  obtain ⟨operator, listed, rfl⟩ := operatorName_mem named
  have limited : (operatorLimit config.idleSecs config.idleSecsByOperator operator.name).any
      (reachesBack now) = true := by
    rw [operatorLimit]
    rcases found : List.lookup operator.name config.idleSecsByOperator with _ | secs
    · exact reachesBack_of_le (inRange.fallback operator listed found)
    · have small := inRange.entries operator listed secs found
      obtain ⟨before, after, split, _⟩ := List.lookup_eq_some_iff.1 found
      have entry : secs ∈ config.idleSecsByOperator.map Prod.snd := by
        rw [split]
        simp
      have checked := config.accepted secs (List.mem_cons_of_mem _ entry)
      have fits : -maxInt4 - 1 ≤ secs ∧ secs ≤ maxInt4 := by
        rw [maxInt4] at small ⊢
        omega
      simp only [if_pos fits, Option.any_some]
      exact reachesBack_of_le (checked.2.le.trans inRange.reach)
  rw [limitRaises, limited, Bool.not_true, Bool.and_false] at raised
  cases raised

theorem window_iff (operatorName : Str) :
    (∃ idle, InWindow lower config operatorName idle) ↔
      config.idleSecsFor lower operatorName < config.notifyMaxAgeSecs := by
  simp only [InWindow, microsPerSec]
  constructor
  · rintro ⟨idle, late, recent⟩
    omega
  · intro below
    exact ⟨config.notifyMaxAgeSecs * 1000000, by omega, le_refl _⟩

theorem idleSecsFor_lt_iff {operatorName : Str} (lowered : lower operatorName = operatorName) :
    config.idleSecsFor lower operatorName < config.notifyMaxAgeSecs ↔
      config.idleSecs < config.notifyMaxAgeSecs ∨
        (List.lookup operatorName config.idleSecsByOperator).isSome := by
  rw [SessionExpiryConfig.idleSecsFor, lowered]
  rcases @lookup_getD_mem config.idleSecsByOperator operatorName config.idleSecs with
    ⟨same, missing⟩ | ⟨member, own⟩
  · rw [same, missing]
    simp
  · have checked := (config.accepted _ (List.mem_cons_of_mem _ member)).2
    exact ⟨fun _ => .inr own, fun _ => checked⟩

def sessionOf (operator : OperatorRow) : SessionUpsert where
  sessionId := lit "S1"
  operatorId := operator.id
  serviceCode := lit "*149*46#"
  shortcodeId := none
  msisdn := none
  ussdString := []

def longIdle (operator : OperatorRow) : SessionTable where
  rows := [SessionTable.freshRow (sessionOf operator) 0]
  unique := List.nodup_singleton _

theorem longIdle_raises {operator : OperatorRow} {secs : Int} {now : Nat}
    (listed : operator ∈ registry.operators)
    (own : List.lookup operator.name config.idleSecsByOperator = some secs)
    (large : maxInt4 < secs) (late : (now : Int) = config.notifyMaxAgeSecs * microsPerSec) :
    claimRaises registry (longIdle operator) now config.idleSecs config.notifyMaxAgeSecs limit
      config.idleSecsByOperator = true := by
  have cast : operatorLimit config.idleSecs config.idleSecsByOperator operator.name = none := by
    rw [operatorLimit, own]
    exact if_neg fun fits => absurd fits.2 (not_le.2 large)
  have least := @minIdle_lt config
  rw [microsPerSec] at late
  refine Bool.or_eq_true_iff.2 (.inr (List.any_eq_true.2 ⟨_, List.mem_cons_self, ?_⟩))
  refine (Option.any_eq_true _ _).2 ⟨operator.name, operatorName_of_mem listed, ?_⟩
  rw [limitRaises, cast]
  have seen : (SessionTable.freshRow (sessionOf operator) 0).lastSeenAt = 0 := rfl
  simp only [seen, microsPerSec, Bool.and_eq_true, decide_eq_true_eq]
  refine ⟨⟨?_, ?_⟩, rfl⟩ <;> push_cast <;> omega

theorem windows_iff
    (lowerCase : ∀ operator ∈ registry.operators, lower operator.name = operator.name) :
    (∀ operator ∈ registry.operators, ∃ idle, InWindow lower config operator.name idle) ↔
      config.idleSecs < config.notifyMaxAgeSecs ∨
        ∀ operator ∈ registry.operators,
          (List.lookup operator.name config.idleSecsByOperator).isSome := by
  constructor
  · intro windows
    by_cases below : config.idleSecs < config.notifyMaxAgeSecs
    · exact .inl below
    · refine .inr fun operator member => ?_
      have open_ := (window_iff operator.name).1 (windows operator member)
      exact ((idleSecsFor_lt_iff (lowerCase operator member)).1 open_).resolve_left below
  · intro condition operator member
    rw [window_iff, idleSecsFor_lt_iff (lowerCase operator member)]
    exact condition.imp_right fun entries => entries operator member

theorem ClaimsExactly.quiet (exactly : ClaimsExactly lower registry config limit)
    (table : SessionTable) (now : Nat) :
    claimRaises registry table now config.idleSecs config.notifyMaxAgeSecs limit
      config.idleSecsByOperator = false := by
  rw [← Bool.not_eq_true]
  intro raises
  obtain ⟨claimed, after, call, _⟩ := exactly.oldest table now fun _ => false
  rw [claimCall, claimExpiredSessions, if_pos raises] at call
  cases call

/-- A claim without sessions shows the parameters and the age cap to be in range, and one with a
session of an operator the operator's own limit. -/
theorem ClaimsExactly.limits (exactly : ClaimsExactly lower registry config limit) :
    parametersRaise limit config.idleSecsByOperator = false ∧
      config.notifyMaxAgeSecs ≤ -minTimestampSecs ∧
      ∀ operator ∈ registry.operators,
        ∀ secs ∈ List.lookup operator.name config.idleSecsByOperator, secs ≤ maxInt4 := by
  have without := exactly.quiet KeyedTable.empty 0
  rw [claimRaises, Bool.or_eq_false_iff, Bool.or_eq_false_iff, Bool.or_eq_false_iff] at without
  obtain ⟨⟨⟨parameters, _⟩, reaches⟩, _⟩ := without
  refine ⟨parameters, ?_, ?_⟩
  · rw [Bool.not_eq_false', reachesBack, decide_eq_true_eq, microsPerSec] at reaches
    omega
  · intro operator listed secs own
    by_contra large
    have positive : 0 ≤ config.notifyMaxAgeSecs * microsPerSec := by
      have checked := config.accepted _ List.mem_cons_self
      rw [microsPerSec]
      omega
    obtain ⟨now, late⟩ := Int.eq_ofNat_of_zero_le positive
    have raises := @longIdle_raises registry config limit operator secs now listed own
      (not_le.1 large) late.symm
    rw [exactly.quiet] at raises
    cases raises

end

def hiddenDefault : SessionExpiryConfig where
  idleSecs := 4000
  notifyMaxAgeSecs := 3600
  batch := 200
  idleSecsByOperator := [(lit "default", 75)]
  accepted := by decide

end UssdGateway
