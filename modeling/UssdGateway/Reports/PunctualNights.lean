import UssdGateway.Reports.DailyScheduler

/-!
No night is left out: while the scheduler wakes on the day it planned to and its refresh succeeds,
every day but yesterday has its bill.
-/

namespace UssdGateway

section

variable {fireTime now target : Int}

def OnClock (fireTime target : Int) : Prop := target = localDate 0 target * dayMicros + fireTime

theorem nextDaily_eq_iff (early : 0 ≤ fireTime) (late : fireTime < dayMicros) :
    nextDaily fireTime now = target ↔
      OnClock fireTime target ∧ now < target ∧ target ≤ now + dayMicros := by
  simp only [nextDaily, OnClock]
  split <;>
  · simp only [localDate, dayMicros] at *
    omega

theorem nextDaily_next (early : 0 ≤ fireTime) (late : fireTime < dayMicros) (now : Int) :
    OnClock fireTime (nextDaily fireTime now) ∧ now < nextDaily fireTime now ∧
      nextDaily fireTime now ≤ now + dayMicros :=
  (nextDaily_eq_iff early late).1 rfl

theorem localDate_next : localDate 0 (target + dayMicros) = localDate 0 target + 1 := by
  simp only [localDate, dayMicros]
  omega

end

/-! What the process still owes, and where it should be by the clock. -/

namespace DailyPhase

def owed (fireTime now : Int) : DailyPhase → Int
  | .planning => localDate 0 (nextDaily fireTime now) - 1
  | .sleeping target => localDate 0 target - 1
  | .ticking target tasks =>
      if .refreshYesterday ∈ tasks then localDate 0 target - 1 else localDate 0 target

def OnTime (fireTime now : Int) : DailyPhase → Prop
  | .planning => True
  | .sleeping target => OnClock fireTime target ∧ target ≤ now + dayMicros ∧
      localDate 0 now ≤ localDate 0 target
  | .ticking target tasks => OnClock fireTime target ∧ target ≤ now ∧ now < target + dayMicros ∧
      (.refreshYesterday ∈ tasks → tasks = tasksDaily ∧ localDate 0 now = localDate 0 target)

/-- The loop plans before the next fire, wakes on the day of its target, refreshes on it, and is
through with the tick before the next one. -/
def MayTake (fireTime now : Int) (micros : Nat) : DailyPhase → Prop
  | .planning => now + micros < nextDaily fireTime now
  | .sleeping target => localDate 0 (now + micros) ≤ localDate 0 target
  | .ticking target tasks => now + micros < target + dayMicros ∧
      (.refreshYesterday ∈ tasks → localDate 0 (now + micros) ≤ localDate 0 target)

def MayRestart (now : Int) : DailyPhase → Prop
  | .planning => True
  | .sleeping target => now < target
  | .ticking _ tasks => .refreshYesterday ∉ tasks

def MayFail : DailyPhase → Prop
  | .ticking _ (task :: _) => task ≠ .refreshYesterday
  | _ => True

end DailyPhase

def Punctual {ids : List Nat} (fireTime : Int) (state : DailyState ids) : DailyEvent ids → Prop
  | .elapsed micros => state.phase.MayTake fireTime state.store.now micros
  | .woke connected => connected = true
  | .failed => state.phase.MayFail
  | .restarted => state.phase.MayRestart state.store.now
  | _ => True

def nightsFrom (fireTime since : Int) (ids : List Nat) :
    StepSystem (DailyState ids) (DailyEvent ids) where
  initial state := (dailyRuns fireTime ids).initial state ∧ state.today = since
  step state := state.step fireTime

section

variable {fireTime now target : Int} {phase : DailyPhase} {task : DailyTask}
  {rest : List DailyTask}

theorem DailyPhase.OnTime.elapsed (early : 0 ≤ fireTime) (late : fireTime < dayMicros)
    (onTime : phase.OnTime fireTime now) {micros : Nat}
    (may : phase.MayTake fireTime now micros) :
    phase.OnTime fireTime (now + micros) ∧
      phase.owed fireTime (now + micros) = phase.owed fireTime now := by
  have order : localDate 0 now ≤ localDate 0 (now + micros) := localDate_mono (by omega)
  cases phase with
  | planning =>
      obtain ⟨clock, after, soon⟩ := nextDaily_next early late now
      have soon' : nextDaily fireTime now ≤ now + micros + dayMicros := by omega
      have same := (nextDaily_eq_iff early late).2 ⟨clock, may, soon'⟩
      exact ⟨trivial, by rw [owed, owed, same]⟩
  | sleeping target =>
      obtain ⟨clock, soon, _⟩ := onTime
      exact ⟨⟨clock, by omega, may⟩, rfl⟩
  | ticking target tasks =>
      obtain ⟨clock, begun, _, pending⟩ := onTime
      refine ⟨⟨clock, by omega, may.1, fun left => ⟨(pending left).1, ?_⟩⟩, rfl⟩
      have day := (pending left).2
      have bound := may.2 left
      omega

theorem DailyPhase.onTime_after (early : 0 ≤ fireTime) (late : fireTime < dayMicros)
    (clock : OnClock fireTime target) (begun : target ≤ now) (soon : now < target + dayMicros)
    (refreshed : .refreshYesterday ∉ rest) :
    (DailyPhase.after target rest).OnTime fireTime now ∧
      (DailyPhase.after target rest).owed fireTime now = localDate 0 target := by
  cases rest with
  | nil =>
      have onClock : OnClock fireTime (target + dayMicros) := by
        rw [OnClock, localDate_next, Int.add_mul, Int.one_mul]
        rw [OnClock] at clock
        omega
      have near : target + dayMicros ≤ now + dayMicros := by omega
      have next := (nextDaily_eq_iff early late).2 ⟨onClock, soon, near⟩
      refine ⟨trivial, ?_⟩
      rw [DailyPhase.after, owed, next, localDate_next]
      omega
  | cons task rest =>
      exact ⟨⟨clock, begun, soon, fun left => absurd left refreshed⟩, if_neg refreshed⟩

theorem DailyPhase.OnTime.done (early : 0 ≤ fireTime) (late : fireTime < dayMicros)
    (onTime : (DailyPhase.ticking target (task :: rest)).OnTime fireTime now) :
    (DailyPhase.after target rest).OnTime fireTime now ∧
      (DailyPhase.after target rest).owed fireTime now = localDate 0 target := by
  obtain ⟨clock, begun, soon, pending⟩ := onTime
  refine onTime_after early late clock begun soon fun left => ?_
  obtain ⟨same, _⟩ := pending (List.mem_cons_of_mem _ left)
  obtain ⟨_, rfl⟩ := List.cons.inj same
  exact absurd left (by decide)

theorem DailyPhase.OnTime.restarted (early : 0 ≤ fireTime) (late : fireTime < dayMicros)
    (onTime : phase.OnTime fireTime now) (may : phase.MayRestart now) :
    DailyPhase.planning.owed fireTime now = phase.owed fireTime now := by
  cases phase with
  | planning => rfl
  | sleeping target =>
      obtain ⟨clock, soon, _⟩ := onTime
      rw [owed, owed, (nextDaily_eq_iff early late).2 ⟨clock, may, soon⟩]
  | ticking target tasks =>
      obtain ⟨clock, begun, soon, _⟩ := onTime
      have next := (@onTime_after _ _ _ [] early late clock begun soon List.not_mem_nil).2
      rw [DailyPhase.after] at next
      rw [next, owed, if_neg may]

theorem DailyPhase.OnTime.owed_other
    (onTime : (DailyPhase.ticking target (task :: rest)).OnTime fireTime now)
    (other : task ≠ .refreshYesterday) :
    (DailyPhase.ticking target (task :: rest)).owed fireTime now = localDate 0 target := by
  refine if_neg fun left => other ?_
  exact (List.cons.inj (onTime.2.2.2 left).1).1

/-- Every day since the start, up to the first that is owed, is rolled up. -/
structure NightsKept {ids : List Nat} (fireTime since : Int) (state : DailyState ids) : Prop where
  onTime : state.phase.OnTime fireTime state.store.now
  rolled : ∀ day, since ≤ day → day < state.phase.owed fireTime state.store.now →
    day ∈ state.rolledUp.map Prod.fst

end

section

variable {ids : List Nat} {fireTime since : Int} {state after : DailyState ids}

theorem now_stored {event : PartitionEvent (KnownLeg ids)}
    (stepped : state.stored event = some after) (timeless : ∀ micros, event ≠ .elapsed micros) :
    after.store.now = state.store.now ∧ after.phase = state.phase ∧
      after.rolledUp = state.rolledUp := by
  obtain ⟨store, moved, rfl⟩ := Option.map_eq_some_iff.1 stepped
  refine ⟨?_, rfl, rfl⟩
  cases event with
  | elapsed micros => exact absurd rfl (timeless micros)
  | inserted row =>
      obtain rfl := Option.some.inj moved
      rfl
  | ensured generation ahead =>
      rw [LogStore.step] at moved
      split at moved
      · cases moved
      · obtain rfl := Option.some.inj moved
        simp only [LogStore.ensureSessionLogPartitions]
        split <;> rfl
  | dropped daysToKeep =>
      obtain rfl := Option.some.inj moved
      rfl
  | archived daysToKeep faults =>
      obtain rfl := Option.some.inj moved
      rfl

theorem NightsKept.over (early : 0 ≤ fireTime) (late : fireTime < dayMicros)
    (kept : NightsKept fireTime since state) {target : Int} {task : DailyTask}
    {rest : List DailyTask} (ticking : state.phase = .ticking target (task :: rest))
    (other : task ≠ .refreshYesterday) (now : after.store.now = state.store.now)
    (days : after.rolledUp = state.rolledUp) :
    NightsKept fireTime since { after with phase := .after target rest } := by
  have onTime := kept.onTime
  have rolled := kept.rolled
  rw [ticking] at onTime rolled
  obtain ⟨still, owes⟩ := onTime.done early late
  rw [onTime.owed_other other] at rolled
  refine ⟨?_, ?_⟩
  · dsimp only
    rwa [now]
  · dsimp only
    rwa [now, owes, days]

theorem NightsKept.elapses (early : 0 ≤ fireTime) (late : fireTime < dayMicros)
    (kept : NightsKept fireTime since state) {micros : Nat}
    (punctual : Punctual fireTime state (.elapsed micros))
    (stepped : state.step fireTime (.elapsed micros) = some after) :
    NightsKept fireTime since after := by
  obtain ⟨store, moved, rfl⟩ := Option.map_eq_some_iff.1 stepped
  rw [LogStore.step] at moved
  split at moved
  · cases moved
  · obtain rfl := Option.some.inj moved
    obtain ⟨still, owes⟩ := kept.onTime.elapsed early late punctual
    refine ⟨still, ?_⟩
    dsimp only
    rw [owes]
    exact kept.rolled

theorem NightsKept.plans (early : 0 ≤ fireTime) (late : fireTime < dayMicros)
    (kept : NightsKept fireTime since state)
    (stepped : state.step fireTime .planned = some after) : NightsKept fireTime since after := by
  have rolled := kept.rolled
  rw [DailyState.step] at stepped
  split at stepped
  next planning =>
    obtain rfl := Option.some.inj stepped
    rw [planning] at rolled
    obtain ⟨clock, soon, near⟩ := nextDaily_next early late state.store.now
    exact ⟨⟨clock, near, localDate_mono (le_of_lt soon)⟩, rolled⟩
  · cases stepped

theorem NightsKept.wakes (kept : NightsKept fireTime since state)
    (stepped : state.step fireTime (.woke true) = some after) :
    NightsKept fireTime since after := by
  have onTime := kept.onTime
  have rolled := kept.rolled
  rw [DailyState.step] at stepped
  split at stepped
  next target sleeping =>
    obtain ⟨due, moved⟩ := Option.ite_none_right_eq_some.1 stepped
    obtain rfl := Option.some.inj moved
    rw [sleeping] at onTime rolled
    obtain ⟨clock, _, day⟩ := onTime
    have same : localDate 0 state.store.now = localDate 0 target :=
      le_antisymm day (localDate_mono due)
    refine ⟨⟨clock, due, ?_, fun _ => ⟨rfl, same⟩⟩, rolled⟩
    simp only [OnClock, localDate, dayMicros] at *
    omega
  · cases stepped

theorem NightsKept.refreshes (early : 0 ≤ fireTime) (late : fireTime < dayMicros)
    (kept : NightsKept fireTime since state) {target : Int} {rest : List DailyTask}
    (ticking : state.phase = .ticking target (.refreshYesterday :: rest)) {faults : Str → Faults}
    (performed : state.perform faults .refreshYesterday = some after) :
    NightsKept fireTime since { after with phase := .after target rest } := by
  have onTime := kept.onTime
  have rolled := kept.rolled
  rw [ticking] at onTime rolled
  obtain ⟨still, owes⟩ := onTime.done early late
  obtain rfl := Option.some.inj performed
  refine ⟨still, fun day start before => ?_⟩
  dsimp only at before ⊢
  rw [owes] at before
  have today := (onTime.2.2.2 List.mem_cons_self).2
  rw [List.map_cons, List.mem_cons]
  by_cases yesterday : day = state.today - 1
  · exact Or.inl yesterday
  · refine Or.inr ?_
    have earlier : day ∈ state.rolledUp.map Prod.fst := by
      refine rolled day start ?_
      rw [DailyPhase.owed, if_pos List.mem_cons_self]
      rw [DailyState.today] at yesterday
      omega
    obtain ⟨entry, present, rfl⟩ := List.mem_map.1 earlier
    refine List.mem_map.2 ⟨entry, List.mem_filter.2 ⟨present, ?_⟩, rfl⟩
    exact decide_eq_true yesterday

theorem NightsKept.performs (early : 0 ≤ fireTime) (late : fireTime < dayMicros)
    (kept : NightsKept fireTime since state) {faults : Str → Faults}
    (stepped : state.step fireTime (.performed faults) = some after) :
    NightsKept fireTime since after := by
  rw [DailyState.step] at stepped
  split at stepped
  next target task rest ticking =>
    obtain ⟨middle, performed, rfl⟩ := Option.map_eq_some_iff.1 stepped
    cases task with
    | refreshYesterday => exact kept.refreshes early late ticking performed
    | ensureWeekly =>
        obtain ⟨now, _, days⟩ := now_stored performed fun _ same => by cases same
        exact kept.over early late ticking (by decide) now days
    | archiveOld =>
        obtain ⟨now, _, days⟩ := now_stored performed fun _ same => by cases same
        exact kept.over early late ticking (by decide) now days
  · cases stepped

theorem NightsKept.step (early : 0 ≤ fireTime) (late : fireTime < dayMicros)
    (kept : NightsKept fireTime since state) {event : DailyEvent ids}
    (punctual : Punctual fireTime state event) (stepped : state.step fireTime event = some after) :
    NightsKept fireTime since after := by
  cases event with
  | elapsed micros => exact kept.elapses early late punctual stepped
  | logged leg =>
      obtain ⟨_, stepped⟩ := Option.ite_none_right_eq_some.1 stepped
      obtain ⟨now, phase, days⟩ := now_stored stepped fun _ same => by cases same
      exact ⟨by rw [now, phase]; exact kept.onTime, by rw [now, phase, days]; exact kept.rolled⟩
  | edited id form =>
      obtain rfl := Option.some.inj stepped
      rw [DailyState.actionUpdateOperator]
      split <;> exact ⟨kept.onTime, kept.rolled⟩
  | planned => exact kept.plans early late stepped
  | woke connected =>
      obtain rfl : connected = true := punctual
      exact kept.wakes stepped
  | performed faults => exact kept.performs early late stepped
  | failed =>
      rw [DailyState.step] at stepped
      split at stepped
      next target task rest ticking =>
        obtain rfl := Option.some.inj stepped
        rw [Punctual, ticking] at punctual
        exact kept.over early late ticking punctual rfl rfl
      · cases stepped
  | restarted =>
      obtain rfl := Option.some.inj stepped
      refine ⟨trivial, ?_⟩
      dsimp only
      rw [kept.onTime.restarted early late punctual]
      exact kept.rolled

theorem DailyPhase.OnTime.owed_recent {phase : DailyPhase} {now : Int} (early : 0 ≤ fireTime)
    (late : fireTime < dayMicros) (onTime : phase.OnTime fireTime now) :
    localDate 0 now - 1 ≤ phase.owed fireTime now := by
  cases phase with
  | planning =>
      have soon := (nextDaily_next early late now).2.1
      have order := localDate_mono (le_of_lt soon)
      rw [owed]
      omega
  | sleeping target =>
      have order := onTime.2.2
      rw [owed]
      omega
  | ticking target tasks =>
      obtain ⟨_, _, soon, pending⟩ := onTime
      have order := localDate_mono (le_of_lt soon)
      rw [localDate_next] at order
      rw [owed]
      split
      next left =>
        have day := (pending left).2
        omega
      next => omega

end

instance (fireTime now : Int) (micros : Nat) :
    (phase : DailyPhase) → Decidable (phase.MayTake fireTime now micros)
  | .planning => inferInstanceAs (Decidable (_ < _))
  | .sleeping _ => inferInstanceAs (Decidable (_ ≤ _))
  | .ticking target tasks => inferInstanceAs (Decidable (now + micros < target + dayMicros ∧
      (DailyTask.refreshYesterday ∈ tasks → localDate 0 (now + micros) ≤ localDate 0 target)))

instance (now : Int) : (phase : DailyPhase) → Decidable (phase.MayRestart now)
  | .planning => isTrue trivial
  | .sleeping target => inferInstanceAs (Decidable (now < target))
  | .ticking _ tasks => inferInstanceAs (Decidable (DailyTask.refreshYesterday ∉ tasks))

instance : (phase : DailyPhase) → Decidable phase.MayFail
  | .planning | .sleeping _ | .ticking _ [] => isTrue trivial
  | .ticking _ (task :: _) => inferInstanceAs (Decidable (task ≠ .refreshYesterday))

instance {ids : List Nat} (fireTime : Int) (state : DailyState ids) :
    (event : DailyEvent ids) → Decidable (Punctual fireTime state event)
  | .elapsed micros =>
      inferInstanceAs (Decidable (state.phase.MayTake fireTime state.store.now micros))
  | .woke connected => inferInstanceAs (Decidable (connected = true))
  | .failed => inferInstanceAs (Decidable state.phase.MayFail)
  | .restarted => inferInstanceAs (Decidable (state.phase.MayRestart state.store.now))
  | .logged _ | .edited _ _ | .planned | .performed _ => isTrue trivial

def juneNights : List (DailyEvent [1]) :=
  [.logged juneLeg, .planned, .elapsed 7200000000] ++ nightlyTick ++
    [.planned, .elapsed 36000000000, .restarted, .planned, .elapsed 50400000000] ++ nightlyTick ++
    [.planned, .elapsed 86400000000] ++ nightlyTick

def afterJuneNights : DailyState [1] :=
  ((nightsFrom 7200000000 740080 [1]).run juneScheduler juneNights).getD juneScheduler

end UssdGateway
