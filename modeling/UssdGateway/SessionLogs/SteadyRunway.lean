import Mathlib.Order.MinMax
import UssdGateway.SessionLogs.Retention

/-!
A runway that never lapses: while no leg comes after the end of what the ensure calls have reached,
DEFAULT stays empty, so that none of these calls is ever refused.
-/

namespace UssdGateway

variable {ρ : Type}

structure Runway (ρ : Type) where
  store : LogStore ρ
  reached : Int

def Runway.reaches (runway : Runway ρ) : PartitionEvent ρ → Int
  | .ensured generation ahead => max runway.reached (runway.store.targetEnd generation ahead)
  | _ => runway.reached

structure Runway.Clear (runway : Runway ρ) : Prop where
  sound : runway.store.Sound
  covered : runway.store.CoversUntil runway.reached
  empty : runway.store.catalog.defaultRows = []

def runways (ts : ρ → Int) : StepSystem (Runway ρ) (PartitionEvent ρ) where
  initial := Runway.Clear
  step runway event := (runway.store.step ts event).map fun store =>
    { store, reached := runway.reaches event }

/-- A leg is stamped when it is inserted, on a day that the calls so far have reached; what is taken
away lies in the past. -/
def InTime (ts : ρ → Int) (runway : Runway ρ) : PartitionEvent ρ → Prop
  | .inserted row => dayStart runway.store.today ≤ ts row ∧
      ts row < dayStart (runway.store.today + 1) ∧ runway.store.today < runway.reached
  | event => event.Retains

section

variable {ts : ρ → Int} {store : LogStore ρ} {catalog after : Catalog ρ}

theorem ensureRange_keeps {generation : Generation} {target : Int} {fuel : Nat} {rangeStart : Int}
    {created total : Nat}
    (ran : catalog.ensureRange ts generation target fuel rangeStart created =
      some (after, total)) :
    catalog.live ⊆ after.live ∧ after.defaultRows = catalog.defaultRows := by
  induction fuel generalizing catalog rangeStart created with
  | zero =>
      obtain ⟨rfl, _⟩ := Prod.mk.inj (Option.some.inj ran)
      exact ⟨List.Subset.refl _, rfl⟩
  | succ fuel ih =>
      rw [Catalog.ensureRange] at ran
      split at ran
      · dsimp only at ran
        split at ran
        · exact ih ran
        · split at ran
          · cases ran
          next larger made =>
            obtain ⟨rfl, _⟩ := createPartition_eq_some made
            obtain ⟨more, same⟩ := ih ran
            exact ⟨List.Subset.trans (List.subset_append_left _ _) more, same⟩
      · obtain ⟨rfl, _⟩ := Prod.mk.inj (Option.some.inj ran)
        exact ⟨List.Subset.refl _, rfl⟩

theorem LogStore.Sound.ensure_succeeds (sound : store.Sound)
    (empty : store.catalog.defaultRows = []) {generation : Generation} {ahead : Int}
    (inside : store.targetEnd generation ahead ≤ namedDaysEnd) :
    ∃ larger total, store.ensureSessionLogPartitions ts generation ahead =
        ({ store with catalog := larger }, some total) ∧
      store.catalog.live ⊆ larger.live ∧ larger.defaultRows = [] ∧
      LogStore.CoversUntil { store with catalog := larger } (store.targetEnd generation ahead) := by
  have room : ∀ row ∈ store.catalog.defaultRows,
      ¬ (dayStart (store.rangeStart generation) ≤ ts row ∧
        ts row < dayStart (generation.rangesEnd (store.rangeStart generation)
          (store.targetEnd generation ahead))) := by
    rw [empty]
    exact fun _ member => absurd member List.not_mem_nil
  obtain ⟨ready, dated⟩ := sound.ready generation
  obtain ⟨larger, total, ran, _⟩ := ensureRange_some ready dated inside (le_refl _) 0 room
  have same : store.ensureSessionLogPartitions ts generation ahead =
      ({ store with catalog := larger }, some total) := by
    simp only [LogStore.ensureSessionLogPartitions, ran]
  obtain ⟨more, defaults⟩ := ensureRange_keeps ran
  have covers := (sound.ensured inside room).2
  rw [same] at covers
  exact ⟨larger, total, same, more, defaults.trans empty, covers⟩

theorem LogStore.CoversUntil.max {first second : Int} (covers : store.CoversUntil first)
    (further : store.CoversUntil second) : store.CoversUntil (Max.max first second) := by
  intro instant now soon
  rcases max_choice first second with same | same
  · exact covers instant now (same ▸ soon)
  · exact further instant now (same ▸ soon)

theorem LogStore.CoversUntil.later {reached : Int} (covers : store.CoversUntil reached)
    (micros : Nat) : LogStore.CoversUntil { store with now := store.now + micros } reached := by
  intro instant now soon
  have order : store.today ≤ (store.now + micros) / dayMicros :=
    Int.ediv_le_ediv (by decide) (by omega)
  exact covers instant (le_trans (dayStart_le_iff.2 order) now) soon

theorem LogStore.CoversUntil.inserted {reached : Int} (covers : store.CoversUntil reached)
    (row : ρ) :
    LogStore.CoversUntil { store with catalog := store.catalog.inserted ts row } reached := by
  obtain ⟨rows, live⟩ := @inserted_live _ ts store.catalog row
  intro instant now soon
  obtain ⟨part, member, holds⟩ := covers instant now soon
  refine ⟨{ part with rows := rows part }, ?_, holds⟩
  rw [live]
  exact List.mem_map.2 ⟨part, member, rfl⟩

theorem LogStore.CoversUntil.more {reached : Int} (covers : store.CoversUntil reached)
    (more : store.catalog.live ⊆ after.live) :
    LogStore.CoversUntil { store with catalog := after } reached := by
  intro instant now soon
  obtain ⟨part, member, holds⟩ := covers instant now soon
  exact ⟨part, more member, holds⟩

theorem LogStore.CoversUntil.fewer {reached : Int} (covers : store.CoversUntil reached)
    (sound : store.Sound)
    (past : ∀ part ∈ store.catalog.live, part ∉ after.live → ∀ lower upper,
      part.Spans lower upper → upper ≤ store.today) :
    LogStore.CoversUntil { store with catalog := after } reached := by
  intro instant now soon
  obtain ⟨part, member, holds⟩ := covers instant now soon
  refine ⟨part, ?_, holds⟩
  by_contra gone
  obtain ⟨lower, upper, spans⟩ := sound.ranged.spans part member
  have ended := dayStart_le_iff.2 (past part member gone lower upper spans)
  have early := (spans.contains_iff.1 holds).2
  exact absurd (lt_of_le_of_lt now early) (not_lt.2 ended)

theorem dropped_past {daysToKeep : Int} (keeps : 0 ≤ daysToKeep) :
    ∀ part ∈ store.catalog.live,
      part ∉ (store.dropOldSessionLogPartitions daysToKeep).1.catalog.live →
        ∀ lower upper, part.Spans lower upper → upper ≤ store.today := by
  intro part member gone lower upper spans
  by_contra later
  refine gone (List.mem_filter.2 ⟨member, ?_⟩)
  have cutoff := (@cutoff_le_today _ store daysToKeep keeps).2
  simp only [spans.named, Option.any_some, Bool.not_eq_true', decide_eq_false_iff_not, not_le]
  omega

theorem archived_past (sound : store.Sound) (faults : Str → Faults) {daysToKeep : Int}
    (keeps : 0 ≤ daysToKeep) :
    ∀ part ∈ store.catalog.live, part ∉ (archiveOldSessionLogPartitions faults store.now
        daysToKeep store.catalog).catalog.live →
      ∀ lower upper, part.Spans lower upper → upper ≤ store.today := by
  intro part member gone lower upper spans
  obtain ⟨moves, between, _⟩ := archive_moves faults store.now daysToKeep sound.ranged.settled
  rw [between.live, List.mem_filter, decide_eq_true_eq, not_and, not_not] at gone
  obtain ⟨move, moved, same⟩ := List.mem_map.1 (gone member)
  obtain ⟨inside, last, bounded, ended⟩ := between.expired move moved
  obtain rfl : move.1 = part := List.inj_on_of_nodup_map
    (List.nodup_append.1 sound.ranged.settled.tables).1 inside member same
  rw [spans.bound, PartitionBound.upper, Option.mem_some_iff] at bounded
  have now := (@cutoff_le_today _ store _ keeps).1
  rw [← dayStart_le_iff, bounded]
  by_contra after
  rw [not_le] at after
  have day := dayStart_lt_iff.1 (bounded ▸ after)
  simp only [LogStore.today, dayStart, dayMicros] at *
  omega

end

section

variable {ts : ρ → Int} {runway after : Runway ρ} {event : PartitionEvent ρ}

theorem Runway.Clear.step (clear : runway.Clear) (inTime : InTime ts runway event)
    (stepped : (runways ts).step runway event = some after) : after.Clear := by
  obtain ⟨store, moved, rfl⟩ := Option.map_eq_some_iff.1 stepped
  have retains : event.Retains := by
    cases event with
    | inserted row => trivial
    | _ => exact inTime
  have sound := clear.sound.step retains moved
  cases event with
  | elapsed micros =>
      rw [LogStore.step] at moved
      split at moved
      · cases moved
      · obtain rfl := Option.some.inj moved
        exact ⟨sound, clear.covered.later micros, clear.empty⟩
  | inserted row =>
      obtain rfl := Option.some.inj moved
      refine ⟨sound, clear.covered.inserted row, ?_⟩
      obtain ⟨late, early, soon⟩ := inTime
      have covered : runway.store.catalog.Covers (ts row) := by
        refine clear.covered _ late (lt_of_lt_of_le early ?_)
        exact dayStart_le_iff.2 soon
      rw [Catalog.inserted, if_pos (any_contains_iff.2 covered)]
      exact clear.empty
  | ensured generation ahead =>
      rw [LogStore.step] at moved
      split at moved
      · cases moved
      next inside =>
        obtain rfl := Option.some.inj moved
        obtain ⟨larger, total, same, more, empty, covers⟩ :=
          @LogStore.Sound.ensure_succeeds _ ts _ clear.sound clear.empty _ _ (not_lt.1 inside)
        rw [same] at sound ⊢
        exact ⟨sound, (clear.covered.more more).max covers, empty⟩
  | dropped daysToKeep =>
      obtain rfl := Option.some.inj moved
      exact ⟨sound, clear.covered.fewer clear.sound (dropped_past retains), clear.empty⟩
  | archived daysToKeep faults =>
      obtain rfl := Option.some.inj moved
      obtain ⟨_, between, _⟩ := archive_moves faults runway.store.now daysToKeep
        clear.sound.ranged.settled
      exact ⟨sound, clear.covered.fewer clear.sound (archived_past clear.sound faults retains),
        between.defaultRows.trans clear.empty⟩

/-- As long as every leg comes on a day that the calls so far have reached, DEFAULT stays empty,
today is covered up to there, and no call is refused, of whichever generation and however far it
looks ahead. -/
theorem runway_never_lapses (reached : (runways ts).ReachableBy (InTime ts) runway) :
    runway.store.catalog.defaultRows = [] ∧ runway.store.CoversUntil runway.reached ∧
      ∀ generation ahead, runway.store.targetEnd generation ahead ≤ namedDaysEnd →
        (runway.store.ensureSessionLogPartitions ts generation ahead).2.isSome = true := by
  have clear : runway.Clear := by
    refine StepSystem.ReachableBy.invariant (fun _ initial => initial) ?_ reached
    exact fun _ _ _ clear inTime stepped => clear.step inTime stepped
  refine ⟨clear.empty, clear.covered, fun generation ahead inside => ?_⟩
  obtain ⟨_, total, same, _⟩ :=
    @LogStore.Sound.ensure_succeeds _ ts _ clear.sound clear.empty _ _ inside
  rw [same, Option.isSome_some]

end

instance (ts : ρ → Int) (runway : Runway ρ) :
    (event : PartitionEvent ρ) → Decidable (InTime ts runway event)
  | .inserted row => inferInstanceAs (Decidable (dayStart runway.store.today ≤ ts row ∧
      ts row < dayStart (runway.store.today + 1) ∧ runway.store.today < runway.reached))
  | .dropped daysToKeep | .archived daysToKeep _ => inferInstanceAs (Decidable (0 ≤ daysToKeep))
  | .elapsed _ | .ensured _ _ => isTrue trivial

def juneRunway : Runway Int where
  store := juneStore
  reached := 740080

def lateHistory : List (PartitionEvent Int) :=
  [.ensured .weekly 2, .elapsed 1123200000000, .inserted (dayStart 740093),
    .ensured .weekly 2, .archived 120 fun _ _ => none]

def lateRunway : Runway Int := ((runways id).run juneRunway lateHistory).getD juneRunway

theorem late_runway_kept :
    lateRunway.store.catalog.defaultRows = [] ∧
      lateRunway.store.CoversUntil lateRunway.reached ∧
      ∀ generation ahead, lateRunway.store.targetEnd generation ahead ≤ namedDaysEnd →
        (lateRunway.store.ensureSessionLogPartitions id generation ahead).2.isSome = true := by
  have start : (runways id).ReachableBy (InTime id) juneRunway :=
    .start ⟨juneStore_initial, fun instant now soon => absurd (lt_of_le_of_lt now soon)
      (by decide), rfl⟩
  have goes : ((runways id).run juneRunway lateHistory).isSome := by decide +kernel
  have ran : (runways id).run juneRunway lateHistory = some lateRunway := by
    obtain ⟨last, found⟩ := Option.isSome_iff_exists.1 goes
    rw [lateRunway, found, Option.getD_some]
  have inTime : (runways id).Along (InTime id) juneRunway lateHistory := by decide +kernel
  exact runway_never_lapses (start.along inTime ran)

end UssdGateway
