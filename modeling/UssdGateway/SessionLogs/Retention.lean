import UssdGateway.SessionLogs.PartitionRuns

/-!
What becomes of the legs: each one that was inserted is in the live table or in the archive, and
those of the days that every call keeps are in the live table.
-/

namespace UssdGateway

variable {ρ : Type}

namespace Catalog

def current (catalog : Catalog ρ) : List ρ :=
  catalog.live.flatMap (·.rows) ++ catalog.defaultRows

def archivedRows (catalog : Catalog ρ) : List ρ := catalog.archive.flatMap (·.rows)

structure Filed (ts : ρ → Int) (catalog : Catalog ρ) : Prop where
  live : ∀ part ∈ catalog.live, ∀ row ∈ part.rows, part.bound.contains (ts row) = true
  defaults : ∀ row ∈ catalog.defaultRows, ¬ catalog.Covers (ts row)

end Catalog

def PartitionEvent.added : PartitionEvent ρ → List ρ
  | .inserted row => [row]
  | _ => []

def PartitionEvent.isDrop : PartitionEvent ρ → Bool
  | .dropped _ => true
  | _ => false

def PartitionEvent.Keeps (days : Int) : PartitionEvent ρ → Prop
  | .dropped daysToKeep => days ≤ daysToKeep
  | .archived daysToKeep _ => days ≤ daysToKeep
  | _ => True

/-- Between two states the live table has got `added`, and `moved` and `lost` have left it, all of
them older than the horizon. -/
structure Retained (ts : ρ → Int) (horizon : Int) (before after : Catalog ρ)
    (added moved lost : List ρ) : Prop where
  current : (after.current ++ (moved ++ lost)).Perm (before.current ++ added)
  archived : after.archivedRows.Perm (before.archivedRows ++ moved)
  older : ∀ row ∈ moved ++ lost, ts row < horizon

section

variable {ts : ρ → Int} {horizon : Int} {before middle after : Catalog ρ}
  {added moved lost added' moved' lost' : List ρ}

theorem Retained.same (current : after.current = before.current)
    (archived : after.archivedRows = before.archivedRows) :
    Retained ts horizon before after [] [] [] where
  current := by
    rw [current]
    exact .refl _
  archived := by
    rw [archived, List.append_nil]
  older := fun _ member => absurd member List.not_mem_nil

theorem Retained.mono (retained : Retained ts horizon before after added moved lost) {later : Int}
    (order : horizon ≤ later) : Retained ts later before after added moved lost :=
  ⟨retained.current, retained.archived,
    fun row member => lt_of_lt_of_le (retained.older row member) order⟩

theorem Retained.trans (first : Retained ts horizon before middle added moved lost)
    (second : Retained ts horizon middle after added' moved' lost') :
    Retained ts horizon before after (added ++ added') (moved ++ moved') (lost ++ lost') where
  current := by
    classical
    rw [List.perm_iff_count]
    intro row
    have one := first.current.count_eq row
    have two := second.current.count_eq row
    simp only [List.count_append] at one two ⊢
    omega
  archived := by
    rw [← List.append_assoc]
    exact second.archived.trans (first.archived.append_right _)
  older := by
    intro row member
    simp only [List.mem_append] at member
    rcases member with (old | new) | old | new
    · exact first.older row (List.mem_append_left _ old)
    · exact second.older row (List.mem_append_left _ new)
    · exact first.older row (List.mem_append_right _ old)
    · exact second.older row (List.mem_append_right _ new)

end

section

variable {ts : ρ → Int} {catalog after : Catalog ρ}

theorem inserted_perm (row : ρ) : ∀ {parts : List (Partition ρ)},
    (parts.Pairwise fun first second =>
      ¬ (first.bound.contains (ts row) ∧ second.bound.contains (ts row))) →
    (parts.any fun part => part.bound.contains (ts row)) = true →
    ((parts.map fun part => if part.bound.contains (ts row) then
      { part with rows := part.rows ++ [row] } else part).flatMap (·.rows)).Perm
        (parts.flatMap (·.rows) ++ [row]) := by
  intro parts apart covered
  induction parts with
  | nil => cases covered
  | cons part rest ih =>
      obtain ⟨others, apart⟩ := List.pairwise_cons.1 apart
      by_cases here : part.bound.contains (ts row) = true
      · have elsewhere : (rest.map fun part => if part.bound.contains (ts row) then
            { part with rows := part.rows ++ [row] } else part) = rest := by
          refine (List.map_congr_left fun other member => ?_).trans (List.map_id rest)
          have apart := others other member
          rw [if_neg fun there => apart ⟨here, there⟩]
          rfl
        rw [List.map_cons, elsewhere, if_pos here]
        simp only [List.flatMap_cons, List.append_assoc]
        exact List.Perm.append_left _ List.perm_append_comm
      · rw [List.any_cons, Bool.or_eq_true, or_iff_right here] at covered
        rw [List.map_cons, if_neg here, List.flatMap_cons, List.flatMap_cons, List.append_assoc]
        exact (ih apart covered).append_left _

theorem any_contains_iff {instant : Int} :
    (catalog.live.any fun part => part.bound.contains instant) = true ↔
      catalog.Covers instant := by
  simp only [List.any_eq_true, Catalog.Covers]

theorem Catalog.Ranged.inserted_retained (ranged : catalog.Ranged) (row : ρ) (horizon : Int) :
    Retained ts horizon catalog (catalog.inserted ts row) [row] [] [] := by
  rw [Catalog.inserted]
  split
  next covered =>
    have apart := ranged.disjoint.imp fun never => never (ts row)
    refine ⟨?_, ?_, fun _ member => absurd member List.not_mem_nil⟩
    · simp only [Catalog.current, List.append_nil]
      refine ((inserted_perm row apart covered).append_right _).trans ?_
      rw [List.append_assoc, List.append_assoc]
      exact List.Perm.append_left _ List.perm_append_comm
    · rw [List.append_nil]
      exact .refl _
  next =>
    refine ⟨?_, ?_, fun _ member => absurd member List.not_mem_nil⟩
    · simp only [Catalog.current, List.append_nil, List.append_assoc]
      exact .refl _
    · rw [List.append_nil]
      exact .refl _

theorem Catalog.Filed.inserted (filed : catalog.Filed ts) (row : ρ) :
    (catalog.inserted ts row).Filed ts := by
  rw [Catalog.inserted]
  split
  next covered =>
    refine ⟨?_, ?_⟩
    · intro part member other inside
      obtain ⟨before, listed, rfl⟩ := List.mem_map.1 member
      split at inside
      next here =>
        rw [if_pos here]
        rcases List.mem_append.1 inside with old | new
        · exact filed.live before listed other old
        · rw [List.mem_singleton.1 new]
          exact here
      next elsewhere =>
        rw [if_neg elsewhere]
        exact filed.live before listed other inside
    · rintro other member ⟨part, inside, holds⟩
      obtain ⟨before, listed, rfl⟩ := List.mem_map.1 inside
      refine filed.defaults other member ⟨before, listed, ?_⟩
      split at holds <;> exact holds
  next uncovered =>
    refine ⟨filed.live, ?_⟩
    intro other member
    rcases List.mem_append.1 member with old | new
    · exact filed.defaults other old
    · rw [List.mem_singleton.1 new]
      exact fun covers => uncovered (any_contains_iff.2 covers)

theorem newPartition_contains {name : Str} {lower upper instant : Int} :
    (Catalog.newPartition name lower upper : Partition ρ).bound.contains instant = true ↔
      dayStart lower ≤ instant ∧ instant < dayStart upper := by
  simp only [Catalog.newPartition, PartitionBound.contains, Option.all_some, Bool.and_eq_true,
    decide_eq_true_eq]

theorem createPartition_eq_some {name : Str} {lower upper : Int}
    (created : catalog.createPartition ts name lower upper = some after) :
    after = { catalog with live := catalog.live ++ [Catalog.newPartition name lower upper] } ∧
      ∀ row ∈ catalog.defaultRows, ¬ (dayStart lower ≤ ts row ∧ ts row < dayStart upper) := by
  rw [Catalog.createPartition] at created
  split at created
  · cases created
  next free =>
    rw [Bool.or_eq_true, not_or, List.any_eq_true, List.any_eq_true] at free
    refine ⟨(Option.some.inj created).symm, fun row member => ?_⟩
    rintro ⟨late, early⟩
    exact free.2 ⟨row, member, by simp [late, early]⟩

theorem ensureRange_filed {generation : Generation} {target : Int} {fuel : Nat} {rangeStart : Int}
    {created total : Nat} (filed : catalog.Filed ts)
    (ran : catalog.ensureRange ts generation target fuel rangeStart created =
      some (after, total)) :
    after.Filed ts ∧ after.current = catalog.current ∧
      after.archivedRows = catalog.archivedRows := by
  induction fuel generalizing catalog rangeStart created with
  | zero =>
      obtain ⟨rfl, _⟩ := Prod.mk.inj (Option.some.inj ran)
      exact ⟨filed, rfl, rfl⟩
  | succ fuel ih =>
      rw [Catalog.ensureRange] at ran
      split at ran
      · dsimp only at ran
        split at ran
        · exact ih filed ran
        · split at ran
          · cases ran
          next larger made =>
            obtain ⟨rfl, apart⟩ := createPartition_eq_some made
            have refiled : Catalog.Filed ts { catalog with
                live := catalog.live ++ [Catalog.newPartition
                  (generation.partitionName rangeStart) rangeStart
                  (rangeStart + generation.days)] } := by
              refine ⟨?_, ?_⟩
              · intro part member row inside
                rcases List.mem_append.1 member with old | new
                · exact filed.live part old row inside
                · rw [List.mem_singleton.1 new] at inside
                  cases inside
              · rintro row member ⟨part, inside, holds⟩
                rcases List.mem_append.1 inside with old | new
                · exact filed.defaults row member ⟨part, old, holds⟩
                · rw [List.mem_singleton.1 new] at holds
                  exact apart row member (newPartition_contains.1 holds)
            obtain ⟨done, current, archived⟩ := ih refiled ran
            refine ⟨done, current.trans ?_, archived⟩
            simp only [Catalog.current, List.flatMap_append, List.flatMap_cons, List.flatMap_nil,
              Catalog.newPartition, List.append_nil]
      · obtain ⟨rfl, _⟩ := Prod.mk.inj (Option.some.inj ran)
        exact ⟨filed, rfl, rfl⟩

theorem Catalog.Filed.fewer (filed : catalog.Filed ts) (live : after.live ⊆ catalog.live)
    (defaults : after.defaultRows = catalog.defaultRows) : after.Filed ts where
  live := fun part member => filed.live part (live member)
  defaults := by
    rw [defaults]
    rintro row member ⟨part, inside, holds⟩
    exact filed.defaults row member ⟨part, live inside, holds⟩

theorem current_parted (stays : Partition ρ → Bool) :
    (({ catalog with live := catalog.live.filter stays } : Catalog ρ).current ++
      (catalog.live.filter fun part => !stays part).flatMap (·.rows)).Perm catalog.current := by
  have parts := (List.filter_append_perm stays catalog.live).flatMap_right (·.rows)
  rw [List.flatMap_append] at parts
  simp only [Catalog.current]
  rw [List.append_assoc]
  refine (List.Perm.append_left _ List.perm_append_comm).trans ?_
  rw [← List.append_assoc]
  exact parts.append_right _

theorem Catalog.Filed.ended (filed : catalog.Filed ts) {part : Partition ρ} {row : ρ} {end' : Int}
    (member : part ∈ catalog.live) (inside : row ∈ part.rows)
    (bounded : part.bound.upper = some end') : ts row < end' := by
  have holds := filed.live part member row inside
  cases bound : part.bound with
  | other text =>
      rw [bound] at bounded
      cases bounded
  | range lower upper =>
      rw [bound] at bounded holds
      obtain rfl := Option.some.inj bounded
      simp only [PartitionBound.contains, Bool.and_eq_true, decide_eq_true_eq] at holds
      exact holds.2

end

/-! Histories. -/

section

variable {ts : ρ → Int} {store after last : LogStore ρ} {event : PartitionEvent ρ} {days : Int}

theorem ensured_retained {generation : Generation} {ahead : Int} (horizon : Int)
    (filed : store.catalog.Filed ts) :
    let after := (store.ensureSessionLogPartitions ts generation ahead).1.catalog
    Retained ts horizon store.catalog after [] [] [] ∧ after.Filed ts := by
  simp only [LogStore.ensureSessionLogPartitions]
  split
  · exact ⟨.same rfl rfl, filed⟩
  next catalog created ran =>
    obtain ⟨done, current, archived⟩ := ensureRange_filed filed ran
    exact ⟨.same current archived, done⟩

theorem dropped_retained (sound : store.Sound) (filed : store.catalog.Filed ts)
    {daysToKeep : Int} (keeps : days ≤ daysToKeep) :
    ∃ lost, Retained ts (store.now - days * dayMicros) store.catalog
        (store.dropOldSessionLogPartitions daysToKeep).1.catalog [] [] lost ∧
      (store.dropOldSessionLogPartitions daysToKeep).1.catalog.Filed ts := by
  let cutoff := (store.now - daysToKeep * dayMicros) / dayMicros
  let stays : Partition ρ → Bool := fun part => !(partitionEnd part.name).any (· ≤ cutoff)
  refine ⟨(store.catalog.live.filter fun part => !stays part).flatMap (·.rows), ⟨?_, ?_, ?_⟩, ?_⟩
  · rw [List.nil_append, List.append_nil]
    exact @current_parted _ store.catalog stays
  · rw [List.append_nil]
    exact .refl _
  · intro row member
    obtain ⟨part, gone, inside⟩ := List.mem_flatMap.1 member
    obtain ⟨listed, old⟩ := List.mem_filter.1 gone
    obtain ⟨lower, upper, spans⟩ := sound.ranged.spans part listed
    have early : ts row < dayStart upper :=
      filed.ended listed inside (by rw [spans.bound]; rfl)
    have past : upper ≤ cutoff := by
      simpa [stays, spans.named] using old
    have whole : dayStart cutoff ≤ store.now - daysToKeep * dayMicros :=
      Int.ediv_mul_le _ (by decide)
    have order := dayStart_le_iff.2 past
    have longer : days * dayMicros ≤ daysToKeep * dayMicros :=
      Int.mul_le_mul_of_nonneg_right keeps (by decide)
    omega
  · exact filed.fewer (List.filter_subset_self _) rfl

theorem archived_retained (sound : store.Sound) (filed : store.catalog.Filed ts)
    (faults : Str → Faults) {daysToKeep : Int} (keeps : days ≤ daysToKeep) :
    let after := (archiveOldSessionLogPartitions faults store.now daysToKeep
      store.catalog).catalog
    ∃ moved, Retained ts (store.now - days * dayMicros) store.catalog after [] moved [] ∧
      after.Filed ts := by
  obtain ⟨moves, between, _⟩ :=
    archive_moves faults store.now daysToKeep sound.ranged.settled
  let stays : Partition ρ → Bool := fun part => part.name ∉ moves.map fun move => move.1.name
  have gone : (store.catalog.live.filter fun part => !stays part).Perm
      (moves.map fun move => move.1) := by
    have distinct := (List.nodup_append.1 sound.ranged.settled.tables).1
    have apart : (moves.map fun move => move.1).Nodup := by
      refine List.Nodup.of_map (·.name) ?_
      rw [List.map_map]
      exact between.once
    refine (List.perm_ext_iff_of_nodup (distinct.of_map.filter _) apart).2 fun part => ?_
    rw [List.mem_filter]
    constructor
    · rintro ⟨listed, named⟩
      obtain ⟨move, moved, same⟩ : ∃ move ∈ moves, move.1.name = part.name := by
        simpa [stays] using named
      obtain rfl : move.1 = part :=
        List.inj_on_of_nodup_map distinct (between.expired move moved).1 listed same
      exact List.mem_map.2 ⟨move, moved, rfl⟩
    · intro member
      obtain ⟨move, moved, rfl⟩ := List.mem_map.1 member
      refine ⟨(between.expired move moved).1, ?_⟩
      simpa [stays] using ⟨move.1, ⟨move.2, moved⟩, rfl⟩
  refine ⟨(moves.map fun move => move.1).flatMap (·.rows), ⟨?_, ?_, ?_⟩, ?_⟩
  · have kept : (archiveOldSessionLogPartitions faults store.now daysToKeep
        store.catalog).catalog.current =
          ({ store.catalog with live := store.catalog.live.filter stays } : Catalog ρ).current := by
      rw [Catalog.current, Catalog.current, between.live, between.defaultRows]
    rw [kept, List.append_nil, List.append_nil]
    refine (List.Perm.append_left _ ?_).trans (@current_parted _ store.catalog stays)
    exact gone.symm.flatMap_right _
  · rw [Catalog.archivedRows, between.archive, List.flatMap_append, List.flatMap_map,
      List.flatMap_map]
    exact .refl _
  · intro row member
    rw [List.append_nil] at member
    obtain ⟨part, listed, inside⟩ := List.mem_flatMap.1 member
    obtain ⟨move, moved, rfl⟩ := List.mem_map.1 listed
    obtain ⟨live, upper, bounded, past⟩ := between.expired move moved
    have early := filed.ended live inside bounded
    have longer : days * dayMicros ≤ daysToKeep * dayMicros :=
      Int.mul_le_mul_of_nonneg_right keeps (by decide)
    omega
  · refine filed.fewer ?_ between.defaultRows
    rw [between.live]
    exact List.filter_subset_self _

/-- A step adds what it inserts, and takes away what is older than the days to keep. -/
theorem LogStore.Sound.step_retained (sound : store.Sound) (filed : store.catalog.Filed ts)
    (keeps : event.Keeps days) (stepped : store.step ts event = some after) :
    store.now ≤ after.now ∧ after.catalog.Filed ts ∧ ∃ moved lost,
      Retained ts (store.now - days * dayMicros) store.catalog after.catalog event.added moved
        lost ∧ (event.isDrop = false → lost = []) := by
  cases event with
  | elapsed micros =>
      rw [LogStore.step] at stepped
      split at stepped
      · cases stepped
      · obtain rfl := Option.some.inj stepped
        exact ⟨by dsimp only; omega, filed, [], [], .same rfl rfl, fun _ => rfl⟩
  | inserted row =>
      obtain rfl := Option.some.inj stepped
      exact ⟨le_refl _, filed.inserted row, [], [], sound.ranged.inserted_retained row _,
        fun _ => rfl⟩
  | ensured generation ahead =>
      rw [LogStore.step] at stepped
      split at stepped
      · cases stepped
      · obtain rfl := Option.some.inj stepped
        obtain ⟨retained, done⟩ := @ensured_retained _ ts store generation ahead
          (store.now - days * dayMicros) filed
        refine ⟨?_, done, [], [], retained, fun _ => rfl⟩
        simp only [LogStore.ensureSessionLogPartitions]
        split <;> exact le_refl _
  | dropped daysToKeep =>
      obtain rfl := Option.some.inj stepped
      obtain ⟨lost, retained, done⟩ := dropped_retained sound filed keeps
      exact ⟨le_refl _, done, [], lost, retained, fun other => absurd other Bool.noConfusion⟩
  | archived daysToKeep faults =>
      obtain rfl := Option.some.inj stepped
      obtain ⟨moved, retained, done⟩ := archived_retained sound filed faults keeps
      exact ⟨le_refl _, done, moved, [], retained, fun _ => rfl⟩

theorem PartitionEvent.Keeps.retains (keeps : event.Keeps days) (nonneg : 0 ≤ days) :
    event.Retains := by
  cases event with
  | dropped daysToKeep => exact le_trans nonneg keeps
  | archived daysToKeep faults => exact le_trans nonneg keeps
  | _ => trivial

end

def summerHistory : List (PartitionEvent Int) :=
  [.ensured .weekly 2, .inserted (dayStart 740081), .elapsed 11232000000000,
    .inserted (dayStart 740210), .archived 120 fun _ _ => none]

def octoberStore : LogStore Int := ((partitionRuns id).run juneStore summerHistory).getD juneStore

end UssdGateway
