import UssdGateway.Library.Transition
import UssdGateway.SessionLogs.ArchivePartitions
import UssdGateway.SessionLogs.PartitionNames

/-!
The runway of `ussd_session_logs`: the calls that add partitions ahead of today and those that take
old ones away, with the legs that land in the DEFAULT partition between them.
-/

namespace UssdGateway

variable {ρ : Type}

def dayStart (day : Int) : Int := day * dayMicros

/-- The table with the clock, both in the time zone of the session. -/
structure LogStore (ρ : Type) where
  catalog : Catalog ρ
  now : Int
deriving DecidableEq

def LogStore.today (store : LogStore ρ) : Int := store.now / dayMicros

def PartitionBound.contains : PartitionBound → Int → Bool
  | range lower upper, instant => lower.all (· ≤ instant) && decide (instant < upper)
  | other _, _ => false

namespace Catalog

variable (catalog : Catalog ρ)

def Covers (instant : Int) : Prop := ∃ part ∈ catalog.live, part.bound.contains instant

def latestPartitionEnd : Option Int :=
  (catalog.live.filterMap fun part => partitionEnd part.name).max?

def indexSuffixes : List Str :=
  [lit "_ts_idx", lit "_session_id_ts_idx", lit "_operator_id_ts_idx", lit "_shortcode_id_ts_idx",
    lit "_msisdn_ts_idx", lit "_operator_name_ts_idx", lit "_ts_idx1", lit "_error_class_ts_idx",
    lit "_session_id_operator_name_ts_idx"]

def newPartition (name : Str) (lower upper : Int) : Partition ρ where
  name := name
  rows := []
  constraints := [name ++ lit "_pkey"]
  indexes := (name ++ lit "_pkey") :: indexSuffixes.map (name ++ ·)
  bound := .range (some (dayStart lower)) (dayStart upper)

variable (ts : ρ → Int)

/-- `CREATE TABLE … PARTITION OF`, refused for a range that overlaps a partition's or that holds
rows of DEFAULT. -/
def createPartition (name : Str) (lower upper : Int) : Option (Catalog ρ) :=
  if (catalog.live.any fun part =>
        part.bound.overlaps (.range (some (dayStart lower)) (dayStart upper))) ||
      catalog.defaultRows.any fun row =>
        decide (dayStart lower ≤ ts row) && decide (ts row < dayStart upper) then none
  else some { catalog with live := catalog.live ++ [newPartition name lower upper] }

/-- `WHILE range_start < target_end`, with the count so far; an error leaves nothing. -/
def ensureRange (generation : Generation) (target : Int) :
    Nat → Int → Catalog ρ → Nat → Option (Catalog ρ × Nat)
  | 0, _, catalog, created => some (catalog, created)
  | fuel + 1, rangeStart, catalog, created =>
      if rangeStart < target then
        let rangeEnd := rangeStart + generation.days
        let partname := generation.partitionName rangeStart
        if partname ∈ catalog.relationNames then
          ensureRange generation target fuel rangeEnd catalog created
        else
          match catalog.createPartition ts partname rangeStart rangeEnd with
          | none => none
          | some catalog => ensureRange generation target fuel rangeEnd catalog (created + 1)
      else some (catalog, created)

/-- The partitions that `drop_old_session_log_partitions` keeps. -/
def keptAfter (cutoff : Int) : List (Partition ρ) :=
  catalog.live.filter fun part => !(partitionEnd part.name).any (· ≤ cutoff)

/-- An insert goes to the partition of its instant, or to DEFAULT. -/
def inserted (row : ρ) : Catalog ρ :=
  if catalog.live.any fun part => part.bound.contains (ts row) then
    { catalog with
      live := catalog.live.map fun part =>
        if part.bound.contains (ts row) then { part with rows := part.rows ++ [row] } else part }
  else { catalog with defaultRows := catalog.defaultRows ++ [row] }

end Catalog

def Generation.freshStart (today : Int) : Generation → Int
  | weekly => today - (today + 2) % 7
  | daily => today

namespace LogStore

variable (ts : ρ → Int) (store : LogStore ρ)

def rangeStart (generation : Generation) : Int :=
  store.catalog.latestPartitionEnd.getD (generation.freshStart store.today)

/-- `CURRENT_DATE + make_interval(…)`. -/
def targetEnd (generation : Generation) (ahead : Int) : Int :=
  store.today + ahead * generation.days

/-- `ensure_session_log_partitions_weekly` and `_daily`: one transaction. -/
def ensureSessionLogPartitions (generation : Generation) (ahead : Int) : LogStore ρ × Option Nat :=
  let target := store.targetEnd generation ahead
  match store.catalog.ensureRange ts generation target
      (target - store.rangeStart generation).toNat (store.rangeStart generation) 0 with
  | none => (store, none)
  | some (catalog, created) => ({ store with catalog }, some created)

/-- `drop_old_session_log_partitions`, with its count. -/
def dropOldSessionLogPartitions (daysToKeep : Int) : LogStore ρ × Nat :=
  let kept := store.catalog.keptAfter ((store.now - daysToKeep * dayMicros) / dayMicros)
  ({ store with catalog := { store.catalog with live := kept } },
    store.catalog.live.length - kept.length)

end LogStore

inductive PartitionEvent (ρ : Type) where
  | elapsed (micros : Nat)
  | inserted (row : ρ)
  | ensured (generation : Generation) (ahead : Int)
  | dropped (daysToKeep : Int)
  | archived (daysToKeep : Int) (faults : Str → Faults)

/-- Dates are those of four-digit years, as the partition names have them. -/
def LogStore.step (ts : ρ → Int) (store : LogStore ρ) : PartitionEvent ρ → Option (LogStore ρ)
  | .elapsed micros =>
      if dayStart namedDaysEnd ≤ store.now + micros then none
      else some { store with now := store.now + micros }
  | .inserted row => some { store with catalog := store.catalog.inserted ts row }
  | .ensured generation ahead =>
      if namedDaysEnd < store.targetEnd generation ahead then none
      else some (store.ensureSessionLogPartitions ts generation ahead).1
  | .dropped daysToKeep => some (store.dropOldSessionLogPartitions daysToKeep).1
  | .archived daysToKeep faults => some
      { store with
        catalog := (archiveOldSessionLogPartitions faults store.now daysToKeep
          store.catalog).catalog }

structure Partition.Spans (part : Partition ρ) (lower upper : Int) : Prop where
  bound : part.bound = .range (some (dayStart lower)) (dayStart upper)
  named : partitionEnd part.name = some upper
  ordered : lower < upper
  dated : firstNamedDay ≤ lower

structure Catalog.Ranged (catalog : Catalog ρ) : Prop where
  settled : catalog.Settled
  spans : ∀ part ∈ catalog.live, ∃ lower upper, part.Spans lower upper
  apart : catalog.live.Pairwise fun first second => first.bound.overlaps second.bound = false
  labels : ∀ name ∈ catalog.archive.map (·.name) ++ catalog.indexNames ++ catalog.others,
    partitionEnd name = none

/-- What lies between today and the end of a partition is covered. -/
structure LogStore.Sound (store : LogStore ρ) : Prop where
  ranged : store.catalog.Ranged
  dated : firstNamedDay + 6 ≤ store.today ∧ store.today < namedDaysEnd
  contiguous : ∀ part ∈ store.catalog.live, ∀ upper, partitionEnd part.name = some upper →
    ∀ instant, dayStart store.today ≤ instant → instant < dayStart upper →
      store.catalog.Covers instant

def partitionRuns (ts : ρ → Int) : StepSystem (LogStore ρ) (PartitionEvent ρ) where
  initial := LogStore.Sound
  step := LogStore.step ts

/-! What the runway promises, and when. -/

def LogStore.Disjoint (store : LogStore ρ) : Prop :=
  store.catalog.live.Pairwise fun first second =>
    ∀ instant, ¬ (first.bound.contains instant ∧ second.bound.contains instant)

def LogStore.CoversUntil (store : LogStore ρ) (target : Int) : Prop :=
  ∀ instant, dayStart store.today ≤ instant → instant < dayStart target →
    store.catalog.Covers instant

/-- After each step the partitions are disjoint, and after an ensure call its range is covered. -/
def RunwayKept (ts : ρ → Int) (store : LogStore ρ) (event : PartitionEvent ρ) : Prop :=
  ∀ after, store.step ts event = some after → after.Disjoint ∧
    ∀ generation ahead, event = .ensured generation ahead →
      after.CoversUntil (store.targetEnd generation ahead)

def Generation.rangesEnd (generation : Generation) (rangeStart target : Int) : Int :=
  if rangeStart < target then
    rangeStart + (target - rangeStart + generation.days - 1) / generation.days * generation.days
  else rangeStart

/-- A call for a date ahead finds no row of DEFAULT in the ranges that it has to create. -/
def HasRoom (ts : ρ → Int) (store : LogStore ρ) : PartitionEvent ρ → Prop
  | .ensured generation ahead =>
      store.targetEnd generation ahead ≤ store.today ∨
        ∀ row ∈ store.catalog.defaultRows,
          ¬ (dayStart (store.rangeStart generation) ≤ ts row ∧
            ts row < dayStart (generation.rangesEnd (store.rangeStart generation)
              (store.targetEnd generation ahead)))
  | _ => True

def PartitionEvent.Retains : PartitionEvent ρ → Prop
  | .dropped daysToKeep => 0 ≤ daysToKeep
  | .archived daysToKeep _ => 0 ≤ daysToKeep
  | _ => True

theorem dayStart_le_iff {first second : Int} :
    dayStart first ≤ dayStart second ↔ first ≤ second := by
  simp only [dayStart, dayMicros]
  omega

theorem dayStart_lt_iff {first second : Int} :
    dayStart first < dayStart second ↔ first < second := by
  simp only [dayStart, dayMicros]
  omega

namespace Partition.Spans

variable {part other : Partition ρ} {lower upper lower' upper' instant : Int}

theorem contains_iff (spans : part.Spans lower upper) :
    part.bound.contains instant ↔ dayStart lower ≤ instant ∧ instant < dayStart upper := by
  simp [spans.bound, PartitionBound.contains]

theorem apart (spans : part.Spans lower upper) (spans' : other.Spans lower' upper')
    (none : part.bound.overlaps other.bound = false) :
    ¬ (part.bound.contains instant ∧ other.bound.contains instant) := by
  simp only [spans.bound, spans'.bound, PartitionBound.overlaps, Option.all_some,
    Bool.and_eq_false_iff, decide_eq_false_iff_not] at none
  rw [spans.contains_iff, spans'.contains_iff]
  omega

end Partition.Spans

namespace Catalog

variable {catalog : Catalog ρ} {part : Partition ρ}

theorem Ranged.disjoint (ranged : catalog.Ranged) :
    catalog.live.Pairwise fun first second =>
      ∀ instant, ¬ (first.bound.contains instant ∧ second.bound.contains instant) := by
  refine ranged.apart.imp_of_mem ?_
  intro first second member member' none instant
  obtain ⟨_, _, spans⟩ := ranged.spans first member
  obtain ⟨_, _, spans'⟩ := ranged.spans second member'
  exact spans.apart spans' none

theorem latest_spec {latest : Int} (found : catalog.latestPartitionEnd = some latest) :
    (∃ part ∈ catalog.live, partitionEnd part.name = some latest) ∧
      ∀ part ∈ catalog.live, ∀ upper, partitionEnd part.name = some upper → upper ≤ latest := by
  obtain ⟨member, greatest⟩ := List.max?_eq_some_iff.1 found
  refine ⟨List.mem_filterMap.1 member, ?_⟩
  intro part inside upper named
  exact greatest upper (List.mem_filterMap.2 ⟨part, inside, named⟩)

theorem Ranged.none_live (ranged : catalog.Ranged) (none : catalog.latestPartitionEnd = none) :
    catalog.live = [] := by
  rw [latestPartitionEnd, List.max?_eq_none_iff] at none
  rcases live : catalog.live with _ | ⟨part, rest⟩
  · rfl
  · have member : part ∈ catalog.live := live ▸ List.mem_cons_self
    obtain ⟨lower, upper, spans⟩ := ranged.spans part member
    have listed : upper ∈ catalog.live.filterMap fun part => partitionEnd part.name :=
      List.mem_filterMap.2 ⟨part, member, spans.named⟩
    rw [none] at listed
    cases listed

def EndsBy (catalog : Catalog ρ) (day : Int) : Prop :=
  ∀ part ∈ catalog.live, ∀ upper, partitionEnd part.name = some upper → upper ≤ day

variable {generation : Generation} {rangeStart : Int}

theorem Ranged.fresh_name (ranged : catalog.Ranged) (ends : catalog.EndsBy rangeStart)
    (dated : firstNamedDay ≤ rangeStart) (inside : rangeStart < namedDaysEnd) :
    generation.partitionName rangeStart ∉ catalog.relationNames := by
  have named := partitionEnd_partitionName generation dated inside
  have days := generation.days_pos
  have unlabelled : generation.partitionName rangeStart ∉
      catalog.archive.map (·.name) ++ catalog.indexNames ++ catalog.others := by
    intro member
    rw [ranged.labels _ member] at named
    cases named
  intro member
  simp only [relationNames, tableNames, ranged.settled.attached, List.map_nil, List.append_nil,
    List.mem_append, not_or] at member unlabelled
  rcases member with ((live | archived) | index) | other
  · obtain ⟨part, inside, same⟩ := List.mem_map.1 live
    have early := ends part inside _ (same ▸ named)
    omega
  · exact unlabelled.1.1 archived
  · exact unlabelled.1.2 index
  · exact unlabelled.2 other

theorem Ranged.no_overlap (ranged : catalog.Ranged) (ends : catalog.EndsBy rangeStart)
    (rangeEnd : Int) (member : part ∈ catalog.live) :
    part.bound.overlaps (.range (some (dayStart rangeStart)) (dayStart rangeEnd)) = false := by
  obtain ⟨lower, upper, spans⟩ := ranged.spans part member
  have early := ends part member upper spans.named
  have order := @dayStart_lt_iff rangeStart upper
  rw [spans.bound, PartitionBound.overlaps, Option.all_some, Option.all_some,
    Bool.and_eq_false_iff, decide_eq_false_iff_not, decide_eq_false_iff_not]
  omega

theorem newPartition_spans (dated : firstNamedDay ≤ rangeStart)
    (inside : rangeStart < namedDaysEnd) :
    (newPartition (generation.partitionName rangeStart) rangeStart
        (rangeStart + generation.days) : Partition ρ).Spans rangeStart
      (rangeStart + generation.days) where
  bound := rfl
  named := partitionEnd_partitionName generation dated inside
  ordered := by have days := generation.days_pos; omega
  dated := dated

theorem index_unlabelled {index : Str} {rangeEnd : Int}
    (member : index ∈ (newPartition (generation.partitionName rangeStart) rangeStart rangeEnd :
      Partition ρ).indexes) : partitionEnd index = none := by
  have long : 30 < index.length := by
    have whole : (generation.partitionName rangeStart).length = 30 := by
      cases generation <;> rfl
    have suffixed : ∃ suffix : Str, index = generation.partitionName rangeStart ++ suffix ∧
        0 < suffix.length := by
      rcases List.mem_cons.1 member with rfl | later
      · exact ⟨lit "_pkey", rfl, by decide⟩
      · obtain ⟨suffix, listed, rfl⟩ := List.mem_map.1 later
        have nonempty : ∀ suffix ∈ indexSuffixes, 0 < suffix.length := by decide
        exact ⟨suffix, rfl, nonempty suffix listed⟩
    obtain ⟨suffix, rfl, nonempty⟩ := suffixed
    rw [List.length_append, whole]
    omega
  rcases read : partitionEnd index with _ | day
  · rfl
  · obtain ⟨rest, rfl, short⟩ := partitionEnd_eq_some read
    rw [List.length_append] at long
    have start : (lit "ussd_session_logs_").length = 18 := by decide
    omega

theorem Ranged.created (ranged : catalog.Ranged) (ends : catalog.EndsBy rangeStart)
    (dated : firstNamedDay ≤ rangeStart) (inside : rangeStart < namedDaysEnd) :
    { catalog with live := catalog.live ++ [newPartition (generation.partitionName rangeStart)
      rangeStart (rangeStart + generation.days)] }.Ranged where
  settled := by
    have fresh : generation.partitionName rangeStart ∉ catalog.relationNames :=
      ranged.fresh_name ends dated inside
    refine ⟨?_, ranged.settled.attached⟩
    have tables := ranged.settled.tables
    simp only [relationNames, tableNames, ranged.settled.attached, List.map_nil, List.append_nil,
      List.mem_append, not_or] at fresh
    simp only [tableNames, ranged.settled.attached, List.map_nil, List.append_nil,
      List.map_append, List.map_singleton, List.append_assoc, List.singleton_append]
    exact (List.nodup_middle.2 (List.nodup_cons.2 ⟨by simp [fresh.1.1, newPartition], tables⟩))
  spans := by
    intro part member
    rcases List.mem_append.1 member with old | new
    · exact ranged.spans part old
    · rw [List.mem_singleton.1 new]
      exact ⟨_, _, newPartition_spans dated inside⟩
  apart := by
    refine List.pairwise_append.2 ⟨ranged.apart, List.pairwise_singleton _ _, ?_⟩
    intro part member new here
    rw [List.mem_singleton.1 here]
    exact ranged.no_overlap ends _ member
  labels := by
    intro name member
    simp only [indexNames, List.flatMap_append, List.flatMap_cons, List.flatMap_nil,
      List.append_nil, List.mem_append] at member
    have old := ranged.labels name
    simp only [indexNames, List.mem_append] at old
    rcases member with (archived | ((live | new) | archived) | loose) | other
    · exact old (.inl (.inl archived))
    · exact old (.inl (.inr (.inl (.inl live))))
    · exact index_unlabelled new
    · exact old (.inl (.inr (.inl (.inr archived))))
    · exact old (.inl (.inr (.inr loose)))
    · exact old (.inr other)

variable {today : Int}

structure ReadyAt (catalog : Catalog ρ) (today day : Int) : Prop where
  ranged : catalog.Ranged
  ends : catalog.EndsBy day
  covered : ∀ instant, dayStart today ≤ instant → instant < dayStart day → catalog.Covers instant

theorem ReadyAt.created (ready : catalog.ReadyAt today rangeStart)
    (dated : firstNamedDay ≤ rangeStart) (inside : rangeStart < namedDaysEnd) :
    { catalog with live := catalog.live ++ [newPartition (generation.partitionName rangeStart)
      rangeStart (rangeStart + generation.days)] }.ReadyAt today
        (rangeStart + generation.days) where
  ranged := ready.ranged.created ready.ends dated inside
  ends := by
    have days := generation.days_pos
    intro part member upper named
    rcases List.mem_append.1 member with old | new
    · have early := ready.ends part old upper named
      omega
    · rw [List.mem_singleton.1 new, newPartition,
        partitionEnd_partitionName generation dated inside, Option.some.injEq] at named
      omega
  covered := by
    intro instant now soon
    by_cases early : instant < dayStart rangeStart
    · obtain ⟨part, member, holds⟩ := ready.covered instant now early
      exact ⟨part, List.mem_append_left _ member, holds⟩
    · refine ⟨_, List.mem_append_right _ (List.mem_singleton_self _), ?_⟩
      rw [(newPartition_spans dated inside).contains_iff]
      omega

end Catalog

/-! A call. -/

section

variable {ts : ρ → Int} {catalog : Catalog ρ} {generation : Generation}
  {today rangeStart target : Int}

theorem rangesEnd_of_lt (short : rangeStart < target) :
    generation.rangesEnd rangeStart target =
      generation.rangesEnd (rangeStart + generation.days) target ∧
    rangeStart + generation.days ≤ generation.rangesEnd rangeStart target ∧
      target ≤ generation.rangesEnd rangeStart target := by
  simp only [Generation.rangesEnd, if_pos short]
  cases generation <;>
  · simp only [Generation.days]
    omega

theorem createPartition_eq (ready : catalog.ReadyAt today rangeStart) (name : Str)
    (rangeEnd : Int) :
    catalog.createPartition ts name rangeStart rangeEnd =
      if ∃ row ∈ catalog.defaultRows, dayStart rangeStart ≤ ts row ∧ ts row < dayStart rangeEnd
        then none
      else some { catalog with
        live := catalog.live ++ [Catalog.newPartition name rangeStart rangeEnd] } := by
  have free : (catalog.live.any fun part => part.bound.overlaps
      (.range (some (dayStart rangeStart)) (dayStart rangeEnd))) = false := by
    rw [List.any_eq_false]
    intro part member
    rw [ready.ranged.no_overlap ready.ends rangeEnd member]
    exact Bool.false_ne_true
  simp [Catalog.createPartition, free]

theorem ensureRange_some (ready : catalog.ReadyAt today rangeStart)
    (dated : firstNamedDay ≤ rangeStart) (inside : target ≤ namedDaysEnd)
    {fuel : Nat} (enough : (target - rangeStart).toNat ≤ fuel) (created : Nat)
    (room : ∀ row ∈ catalog.defaultRows, ¬ (dayStart rangeStart ≤ ts row ∧
      ts row < dayStart (generation.rangesEnd rangeStart target))) :
    ∃ after total, catalog.ensureRange ts generation target fuel rangeStart created =
        some (after, total) ∧
      after.ReadyAt today (generation.rangesEnd rangeStart target) := by
  induction fuel generalizing catalog rangeStart created with
  | zero =>
      have reached : ¬ rangeStart < target := by omega
      rw [Generation.rangesEnd, if_neg reached]
      exact ⟨catalog, created, rfl, ready⟩
  | succ fuel ih =>
      rw [Catalog.ensureRange]
      by_cases short : rangeStart < target
      · obtain ⟨same, first, _⟩ := @rangesEnd_of_lt generation _ _ short
        have days := generation.days_pos
        have fresh : generation.partitionName rangeStart ∉ catalog.relationNames :=
          ready.ranged.fresh_name ready.ends dated (by omega)
        have empty : ¬ ∃ row ∈ catalog.defaultRows, dayStart rangeStart ≤ ts row ∧
            ts row < dayStart (rangeStart + generation.days) := by
          rintro ⟨row, member, late, early⟩
          refine room row member ⟨late, lt_of_lt_of_le early ?_⟩
          rw [dayStart_le_iff]
          exact first
        simp only [if_pos short, if_neg fresh, createPartition_eq ready, if_neg empty]
        rw [same]
        refine ih (ready.created dated (by omega)) (by omega) (by omega) (created + 1) ?_
        rintro row member ⟨late, early⟩
        refine room row member ⟨?_, same ▸ early⟩
        refine le_trans ?_ late
        rw [dayStart_le_iff]
        omega
      · rw [if_neg short, Generation.rangesEnd, if_neg short]
        exact ⟨catalog, created, rfl, ready⟩

theorem ensureRange_none (ready : catalog.ReadyAt today rangeStart)
    (dated : firstNamedDay ≤ rangeStart) (inside : target ≤ namedDaysEnd)
    {fuel : Nat} (enough : (target - rangeStart).toNat ≤ fuel) (created : Nat) {row : ρ}
    (member : row ∈ catalog.defaultRows) (late : dayStart rangeStart ≤ ts row)
    (early : ts row < dayStart (generation.rangesEnd rangeStart target)) :
    catalog.ensureRange ts generation target fuel rangeStart created = none := by
  induction fuel generalizing catalog rangeStart created with
  | zero =>
      have reached : ¬ rangeStart < target := by omega
      rw [Generation.rangesEnd, if_neg reached] at early
      exact absurd late (not_le.2 early)
  | succ fuel ih =>
      rw [Catalog.ensureRange]
      by_cases short : rangeStart < target
      · obtain ⟨same, first, _⟩ := @rangesEnd_of_lt generation _ _ short
        have days := generation.days_pos
        have fresh : generation.partitionName rangeStart ∉ catalog.relationNames :=
          ready.ranged.fresh_name ready.ends dated (by omega)
        simp only [if_pos short, if_neg fresh, createPartition_eq ready]
        split
        · rfl
        next apart =>
          split at apart
          · cases apart
          next empty =>
            obtain rfl := Option.some.inj apart
            refine ih (ready.created dated (by omega)) (by omega) (by omega) (created + 1) member ?_
              (same ▸ early)
            by_contra before
            exact empty ⟨row, member, late, not_le.1 before⟩
      · rw [Generation.rangesEnd, if_neg short] at early
        exact absurd late (not_le.2 early)

end

namespace LogStore

variable {ts : ρ → Int} {store after : LogStore ρ} {generation : Generation} {ahead : Int}

theorem Sound.ready (sound : store.Sound) (generation : Generation) :
    store.catalog.ReadyAt store.today (store.rangeStart generation) ∧
      firstNamedDay ≤ store.rangeStart generation := by
  have dated := sound.dated
  rw [rangeStart]
  rcases latest : store.catalog.latestPartitionEnd with _ | day
  · have empty := sound.ranged.none_live latest
    have fresh : firstNamedDay ≤ generation.freshStart store.today ∧
        generation.freshStart store.today ≤ store.today := by
      cases generation <;> simp only [Generation.freshStart] <;> omega
    refine ⟨⟨sound.ranged, ?_, ?_⟩, fresh.1⟩
    · intro part member
      rw [empty] at member
      cases member
    · intro instant now soon
      have order := dayStart_le_iff.2 fresh.2
      simp only [Option.getD_none] at soon
      omega
  · obtain ⟨⟨part, member, named⟩, greatest⟩ := Catalog.latest_spec latest
    obtain ⟨lower, upper, spans⟩ := sound.ranged.spans part member
    have same := spans.named.symm.trans named
    have first := spans.dated
    have order := spans.ordered
    rw [Option.some.injEq] at same
    refine ⟨⟨sound.ranged, greatest, ?_⟩, by simp only [Option.getD_some]; omega⟩
    exact sound.contiguous part member day named

theorem Sound.ensured (sound : store.Sound)
    (inside : store.targetEnd generation ahead ≤ namedDaysEnd)
    (room : ∀ row ∈ store.catalog.defaultRows, ¬ (dayStart (store.rangeStart generation) ≤ ts row ∧
      ts row < dayStart (generation.rangesEnd (store.rangeStart generation)
        (store.targetEnd generation ahead)))) :
    (store.ensureSessionLogPartitions ts generation ahead).1.Sound ∧
      (store.ensureSessionLogPartitions ts generation ahead).1.CoversUntil
        (store.targetEnd generation ahead) := by
  obtain ⟨ready, dated⟩ := sound.ready generation
  obtain ⟨catalog, total, ran, reached⟩ := ensureRange_some ready dated inside (le_refl _) 0 room
  simp only [ensureSessionLogPartitions, ran]
  refine ⟨⟨reached.ranged, sound.dated, ?_⟩, ?_⟩
  · intro part member upper named instant now soon
    refine reached.covered instant now (lt_of_lt_of_le soon ?_)
    rw [dayStart_le_iff]
    exact reached.ends part member upper named
  · intro instant now soon
    refine reached.covered instant now (lt_of_lt_of_le soon ?_)
    rw [dayStart_le_iff]
    by_cases short : store.rangeStart generation < store.targetEnd generation ahead
    · exact (rangesEnd_of_lt short).2.2
    · rw [Generation.rangesEnd, if_neg short]
      omega

theorem Sound.refused (sound : store.Sound)
    (inside : store.targetEnd generation ahead ≤ namedDaysEnd) {row : ρ}
    (member : row ∈ store.catalog.defaultRows)
    (late : dayStart (store.rangeStart generation) ≤ ts row)
    (early : ts row < dayStart (generation.rangesEnd (store.rangeStart generation)
      (store.targetEnd generation ahead))) :
    store.ensureSessionLogPartitions ts generation ahead = (store, none) := by
  obtain ⟨ready, dated⟩ := sound.ready generation
  have none := ensureRange_none ready dated inside (le_refl _) 0 member late early
  simp only [ensureSessionLogPartitions, none]

theorem Sound.not_coversUntil (sound : store.Sound) (generation : Generation) {target : Int}
    (future : store.today < target) (short : store.rangeStart generation < target) :
    ¬ store.CoversUntil target := by
  intro covers
  obtain ⟨ready, _⟩ := sound.ready generation
  let day := max store.today (store.rangeStart generation)
  obtain ⟨part, member, holds⟩ := covers (dayStart day)
    (dayStart_le_iff.2 (le_max_left _ _)) (dayStart_lt_iff.2 (max_lt future short))
  obtain ⟨lower, upper, spans⟩ := sound.ranged.spans part member
  have inside := dayStart_lt_iff.1 (spans.contains_iff.1 holds).2
  have ends := ready.ends part member upper spans.named
  have later := le_max_right store.today (store.rangeStart generation)
  omega

theorem Sound.coversUntil_iff (sound : store.Sound)
    (inside : store.targetEnd generation ahead ≤ namedDaysEnd) :
    (store.ensureSessionLogPartitions ts generation ahead).1.CoversUntil
        (store.targetEnd generation ahead) ↔ HasRoom ts store (.ensured generation ahead) := by
  constructor
  · intro covers
    by_contra crowded
    rw [HasRoom, not_or, not_le] at crowded
    obtain ⟨future, row⟩ := crowded
    simp only [not_forall, not_not] at row
    obtain ⟨row, member, late, early⟩ := row
    rw [sound.refused inside member late early] at covers
    refine sound.not_coversUntil generation future ?_ covers
    by_contra reached
    rw [Generation.rangesEnd, if_neg reached] at early
    omega
  · rintro (past | room)
    · intro instant now soon
      have today :
          (store.ensureSessionLogPartitions ts generation ahead).1.today = store.today := by
        simp only [ensureSessionLogPartitions]
        split <;> rfl
      rw [today] at now
      have order := dayStart_le_iff.2 past
      omega
    · exact (sound.ensured inside room).2

theorem Sound.ensure_sound (sound : store.Sound)
    (inside : store.targetEnd generation ahead ≤ namedDaysEnd) :
    (store.ensureSessionLogPartitions ts generation ahead).1.Sound := by
  by_cases room : ∀ row ∈ store.catalog.defaultRows,
      ¬ (dayStart (store.rangeStart generation) ≤ ts row ∧
        ts row < dayStart (generation.rangesEnd (store.rangeStart generation)
          (store.targetEnd generation ahead)))
  · exact (sound.ensured inside room).1
  · simp only [not_forall, not_not] at room
    obtain ⟨row, member, late, early⟩ := room
    rw [sound.refused inside member late early]
    exact sound

end LogStore

end UssdGateway
