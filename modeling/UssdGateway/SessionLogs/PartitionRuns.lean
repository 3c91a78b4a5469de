import UssdGateway.SessionLogs.PartitionCoverage

/-!
Histories of the runway: what every event keeps, and when the runway is as long as it should be.
-/

namespace UssdGateway

variable {ρ : Type}

theorem archiveName_unlabelled {name : Str} {taken : List Str} {day : Int}
    (named : partitionEnd name = some day) : partitionEnd (archiveName taken name) = none := by
  obtain ⟨rest, rfl, _⟩ := partitionEnd_eq_some named
  have base : ∃ tail, archiveBaseName (lit "ussd_session_logs_" ++ rest) =
      lit "ussd_logs_arch_" ++ tail := ⟨_, rfl⟩
  obtain ⟨tail, base⟩ := base
  obtain ⟨suffix, candidate⟩ := freeName_candidate taken
    (archiveBaseName (lit "ussd_session_logs_" ++ rest)) taken.length 1
  rcases read : partitionEnd (archiveName taken (lit "ussd_session_logs_" ++ rest)) with _ | other
  · rfl
  · obtain ⟨rest', same, _⟩ := partitionEnd_eq_some read
    have archived : ∃ tail', archiveName taken (lit "ussd_session_logs_" ++ rest) =
        lit "ussd_logs_arch_" ++ tail' := by
      rw [archiveName, candidate, archiveCandidate, base]
      split
      · exact ⟨tail, rfl⟩
      · exact ⟨tail ++ (lit "_" ++ lit (toString suffix)), by simp only [List.append_assoc]⟩
    obtain ⟨tail', archived⟩ := archived
    have sixth : (lit "ussd_logs_arch_" ++ tail')[5]? =
        (lit "ussd_session_logs_" ++ rest')[5]? := by
      rw [← archived, same]
    rw [List.getElem?_append_left (by decide), List.getElem?_append_left (by decide)] at sixth
    exact absurd sixth (by decide)

section

variable {ts : ρ → Int} {catalog after : Catalog ρ} {store : LogStore ρ}

theorem inserted_live (row : ρ) :
    ∃ rows : Partition ρ → List ρ, (catalog.inserted ts row).live =
      catalog.live.map fun part => { part with rows := rows part } := by
  rw [Catalog.inserted]
  split
  · refine ⟨fun part => if part.bound.contains (ts row) then part.rows ++ [row] else part.rows, ?_⟩
    refine List.map_congr_left fun part _ => ?_
    by_cases holds : part.bound.contains (ts row) = true
    · simp only [if_pos holds]
    · simp only [if_neg holds]
  · exact ⟨(·.rows), (List.map_id _).symm⟩

theorem Catalog.Ranged.refilled (ranged : catalog.Ranged) (rows : Partition ρ → List ρ)
    (live : after.live = catalog.live.map fun part => { part with rows := rows part })
    (archive : after.archive = catalog.archive) (detached : after.detached = catalog.detached)
    (others : after.others = catalog.others) : after.Ranged where
  settled := by
    refine ⟨?_, detached.trans ranged.settled.attached⟩
    have named := ranged.settled.named
    simpa [Catalog.tableNames, Function.comp_def, live, archive, detached] using named
  spans := by
    intro part member
    rw [live] at member
    obtain ⟨before, inside, rfl⟩ := List.mem_map.1 member
    obtain ⟨lower, upper, spans⟩ := ranged.spans before inside
    exact ⟨lower, upper, spans.bound, spans.named, spans.ordered, spans.dated⟩
  apart := by
    rw [live, List.pairwise_map]
    exact ranged.apart
  labels := by
    have labels := ranged.labels
    simpa [Catalog.indexNames, List.flatMap_map, live, archive, detached, others] using labels

theorem LogStore.Sound.inserted (sound : store.Sound) (row : ρ) :
    LogStore.Sound { store with catalog := store.catalog.inserted ts row } := by
  obtain ⟨rows, live⟩ := @inserted_live _ ts store.catalog row
  have same : ∀ part : Partition ρ, part ∈ (store.catalog.inserted ts row).live ↔
      ∃ before ∈ store.catalog.live, { before with rows := rows before } = part := by
    simp [live]
  refine ⟨sound.ranged.refilled rows live ?_ ?_ ?_, sound.dated, ?_⟩
  · rw [Catalog.inserted]
    split <;> rfl
  · rw [Catalog.inserted]
    split <;> rfl
  · rw [Catalog.inserted]
    split <;> rfl
  · intro part member upper named instant now soon
    obtain ⟨before, inside, rfl⟩ := (same part).1 member
    obtain ⟨cover, listed, holds⟩ := sound.contiguous before inside upper named instant now soon
    exact ⟨_, (same _).2 ⟨cover, listed, rfl⟩, holds⟩

theorem LogStore.Sound.fewer (sound : store.Sound) (settled : after.Settled)
    (live : after.live.Sublist store.catalog.live)
    (archive : ∀ part ∈ after.archive, part ∈ store.catalog.archive ∨
      partitionEnd part.name = none ∧ part.indexes = [])
    (others : after.others = store.catalog.others)
    (past : ∀ part ∈ store.catalog.live, part ∉ after.live → ∀ lower upper,
      part.Spans lower upper → upper ≤ store.today) :
    LogStore.Sound { store with catalog := after } where
  ranged :=
    { settled
      spans := fun part member => sound.ranged.spans part (live.subset member)
      apart := sound.ranged.apart.sublist live
      labels := by
        intro name member
        have old := sound.ranged.labels name
        simp only [Catalog.indexNames, settled.attached, sound.ranged.settled.attached, others,
          List.flatMap_nil, List.append_nil, List.mem_append, List.mem_map,
          List.mem_flatMap] at member old
        rcases member with (⟨part, inside, rfl⟩ | ⟨part, inside, index⟩ | ⟨part, inside, index⟩) |
          other
        · rcases archive part inside with kept | fresh
          · exact old (.inl (.inl ⟨part, kept, rfl⟩))
          · exact fresh.1
        · exact old (.inl (.inr (.inl ⟨part, live.subset inside, index⟩)))
        · rcases archive part inside with kept | fresh
          · exact old (.inl (.inr (.inr ⟨part, kept, index⟩)))
          · rw [fresh.2] at index
            cases index
        · exact old (.inr other) }
  dated := sound.dated
  contiguous := by
    intro part member upper named instant now soon
    obtain ⟨cover, inside, holds⟩ :=
      sound.contiguous part (live.subset member) upper named instant now soon
    refine ⟨cover, ?_, holds⟩
    by_contra gone
    obtain ⟨lower, last, spans⟩ := sound.ranged.spans cover inside
    have ended := dayStart_le_iff.2 (past cover inside gone lower last spans)
    have early := (spans.contains_iff.1 holds).2
    exact absurd (lt_of_le_of_lt now early) (not_lt.2 ended)

theorem cutoff_le_today {daysToKeep : Int} (keeps : 0 ≤ daysToKeep) :
    store.now - daysToKeep * dayMicros ≤ store.now ∧
      (store.now - daysToKeep * dayMicros) / dayMicros ≤ store.today := by
  have past : store.now - daysToKeep * dayMicros ≤ store.now := by
    simp only [dayMicros]
    omega
  exact ⟨past, Int.ediv_le_ediv (by decide) past⟩

theorem LogStore.Sound.dropped (sound : store.Sound) {daysToKeep : Int} (keeps : 0 ≤ daysToKeep) :
    (store.dropOldSessionLogPartitions daysToKeep).1.Sound := by
  have live : (store.catalog.keptAfter
      ((store.now - daysToKeep * dayMicros) / dayMicros)).Sublist store.catalog.live :=
    List.filter_sublist
  refine sound.fewer ⟨?_, sound.ranged.settled.attached⟩ live (fun part old => .inl old) rfl ?_
  · exact sound.ranged.settled.named.sublist (((live.map _).append_right _).append_right _)
  · intro part member gone lower upper spans
    have ended : upper ≤ (store.now - daysToKeep * dayMicros) / dayMicros := by
      by_contra later
      refine gone (List.mem_filter.2 ⟨member, ?_⟩)
      simpa [spans.named] using later
    exact le_trans ended (cutoff_le_today keeps).2

theorem LogStore.Sound.archived (sound : store.Sound) (faults : Str → Faults) {daysToKeep : Int}
    (keeps : 0 ≤ daysToKeep) :
    LogStore.Sound { store with
      catalog := (archiveOldSessionLogPartitions faults store.now daysToKeep
        store.catalog).catalog } := by
  obtain ⟨moves, between, _⟩ := archive_moves faults store.now daysToKeep sound.ranged.settled
  refine sound.fewer between.settled ?_ ?_ between.others ?_
  · rw [between.live]
    exact List.filter_sublist
  · intro part member
    rw [between.archive] at member
    rcases List.mem_append.1 member with old | new
    · exact .inl old
    · obtain ⟨move, moved, rfl⟩ := List.mem_map.1 new
      obtain ⟨taken, named⟩ := between.renamed move moved
      obtain ⟨lower, upper, spans⟩ := sound.ranged.spans move.1 (between.expired move moved).1
      refine .inr ⟨?_, rfl⟩
      rw [Partition.archivedAs, named]
      exact archiveName_unlabelled spans.named
  · intro part member gone lower upper spans
    rw [between.live, List.mem_filter, decide_eq_true_eq, not_and, not_not] at gone
    obtain ⟨move, moved, same⟩ := List.mem_map.1 (gone member)
    obtain ⟨inside, last, bounded, ended⟩ := between.expired move moved
    obtain rfl : move.1 = part := List.inj_on_of_nodup_map
      (List.nodup_append.1 sound.ranged.settled.tables).1 inside member same
    rw [spans.bound, PartitionBound.upper, Option.mem_some_iff] at bounded
    have now := (@cutoff_le_today _ store _ keeps).1
    simp only [LogStore.today, dayStart, dayMicros] at *
    omega

end

def monthStart (month : Int) : Int := CivilDate.toDay ⟨month / 12, month % 12 + 1, 1⟩

def monthText (month : Int) : Str :=
  fourDigits (month / 12).toNat ++ underscore :: twoDigits (month % 12 + 1).toNat

theorem monthStart_lt (month : Int) : monthStart month < monthStart (month + 1) := by
  have months : month % 12 = 0 ∨ month % 12 = 1 ∨ month % 12 = 2 ∨ month % 12 = 3 ∨ month % 12 = 4 ∨
    month % 12 = 5 ∨ month % 12 = 6 ∨ month % 12 = 7 ∨ month % 12 = 8 ∨ month % 12 = 9 ∨
    month % 12 = 10 ∨ month % 12 = 11 := by omega
  simp only [monthStart, CivilDate.toDay, CivilDate.daysBeforeYear, CivilDate.daysBefore]
  omega

theorem partitionEnd_month {month : Int} (named : 12 ≤ month) (inside : month < 120000) :
    partitionEnd (lit "ussd_session_logs_" ++ monthText month) = some (monthStart (month + 1)) := by
  have year : ((month / 12).toNat : Int) = month / 12 := Int.toNat_of_nonneg (by omega)
  have ofYear : ((month % 12 + 1).toNat : Int) = month % 12 + 1 := Int.toNat_of_nonneg (by omega)
  have read : readMonthEnd (monthText month) = some (monthStart (month + 1)) := by
    simp only [monthText, fourDigits, twoDigits, List.cons_append, List.nil_append, readMonthEnd]
    rw [readFour_digits (by omega), readTwo_digits (by omega)]
    simp only [Option.bind_eq_bind, Option.bind_some]
    rw [if_pos ⟨trivial, by omega, by omega⟩]
    by_cases december : month % 12 = 11
    · rw [if_pos (by omega), monthStart, year]
      congr 3 <;> omega
    · rw [if_neg (by omega), monthStart, year, ofYear]
      congr 3 <;> omega
  rw [partitionEnd, afterPrefix_append, Option.bind_some, read, Option.orElse_some]

theorem month_index_unlabelled (month : Int) {suffix : Str} (nonempty : suffix ≠ []) :
    partitionEnd (lit "ussd_session_logs_" ++ monthText month ++ suffix) = none := by
  have length : 0 < suffix.length := List.length_pos_iff.2 nonempty
  have whole : (monthText month).length = 7 := rfl
  have digits : ∀ value : Nat, digit value ≠ CodePoint.ofChar 'w' ∧
      digit value ≠ CodePoint.ofChar 'd' := by
    intro value
    have small : (digit value).val ≤ 57 := by
      simp only [digit]
      omega
    constructor <;>
    · intro same
      rw [same] at small
      exact absurd small (by decide)
  have noMonth : readMonthEnd (monthText month ++ suffix) = none := by
    rcases read : readMonthEnd (monthText month ++ suffix) with _ | day
    · rfl
    · have long := readMonthEnd_length read
      rw [List.length_append, whole] at long
      omega
  have noDays : ∀ generation : Generation, generation.readEnd
      (lit "ussd_session_logs_" ++ (monthText month ++ suffix)) = none := by
    intro generation
    rcases read : generation.readEnd (lit "ussd_session_logs_" ++ (monthText month ++ suffix)) with
      _ | day
    · rfl
    · obtain ⟨rest, same, _⟩ := readEnd_eq_some read
      have next : (lit "ussd_session_logs_" ++ (monthText month ++ suffix))[18]? =
          (generation.start ++ rest)[18]? := by rw [same]
      cases generation with
      | weekly =>
          have w := Option.some.inj next
          exact absurd w (digits _).1
      | daily =>
          have d := Option.some.inj next
          exact absurd d (digits _).2
  rw [List.append_assoc, partitionEnd, afterPrefix_append, Option.bind_some, noMonth, noDays,
    noDays]
  rfl

def monthPartition (month : Int) : Partition ρ where
  name := lit "ussd_session_logs_" ++ monthText month
  rows := []
  constraints := [lit "ussd_session_logs_" ++ monthText month ++ lit "_pkey"]
  indexes := (lit "_pkey" :: Catalog.indexSuffixes).map
    (lit "ussd_session_logs_" ++ monthText month ++ ·)
  bound := .range (some (dayStart (monthStart month))) (dayStart (monthStart (month + 1)))

/-- The table once `014_session_logs_weekly_partitions.sql` has dropped the months ahead. -/
def monthlyStore (first : Int) (count : Nat) (now : Int) : LogStore ρ where
  catalog :=
    { live := (List.range count).map fun n : Nat => monthPartition (first + n)
      defaultRows := []
      archive := []
      detached := []
      others := [lit "ussd_session_logs", lit "ussd_session_logs_default"] }
  now := now

theorem monthStart_le_iff {first second : Int} :
    monthStart first ≤ monthStart second ↔ first ≤ second :=
  (strictMono_int_of_lt_succ monthStart_lt).le_iff_le

theorem monthPartition_spans {month : Int} (named : 12 ≤ month) (inside : month < 120000) :
    (monthPartition month : Partition ρ).Spans (monthStart month) (monthStart (month + 1)) where
  bound := rfl
  named := partitionEnd_month named inside
  ordered := monthStart_lt month
  dated := monthStart_le_iff.2 named

theorem monthlyStore_initial {ts : ρ → Int} {first : Int} {count : Nat} {now : Int}
    (named : 12 ≤ first) (inside : first + count ≤ 120000)
    (late : firstNamedDay + 6 ≤ now / dayMicros) (started : monthStart first ≤ now / dayMicros)
    (current : now / dayMicros < monthStart (first + count)) :
    (partitionRuns ts).initial (monthlyStore first count now) := by
  have spans : ∀ n < count, (monthPartition (first + n) : Partition ρ).Spans
      (monthStart (first + n)) (monthStart (first + n + 1)) := by
    intro n few
    exact monthPartition_spans (by omega) (by omega)
  refine ⟨⟨⟨?_, rfl⟩, ?_, ?_, ?_⟩, ⟨late, ?_⟩, ?_⟩
  · simp only [Catalog.tableNames, monthlyStore, List.map_map, List.map_nil, List.append_nil]
    refine List.nodup_range.map_on ?_
    intro n few m few' same
    have ends := congrArg partitionEnd same
    simp only [Function.comp_apply, (spans n (List.mem_range.1 few)).named,
      (spans m (List.mem_range.1 few')).named, Option.some.injEq] at ends
    have atMost := monthStart_le_iff.1 (le_of_eq ends)
    have atLeast := monthStart_le_iff.1 (ge_of_eq ends)
    omega
  · intro part member
    obtain ⟨n, few, rfl⟩ := List.mem_map.1 member
    exact ⟨_, _, spans n (List.mem_range.1 few)⟩
  · refine List.pairwise_map.2 (List.pairwise_lt_range.imp ?_)
    intro n m order
    have upper : dayStart (monthStart (first + n + 1)) ≤ dayStart (monthStart (first + m)) :=
      dayStart_le_iff.2 (monthStart_le_iff.2 (by omega))
    simp only [monthPartition, PartitionBound.overlaps, Option.all_some, Bool.and_eq_false_iff,
      decide_eq_false_iff_not]
    omega
  · intro name member
    simp only [Catalog.indexNames, monthlyStore, List.map_nil, List.nil_append, List.flatMap_nil,
      List.append_nil, List.mem_append, List.mem_flatMap] at member
    rcases member with ⟨part, inside, index⟩ | other
    · obtain ⟨n, _, rfl⟩ := List.mem_map.1 inside
      obtain ⟨suffix, listed, rfl⟩ := List.mem_map.1 index
      have nonempty : ∀ suffix ∈ lit "_pkey" :: Catalog.indexSuffixes, suffix ≠ [] := by decide
      exact month_index_unlabelled _ (nonempty suffix listed)
    · have unlabelled : ∀ name ∈ [lit "ussd_session_logs", lit "ussd_session_logs_default"],
        partitionEnd name = none := by decide
      exact unlabelled name other
  · exact lt_of_lt_of_le current (monthStart_le_iff.2 inside)
  · intro part member upper end' instant today soon
    obtain ⟨n, few, rfl⟩ := List.mem_map.1 member
    rw [List.mem_range] at few
    have same := (spans n few).named.symm.trans end'
    obtain rfl := Option.some.inj same
    -- Back from the month to the one that the instant is in.
    clear same end' member
    induction n with
    | zero =>
        refine ⟨_, List.mem_map_of_mem (List.mem_range.2 few), ?_⟩
        rw [(spans 0 few).contains_iff]
        refine ⟨le_trans (dayStart_le_iff.2 ?_) today, soon⟩
        simpa [LogStore.today, monthlyStore] using started
    | succ n ih =>
        by_cases earlier : instant < dayStart (monthStart (first + n + 1))
        · exact ih (by omega) earlier
        · refine ⟨_, List.mem_map_of_mem (List.mem_range.2 few), ?_⟩
          rw [(spans (n + 1) few).contains_iff]
          refine ⟨?_, soon⟩
          rw [Int.natCast_succ, ← Int.add_assoc]
          exact not_lt.1 earlier

/-! Histories. -/

section

variable {ts : ρ → Int} {store after : LogStore ρ} {event : PartitionEvent ρ}

theorem LogStore.Sound.elapsed (sound : store.Sound) {micros : Nat}
    (inside : store.now + micros < dayStart namedDaysEnd) :
    LogStore.Sound { store with now := store.now + micros } := by
  have later : store.today ≤ (store.now + micros) / dayMicros :=
    Int.ediv_le_ediv (by decide) (by omega)
  refine ⟨sound.ranged, ⟨le_trans sound.dated.1 later, ?_⟩, ?_⟩
  · simp only [LogStore.today, dayStart, dayMicros] at inside ⊢
    omega
  · intro part member upper named instant now
    exact sound.contiguous part member upper named instant (le_trans (dayStart_le_iff.2 later) now)

theorem LogStore.Sound.step (sound : store.Sound) (retains : event.Retains)
    (stepped : store.step ts event = some after) : after.Sound := by
  cases event with
  | elapsed micros =>
      rw [LogStore.step] at stepped
      split at stepped
      · cases stepped
      next inside =>
        obtain rfl := Option.some.inj stepped
        exact sound.elapsed (not_le.1 inside)
  | inserted row =>
      obtain rfl := Option.some.inj stepped
      exact sound.inserted row
  | ensured generation ahead =>
      rw [LogStore.step] at stepped
      split at stepped
      · cases stepped
      next inside =>
        obtain rfl := Option.some.inj stepped
        exact sound.ensure_sound (not_lt.1 inside)
  | dropped daysToKeep =>
      obtain rfl := Option.some.inj stepped
      exact sound.dropped retains
  | archived daysToKeep faults =>
      obtain rfl := Option.some.inj stepped
      exact sound.archived faults retains

theorem LogStore.Sound.covered_iff (sound : store.Sound) (retains : event.Retains)
    (stepped : store.step ts event = some after) :
    RunwayKept ts store event ↔ HasRoom ts store event := by
  have apart : after.Disjoint := (sound.step retains stepped).ranged.disjoint
  have covered : RunwayKept ts store event ↔
      ∀ generation ahead, event = .ensured generation ahead →
        after.CoversUntil (store.targetEnd generation ahead) := by
    simp only [RunwayKept, stepped, Option.some.injEq, forall_eq', apart, true_and]
  rw [covered]
  cases event with
  | ensured generation ahead =>
      rw [LogStore.step] at stepped
      split at stepped
      · cases stepped
      next inside =>
        obtain rfl := Option.some.inj stepped
        rw [← sound.coversUntil_iff (not_lt.1 inside)]
        constructor
        · intro covers
          exact covers generation ahead rfl
        · rintro covers _ _ ⟨rfl, rfl⟩
          exact covers
  | elapsed | inserted | dropped | archived => simp [HasRoom]

/-- In every history that takes away only what is past, the partitions stay apart and each ensure
call covers its range, exactly if none of these calls meets rows of DEFAULT where it has to create
a partition. -/
theorem runway_iff {events : List (PartitionEvent ρ)} {last : LogStore ρ}
    (initial : (partitionRuns ts).initial store)
    (ran : (partitionRuns ts).run store events = some last)
    (retains : ∀ event ∈ events, event.Retains) :
    (partitionRuns ts).Along (RunwayKept ts) store events ↔
      (partitionRuns ts).Along (HasRoom ts) store events := by
  refine @StepSystem.along_iff_of_run _ _ _ LogStore.Sound _ _ _ ?_ ?_ _ _ initial ran
  · intro state event after member sound stepped
    exact sound.covered_iff (retains event member) stepped
  · intro state event after member sound stepped
    exact sound.step (retains event member) stepped

end

instance (ts : ρ → Int) (store : LogStore ρ) :
    (event : PartitionEvent ρ) → Decidable (HasRoom ts store event)
  | .ensured generation ahead =>
      inferInstanceAs (Decidable (store.targetEnd generation ahead ≤ store.today ∨
        ∀ row ∈ store.catalog.defaultRows, ¬ (dayStart (store.rangeStart generation) ≤ ts row ∧
          ts row < dayStart (generation.rangesEnd (store.rangeStart generation)
            (store.targetEnd generation ahead)))))
  | .elapsed _ | .inserted _ | .dropped _ | .archived _ _ => isTrue trivial

def juneStore : LogStore Int := monthlyStore 24314 4 (dayStart 740080)

theorem juneStore_initial : (partitionRuns id).initial juneStore :=
  monthlyStore_initial (by decide) (by decide) (by decide) (by decide) (by decide)

def steadyHistory : List (PartitionEvent Int) :=
  [.ensured .weekly 2, .elapsed 1728000000000, .ensured .weekly 2, .inserted (dayStart 740104),
    .elapsed 864000000000, .ensured .daily 30, .archived 90 fun _ _ => none, .dropped 60]

theorem runway_iff_steadyHistory :
    (partitionRuns id).Along (RunwayKept id) juneStore steadyHistory := by
  have ran : ((partitionRuns id).run juneStore steadyHistory).isSome := by decide +kernel
  obtain ⟨last, ran⟩ := Option.isSome_iff_exists.1 ran
  refine (runway_iff juneStore_initial ran ?_).2 (by decide +kernel)
  simp [steadyHistory, PartitionEvent.Retains]

def lapse : List (PartitionEvent Int) :=
  [.ensured .weekly 2, .elapsed 2160000000000, .inserted (dayStart 740105), .ensured .weekly 2]

def julyStore : LogStore Int where
  catalog := { juneStore.catalog with defaultRows := [dayStart 740105] }
  now := dayStart 740105

/-- The call after the lapse leaves today without a partition. -/
theorem lapse_uncovered :
    (partitionRuns id).initial juneStore ∧ (∀ event ∈ lapse, event.Retains) ∧
      ((partitionRuns id).run juneStore lapse).isSome ∧
        ¬ (partitionRuns id).Along (RunwayKept id) juneStore lapse := by
  refine ⟨juneStore_initial, by simp [lapse, PartitionEvent.Retains], by decide +kernel, ?_⟩
  intro along
  have first : juneStore.step id (.ensured .weekly 2) = some juneStore := by decide +kernel
  have second : juneStore.step id (.elapsed 2160000000000) =
      some { juneStore with now := dayStart 740105 } := by decide +kernel
  have third : { juneStore with now := dayStart 740105 }.step id (.inserted (dayStart 740105)) =
      some julyStore := by decide +kernel
  have fourth : julyStore.step id (.ensured .weekly 2) = some julyStore := by decide +kernel
  have covered := (((along.2 _ first).2 _ second).2 _ third).1
  have covers := (covered _ fourth).2 .weekly 2 rfl
  obtain ⟨part, member, holds⟩ := covers (dayStart 740105) (by decide) (by decide)
  have uncovered : ∀ part ∈ julyStore.catalog.live,
      part.bound.contains (dayStart 740105) = false := by decide +kernel
  rw [uncovered part member] at holds
  cases holds

end UssdGateway
