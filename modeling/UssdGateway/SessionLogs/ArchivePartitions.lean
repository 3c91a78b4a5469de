import UssdGateway.Reports.Legs
import UssdGateway.SessionLogs.PartitionCatalog
import Mathlib.Data.List.Perm.Subperm
import Mathlib.Data.List.Sort

/-!
`archive_old_session_log_partitions`: each expired partition is detached, renamed, attached to the
archive and stripped of its indexes in one subtransaction, and committed before the next.
-/

namespace UssdGateway

variable {ρ : Type}

def archiveCandidate (base : Str) (suffix : Nat) : Str :=
  if suffix = 1 then base else base ++ lit "_" ++ lit (toString suffix)

def freeName (taken : List Str) (base : Str) : Nat → Nat → Str
  | 0, suffix => archiveCandidate base suffix
  | fuel + 1, suffix =>
      if archiveCandidate base suffix ∈ taken then freeName taken base fuel (suffix + 1)
      else archiveCandidate base suffix

def archiveBaseName (name : Str) : Str :=
  Str.replace (lit "ussd_session_logs_") (lit "ussd_logs_arch_") name.length name

def archiveName (taken : List Str) (name : Str) : Str :=
  freeName taken (archiveBaseName name) taken.length 1

/-! The statements of one partition. -/

inductive ArchiveStep where
  | setLockTimeout
  | detach
  | rename
  | attach
  | dropConstraint (name : Str)
  | dropIndex (name : Str)
  | commit
deriving DecidableEq

abbrev Faults := ArchiveStep → Option SqlError

def attempted {α : Type} (fault : Option SqlError) (result : Except SqlError α) :
    Except SqlError α :=
  match fault with
  | some error => .error error
  | none => result

def dropConstraints (faults : Faults) (name : Str) :
    List Str → Catalog ρ → Except SqlError (Catalog ρ)
  | [], catalog => .ok catalog
  | constraint :: rest, catalog => do
      let catalog ← attempted (faults (.dropConstraint constraint))
        (.ok (catalog.dropConstraint name constraint))
      dropConstraints faults name rest catalog

def dropIndexes (faults : Faults) (name : Str) :
    List Str → Catalog ρ → Except SqlError (Catalog ρ)
  | [], catalog => .ok catalog
  | index :: rest, catalog => do
      let catalog ← attempted (faults (.dropIndex index)) (.ok (catalog.dropIndex name index))
      dropIndexes faults name rest catalog

/-- The block with the exception clause. Its effects are undone when it raises. -/
def reparent (faults : Faults) (part : Partition ρ) (newName : Str) (catalog : Catalog ρ) :
    Except SqlError (Catalog ρ) := do
  attempted (faults .setLockTimeout) (.ok ())
  let catalog ← attempted (faults .detach) (catalog.detachPartition part.name)
  let catalog ← attempted (faults .rename) (catalog.renameTable part.name newName)
  let catalog ← attempted (faults .attach) (catalog.attachToArchive newName part.bound)
  let catalog ← dropConstraints faults newName (catalog.constraintsOf newName) catalog
  dropIndexes faults newName (catalog.indexesOf newName) catalog

/-! The procedure. -/

structure ArchiveOutcome (ρ : Type) where
  catalog : Catalog ρ
  archived : Option Nat

def archiveEach (faults : Str → Faults) (cutoff : Int) :
    List (Partition ρ) → Catalog ρ → Nat → ArchiveOutcome ρ
  | [], catalog, archived => ⟨catalog, some archived⟩
  | part :: rest, catalog, archived =>
      match part.bound.upper with
      | none => archiveEach faults cutoff rest catalog archived
      | some upper =>
          if cutoff < upper then archiveEach faults cutoff rest catalog archived
          else
            match reparent (faults part.name) part
                (archiveName catalog.relationNames part.name) catalog with
            | .ok after =>
                match faults part.name .commit with
                | none => archiveEach faults cutoff rest after (archived + 1)
                | some _ => ⟨catalog, none⟩
            -- The live table is busy: the run stops here.
            | .error .lockNotAvailable => ⟨catalog, some archived⟩
            | .error .queryCanceled => ⟨catalog, none⟩
            | .error .other => archiveEach faults cutoff rest catalog archived

/-- `archive_old_session_log_partitions(days_to_keep)` at an instant. -/
def archiveOldSessionLogPartitions (faults : Str → Faults) (now daysToKeep : Int)
    (catalog : Catalog ρ) : ArchiveOutcome ρ :=
  archiveEach faults (now - daysToKeep * dayMicros)
    (catalog.live.insertionSort fun first second => first.name ≤ second.name) catalog 0

theorem lit_toString_injective {first second : Nat}
    (same : lit (toString first) = lit (toString second)) : first = second := by
  have points : ∀ left right, CodePoint.ofChar left = CodePoint.ofChar right → left = right := by
    intro left right equal
    have same : (CodePoint.ofChar left).val = (CodePoint.ofChar right).val := by rw [equal]
    exact Char.toNat_inj.1 same
  have digits := (List.map_inj_right points).1 same
  rw [Nat.toString_eq_repr, Nat.toString_eq_repr, Nat.toList_repr, Nat.toList_repr] at digits
  rw [← @Nat.ofDigitChars_toDigits 10 first (by omega) (by omega), digits,
    Nat.ofDigitChars_toDigits (by omega) (by omega)]

theorem archiveCandidate_injective {base : Str} {first second : Nat}
    (same : archiveCandidate base first = archiveCandidate base second) : first = second := by
  simp only [archiveCandidate] at same
  split at same <;> split at same
  · omega
  · rw [List.append_assoc, List.self_eq_append_right, List.append_eq_nil_iff] at same
    exact absurd same.1 (lit_ne_nil (by decide))
  · rw [List.append_assoc, List.append_right_eq_self, List.append_eq_nil_iff] at same
    exact absurd same.1 (lit_ne_nil (by decide))
  · rw [List.append_assoc, List.append_assoc, List.append_cancel_left_eq,
      List.append_cancel_left_eq] at same
    exact lit_toString_injective same

theorem freeName_taken {taken : List Str} {base : Str} {fuel suffix : Nat}
    (found : freeName taken base fuel suffix ∈ taken) :
    ∀ count, count ≤ fuel → archiveCandidate base (suffix + count) ∈ taken := by
  induction fuel generalizing suffix with
  | zero =>
      intro count none
      obtain rfl : count = 0 := by omega
      exact found
  | succ fuel ih =>
      intro count few
      rw [freeName] at found
      split at found
      next here =>
        cases count with
        | zero => exact here
        | succ count =>
            have later := ih found count (by omega)
            rwa [Nat.add_right_comm, Nat.add_assoc] at later
      next here => exact absurd found here

theorem freeName_candidate (taken : List Str) (base : Str) (fuel suffix : Nat) :
    ∃ count, freeName taken base fuel suffix = archiveCandidate base count := by
  induction fuel generalizing suffix with
  | zero => exact ⟨suffix, rfl⟩
  | succ fuel ih =>
      rw [freeName]
      split
      · exact ih (suffix + 1)
      · exact ⟨suffix, rfl⟩

theorem archiveName_free (taken : List Str) (name : Str) : archiveName taken name ∉ taken := by
  intro found
  let tried := (List.range (taken.length + 1)).map fun count =>
    archiveCandidate (archiveBaseName name) (1 + count)
  have inside : tried ⊆ taken := by
    intro candidate member
    obtain ⟨count, few, rfl⟩ := List.mem_map.1 member
    exact freeName_taken found count (by simpa [Nat.lt_succ_iff] using few)
  have distinct : tried.Nodup := by
    refine List.nodup_range.map_on ?_
    intro first _ second _ same
    have equal := archiveCandidate_injective same
    omega
  have many := (distinct.subperm inside).length_le
  simp only [tried, List.length_map, List.length_range] at many
  omega

theorem except_bind_eq_ok {ε α β : Type} {first : Except ε α} {rest : α → Except ε β} {value : β}
    (ran : first >>= rest = .ok value) :
    ∃ middle, first = .ok middle ∧ rest middle = .ok value := by
  cases first with
  | error error => cases ran
  | ok middle => exact ⟨middle, rfl, ran⟩

theorem attempted_eq_ok {α : Type} {fault : Option SqlError} {result : Except SqlError α}
    {value : α} (ran : attempted fault result = .ok value) : result = .ok value := by
  cases fault with
  | some error => cases ran
  | none => exact ran

section

variable {catalog after : Catalog ρ} {old : List (Partition ρ)} {faults : Faults} {newName : Str}
  {fresh part : Partition ρ}

theorem detachPartition_eq_ok (settled : catalog.Settled) (member : part ∈ catalog.live)
    (ran : catalog.detachPartition part.name = .ok after) :
    after = { catalog with
      live := catalog.live.filter (·.name ≠ part.name), detached := [part.toLegTable] } := by
  have found : catalog.live.find? (·.name = part.name) = some part :=
    find?_of_nodup (List.nodup_append.1 settled.tables).1 member
  simp only [Catalog.detachPartition, found, settled.attached, List.nil_append] at ran
  exact (Except.ok.inj ran).symm

theorem renameTable_eq_ok {table : LegTable ρ}
    (ran : { catalog with detached := [table] }.renameTable table.name newName = .ok after) :
    after = { catalog with detached := [{ table with name := newName }] } := by
  rw [Catalog.renameTable] at ran
  split at ran
  · cases ran
  · simpa using (Except.ok.inj ran).symm

theorem attachToArchive_eq_ok {table : LegTable ρ} {bound : PartitionBound}
    (ran : { catalog with detached := [table] }.attachToArchive table.name bound = .ok after) :
    after = { catalog with
      archive := catalog.archive ++ [{ table with bound }], detached := [] } := by
  simp only [Catalog.attachToArchive, List.find?_cons, decide_true] at ran
  split at ran
  · cases ran
  · simpa using (Except.ok.inj ran).symm

theorem onArchived_last (apart : ∀ other ∈ old, other.name ≠ newName) (named : fresh.name = newName)
    (change : Partition ρ → Partition ρ) :
    { catalog with archive := old ++ [fresh] }.onArchived newName change =
      { catalog with archive := old ++ [change fresh] } := by
  have kept :
      old.map (fun other => if other.name = newName then change other else other) = old := by
    conv_rhs => rw [← List.map_id old]
    exact List.map_congr_left fun other member => if_neg (apart other member)
  simp only [Catalog.onArchived, List.map_append, kept, List.map_singleton, if_pos named]

theorem find?_last (apart : ∀ other ∈ old, other.name ≠ newName) (named : fresh.name = newName) :
    (old ++ [fresh]).find? (·.name = newName) = some fresh := by
  rw [List.find?_append, List.find?_eq_none.2 (by simpa using apart)]
  simp [named]

theorem dropConstraints_eq_ok (apart : ∀ other ∈ old, other.name ≠ newName)
    (named : fresh.name = newName) {constraints : List Str}
    (ran : dropConstraints faults newName constraints { catalog with archive := old ++ [fresh] } =
      .ok after) :
    after = { catalog with
      archive := old ++ [{ fresh with
        constraints := fresh.constraints.filter (· ∉ constraints)
        indexes := fresh.indexes.filter (· ∉ constraints) }] } := by
  induction constraints generalizing fresh with
  | nil => simpa [dropConstraints] using (Except.ok.inj ran).symm
  | cons constraint rest ih =>
      obtain ⟨middle, dropped, ran⟩ := except_bind_eq_ok ran
      obtain rfl := Except.ok.inj (attempted_eq_ok dropped)
      rw [Catalog.dropConstraint, onArchived_last apart named] at ran
      rw [ih (by exact named) ran]
      simp [List.filter_filter, not_or, Bool.and_comm]

theorem dropIndexes_eq_ok (apart : ∀ other ∈ old, other.name ≠ newName)
    (named : fresh.name = newName) {indexes : List Str}
    (ran : dropIndexes faults newName indexes { catalog with archive := old ++ [fresh] } =
      .ok after) :
    after = { catalog with
      archive := old ++ [{ fresh with indexes := fresh.indexes.filter (· ∉ indexes) }] } := by
  induction indexes generalizing fresh with
  | nil => simpa [dropIndexes] using (Except.ok.inj ran).symm
  | cons index rest ih =>
      obtain ⟨middle, dropped, ran⟩ := except_bind_eq_ok ran
      obtain rfl := Except.ok.inj (attempted_eq_ok dropped)
      rw [Catalog.dropIndex, onArchived_last apart named] at ran
      rw [ih (by exact named) ran]
      simp [List.filter_filter, not_or, Bool.and_comm]

theorem filter_notMem_self (items : List Str) : items.filter (· ∉ items) = [] :=
  List.filter_eq_nil_iff.2 (by simp)

theorem reparent_eq_ok (settled : catalog.Settled) (member : part ∈ catalog.live)
    (free : newName ∉ catalog.relationNames)
    (ran : reparent faults part newName catalog = .ok after) :
    after = catalog.archived part newName := by
  have apart : ∀ other ∈ catalog.archive, other.name ≠ newName := by
    intro other here same
    refine free (List.mem_append_left _ (List.mem_append_left _ ?_))
    exact List.mem_append_left _ (List.mem_append_right _ (same ▸ List.mem_map_of_mem here))
  let fewer : Catalog ρ := { catalog with live := catalog.live.filter (·.name ≠ part.name) }
  let table : LegTable ρ := { part.toLegTable with name := newName }
  let moved : Partition ρ := { table with bound := part.bound }
  obtain ⟨_, _, ran⟩ := except_bind_eq_ok ran
  obtain ⟨detached, detach, ran⟩ := except_bind_eq_ok ran
  have loose : detached = { fewer with detached := [part.toLegTable] } :=
    detachPartition_eq_ok settled member (attempted_eq_ok detach)
  obtain ⟨renamed, rename, ran⟩ := except_bind_eq_ok ran
  rw [loose] at rename
  have free' : renamed = { fewer with detached := [table] } :=
    renameTable_eq_ok (attempted_eq_ok rename)
  obtain ⟨attached, attach, ran⟩ := except_bind_eq_ok ran
  rw [free'] at attach
  have taken : attached = { fewer with
      archive := catalog.archive ++ [moved], detached := [] } :=
    attachToArchive_eq_ok (attempted_eq_ok attach)
  obtain ⟨stripped, strip, ran⟩ := except_bind_eq_ok ran
  have constraints : attached.constraintsOf newName = part.constraints := by
    rw [taken, Catalog.constraintsOf, find?_last apart rfl]
    rfl
  rw [constraints, taken] at strip
  have bare : stripped = { fewer with
      archive := catalog.archive ++ [{ moved with
        constraints := part.constraints.filter (· ∉ part.constraints)
        indexes := part.indexes.filter (· ∉ part.constraints) }]
      detached := [] } :=
    @dropConstraints_eq_ok _ { fewer with detached := [] } _ _ _ _ moved apart rfl _ strip
  have indexes : stripped.indexesOf newName = part.indexes.filter (· ∉ part.constraints) := by
    rw [bare, Catalog.indexesOf, find?_last apart rfl]
    rfl
  rw [indexes, bare] at ran
  rw [@dropIndexes_eq_ok _ { fewer with detached := [] } _ _ _ _ _ apart rfl _ ran]
  simp only [filter_notMem_self, Catalog.archived, Partition.archivedAs, settled.attached, fewer,
    moved, table]

end

/-! A whole call. -/

abbrev ArchiveMove (ρ : Type) := Partition ρ × Str

/-- What a call moved: the partitions, in the order in which they came to the archive. -/
structure ArchivedBetween (cutoff : Int) (before after : Catalog ρ)
    (moves : List (ArchiveMove ρ)) : Prop where
  expired : ∀ move ∈ moves, move.1 ∈ before.live ∧ ∃ upper ∈ move.1.bound.upper, upper ≤ cutoff
  once : (moves.map fun move => move.1.name).Nodup
  renamed : ∀ move ∈ moves, ∃ taken, move.2 = archiveName taken move.1.name
  live : after.live = before.live.filter (·.name ∉ moves.map fun move => move.1.name)
  defaultRows : after.defaultRows = before.defaultRows
  others : after.others = before.others
  archive : after.archive = before.archive ++ moves.map fun move => move.1.archivedAs move.2
  rows : after.rows.Perm before.rows
  settled : after.Settled

section

variable {catalog middle after : Catalog ρ} {part : Partition ρ} {cutoff : Int}
  {moves : List (ArchiveMove ρ)}

theorem ArchivedBetween.refl (settled : catalog.Settled) :
    ArchivedBetween cutoff catalog catalog [] where
  expired := by simp
  once := List.nodup_nil
  renamed := by simp
  live := by simp
  defaultRows := rfl
  others := rfl
  archive := by simp
  rows := .refl _
  settled := settled

theorem ArchivedBetween.step (settled : catalog.Settled) (member : part ∈ catalog.live)
    (expired : ∃ upper ∈ part.bound.upper, upper ≤ cutoff) {taken : List Str}
    (rest : ArchivedBetween cutoff (catalog.archived part (archiveName taken part.name)) after
      moves) :
    ArchivedBetween cutoff catalog after ((part, archiveName taken part.name) :: moves) where
  expired := by
    intro move here
    rcases List.mem_cons.1 here with rfl | later
    · exact ⟨member, expired⟩
    · obtain ⟨inside, old⟩ := rest.expired move later
      exact ⟨(List.mem_filter.1 inside).1, old⟩
  once := by
    rw [List.map_cons, List.nodup_cons]
    refine ⟨?_, rest.once⟩
    intro again
    obtain ⟨move, later, same⟩ := List.mem_map.1 again
    have kept := (List.mem_filter.1 (rest.expired move later).1).2
    rw [decide_eq_true_eq] at kept
    exact kept same
  renamed := by
    intro move here
    rcases List.mem_cons.1 here with rfl | later
    · exact ⟨taken, rfl⟩
    · exact rest.renamed move later
  live := by
    rw [rest.live, Catalog.archived, List.filter_filter]
    refine List.filter_congr ?_
    intro other _
    simp only [List.map_cons, List.mem_cons, not_or, ← Bool.decide_and, ne_eq, and_comm]
  defaultRows := rest.defaultRows
  others := rest.others
  archive := by
    rw [rest.archive, Catalog.archived, List.append_assoc]
    rfl
  rows := rest.rows.trans (settled.archived_rows member)
  settled := rest.settled

theorem archiveEach_moves (faults : Str → Faults) {parts : List (Partition ρ)}
    (settled : catalog.Settled) (known : ∀ part ∈ parts, part ∈ catalog.live)
    (apart : (parts.map (·.name)).Nodup) (archived : Nat) :
    ∃ moves, ArchivedBetween cutoff catalog
        (archiveEach faults cutoff parts catalog archived).catalog moves ∧
      ∀ total, (archiveEach faults cutoff parts catalog archived).archived = some total →
        total = archived + moves.length := by
  induction parts generalizing catalog archived with
  | nil =>
      refine ⟨[], .refl settled, ?_⟩
      intro total reported
      simpa using (Option.some.inj reported).symm
  | cons part rest ih =>
      have later : ∀ other ∈ rest, other ∈ catalog.live := fun other member =>
        known other (List.mem_cons_of_mem _ member)
      rw [List.map_cons, List.nodup_cons] at apart
      rw [archiveEach]
      rcases bound : part.bound.upper with _ | upper
      · exact ih settled later apart.2 archived
      · by_cases inside : cutoff < upper
        · simp only [if_pos inside]
          exact ih settled later apart.2 archived
        · simp only [if_neg inside]
          have member := known part List.mem_cons_self
          rcases ran : reparent (faults part.name) part
              (archiveName catalog.relationNames part.name) catalog with error | reparented
          · cases error with
            | lockNotAvailable => exact ⟨[], .refl settled, by simp⟩
            | queryCanceled => exact ⟨[], .refl settled, by simp⟩
            | other => exact ih settled later apart.2 archived
          · have free := archiveName_free catalog.relationNames part.name
            obtain rfl := reparent_eq_ok settled member free ran
            rcases committed : faults part.name .commit with _ | error
            · have still : ∀ other ∈ rest, other ∈ (catalog.archived part
                  (archiveName catalog.relationNames part.name)).live := by
                intro other inside
                refine List.mem_filter.2 ⟨later other inside, ?_⟩
                rw [decide_eq_true_eq]
                intro same
                exact apart.1 (same ▸ List.mem_map_of_mem inside)
              obtain ⟨moves, between, counted⟩ :=
                ih (settled.archived free) still apart.2 (archived + 1)
              have expired : ∃ upper ∈ part.bound.upper, upper ≤ cutoff :=
                ⟨upper, bound, Int.not_lt.1 inside⟩
              refine ⟨_, ArchivedBetween.step settled member expired between, ?_⟩
              intro total reported
              rw [counted total reported, List.length_cons]
              omega
            · exact ⟨[], .refl settled, by simp⟩

theorem ArchivedBetween.whole (between : ArchivedBetween cutoff catalog after moves)
    (settled : catalog.Settled) (member : part ∈ catalog.live) :
    (part ∈ after.live ∧ part.name ∉ moves.map fun move => move.1.name) ∨
      (part.name ∉ after.live.map (·.name) ∧
        ∃ newName, (part, newName) ∈ moves ∧ part.archivedAs newName ∈ after.archive) := by
  by_cases moved : part.name ∈ moves.map fun move => move.1.name
  · right
    obtain ⟨⟨other, newName⟩, here, same⟩ := List.mem_map.1 moved
    obtain rfl : other = part := List.inj_on_of_nodup_map
      (List.nodup_append.1 settled.tables).1 (between.expired _ here).1 member same
    refine ⟨?_, newName, here, ?_⟩
    · intro live
      obtain ⟨left, inside, same⟩ := List.mem_map.1 live
      rw [between.live] at inside
      have kept := (List.mem_filter.1 inside).2
      rw [decide_eq_true_eq, same] at kept
      exact kept moved
    · rw [between.archive]
      exact List.mem_append_right _
        (List.mem_map_of_mem (f := fun move => move.1.archivedAs move.2) here)
  · left
    refine ⟨?_, moved⟩
    rw [between.live]
    exact List.mem_filter.2 ⟨member, by simpa using moved⟩

/-- What a call moves, however its statements fail. -/
theorem archive_moves (faults : Str → Faults) (now daysToKeep : Int) (settled : catalog.Settled) :
    ∃ moves, ArchivedBetween (now - daysToKeep * dayMicros) catalog
        (archiveOldSessionLogPartitions faults now daysToKeep catalog).catalog moves ∧
      ∀ total, (archiveOldSessionLogPartitions faults now daysToKeep catalog).archived =
        some total → total = moves.length := by
  have sorted := List.perm_insertionSort
    (fun first second : Partition ρ => first.name ≤ second.name) catalog.live
  have apart : ((catalog.live.insertionSort fun first second =>
      first.name ≤ second.name).map (·.name)).Nodup :=
    (sorted.map _).nodup_iff.2 (List.nodup_append.1 settled.tables).1
  obtain ⟨moves, between, counted⟩ := archiveEach_moves faults settled
    (fun part member => sorted.subset member) apart 0
  refine ⟨moves, between, ?_⟩
  intro total reported
  rw [counted total reported, Nat.zero_add]

/-- However the statements of a call fail, each partition is wholly live or wholly archived, no row
is lost or doubled, only expired partitions have moved, and the count is theirs. -/
theorem archive_atomic (faults : Str → Faults) (now daysToKeep : Int) (settled : catalog.Settled) :
    ∃ moves, ArchivedBetween (now - daysToKeep * dayMicros) catalog
        (archiveOldSessionLogPartitions faults now daysToKeep catalog).catalog moves ∧
      (∀ part ∈ catalog.live,
        (part ∈ (archiveOldSessionLogPartitions faults now daysToKeep catalog).catalog.live ∧
          part.name ∉ moves.map fun move => move.1.name) ∨
        (part.name ∉ (archiveOldSessionLogPartitions faults now daysToKeep
            catalog).catalog.live.map (·.name) ∧
          ∃ newName, (part, newName) ∈ moves ∧ part.archivedAs newName ∈
            (archiveOldSessionLogPartitions faults now daysToKeep catalog).catalog.archive)) ∧
      ∀ total, (archiveOldSessionLogPartitions faults now daysToKeep catalog).archived =
        some total → total = moves.length := by
  obtain ⟨moves, between, counted⟩ := archive_moves faults now daysToKeep settled
  exact ⟨moves, between, fun part member => between.whole settled member, counted⟩

end

def samplePartition (month : String) (lower upper : Int) (rows : List Nat) : Partition Nat where
  name := lit "ussd_session_logs_" ++ lit month
  rows := rows
  constraints := [lit month ++ lit "_pkey"]
  indexes := [lit month ++ lit "_pkey", lit month ++ lit "_ts_idx"]
  bound := .range (some (lower * dayMicros)) (upper * dayMicros)

def sampleCatalog : Catalog Nat where
  live := [samplePartition "2026_01" 0 31 [1, 2], samplePartition "2026_02" 31 59 [3],
    samplePartition "2026_03" 59 90 [4], samplePartition "2026_04" 90 120 [5],
    samplePartition "2026_05" 120 151 [6]]
  defaultRows := [7]
  archive := []
  detached := []
  others := [lit "ussd_session_logs_default", lit "ussd_logs_arch_2026_01"]

def sampleFaults (name : Str) (step : ArchiveStep) : Option SqlError :=
  if name = lit "ussd_session_logs_2026_02" ∧ step = .attach then some .other
  else if name = lit "ussd_session_logs_2026_04" ∧ step = .detach then some .lockNotAvailable
  else none

theorem archive_atomic_sample :
    (archiveOldSessionLogPartitions sampleFaults (280 * dayMicros) 120 sampleCatalog).archived =
        some 2 ∧
      ∃ moves, ArchivedBetween (280 * dayMicros - 120 * dayMicros) sampleCatalog
          (archiveOldSessionLogPartitions sampleFaults (280 * dayMicros) 120
            sampleCatalog).catalog moves ∧ 2 = moves.length := by
  have counted : (archiveOldSessionLogPartitions sampleFaults (280 * dayMicros) 120
      sampleCatalog).archived = some 2 := by decide +kernel
  have settled : sampleCatalog.Settled := ⟨by decide, rfl⟩
  obtain ⟨moves, between, _, total⟩ :=
    archive_atomic sampleFaults (280 * dayMicros) 120 settled
  exact ⟨counted, moves, between, total 2 counted⟩

end UssdGateway
