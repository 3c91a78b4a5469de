import UssdGateway.Exports.ExportFiles
import UssdGateway.Library.ShiftingPages

/-!
A legs export while legs are written: each chunk is a query of its own over the table of the
moment.
-/

namespace UssdGateway

open Paging SqlClause

namespace Worker

def tsIdDesc (first second : LegRecord) : Prop :=
  second.ts < first.ts ∨ (second.ts = first.ts ∧ second.id ≤ first.id)

instance : DecidableRel tsIdDesc := fun _ _ => inferInstanceAs (Decidable (_ ∨ _))

def orderedLegs (pg : PgDates) (filters : ExportFilters) (legs : List LegRecord) :
    List LegRecord :=
  (select (buildWhere pg filters) legs).insertionSort tsIdDesc

def legsQuery (pg : PgDates) (filters : ExportFilters) (legs : List LegRecord)
    (offset limit : Nat) : List LegRecord :=
  page limit offset (orderedLegs pg filters legs)

/-- The chunk loop of `processJob`, over the table at each of its queries. None if the loop makes
fewer queries or more. -/
def chunkLoop (pg : PgDates) (filters : ExportFilters) (chunk : Nat) :
    Nat → List (List LegRecord) → Option (List LegRecord)
  | _, [] => none
  | offset, legs :: later =>
      let rows := legsQuery pg filters legs offset chunk
      if rows.length = 0 then
        if later = [] then some [] else none
      else if rows.length < chunk then
        if later = [] then some rows else none
      else (chunkLoop pg filters chunk (offset + chunk) later).map fun more => rows ++ more

end Worker

def LegRecord.key (leg : LegRecord) : Int × Nat := (leg.ts, leg.id)

structure LiveExport where
  pg : PgDates
  claims : SessionClaims
  screen : ReportFilters
  chunk : Nat
  present : List LegRecord
  queried : List (List LegRecord)
  keyed : ∀ legs ∈ queried, (legs.map LegRecord.key).Nodup
  grows : (present :: queried).Pairwise List.Sublist

def LegRecord.newer (first second : LegRecord) : Bool :=
  decide (second.ts < first.ts) || (decide (second.ts = first.ts) && decide (second.id < first.id))

namespace LiveExport

variable (live : LiveExport)

def filters : ExportFilters := actionCreateExport live.claims live.screen

def requested (leg : LegRecord) : Bool :=
  matchesLeg live.pg live.screen (sessionAcl live.claims) 0 leg

def exported : Option (List LegRecord) :=
  Worker.chunkLoop live.pg live.filters live.chunk 0 live.queried

def newerLegs (legs : List LegRecord) (leg : LegRecord) : Nat :=
  rank LegRecord.newer (legs.filter live.requested) leg

/-- No insertion pushes a leg that was present at the start out of what the queries so far have
read, the first `k + 1` chunks of the table, before the next query runs. -/
def StaysRead : Prop :=
  ∀ k legs next, live.queried[k]? = some legs → live.queried[k + 1]? = some next →
    ∀ leg ∈ live.present, live.requested leg = true →
      live.newerLegs legs leg < (k + 1) * live.chunk →
        live.newerLegs next leg < (k + 1) * live.chunk

end LiveExport

theorem newer_asymm (first second : LegRecord) (before : first.newer second = true) :
    second.newer first = false := by
  simp only [LegRecord.newer, Bool.or_eq_true, Bool.and_eq_true, decide_eq_true_eq,
    Bool.or_eq_false_iff, Bool.and_eq_false_iff, decide_eq_false_iff_not] at before ⊢
  omega

theorem newer_irrefl (leg : LegRecord) : leg.newer leg = false := by
  simp [LegRecord.newer]

theorem newer_of_tsIdDesc {first second : LegRecord} (ordered : Worker.tsIdDesc first second)
    (apart : first.key ≠ second.key) : first.newer second = true := by
  simp only [LegRecord.newer, Bool.or_eq_true, Bool.and_eq_true, decide_eq_true_eq]
  rcases ordered with later | ⟨same, lower⟩
  · exact Or.inl later
  · refine Or.inr ⟨same, Nat.lt_of_le_of_ne lower fun sameId => apart ?_⟩
    simp only [LegRecord.key, same, sameId]

section

variable {live : LiveExport} {legs : List LegRecord}

theorem orderedLegs_perm :
    (Worker.orderedLegs live.pg live.filters legs).Perm (legs.filter live.requested) := by
  have chosen := select_eq (Worker.denotes_buildWhere live.pg live.claims live.screen) legs
  exact (List.perm_insertionSort _ _).trans (List.Perm.of_eq chosen)

theorem orderedLegs_sorted (keyed : (legs.map LegRecord.key).Nodup) :
    (Worker.orderedLegs live.pg live.filters legs).Pairwise
      fun first second => first.newer second = true := by
  have total : Std.Total Worker.tsIdDesc := ⟨fun first second => by
    simp only [Worker.tsIdDesc]
    omega⟩
  have transitive : IsTrans _ Worker.tsIdDesc := ⟨fun first second third => by
    simp only [Worker.tsIdDesc]
    omega⟩
  have sorted : (Worker.orderedLegs live.pg live.filters legs).Pairwise Worker.tsIdDesc :=
    List.pairwise_insertionSort _ _
  have chosen : ((legs.filter live.requested).map LegRecord.key).Nodup :=
    keyed.sublist (List.filter_sublist.map _)
  have distinct := List.pairwise_map.1 ((orderedLegs_perm.map LegRecord.key).nodup_iff.2 chosen)
  exact (sorted.and distinct).imp fun both => newer_of_tsIdDesc both.1 both.2

theorem newerLegs_eq (leg : LegRecord) :
    rank LegRecord.newer (Worker.orderedLegs live.pg live.filters legs) leg =
      live.newerLegs legs leg :=
  rank_perm orderedLegs_perm leg

theorem newerLegs_lt_length {leg : LegRecord} (member : leg ∈ legs)
    (asked : live.requested leg = true) :
    live.newerLegs legs leg < (Worker.orderedLegs live.pg live.filters legs).length := by
  rw [orderedLegs_perm.length_eq]
  exact rank_lt_length newer_irrefl (List.mem_filter.2 ⟨member, asked⟩)

theorem count_legsQuery (keyed : (legs.map LegRecord.key).Nodup) {leg : LegRecord}
    (member : leg ∈ legs) (asked : live.requested leg = true) (offset : Nat) :
    (Worker.legsQuery live.pg live.filters legs offset live.chunk).count leg =
      if offset ≤ live.newerLegs legs leg ∧ live.newerLegs legs leg < offset + live.chunk then 1
      else 0 := by
  rw [Worker.legsQuery, count_page newer_asymm (orderedLegs_sorted keyed)
    (orderedLegs_perm.mem_iff.2 (List.mem_filter.2 ⟨member, asked⟩)), newerLegs_eq]

theorem count_chunkLoop (positive : 0 < live.chunk) {leg : LegRecord}
    (asked : live.requested leg = true) {tables : List (List LegRecord)} {offset : Nat}
    {rows : List LegRecord}
    (each : ∀ legs ∈ tables, (legs.map LegRecord.key).Nodup ∧ leg ∈ legs)
    (finished : Worker.chunkLoop live.pg live.filters live.chunk offset tables = some rows) :
    rows.count leg =
        timesRead live.chunk offset (tables.map fun legs => live.newerLegs legs leg) ∧
      ∀ last ∈ (tables.map fun legs => live.newerLegs legs leg).getLast?,
        last < offset + tables.length * live.chunk := by
  induction tables generalizing offset rows with
  | nil => cases finished
  | cons legs later ih =>
      obtain ⟨keyed, member⟩ := each legs List.mem_cons_self
      have here := count_legsQuery keyed member asked offset
      have behind := newerLegs_lt_length member asked
      have size : (Worker.legsQuery live.pg live.filters legs offset live.chunk).length =
          min live.chunk ((Worker.orderedLegs live.pg live.filters legs).length - offset) := by
        rw [Worker.legsQuery, page, List.length_take, List.length_drop]
      -- The last query is not full: every leg is before the end of its page.
      have ends : (Worker.legsQuery live.pg live.filters legs offset live.chunk).length <
            live.chunk → later = [] →
          (Worker.legsQuery live.pg live.filters legs offset live.chunk).count leg =
            timesRead live.chunk offset
              ((legs :: later).map fun legs => live.newerLegs legs leg) ∧
          ∀ last ∈ ((legs :: later).map fun legs => live.newerLegs legs leg).getLast?,
            last < offset + (legs :: later).length * live.chunk := by
        rintro short rfl
        refine ⟨by simp [timesRead, here], ?_⟩
        simp only [List.map_cons, List.map_nil, List.getLast?_singleton, Option.mem_some_iff,
          forall_eq', List.length_singleton, Nat.one_mul]
        omega
      simp only [Worker.chunkLoop] at finished
      split at finished
      next none =>
        split at finished
        · next ended =>
          rw [← Option.some.inj finished, ← List.eq_nil_of_length_eq_zero none]
          exact ends (by omega) ended
        · cases finished
      next =>
        split at finished
        next short =>
          split at finished
          · next ended =>
            rw [← Option.some.inj finished]
            exact ends short ended
          · cases finished
        next full =>
          obtain ⟨more, rest, rfl⟩ := Option.map_eq_some_iff.1 finished
          obtain ⟨counted, bounded⟩ :=
            ih (fun legs found => each legs (List.mem_cons_of_mem _ found)) rest
          rw [List.count_append, here, counted, List.map_cons, timesRead]
          refine ⟨rfl, ?_⟩
          rcases later with _ | ⟨next, later⟩
          · cases rest
          intro last found
          rw [List.map_cons, List.getLast?_cons_cons] at found
          have bound := bounded last found
          rw [List.length_cons, Nat.succ_mul]
          omega

theorem staysRead_iff_ranks :
    live.StaysRead ↔ ∀ leg ∈ live.present, live.requested leg = true →
      Paging.StaysRead live.chunk 0
        (live.queried.map fun legs => live.newerLegs legs leg) := by
  simp only [staysRead_iff, List.getElem?_map, Option.map_eq_some_iff, Nat.zero_add]
  constructor
  · rintro kept leg present asked k _ _ ⟨legs, at_, rfl⟩ ⟨next, following, rfl⟩
    exact kept k legs next at_ following leg present asked
  · intro kept k legs next at_ following leg present asked
    exact kept leg present asked k _ _ ⟨legs, at_, rfl⟩ ⟨next, following, rfl⟩

/-- In a finished export every requested leg of the start is written once exactly when chunks are
not empty and no such leg is pushed out of what has been read. -/
theorem exported_once_iff (live : LiveExport) {rows : List LegRecord}
    (finished : live.exported = some rows) :
    (∀ leg ∈ live.present, live.requested leg = true → rows.count leg = 1) ↔
      ((∃ leg ∈ live.present, live.requested leg = true) → 0 < live.chunk) ∧ live.StaysRead := by
  by_cases positive : 0 < live.chunk
  · rw [staysRead_iff_ranks, and_iff_right fun _ => positive]
    refine forall₃_congr fun leg present asked => ?_
    obtain ⟨extends', chain⟩ := List.pairwise_cons.1 live.grows
    obtain ⟨counted, bounded⟩ := count_chunkLoop positive asked
      (fun legs queried => ⟨live.keyed legs queried, (extends' legs queried).subset present⟩)
      finished
    have ranked : (live.queried.map fun legs => live.newerLegs legs leg).Pairwise (· ≤ ·) :=
      List.pairwise_map.2 (chain.imp fun grows => rank_le_of_sublist (grows.filter _) leg)
    rw [counted]
    rcases tables : live.queried with _ | ⟨first, later⟩
    · rw [LiveExport.exported, tables] at finished
      cases finished
    · rw [tables, List.map_cons] at ranked
      rw [tables, List.map_cons, List.length_cons] at bounded
      have read := (timesRead_staysRead 0 ranked (by simpa using bounded)).1 (Nat.zero_le _)
      rw [List.map_cons]
      exact read.2
  · have empty : live.chunk = 0 := by omega
    have none : rows = [] := by
      rw [LiveExport.exported] at finished
      rcases tables : live.queried with _ | ⟨first, later⟩ <;> rw [tables] at finished
      · cases finished
      · simp only [Worker.chunkLoop, Worker.legsQuery, page, empty, List.take_zero,
          List.length_nil, if_true] at finished
        split at finished
        · exact (Option.some.inj finished).symm
        · cases finished
    constructor
    · intro once
      have nobody : ¬ ∃ leg ∈ live.present, live.requested leg = true := by
        rintro ⟨leg, present, asked⟩
        have counted := once leg present asked
        rw [none] at counted
        cases counted
      refine ⟨fun somebody => absurd somebody nobody, ?_⟩
      intro k legs next _ _ leg present asked
      exact absurd ⟨leg, present, asked⟩ nobody
    · rintro ⟨filled, _⟩ leg present asked
      exact absurd (filled ⟨leg, present, asked⟩) positive

end

def presentLegs : List LegRecord := [exportLeg 1 0 none, exportLeg 2 30 none]

def writtenLeg : LegRecord := exportLeg 3 60 none

def busyExport : LiveExport where
  pg := plainDates
  claims := openClaims
  screen := exportFilter "any"
  chunk := 1
  present := presentLegs
  queried := presentLegs :: List.replicate 3 (presentLegs ++ [writtenLeg])
  keyed := by decide
  grows := by decide

def quietExport : LiveExport where
  pg := plainDates
  claims := openClaims
  screen := exportFilter "any"
  chunk := 1
  present := presentLegs
  queried := List.replicate 3 presentLegs
  keyed := by decide
  grows := by decide

/-- The leg of the first chunk is on the second one again. -/
theorem leg_exported_twice :
    busyExport.screen.toTs = none ∧
    busyExport.exported = some [exportLeg 2 30 none, exportLeg 2 30 none, exportLeg 1 0 none] ∧
    exportLeg 2 30 none ∈ busyExport.present ∧ busyExport.requested (exportLeg 2 30 none) = true ∧
    [exportLeg 2 30 none, exportLeg 2 30 none, exportLeg 1 0 none].count (exportLeg 2 30 none) =
      2 := by
  decide +kernel

theorem quiet_export_once :
    quietExport.exported = some [exportLeg 2 30 none, exportLeg 1 0 none] ∧
    (((∃ leg ∈ quietExport.present, quietExport.requested leg = true) → 0 < quietExport.chunk) ∧
      quietExport.StaysRead) := by
  have finished : quietExport.exported = some [exportLeg 2 30 none, exportLeg 1 0 none] := by
    decide +kernel
  exact ⟨finished, (exported_once_iff quietExport finished).1 (by decide +kernel)⟩

end UssdGateway
