import UssdGateway.Gateway.Text
import UssdGateway.Library.KeyedTable
import Mathlib.Data.List.Perm.Basic

/-!
`ussd_session_logs` and its archive as the catalogue has them: the partitions with their bounds,
rows and indexes, and the statements that move a partition from one to the other.
-/

namespace UssdGateway

/-- `pg_get_expr` of a partition's bound, its ends as instants in microseconds. A range without a
lower end is from `MINVALUE`. -/
inductive PartitionBound where
  | range (lower : Option Int) (upper : Int)
  | other (text : Str)
deriving DecidableEq

namespace PartitionBound

def upper : PartitionBound → Option Int
  | range _ upper => some upper
  | other _ => none

def overlaps : PartitionBound → PartitionBound → Bool
  | range lower upper, range lower' upper' => lower.all (· < upper') && lower'.all (· < upper)
  | _, _ => false

end PartitionBound

structure LegTable (ρ : Type) where
  name : Str
  rows : List ρ
  constraints : List Str
  indexes : List Str
deriving DecidableEq

structure Partition (ρ : Type) extends LegTable ρ where
  bound : PartitionBound
deriving DecidableEq

/-- The live table, its DEFAULT partition, the archive, and the tables that belong to neither, with
the names of all other relations. -/
structure Catalog (ρ : Type) where
  live : List (Partition ρ)
  defaultRows : List ρ
  archive : List (Partition ρ)
  detached : List (LegTable ρ)
  others : List Str
deriving DecidableEq

inductive SqlError where
  | lockNotAvailable
  /-- The one error that `WHEN OTHERS` does not catch. -/
  | queryCanceled
  | other
deriving DecidableEq

variable {ρ : Type}

namespace Catalog

variable (catalog : Catalog ρ)

def tableNames : List Str :=
  catalog.live.map (·.name) ++ catalog.archive.map (·.name) ++ catalog.detached.map (·.name)

def indexNames : List Str :=
  catalog.live.flatMap (·.indexes) ++ catalog.archive.flatMap (·.indexes) ++
    catalog.detached.flatMap (·.indexes)

def relationNames : List Str := catalog.tableNames ++ catalog.indexNames ++ catalog.others

def rows : List ρ :=
  catalog.live.flatMap (·.rows) ++ catalog.defaultRows ++ catalog.archive.flatMap (·.rows) ++
    catalog.detached.flatMap (·.rows)

/-! Statements. -/

def detachPartition (name : Str) : Except SqlError (Catalog ρ) :=
  match catalog.live.find? (·.name = name) with
  | none => .error .other
  | some part =>
      .ok { catalog with
        live := catalog.live.filter (·.name ≠ name)
        detached := catalog.detached ++ [part.toLegTable] }

def renameTable (name newName : Str) : Except SqlError (Catalog ρ) :=
  if newName ∈ catalog.relationNames ∨ name ∉ catalog.detached.map (·.name) then .error .other
  else
    .ok { catalog with
      detached := catalog.detached.map fun table =>
        if table.name = name then { table with name := newName } else table }

/-- `ALTER TABLE ussd_session_logs_archive ATTACH PARTITION name bound`. -/
def attachToArchive (name : Str) (bound : PartitionBound) : Except SqlError (Catalog ρ) :=
  match catalog.detached.find? (·.name = name) with
  | none => .error .other
  | some table =>
      if catalog.archive.any fun part => part.bound.overlaps bound then .error .other
      else
        .ok { catalog with
          archive := catalog.archive ++ [{ table with bound }]
          detached := catalog.detached.filter (·.name ≠ name) }

def constraintsOf (name : Str) : List Str :=
  ((catalog.archive.find? (·.name = name)).map (·.constraints)).getD []

def indexesOf (name : Str) : List Str :=
  ((catalog.archive.find? (·.name = name)).map (·.indexes)).getD []

def onArchived (name : Str) (change : Partition ρ → Partition ρ) : Catalog ρ :=
  { catalog with
    archive := catalog.archive.map fun part => if part.name = name then change part else part }

def dropConstraint (name constraint : Str) : Catalog ρ :=
  catalog.onArchived name fun part =>
    { part with
      constraints := part.constraints.filter (· ≠ constraint)
      indexes := part.indexes.filter (· ≠ constraint) }

def dropIndex (name index : Str) : Catalog ρ :=
  catalog.onArchived name fun part => { part with indexes := part.indexes.filter (· ≠ index) }

end Catalog

def Partition.archivedAs (part : Partition ρ) (newName : Str) : Partition ρ :=
  { part with name := newName, constraints := [], indexes := [] }

def Catalog.archived (catalog : Catalog ρ) (part : Partition ρ) (newName : Str) : Catalog ρ :=
  { catalog with
    live := catalog.live.filter (·.name ≠ part.name)
    archive := catalog.archive ++ [part.archivedAs newName] }

/-- Between statements: no table has the name of another, and none is left detached. -/
structure Catalog.Settled (catalog : Catalog ρ) : Prop where
  named : catalog.tableNames.Nodup
  attached : catalog.detached = []

theorem find?_of_nodup {α : Type} {key : α → Str} {items : List α} {item : α}
    (distinct : (items.map key).Nodup) (member : item ∈ items) :
    items.find? (fun other => key other = key item) = some item :=
  (KeyedTable.find_eq_some_iff ⟨items, distinct⟩ (key item) item).2 ⟨member, rfl⟩

theorem filter_ne_of_nodup {α : Type} {key : α → Str} {items : List α} {item : α}
    (distinct : (items.map key).Nodup) (member : item ∈ items) :
    items.Perm (item :: items.filter fun other => key other ≠ key item) := by
  have parts := List.filter_append_perm (fun other => decide (key other = key item)) items
  rw [KeyedTable.filter_key_eq ⟨items, distinct⟩ member] at parts
  simpa using parts.symm

namespace Catalog

variable {catalog : Catalog ρ} {part : Partition ρ} {newName : Str}

theorem Settled.tables (settled : catalog.Settled) :
    (catalog.live.map (·.name) ++ catalog.archive.map (·.name)).Nodup := by
  have named := settled.named
  rwa [tableNames, settled.attached, List.map_nil, List.append_nil] at named

theorem Settled.archived (settled : catalog.Settled)
    (free : newName ∉ catalog.relationNames) : (catalog.archived part newName).Settled where
  named := by
    have tables := settled.tables
    have taken : newName ∉ catalog.live.map (·.name) ++ catalog.archive.map (·.name) := by
      simp only [relationNames, tableNames, List.mem_append, not_or] at free ⊢
      exact free.1.1.1
    have fewer : ((catalog.live.filter (·.name ≠ part.name)).map (·.name) ++
        catalog.archive.map (·.name)).Sublist
          (catalog.live.map (·.name) ++ catalog.archive.map (·.name)) :=
      (List.filter_sublist.map _).append_right _
    have still := tables.sublist fewer
    rw [tableNames, Catalog.archived, settled.attached, List.map_nil, List.append_nil,
      List.map_append, ← List.append_assoc]
    refine List.nodup_append.2 ⟨still, List.nodup_singleton _, ?_⟩
    intro name member other new same
    rw [List.map_singleton, List.mem_singleton] at new
    subst same new
    exact taken (fewer.subset member)
  attached := settled.attached

theorem Settled.archived_rows (settled : catalog.Settled) (member : part ∈ catalog.live) :
    (catalog.archived part newName).rows.Perm catalog.rows := by
  have split : (catalog.live.flatMap (·.rows)).Perm
      (part.rows ++ (catalog.live.filter (·.name ≠ part.name)).flatMap (·.rows)) := by
    have taken := filter_ne_of_nodup (List.nodup_append.1 settled.tables).1 member
    simpa using taken.flatMap_right (·.rows)
  have moved : ∀ rest middle old : List ρ, (rest ++ middle ++ (old ++ part.rows)).Perm
      (part.rows ++ rest ++ middle ++ old) := by
    intro rest middle old
    rw [← List.append_assoc, List.append_assoc part.rows, List.append_assoc part.rows]
    exact List.perm_append_comm
  simp only [rows, Catalog.archived, settled.attached, List.flatMap_append, List.flatMap_cons,
    List.flatMap_nil, List.append_nil, Partition.archivedAs]
  exact (moved _ _ _).trans ((split.symm.append_right _).append_right _)

end Catalog

end UssdGateway
