import Mathlib.Data.List.Basic

/-!
`LIMIT … OFFSET …`: the pages of a list, that together they hold all of it, and what a limit
leaves out of an ordered list.
-/

namespace Paging

variable {α : Type}

def page (limit offset : Nat) (rows : List α) : List α := (rows.drop offset).take limit

theorem mem_of_mem_page {limit offset : Nat} {rows : List α} {row : α}
    (member : row ∈ page limit offset rows) : row ∈ rows :=
  List.mem_of_mem_drop (List.mem_of_mem_take member)

/-- Pages read one after the other make a prefix of the list. -/
theorem take_append_page (limit offset : Nat) (rows : List α) :
    rows.take offset ++ page limit offset rows = rows.take (offset + limit) :=
  (List.take_add).symm

theorem flatMap_page (limit count : Nat) (rows : List α) :
    ((List.range count).flatMap fun number => page limit (number * limit) rows) =
      rows.take (count * limit) := by
  induction count with
  | zero => simp
  | succ count ih =>
      rw [List.range_succ, List.flatMap_append, ih, List.flatMap_singleton, take_append_page,
        Nat.succ_mul]

theorem take_eq_self_of_page {limit offset : Nat} {rows : List α}
    (short : (page limit offset rows).length < limit) : rows.take (offset + limit) = rows := by
  rw [page, List.length_take, List.length_drop] at short
  exact List.take_of_length_le (by omega)

theorem mem_pages_iff {limit : Nat} (positive : 0 < limit) (rows : List α) (row : α) :
    (∃ number, row ∈ page limit (number * limit) rows) ↔ row ∈ rows := by
  constructor
  · rintro ⟨number, member⟩
    exact mem_of_mem_page member
  · intro member
    obtain ⟨index, bound, rfl⟩ := List.mem_iff_getElem.1 member
    have split : index = index / limit * limit + index % limit := by
      rw [Nat.mul_comm]
      exact (Nat.div_add_mod index limit).symm
    have below : index % limit < limit := Nat.mod_lt _ positive
    refine ⟨index / limit, ?_⟩
    rw [page, List.mem_iff_getElem]
    refine ⟨index % limit, ?_, ?_⟩
    · rw [List.length_take, List.length_drop]
      omega
    · rw [List.getElem_take, List.getElem_drop]
      congr 1
      exact split.symm

theorem take_precedes {before : α → α → Prop} {limit : Nat} {rows : List α} {row : α}
    (sorted : rows.Pairwise before) (member : row ∈ rows) (untaken : row ∉ rows.take limit) :
    (rows.take limit).length = limit ∧ ∀ other ∈ rows.take limit, before other row := by
  rw [← List.take_append_drop limit rows, List.mem_append] at member
  rw [← List.take_append_drop limit rows, List.pairwise_append] at sorted
  have dropped := member.resolve_left untaken
  refine ⟨?_, fun other taken => sorted.2.2 other taken row dropped⟩
  have longer : limit < rows.length := by
    have nonempty := List.length_pos_of_mem dropped
    rw [List.length_drop] at nonempty
    omega
  rw [List.length_take]
  omega

end Paging
