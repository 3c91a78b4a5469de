import UssdGateway.Library.Paging
import Mathlib.Data.List.Nodup

/-!
Pages of a list that grows while they are read. A row is read where its rank falls on the page; a
row inserted before it pushes it on, perhaps onto the next page.
-/

namespace Paging

variable {α : Type}

def rank (before : α → α → Bool) (rows : List α) (row : α) : Nat :=
  rows.countP fun other => before other row

section

variable {before : α → α → Bool} {rows : List α}

theorem rank_le_of_sublist {longer : List α} (grows : rows.Sublist longer) (row : α) :
    rank before rows row ≤ rank before longer row :=
  grows.countP_le

theorem rank_perm {rows' : List α} (reordered : rows.Perm rows') (row : α) :
    rank before rows row = rank before rows' row :=
  reordered.countP_eq _

theorem rank_lt_length (irreflexive : ∀ row, before row row = false) {row : α}
    (member : row ∈ rows) : rank before rows row < rows.length := by
  have itself : ¬ before row row = true := by
    rw [irreflexive]
    decide
  rw [rank, List.countP_eq_length_filter]
  exact List.length_filter_lt_length_iff_exists.2 ⟨row, member, itself⟩

theorem rank_getElem (asymmetric : ∀ first second, before first second = true →
      before second first = false)
    (sorted : rows.Pairwise fun first second => before first second = true) {index : Nat}
    (bound : index < rows.length) : rank before rows rows[index] = index := by
  have irreflexive : before rows[index] rows[index] = false := by
    rcases reflexive : before rows[index] rows[index] with _ | _
    · rfl
    · exact absurd reflexive (by rw [asymmetric _ _ reflexive]; decide)
  have split : rows = rows.take index ++ rows[index] :: rows.drop (index + 1) := by
    rw [List.getElem_cons_drop, List.take_append_drop]
  have ordered := sorted
  rw [split, List.pairwise_append, List.pairwise_cons] at ordered
  obtain ⟨_, ⟨after, _⟩, across⟩ := ordered
  have earlier : (rows.take index).countP (fun other => before other rows[index]) = index := by
    rw [List.countP_eq_length.2 fun other member => across other member _ List.mem_cons_self,
      List.length_take]
    omega
  have later : (rows.drop (index + 1)).countP (fun other => before other rows[index]) = 0 :=
    List.countP_eq_zero.2 fun other member => by simp [asymmetric _ _ (after other member)]
  have parts := congrArg (List.countP fun other => before other rows[index]) split
  rw [List.countP_append, List.countP_cons, earlier, later, irreflexive] at parts
  exact parts

theorem count_page [DecidableEq α] (asymmetric : ∀ first second, before first second = true →
      before second first = false)
    (sorted : rows.Pairwise fun first second => before first second = true) {row : α}
    (member : row ∈ rows) (limit offset : Nat) :
    (page limit offset rows).count row =
      if offset ≤ rank before rows row ∧ rank before rows row < offset + limit then 1 else 0 := by
  obtain ⟨index, bound, rfl⟩ := List.mem_iff_getElem.1 member
  rw [rank_getElem asymmetric sorted bound]
  have distinct : rows.Nodup := sorted.imp fun first same => by
    rw [same] at first
    exact absurd first (by rw [asymmetric _ _ first]; decide)
  have single : (page limit offset rows).Nodup :=
    distinct.sublist ((List.take_sublist _ _).trans (List.drop_sublist _ _))
  split
  next inside =>
    refine List.count_eq_one_of_mem single ?_
    rw [page, List.mem_iff_getElem]
    refine ⟨index - offset, by rw [List.length_take, List.length_drop]; omega, ?_⟩
    rw [List.getElem_take, List.getElem_drop]
    congr 1
    omega
  next outside =>
    refine List.count_eq_zero.2 fun found => outside ?_
    rw [page, List.mem_iff_getElem] at found
    obtain ⟨position, within, same⟩ := found
    rw [List.length_take, List.length_drop] at within
    rw [List.getElem_take, List.getElem_drop] at same
    have placed := (List.Nodup.getElem_inj_iff distinct).1 same
    omega

end

def timesRead (limit : Nat) : Nat → List Nat → Nat
  | _, [] => 0
  | offset, rank :: later =>
      (if offset ≤ rank ∧ rank < offset + limit then 1 else 0) +
        timesRead limit (offset + limit) later

def StaysRead (limit : Nat) : Nat → List Nat → Prop
  | offset, rank :: next :: later =>
      (rank < offset + limit → next < offset + limit) ∧
        StaysRead limit (offset + limit) (next :: later)
  | _, _ => True

theorem staysRead_iff (limit offset : Nat) (ranks : List Nat) :
    StaysRead limit offset ranks ↔ ∀ k rank next, ranks[k]? = some rank →
      ranks[k + 1]? = some next → rank < offset + (k + 1) * limit →
        next < offset + (k + 1) * limit := by
  induction ranks generalizing offset with
  | nil => simp [StaysRead]
  | cons first rest ih =>
      rcases rest with _ | ⟨second, later⟩
      · simp [StaysRead]
      rw [StaysRead, ih (offset + limit)]
      constructor
      · rintro ⟨here, after⟩ (_ | k) rank next at_ following
        · cases at_
          cases following
          simpa using here
        · have there := after k rank next at_ following
          have same : offset + limit + (k + 1) * limit = offset + (k + 1 + 1) * limit := by
            rw [Nat.succ_mul (k + 1)]
            omega
          rwa [same] at there
      · intro all
        refine ⟨by simpa using all 0 first second rfl rfl, ?_⟩
        intro k rank next at_ following
        have there := all (k + 1) rank next at_ following
        have same : offset + limit + (k + 1) * limit = offset + (k + 1 + 1) * limit := by
          rw [Nat.succ_mul (k + 1)]
          omega
        rwa [← same] at there

/-- A row that only moves back and is on the pages read in the end: not read yet it will be, and
once exactly if it stays among the rows read; read before it will not be again exactly then. -/
theorem timesRead_staysRead {limit : Nat} {first : Nat} {later : List Nat} (offset : Nat)
    (grows : (first :: later).Pairwise (· ≤ ·))
    (ends : ∀ last ∈ (first :: later).getLast?, last < offset + (later.length + 1) * limit) :
    (offset ≤ first → 1 ≤ timesRead limit offset (first :: later) ∧
      (timesRead limit offset (first :: later) = 1 ↔ StaysRead limit offset (first :: later))) ∧
    (first < offset →
      (timesRead limit offset (first :: later) = 0 ↔ StaysRead limit offset (first :: later))) := by
  induction later generalizing first offset with
  | nil =>
      have inside : first < offset + limit := by simpa using ends first rfl
      constructor
      · intro unread
        simp [timesRead, StaysRead, unread, inside]
      · intro read
        have outside : ¬ offset ≤ first := by omega
        simp [timesRead, StaysRead, outside]
  | cons next rest ih =>
      obtain ⟨lower, grows⟩ := List.pairwise_cons.1 grows
      have moves : first ≤ next := lower next List.mem_cons_self
      have tail := ih (offset + limit) grows fun last found => by
        have bound := ends last (by rwa [List.getLast?_cons_cons])
        rw [List.length_cons, Nat.succ_mul] at bound
        omega
      rw [timesRead, StaysRead]
      by_cases reached : first < offset + limit
      · by_cases stays : next < offset + limit
        · have again := tail.2 stays
          constructor
          · intro unread
            rw [if_pos ⟨unread, reached⟩, ← again]
            refine ⟨by omega, ⟨fun once => ⟨fun _ => stays, by omega⟩, fun kept => ?_⟩⟩
            rw [kept.2]
          · intro read
            rw [if_neg (by omega), ← again]
            exact ⟨fun none => ⟨fun _ => stays, by omega⟩, fun kept => by omega⟩
        · have again := (tail.1 (by omega)).1
          constructor
          · intro unread
            rw [if_pos ⟨unread, reached⟩]
            exact ⟨by omega, fun once => by omega, fun kept => absurd (kept.1 reached) stays⟩
          · intro read
            exact ⟨fun none => by omega, fun kept => absurd (kept.1 reached) stays⟩
      · have rest := tail.1 (by omega)
        constructor
        · intro unread
          rw [if_neg (by omega), Nat.zero_add, ← rest.2]
          exact ⟨rest.1, fun once => ⟨fun soon => absurd soon reached, once⟩, fun kept => kept.2⟩
        · intro read
          omega

end Paging
