import Mathlib.Data.List.Nodup
import Mathlib.Data.List.Perm.Lattice

/-!
A table that keeps a view, of which a refresh rebuilds the rows of one window: they are deleted and
read from the view again.
-/

namespace WindowRefresh

variable {ρ : Type}

def refresh (inside : ρ → Bool) (view table : List ρ) : List ρ :=
  (table.filter fun row => !inside row) ++ view.filter inside

variable {inside : ρ → Bool} {view table : List ρ}

theorem filter_outside_refresh (inside : ρ → Bool) (view table : List ρ) :
    ((refresh inside view table).filter fun row => !inside row) =
      table.filter fun row => !inside row := by
  simp [refresh, List.filter_append, List.filter_filter]

theorem filter_inside_refresh (inside : ρ → Bool) (view table : List ρ) :
    (refresh inside view table).filter inside = view.filter inside := by
  simp [refresh, List.filter_append, List.filter_filter]

theorem refresh_refresh (inside : ρ → Bool) (view table : List ρ) :
    refresh inside view (refresh inside view table) = refresh inside view table := by
  rw [refresh, filter_outside_refresh, ← refresh]

theorem refresh_perm {table' : List ρ} (reordered : table.Perm table') (inside : ρ → Bool)
    (view : List ρ) : (refresh inside view table).Perm (refresh inside view table') :=
  (reordered.filter _).append_right _

theorem derive_refresh {σ : Type} (derive : List ρ → List σ) (within : σ → Bool)
    {inside : ρ → Bool}
    (apart : ∀ rows, derive (rows.filter inside) = (derive rows).filter within)
    (others : ∀ rows, derive (rows.filter fun row => !inside row) =
      (derive rows).filter fun row => !within row)
    (view table : List ρ) :
    (derive (refresh inside view table)).Perm (refresh within (derive view) (derive table)) := by
  have inner : (derive (refresh inside view table)).filter within =
      (derive view).filter within := by
    rw [← apart, filter_inside_refresh, apart]
  have outer : ((derive (refresh inside view table)).filter fun row => !within row) =
      (derive table).filter fun row => !within row := by
    rw [← others, filter_outside_refresh, others]
  have rebuilt : refresh within (derive view) (derive table) =
      ((derive (refresh inside view table)).filter fun row => !within row) ++
        (derive (refresh inside view table)).filter within := by
    rw [inner, outer]
    rfl
  rw [rebuilt]
  exact ((List.filter_append_perm within _).symm).trans List.perm_append_comm

theorem refresh_cover {first second whole : ρ → Bool}
    (covers : ∀ row, whole row = (first row || second row)) :
    (refresh second view (refresh first view table)).Perm (refresh whole view table) := by
  have kept : (table.filter fun row => !second row && !first row) =
      table.filter fun row => !whole row := by
    refine List.filter_congr fun row _ => ?_
    rw [covers, Bool.not_or, Bool.and_comm]
  have rebuilt : ((view.filter fun row => !second row && first row) ++ view.filter second).Perm
      (view.filter whole) := by
    have split := List.filter_append_perm second (view.filter whole)
    have inner : (view.filter whole).filter second = view.filter second := by
      rw [List.filter_filter]
      refine List.filter_congr fun row _ => ?_
      rw [covers]
      cases second row <;> cases first row <;> rfl
    have outer : ((view.filter whole).filter fun row => !second row) =
        view.filter fun row => !second row && first row := by
      rw [List.filter_filter]
      refine List.filter_congr fun row _ => ?_
      rw [covers]
      cases second row <;> cases first row <;> rfl
    rw [inner, outer] at split
    exact List.perm_append_comm.trans split
  rw [refresh, refresh, List.filter_append, List.filter_filter, List.filter_filter, kept,
    List.append_assoc]
  exact rebuilt.append_left _

end WindowRefresh
