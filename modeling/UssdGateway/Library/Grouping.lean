import Mathlib.Algebra.BigOperators.Group.List.Lemmas
import Mathlib.Algebra.GroupWithZero.Nat
import Mathlib.Data.List.Dedup

/-!
`GROUP BY`: the rows of a table by their key, one group for each key that occurs.
-/

namespace Grouping

variable {ρ κ : Type} [DecidableEq κ]

def groupBy (key : ρ → κ) (rows : List ρ) : List (κ × List ρ) :=
  (rows.map key).dedup.map fun wanted => (wanted, rows.filter fun row => key row = wanted)

variable {key : ρ → κ} {rows : List ρ}

theorem mem_groupBy {group : κ × List ρ} :
    group ∈ groupBy key rows ↔
      (∃ row ∈ rows, key row = group.1) ∧ group.2 = rows.filter fun row => key row = group.1 := by
  obtain ⟨wanted, members⟩ := group
  simp only [groupBy, List.mem_map, List.mem_dedup, Prod.mk.injEq]
  constructor
  · rintro ⟨_, occurs, rfl, rfl⟩
    exact ⟨occurs, rfl⟩
  · rintro ⟨occurs, whole⟩
    exact ⟨wanted, occurs, rfl, whole.symm⟩

theorem exists_groupBy {row : ρ} (member : row ∈ rows) :
    ∃ group ∈ groupBy key rows, group.1 = key row :=
  ⟨(key row, rows.filter fun other => key other = key row),
    mem_groupBy.2 ⟨⟨row, member, rfl⟩, rfl⟩, rfl⟩

theorem groupBy_congr {key' : ρ → κ} (same : ∀ row ∈ rows, key row = key' row) :
    groupBy key rows = groupBy key' rows := by
  rw [groupBy, groupBy, List.map_congr_left same]
  refine List.map_congr_left fun wanted _ => ?_
  refine congrArg _ (List.filter_congr fun row member => ?_)
  rw [same row member]

theorem groupBy_singleton (key : ρ → κ) (row : ρ) : groupBy key [row] = [(key row, [row])] := by
  simp [groupBy]

theorem map_fst_groupBy : (groupBy key rows).map Prod.fst = (rows.map key).dedup := by
  simp [groupBy, Function.comp_def]

theorem groupBy_keys_nodup : ((groupBy key rows).map Prod.fst).Nodup := by
  rw [map_fst_groupBy]
  exact List.nodup_dedup _

theorem dedup_filter (wanted : κ → Bool) (keys : List κ) :
    (keys.filter wanted).dedup = keys.dedup.filter wanted := by
  induction keys with
  | nil => rfl
  | cons first rest ih =>
      by_cases again : first ∈ rest
      · rw [List.dedup_cons_of_mem again, ← ih, List.filter_cons]
        split
        · next kept => exact List.dedup_cons_of_mem (List.mem_filter.2 ⟨again, kept⟩)
        · rfl
      · rw [List.dedup_cons_of_notMem again, List.filter_cons, List.filter_cons]
        split
        · rw [List.dedup_cons_of_notMem fun found => again (List.mem_filter.1 found).1, ih]
        · exact ih

theorem groupBy_filter (key : ρ → κ) (rows : List ρ) (wanted : κ → Bool) :
    groupBy key (rows.filter fun row => wanted (key row)) =
      (groupBy key rows).filter fun group => wanted group.1 := by
  have keys : (rows.filter fun row => wanted (key row)).map key = (rows.map key).filter wanted := by
    rw [List.filter_map]
    rfl
  rw [groupBy, groupBy, keys, dedup_filter, List.filter_map]
  refine List.map_congr_left fun k member => ?_
  have permitted : wanted k = true := (List.mem_filter.1 member).2
  rw [List.filter_filter]
  refine congrArg _ (List.filter_congr fun row _ => ?_)
  by_cases same : key row = k
  · simp [same, permitted]
  · simp [same]

theorem groupBy_map_perm {β : Type} {rows' : List ρ} {result : κ × List ρ → β}
    (unordered : ∀ k members members', members.Perm members' →
      result (k, members) = result (k, members')) (reordered : rows.Perm rows') :
    ((groupBy key rows).map result).Perm ((groupBy key rows').map result) := by
  simp only [groupBy, List.map_map]
  have keys : (rows.map key).dedup.Perm (rows'.map key).dedup := (reordered.map key).dedup
  refine (keys.map _).trans (List.Perm.of_eq (List.map_congr_left fun k _ => ?_))
  exact unordered k _ _ (reordered.filter _)

theorem sum_groupBy {M : Type} [AddCommMonoid M] (key : ρ → κ) (rows : List ρ)
    (amount : ρ → M) :
    ((groupBy key rows).map fun group => (group.2.map amount).sum).sum =
      (rows.map amount).sum := by
  have shares : ∀ keys : List κ, keys.Nodup → (∀ row ∈ rows, key row ∈ keys) →
      (keys.map fun k => ((rows.filter fun row => key row = k).map amount).sum).sum =
        (rows.map amount).sum := by
    intro keys nodup
    induction rows with
    | nil => simp
    | cons row rest ih =>
        intro covered
        obtain ⟨own, others⟩ := List.forall_mem_cons.1 covered
        have split : ∀ k, (((row :: rest).filter fun row => key row = k).map amount).sum =
            (if key row = k then amount row else 0) +
              ((rest.filter fun row => key row = k).map amount).sum := by
          intro k
          by_cases same : key row = k
          · simp [same]
          · simp [same]
        have once : (keys.map fun k => if key row = k then amount row else 0).sum =
            amount row := by
          rw [List.sum_map_eq_nsmul_single (key row) _ fun k other _ => if_neg (Ne.symm other),
            List.count_eq_one_of_mem nodup own, if_pos rfl, one_nsmul]
        simp only [split]
        rw [List.sum_map_add, once, ih others, List.map_cons, List.sum_cons]
  rw [groupBy, List.map_map]
  exact shares _ (List.nodup_dedup _) fun row member =>
    List.mem_dedup.2 (List.mem_map_of_mem member)

theorem groupBy_sums_perm {σ M β : Type} [AddCommMonoid M] {rows' : List σ} {key' : σ → κ}
    {amount : ρ → M} {amount' : σ → M} (occurs : ∀ k, k ∈ rows.map key ↔ k ∈ rows'.map key')
    (sums : ∀ k, ((rows.filter fun row => key row = k).map amount).sum =
      ((rows'.filter fun row => key' row = k).map amount').sum) (result : κ → M → β) :
    ((groupBy key rows).map fun group => result group.1 (group.2.map amount).sum).Perm
      ((groupBy key' rows').map fun group => result group.1 (group.2.map amount').sum) := by
  have keys : (rows.map key).dedup.Perm (rows'.map key').dedup := by
    rw [List.perm_ext_iff_of_nodup (List.nodup_dedup _) (List.nodup_dedup _)]
    intro k
    rw [List.mem_dedup, List.mem_dedup, occurs]
  simp only [groupBy, List.map_map]
  refine (keys.map _).trans (List.Perm.of_eq (List.map_congr_left fun k _ => ?_))
  exact congrArg (result k) (sums k)

theorem perm_flatMap_key {keys : List κ} (nodup : keys.Nodup)
    (covered : ∀ row ∈ rows, key row ∈ keys) :
    rows.Perm (keys.flatMap fun k => rows.filter fun row => key row = k) := by
  induction keys generalizing rows with
  | nil => rw [List.eq_nil_iff_forall_not_mem.2 fun row member =>
      absurd (covered row member) List.not_mem_nil, List.flatMap_nil]
  | cons k rest ih =>
      obtain ⟨fresh, nodup⟩ := List.nodup_cons.1 nodup
      have rest_covered : ∀ row ∈ rows.filter fun row => !decide (key row = k), key row ∈ rest := by
        intro row member
        obtain ⟨inside, apart⟩ := List.mem_filter.1 member
        have apart : key row ≠ k := by simpa using apart
        exact (List.mem_cons.1 (covered row inside)).resolve_left apart
      have others := ih nodup rest_covered
      rw [List.flatMap_cons]
      refine (List.filter_append_perm (fun row => decide (key row = k)) rows).symm.trans ?_
      refine (others.trans (List.Perm.of_eq ?_)).append_left _
      refine List.flatMap_congr fun other member => ?_
      rw [List.filter_filter]
      refine List.filter_congr fun row _ => ?_
      by_cases same : key row = other
      · have apart : other ≠ k := fun same => fresh (same ▸ member)
        simp [same, apart]
      · simp [same]

/-- Nothing is lost or doubled: the sizes of some groups add up to their rows. -/
theorem sum_length_groupBy (key : ρ → κ) (rows : List ρ) (wanted : κ → Bool) :
    (((groupBy key rows).filter fun group => wanted group.1).map fun group =>
      group.2.length).sum = rows.countP fun row => wanted (key row) := by
  have ones : ∀ members : List ρ, members.length = (members.map fun _ => 1).sum := by simp
  calc (((groupBy key rows).filter fun group => wanted group.1).map fun group =>
          group.2.length).sum
      = ((groupBy key (rows.filter fun row => wanted (key row))).map fun group =>
          (group.2.map fun _ => 1).sum).sum := by simp only [groupBy_filter, ones]
    _ = (rows.filter fun row => wanted (key row)).length := by rw [sum_groupBy, ← ones]
    _ = rows.countP fun row => wanted (key row) := List.countP_eq_length_filter.symm

theorem groupBy_map_key {κ' : Type} [DecidableEq κ'] {rename : κ → κ'}
    (injective : Function.Injective rename) (key : ρ → κ) (rows : List ρ) :
    groupBy (fun row => rename (key row)) rows =
      (groupBy key rows).map fun group => (rename group.1, group.2) := by
  have keys : (rows.map fun row => rename (key row)).dedup = (rows.map key).dedup.map rename := by
    rw [← List.dedup_map_of_injective injective, List.map_map]
    rfl
  simp only [groupBy, keys, List.map_map, Function.comp_def, injective.eq_iff]

theorem length_eq_dedup_iff {names : List κ}
    (reaches : ∀ name, name ∈ rows.map key ↔ name ∈ names) :
    rows.length = names.dedup.length ↔ (rows.map key).Nodup := by
  have count : (rows.map key).dedup.length = names.dedup.length := by
    apply List.Perm.length_eq
    rw [List.perm_ext_iff_of_nodup (List.nodup_dedup _) (List.nodup_dedup _)]
    intro name
    rw [List.mem_dedup, List.mem_dedup, reaches]
  constructor
  · intro equal
    have whole : (rows.map key).dedup = rows.map key := by
      apply (List.dedup_sublist _).eq_of_length
      rw [count, ← equal, List.length_map]
    exact List.dedup_eq_self.1 whole
  · intro nodup
    rw [← count, nodup.dedup, List.length_map]

end Grouping
