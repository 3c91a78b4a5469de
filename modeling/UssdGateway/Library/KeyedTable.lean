import Mathlib.Data.List.Nodup

/-!
Tables with a primary key. The rows keep their order, and no two rows share a key.
-/

/-- A table whose rows are told apart by a key. -/
structure KeyedTable (κ ρ : Type) (key : ρ → κ) where
  rows : List ρ
  unique : (rows.map key).Nodup

namespace KeyedTable

variable {κ ρ : Type} {key : ρ → κ}

def empty : KeyedTable κ ρ key := ⟨[], List.nodup_nil⟩

theorem eq_of_key (table : KeyedTable κ ρ key) {first second : ρ}
    (firstMember : first ∈ table.rows) (secondMember : second ∈ table.rows)
    (same : key first = key second) : first = second :=
  List.inj_on_of_nodup_map table.unique firstMember secondMember same

variable [DecidableEq κ]

def find (table : KeyedTable κ ρ key) (wanted : κ) : Option ρ :=
  table.rows.find? fun row => key row = wanted

theorem find_eq_some_iff (table : KeyedTable κ ρ key) (wanted : κ) (row : ρ) :
    table.find wanted = some row ↔ row ∈ table.rows ∧ key row = wanted := by
  constructor
  · intro found
    exact ⟨List.mem_of_find?_eq_some found, by simpa using List.find?_some found⟩
  · rintro ⟨member, keyed⟩
    rcases found : table.find wanted with _ | other
    · rw [find, List.find?_eq_none] at found
      exact absurd (by simpa using keyed) (found row member)
    · have otherMember := List.mem_of_find?_eq_some found
      have otherKeyed : key other = wanted := by simpa using List.find?_some found
      rw [table.eq_of_key member otherMember (keyed.trans otherKeyed.symm)]

theorem find_eq_none_iff (table : KeyedTable κ ρ key) (wanted : κ) :
    table.find wanted = none ↔ ∀ row ∈ table.rows, key row ≠ wanted := by
  simp [find, List.find?_eq_none]

theorem filter_key_eq (table : KeyedTable κ ρ key) {row : ρ} (member : row ∈ table.rows) :
    table.rows.filter (fun other => key other = key row) = [row] := by
  have nodup : (table.rows.filter fun other => key other = key row).Nodup :=
    (List.Nodup.of_map _ table.unique).filter _
  apply List.perm_singleton.1
  rw [List.perm_ext_iff_of_nodup nodup (List.nodup_singleton _)]
  intro other
  simp only [List.mem_filter, decide_eq_true_eq, List.mem_singleton]
  constructor
  · rintro ⟨inside, same⟩
    exact table.eq_of_key inside member same
  · rintro rfl
    exact ⟨member, rfl⟩

theorem countP_key (table : KeyedTable κ ρ key) {row : ρ} (member : row ∈ table.rows)
    (p : ρ → Bool) :
    table.rows.countP p =
      [row].countP p + (table.rows.filter fun other => !decide (key other = key row)).countP p := by
  rw [List.countP_eq_countP_filter_add table.rows p fun other => decide (key other = key row),
    table.filter_key_eq member]

theorem key_of_find {table : KeyedTable κ ρ key} {wanted : κ} {row : ρ}
    (found : table.find wanted = some row) : key row = wanted :=
  ((table.find_eq_some_iff wanted row).1 found).2

def filter (table : KeyedTable κ ρ key) (keep : ρ → Bool) : KeyedTable κ ρ key where
  rows := table.rows.filter keep
  unique := table.unique.sublist (List.filter_sublist.map key)

theorem find_filter (table : KeyedTable κ ρ key) (keep : ρ → Bool) (wanted : κ) :
    (table.filter keep).find wanted = (table.find wanted).filter keep := by
  apply Option.ext
  intro row
  simp only [find_eq_some_iff, filter, List.mem_filter, Option.filter_eq_some_iff]
  tauto

omit [DecidableEq κ] in
theorem filter_eq_self {table : KeyedTable κ ρ key} {keep : ρ → Bool}
    (all : ∀ row ∈ table.rows, keep row = true) : table.filter keep = table := by
  obtain ⟨rows, unique⟩ := table
  simp only [filter, KeyedTable.mk.injEq]
  exact List.filter_eq_self.2 all

def erase (table : KeyedTable κ ρ key) (gone : κ) : KeyedTable κ ρ key :=
  table.filter fun row => key row ≠ gone

theorem find_erase (table : KeyedTable κ ρ key) (gone wanted : κ) :
    (table.erase gone).find wanted = if wanted = gone then none else table.find wanted := by
  rw [erase, find_filter]
  rcases found : table.find wanted with _ | row
  · simp
  · have keyed := key_of_find found
    by_cases same : wanted = gone
    · simp [Option.filter, keyed, same]
    · simp [Option.filter, keyed, same]

theorem find_erase_of_ne (table : KeyedTable κ ρ key) {gone wanted : κ} (apart : wanted ≠ gone) :
    (table.erase gone).find wanted = table.find wanted := by
  simp [find_erase, apart]

def mapRows (table : KeyedTable κ ρ key) (update : ρ → ρ)
    (keyed : ∀ row, key (update row) = key row) : KeyedTable κ ρ key where
  rows := table.rows.map update
  unique := by
    have same : (table.rows.map update).map key = table.rows.map key := by
      rw [List.map_map]
      exact List.map_congr_left fun row _ => keyed row
    rw [same]
    exact table.unique

theorem find_mapRows (table : KeyedTable κ ρ key) (update : ρ → ρ)
    (keyed : ∀ row, key (update row) = key row) (wanted : κ) :
    (table.mapRows update keyed).find wanted = (table.find wanted).map update := by
  apply Option.ext
  intro row
  simp only [find_eq_some_iff, mapRows, List.mem_map, Option.map_eq_some_iff]
  constructor
  · rintro ⟨⟨before, member, rfl⟩, named⟩
    exact ⟨before, ⟨member, (keyed before).symm.trans named⟩, rfl⟩
  · rintro ⟨before, ⟨member, named⟩, rfl⟩
    exact ⟨⟨before, member, rfl⟩, (keyed before).trans named⟩

/-! `UPDATE` and `INSERT … ON CONFLICT DO UPDATE`. The update keeps the key of the row it
changes. -/

theorem map_key_replace (rows : List ρ) (update : ρ → ρ) (wanted : κ)
    (keyed : ∀ row, key (update row) = key row) :
    (rows.map fun row => if key row = wanted then update row else row).map key =
      rows.map key := by
  rw [List.map_map]
  apply List.map_congr_left
  intro row _
  simp only [Function.comp]
  split
  · exact keyed row
  · rfl

def modify (table : KeyedTable κ ρ key) (wanted : κ) (update : ρ → ρ)
    (keyed : ∀ row, key (update row) = key row) : KeyedTable κ ρ key where
  rows := table.rows.map fun row => if key row = wanted then update row else row
  unique := by
    rw [map_key_replace table.rows update wanted keyed]
    exact table.unique

theorem mem_modify (table : KeyedTable κ ρ key) (wanted : κ) (update : ρ → ρ)
    (keyed : ∀ row, key (update row) = key row) (row : ρ) :
    row ∈ (table.modify wanted update keyed).rows ↔
      ∃ before ∈ table.rows, row = if key before = wanted then update before else before := by
  simp only [modify, List.mem_map]
  constructor
  · rintro ⟨before, member, rfl⟩
    exact ⟨before, member, rfl⟩
  · rintro ⟨before, member, rfl⟩
    exact ⟨before, member, rfl⟩

theorem nodup_map_modify {κ' : Type} {other : ρ → κ'} (table : KeyedTable κ ρ key) (wanted : κ)
    (update : ρ → ρ) (keyed : ∀ row, key (update row) = key row)
    (unique : (table.rows.map other).Nodup)
    (free : ∀ row ∈ table.rows, key row = wanted → ∀ rival ∈ table.rows, key rival ≠ wanted →
      other rival ≠ other (update row)) :
    ((table.modify wanted update keyed).rows.map other).Nodup := by
  rw [modify, List.map_map]
  refine List.Nodup.map_on ?_ (List.Nodup.of_map _ table.unique)
  intro first firstMember second secondMember same
  simp only [Function.comp] at same
  by_cases firstHit : key first = wanted <;> by_cases secondHit : key second = wanted
  · exact table.eq_of_key firstMember secondMember (firstHit.trans secondHit.symm)
  · rw [if_pos firstHit, if_neg secondHit] at same
    exact absurd same.symm (free first firstMember firstHit second secondMember secondHit)
  · rw [if_neg firstHit, if_pos secondHit] at same
    exact absurd same (free second secondMember secondHit first firstMember firstHit)
  · rw [if_neg firstHit, if_neg secondHit] at same
    exact List.inj_on_of_nodup_map unique firstMember secondMember same

theorem find_modify (table : KeyedTable κ ρ key) (changed wanted : κ) (update : ρ → ρ)
    (keyed : ∀ row, key (update row) = key row) :
    (table.modify changed update keyed).find wanted =
      if wanted = changed then (table.find wanted).map update else table.find wanted := by
  apply Option.ext
  intro row
  rw [find_eq_some_iff, mem_modify]
  by_cases same : wanted = changed
  · subst same
    rw [if_pos rfl, Option.map_eq_some_iff]
    constructor
    · rintro ⟨⟨before, member, rfl⟩, rowKey⟩
      have beforeKey : key before = wanted := by
        by_contra apart
        rw [if_neg apart] at rowKey
        exact apart rowKey
      exact ⟨before, (table.find_eq_some_iff _ _).2 ⟨member, beforeKey⟩, (if_pos beforeKey).symm⟩
    · rintro ⟨before, found, rfl⟩
      obtain ⟨member, beforeKey⟩ := (table.find_eq_some_iff _ _).1 found
      exact ⟨⟨before, member, (if_pos beforeKey).symm⟩, (keyed before).trans beforeKey⟩
  · rw [if_neg same, find_eq_some_iff]
    constructor
    · rintro ⟨⟨before, member, rfl⟩, rowKey⟩
      by_cases hit : key before = changed
      · rw [if_pos hit, keyed] at rowKey
        exact absurd (rowKey.symm.trans hit) same
      · rw [if_neg hit] at rowKey ⊢
        exact ⟨member, rowKey⟩
    · rintro ⟨member, rowKey⟩
      have miss : key row ≠ changed := fun hit => same (rowKey.symm.trans hit)
      exact ⟨⟨row, member, (if_neg miss).symm⟩, rowKey⟩

def upsert (table : KeyedTable κ ρ key) (fresh : ρ) (update : ρ → ρ)
    (keyed : ∀ row, key (update row) = key row) : KeyedTable κ ρ key where
  rows :=
    if (table.find (key fresh)).isSome then
      table.rows.map fun row => if key row = key fresh then update row else row
    else table.rows ++ [fresh]
  unique := by
    split
    next present =>
      rw [map_key_replace table.rows update (key fresh) keyed]
      exact table.unique
    next absent =>
      rw [Option.not_isSome_iff_eq_none, find_eq_none_iff] at absent
      simp only [List.map_append, List.map_cons, List.map_nil]
      refine table.unique.append (List.nodup_singleton _) ?_
      intro value member inFresh
      rw [List.mem_singleton] at inFresh
      obtain ⟨row, rowMember, rowKey⟩ := List.mem_map.1 member
      exact absent row rowMember (rowKey.trans inFresh)

variable (fresh : ρ) (update : ρ → ρ) (keyed : ∀ row, key (update row) = key row)

theorem mem_upsert (table : KeyedTable κ ρ key) (row : ρ) :
    row ∈ (table.upsert fresh update keyed).rows ↔
      (row ∈ table.rows ∧ key row ≠ key fresh) ∨
      (key row = key fresh ∧ row = ((table.find (key fresh)).map update).getD fresh) := by
  rcases found : table.find (key fresh) with _ | old
  · have absent := (table.find_eq_none_iff (key fresh)).1 found
    simp only [upsert, found, Option.isSome_none, Bool.false_eq_true, if_false, List.mem_append,
      List.mem_singleton, Option.map_none, Option.getD_none]
    constructor
    · rintro (member | same)
      · exact Or.inl ⟨member, absent row member⟩
      · exact Or.inr ⟨by rw [same], same⟩
    · rintro (⟨member, _⟩ | ⟨_, same⟩)
      · exact Or.inl member
      · exact Or.inr same
  · obtain ⟨oldMember, oldKey⟩ := (table.find_eq_some_iff (key fresh) old).1 found
    simp only [upsert, found, Option.isSome_some, if_true, List.mem_map, Option.map_some,
      Option.getD_some]
    constructor
    · rintro ⟨before, member, rfl⟩
      by_cases same : key before = key fresh
      · rw [if_pos same]
        have equal := table.eq_of_key member oldMember (same.trans oldKey.symm)
        exact Or.inr ⟨by rw [keyed, same], by rw [equal]⟩
      · rw [if_neg same]
        exact Or.inl ⟨member, same⟩
    · rintro (⟨member, apart⟩ | ⟨_, same⟩)
      · exact ⟨row, member, if_neg apart⟩
      · exact ⟨old, oldMember, by rw [if_pos oldKey, same]⟩

theorem mem_upsert_of_kept (table : KeyedTable κ ρ key) (kept : ∀ row : ρ, key row = key row)
    (row : ρ) :
    row ∈ (table.upsert fresh (fun old => old) kept).rows ↔
      row ∈ table.rows ∨ (table.find (key fresh) = none ∧ row = fresh) := by
  rw [mem_upsert]
  rcases found : table.find (key fresh) with _ | old
  · have absent := (table.find_eq_none_iff (key fresh)).1 found
    simp only [Option.map_none, Option.getD_none, true_and]
    constructor
    · rintro (⟨member, _⟩ | ⟨_, same⟩)
      · exact Or.inl member
      · exact Or.inr same
    · rintro (member | same)
      · exact Or.inl ⟨member, absent row member⟩
      · exact Or.inr ⟨by rw [same], same⟩
  · obtain ⟨oldMember, oldKey⟩ := (table.find_eq_some_iff (key fresh) old).1 found
    simp only [Option.map_some, Option.getD_some, reduceCtorEq, false_and, or_false]
    constructor
    · rintro (⟨member, _⟩ | ⟨_, same⟩)
      · exact member
      · exact same ▸ oldMember
    · intro member
      by_cases same : key row = key fresh
      · exact Or.inr ⟨same, table.eq_of_key member oldMember (same.trans oldKey.symm)⟩
      · exact Or.inl ⟨member, same⟩

theorem find_upsert_self (table : KeyedTable κ ρ key) :
    (table.upsert fresh update keyed).find (key fresh) =
      some (((table.find (key fresh)).map update).getD fresh) := by
  rw [find_eq_some_iff, mem_upsert]
  have sameKey : key (((table.find (key fresh)).map update).getD fresh) = key fresh := by
    rcases found : table.find (key fresh) with _ | old
    · rfl
    · simpa [keyed] using key_of_find found
  exact ⟨Or.inr ⟨sameKey, rfl⟩, sameKey⟩

theorem find_upsert_of_ne (table : KeyedTable κ ρ key) {wanted : κ} (apart : wanted ≠ key fresh) :
    (table.upsert fresh update keyed).find wanted = table.find wanted := by
  apply Option.ext
  intro row
  simp only [find_eq_some_iff, mem_upsert]
  constructor
  · rintro ⟨⟨member, _⟩ | ⟨same, _⟩, rfl⟩
    · exact ⟨member, rfl⟩
    · exact absurd same apart
  · rintro ⟨member, rfl⟩
    exact ⟨Or.inl ⟨member, apart⟩, rfl⟩

end KeyedTable
