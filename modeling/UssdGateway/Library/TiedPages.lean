import UssdGateway.Library.Paging
import Mathlib.Data.List.Perm.Basic
import Mathlib.Data.List.Sort
import Mathlib.Data.List.TakeWhile

/-!
Pages that are queries of their own. An order leaves equal rows to each run of a query, so that a
boundary between two of them may drop one and repeat another.
-/

namespace Paging

variable {α : Type} {before : α → α → Prop}

/-- One run of a query with an `ORDER BY`. -/
structure Sorting (before : α → α → Prop) where
  sort : List α → List α
  perm : ∀ rows, (sort rows).Perm rows
  sorted : ∀ rows, (sort rows).Pairwise before

/-- Page after page, each from a run of its own. -/
def runPages (sortings : Nat → Sorting before) (limit count : Nat) (rows : List α) : List α :=
  (List.range count).flatMap fun number =>
    page limit (number * limit) ((sortings number).sort rows)

theorem countP_runPages_replaced {one other : Sorting before} {limit place : Nat} {rows : List α}
    {keep : α → Bool}
    (fewer : (page limit (place * limit) (other.sort rows)).countP keep + 1 =
      (page limit (place * limit) (one.sort rows)).countP keep) :
    ∀ {count : Nat}, place < count →
      (runPages (fun number => if number = place then other else one) limit count
          rows).countP keep + 1 =
        (runPages (fun _ => one) limit count rows).countP keep := by
  have same : ∀ {count : Nat}, count ≤ place →
      runPages (fun number => if number = place then other else one) limit count rows =
        runPages (fun _ => one) limit count rows := by
    intro count within
    refine List.flatMap_congr fun number member => ?_
    have apart : number ≠ place := by
      have below := List.mem_range.1 member
      omega
    simp only [apart, if_false]
  intro count beyond
  induction count with
  | zero => omega
  | succ count ih =>
      rw [runPages, runPages, List.range_succ, List.flatMap_append, List.flatMap_append,
        List.flatMap_singleton, List.flatMap_singleton, List.countP_append, List.countP_append]
      change (runPages _ limit count rows).countP keep + _ + 1 =
        (runPages _ limit count rows).countP keep + _
      by_cases here : count = place
      · rw [same (by omega), if_pos here, here, ← fewer]
        omega
      · rw [if_neg here, ← ih (by omega)]
        omega

theorem before_self [Std.Total before] (row : α) : before row row :=
  (Std.Total.total row row).elim id id

variable [DecidableRel before]

def earlier (before : α → α → Prop) [DecidableRel before] (rows : List α) (row : α) : Nat :=
  rows.countP fun other => decide (¬ before row other)

def upTo (before : α → α → Prop) [DecidableRel before] (rows : List α) (row : α) : Nat :=
  rows.countP fun other => decide (before other row)

/-- No page ends between rows that are equal in the order. -/
def TiesTogether (before : α → α → Prop) [DecidableRel before] (limit : Nat) (rows : List α) :
    Prop :=
  ∀ row ∈ rows, earlier before rows row / limit = (upTo before rows row - 1) / limit

instance (limit : Nat) (rows : List α) : Decidable (TiesTogether before limit rows) :=
  inferInstanceAs (Decidable (∀ row ∈ rows, _))

theorem tiesTogether_map {β : Type} {after : β → β → Prop} [DecidableRel after] (f : β → α)
    (same : ∀ first second, after first second ↔ before (f first) (f second)) (limit : Nat)
    (rows : List β) : TiesTogether before limit (rows.map f) ↔ TiesTogether after limit rows := by
  simp only [TiesTogether, earlier, upTo, List.forall_mem_map, List.countP_map, Function.comp_def,
    same]

variable [Std.Total before]

theorem earlier_le_position {rows front back : List α} {row : α}
    (perm : (front ++ row :: back).Perm rows)
    (sorted : (front ++ row :: back).Pairwise before) :
    earlier before rows row ≤ front.length ∧ front.length < upTo before rows row := by
  rw [List.pairwise_append, List.pairwise_cons] at sorted
  obtain ⟨_, ⟨after, _⟩, across⟩ := sorted
  have none_after : back.countP (fun other => decide (¬ before row other)) = 0 :=
    List.countP_eq_zero.2 fun other member => by simp [after other member]
  have all_front : front.countP (fun other => decide (before other row)) = front.length :=
    List.countP_eq_length.2 fun other member =>
      decide_eq_true (across other member row List.mem_cons_self)
  constructor
  · rw [earlier, ← perm.countP_eq, List.countP_append, List.countP_cons, none_after]
    have bound := @List.countP_le_length _ (fun other => decide (¬ before row other)) front
    simpa [before_self] using bound
  · rw [upTo, ← perm.countP_eq, List.countP_append, List.countP_cons, all_front]
    simp only [before_self, decide_true, if_true]
    omega

theorem mem_runPage_iff {rows : List α} {row : α} {limit : Nat} (positive : 0 < limit)
    (together : TiesTogether before limit rows) (sorting : Sorting before) (number : Nat) :
    row ∈ page limit (number * limit) (sorting.sort rows) ↔
      row ∈ rows ∧ earlier before rows row / limit = number := by
  -- the page of a position is that of any other position its ties can have
  have placed : ∀ index (bound : index < (sorting.sort rows).length),
      (sorting.sort rows)[index] = row → index / limit = earlier before rows row / limit := by
    intro index bound same
    have split : sorting.sort rows = (sorting.sort rows).take index ++
        row :: (sorting.sort rows).drop (index + 1) := by
      rw [← same, List.getElem_cons_drop, List.take_append_drop]
    have sorted := sorting.sorted rows
    have perm := sorting.perm rows
    rw [split] at sorted perm
    obtain ⟨lower, upper⟩ := earlier_le_position perm sorted
    have length : ((sorting.sort rows).take index).length = index := by
      rw [List.length_take]
      omega
    rw [length] at lower upper
    have member : row ∈ rows := (sorting.perm rows).mem_iff.1 (same ▸ List.getElem_mem bound)
    refine le_antisymm ?_ (Nat.div_le_div_right lower)
    rw [together row member]
    exact Nat.div_le_div_right (by omega)
  constructor
  · intro found
    obtain ⟨position, within, same⟩ := List.mem_iff_getElem.1 found
    rw [page, List.length_take, List.length_drop] at within
    simp only [page, List.getElem_take, List.getElem_drop] at same
    refine ⟨(sorting.perm rows).mem_iff.1 (mem_of_mem_page found), ?_⟩
    rw [← placed (number * limit + position) (by omega) same, Nat.add_comm,
      Nat.add_mul_div_right _ _ positive, Nat.div_eq_of_lt (by omega), Nat.zero_add]
  · rintro ⟨member, rfl⟩
    obtain ⟨index, bound, same⟩ :=
      List.mem_iff_getElem.1 ((sorting.perm rows).mem_iff.2 member)
    rw [← placed index bound same, page, List.mem_iff_getElem]
    have split := Nat.div_add_mod' index limit
    have below := Nat.mod_lt index positive
    refine ⟨index % limit, by rw [List.length_take, List.length_drop]; omega, ?_⟩
    rw [List.getElem_take, List.getElem_drop, ← same]
    congr 1

variable [IsTrans α before]

def Sorting.insertion : Sorting before where
  sort := List.insertionSort before
  perm := List.perm_insertionSort before
  sorted := List.pairwise_insertionSort before

section

variable [DecidableEq α] (rows order : List α)

def arranged (before : α → α → Prop) [DecidableRel before] (other : List α) : List α :=
  if other = rows then order else other.insertionSort before

omit [Std.Total before] [IsTrans α before] in
theorem arranged_perm (perm : order.Perm rows) (other : List α) :
    (arranged rows order before other).Perm other := by
  rw [arranged]
  split
  next same => exact same ▸ perm
  · exact List.perm_insertionSort before other

theorem arranged_sorted (sorted : order.Pairwise before) (other : List α) :
    (arranged rows order before other).Pairwise before := by
  rw [arranged]
  split
  · exact sorted
  · exact List.pairwise_insertionSort before other

def Sorting.to (perm : order.Perm rows) (sorted : order.Pairwise before) : Sorting before where
  sort := arranged rows order before
  perm := arranged_perm rows order perm
  sorted := arranged_sorted rows order sorted

theorem Sorting.sort_to {perm : order.Perm rows} {sorted : order.Pairwise before} :
    (Sorting.to rows order perm sorted).sort rows = order :=
  if_pos rfl

end

theorem runPages_perm {rows : List α} {limit count : Nat} (positive : 0 < limit)
    (nodup : rows.Nodup) (together : TiesTogether before limit rows)
    (sortings : Nat → Sorting before) (all : rows.length ≤ count * limit) :
    (runPages sortings limit count rows).Perm rows := by
  have onePage : ∀ sorting : Sorting before, ∀ number,
      (page limit (number * limit) (sorting.sort rows)).Nodup := fun sorting number =>
    ((sorting.perm rows).nodup_iff.2 nodup).sublist
      ((List.take_sublist _ _).trans (List.drop_sublist _ _))
  have samePages : (runPages sortings limit count rows).Perm
      ((List.range count).flatMap fun number =>
        page limit (number * limit) (rows.insertionSort before)) := by
    refine List.Perm.flatMap_left _ fun number _ => ?_
    refine (List.perm_ext_iff_of_nodup (onePage _ _) (onePage .insertion _)).2 fun row => ?_
    exact (mem_runPage_iff positive together _ number).trans
      (mem_runPage_iff positive together .insertion number).symm
  rw [flatMap_page, List.take_of_length_le (by rwa [List.length_insertionSort])] at samePages
  exact samePages.trans (List.perm_insertionSort before rows)

/-! A page that ends inside a tie. -/

section

variable [DecidableEq α] {rows : List α} {row : α}

structure TieSplit (before : α → α → Prop) (rows : List α) (row : α)
    (front ties back : List α) : Prop where
  perm : (front ++ (ties ++ back)).Perm (rows.erase row)
  sortedFront : front.Pairwise before
  sortedBack : back.Pairwise before
  leads : ∀ other ∈ front, before other row ∧ ¬ before row other
  tied : ∀ other ∈ ties, other ∈ rows ∧ other ≠ row ∧ before row other ∧ before other row
  follows : ∀ other ∈ back, before row other ∧ ¬ before other row

theorem exists_tieSplit (nodup : rows.Nodup) :
    ∃ front ties back : List α, TieSplit before rows row front ties back := by
  let front := ((rows.erase row).filter fun other => !decide (before row other)).insertionSort
    before
  let rest := (rows.erase row).filter fun other => decide (before row other)
  let ties := rest.filter fun other => decide (before other row)
  let back := (rest.filter fun other => !decide (before other row)).insertionSort before
  have permOthers : (front ++ (ties ++ back)).Perm (rows.erase row) := by
    have permRest : (ties ++ back).Perm rest :=
      ((List.perm_insertionSort before _).append_left _).trans (List.filter_append_perm _ _)
    refine ((List.perm_insertionSort before _).append permRest).trans ?_
    exact List.perm_append_comm.trans (List.filter_append_perm _ _)
  have inFront : ∀ other ∈ front, ¬ before row other := fun other inside => by
    simpa using (List.mem_filter.1 ((List.perm_insertionSort before _).mem_iff.1 inside)).2
  have inRest : ∀ other ∈ rest, before row other := fun other inside =>
    of_decide_eq_true (List.mem_filter.1 inside).2
  have inTies : ∀ other ∈ ties, before row other ∧ before other row := fun other inside =>
    ⟨inRest other (List.mem_filter.1 inside).1, of_decide_eq_true (List.mem_filter.1 inside).2⟩
  have inBack : ∀ other ∈ back, before row other ∧ ¬ before other row := fun other inside => by
    obtain ⟨later, apart⟩ :=
      List.mem_filter.1 ((List.perm_insertionSort before _).mem_iff.1 inside)
    exact ⟨inRest other later, by simpa using apart⟩
  have leads : ∀ other ∈ front, before other row := fun other inside =>
    (Std.Total.total other row).resolve_right (inFront other inside)
  refine ⟨front, ties, back, ?_⟩
  constructor
  case perm => exact permOthers
  case sortedFront => exact List.pairwise_insertionSort before _
  case sortedBack => exact List.pairwise_insertionSort before _
  case leads => exact fun other inside => ⟨leads other inside, inFront other inside⟩
  case tied =>
    intro other inside
    have inOthers : other ∈ rows.erase row := permOthers.mem_iff.1
      (List.mem_append_right _ (List.mem_append_left _ inside))
    exact ⟨List.mem_of_mem_erase inOthers, fun same =>
      absurd (same ▸ inOthers) nodup.not_mem_erase, inTies other inside⟩
  case follows => exact inBack

omit [DecidableRel before] in
theorem TieSplit.orders {front ties back : List α}
    (split : TieSplit before rows row front ties back) (member : row ∈ rows) :
    ((front ++ row :: (ties ++ back)).Perm rows ∧
      (front ++ row :: (ties ++ back)).Pairwise before) ∧
    ((front ++ (ties ++ row :: back)).Perm rows ∧
      (front ++ (ties ++ row :: back)).Pairwise before) := by
  have whole := (split.perm.cons row).trans (List.perm_cons_erase member).symm
  have sortedTies : ties.Pairwise before :=
    List.pairwise_of_forall_mem_list fun first inside second also =>
      Trans.trans (split.tied first inside).2.2.2 (split.tied second also).2.2.1
  have tiesBack : ∀ first ∈ ties, ∀ second ∈ back, before first second :=
    fun first inside second also =>
      Trans.trans (split.tied first inside).2.2.2 (split.follows second also).1
  have frontLater : ∀ first ∈ front, ∀ second, before row second → before first second :=
    fun first inside second later => Trans.trans (split.leads first inside).1 later
  refine ⟨⟨List.perm_middle.trans whole, ?_⟩, ⟨?_, ?_⟩⟩
  · rw [List.pairwise_append, List.pairwise_cons, List.pairwise_append]
    refine ⟨split.sortedFront, ⟨?_, sortedTies, split.sortedBack, tiesBack⟩, ?_⟩
    · intro other inside
      rcases List.mem_append.1 inside with tie | later
      · exact (split.tied other tie).2.2.1
      · exact (split.follows other later).1
    · intro first inside second also
      refine frontLater first inside second ?_
      rcases List.mem_cons.1 also with rfl | others
      · exact before_self _
      · rcases List.mem_append.1 others with tie | later
        · exact (split.tied second tie).2.2.1
        · exact (split.follows second later).1
  · refine List.Perm.trans ?_ whole
    rw [← List.append_assoc, ← List.append_assoc]
    exact List.perm_middle
  · rw [List.pairwise_append, List.pairwise_append, List.pairwise_cons]
    refine ⟨split.sortedFront, ⟨sortedTies, ⟨fun other later => (split.follows other later).1,
      split.sortedBack⟩, ?_⟩, ?_⟩
    · intro first inside second also
      rcases List.mem_cons.1 also with rfl | later
      · exact (split.tied first inside).2.2.2
      · exact tiesBack first inside second later
    · intro first inside second also
      refine frontLater first inside second ?_
      rcases List.mem_append.1 also with tie | others
      · exact (split.tied second tie).2.2.1
      · rcases List.mem_cons.1 others with rfl | later
        · exact before_self _
        · exact (split.follows second later).1

theorem TieSplit.places {front ties back : List α}
    (split : TieSplit before rows row front ties back) (member : row ∈ rows) :
    earlier before rows row = front.length ∧
      upTo before rows row = front.length + ties.length + 1 := by
  have perm := (split.orders member).1.1
  constructor
  · rw [earlier, ← perm.countP_eq, List.countP_append, List.countP_cons, List.countP_append,
      List.countP_eq_length.2 fun other inside => decide_eq_true (split.leads other inside).2,
      List.countP_eq_zero.2 fun other inside => by simp [(split.tied other inside).2.2.1],
      List.countP_eq_zero.2 fun other inside => by simp [(split.follows other inside).1]]
    simp [before_self]
  · rw [upTo, ← perm.countP_eq, List.countP_append, List.countP_cons, List.countP_append,
      List.countP_eq_length.2 fun other inside => decide_eq_true (split.leads other inside).1,
      List.countP_eq_length.2 fun other inside => decide_eq_true (split.tied other inside).2.2.2,
      List.countP_eq_zero.2 fun other inside => by simp [(split.follows other inside).2]]
    simp [before_self]
    omega

end

theorem countP_page_tie {front ties back : List α} {row : α} {keep : α → Bool} {limit offset : Nat}
    (kept : keep row = true) (dropped : ∀ other ∈ ties, keep other = false)
    (starts : offset ≤ front.length) (within : front.length < offset + limit)
    (ends : offset + limit ≤ front.length + ties.length) :
    (page limit offset (front ++ (ties ++ row :: back))).countP keep + 1 =
      (page limit offset (front ++ row :: (ties ++ back))).countP keep := by
  have none_kept : ∀ count, (ties.take count).countP keep = 0 := fun count =>
    List.countP_eq_zero.2 fun other inside => by simp [dropped other (List.mem_of_mem_take inside)]
  obtain ⟨spare, room⟩ : ∃ spare, limit = (front.drop offset).length + (spare + 1) := by
    refine ⟨limit - (front.length - offset) - 1, ?_⟩
    rw [List.length_drop]
    omega
  have enough : spare + 1 ≤ ties.length := by
    rw [List.length_drop] at room
    omega
  rw [page, page, List.drop_append_of_le_length starts, List.drop_append_of_le_length starts, room,
    List.take_length_add_append, List.take_length_add_append, List.take_succ_cons,
    List.take_append_of_le_length enough, List.take_append_of_le_length (by omega)]
  simp only [List.countP_append, List.countP_cons, none_kept, kept, if_true]

theorem exists_dropped [DecidableEq α] {limit : Nat} (positive : 0 < limit) {rows : List α}
    (nodup : rows.Nodup) {row : α} (member : row ∈ rows)
    (astride : earlier before rows row / limit ≠ (upTo before rows row - 1) / limit) :
    ∃ sortings : Nat → Sorting before, ∀ keep : α → Bool, keep row = true →
      (∀ other ∈ rows, other ≠ row → before row other → before other row → keep other = false) →
      ∀ count, rows.length ≤ count * limit →
        (runPages sortings limit count rows).countP keep + 1 = rows.countP keep := by
  obtain ⟨front, ties, back, split⟩ := @exists_tieSplit α before _ _ _ _ rows row nodup
  obtain ⟨⟨permFirst, sortedFirst⟩, permLast, sortedLast⟩ := split.orders member
  obtain ⟨first, last⟩ := split.places member
  rw [first, last, Nat.add_sub_cancel] at astride
  let place := front.length / limit
  refine ⟨fun number => if number = place then .to rows _ permLast sortedLast
    else .to rows _ permFirst sortedFirst, ?_⟩
  intro keep kept others count all
  have whole : (runPages (fun _ => Sorting.to rows _ permFirst sortedFirst) limit count
      rows).countP keep = rows.countP keep := by
    rw [runPages]
    simp only [Sorting.sort_to]
    rw [flatMap_page, List.take_of_length_le (by rwa [permFirst.length_eq]), permFirst.countP_eq]
  rw [← whole]
  have starts : place * limit ≤ front.length := Nat.div_mul_le_self _ _
  have within : front.length < place * limit + limit := Nat.lt_div_mul_add positive
  have ends : place * limit + limit ≤ front.length + ties.length := by
    rw [← Nat.succ_mul]
    refine (Nat.le_div_iff_mul_le positive).1 (lt_of_le_of_ne ?_ astride)
    exact Nat.div_le_div_right (Nat.le_add_right _ _)
  refine countP_runPages_replaced ?_ ?_
  · rw [Sorting.sort_to, Sorting.sort_to]
    refine countP_page_tie kept ?_ starts within ends
    exact fun other inside => others other (split.tied other inside).1
      (split.tied other inside).2.1 (split.tied other inside).2.2.1
      (split.tied other inside).2.2.2
  · refine Nat.div_lt_of_lt_mul ?_
    have length := permFirst.length_eq
    rw [List.length_append, List.length_cons] at length
    rw [Nat.mul_comm]
    omega

/-- Whatever the runs of the pages come to, every row is read, if and only if ties are together. -/
theorem tiesTogether_iff_read [DecidableEq α] {limit : Nat} (positive : 0 < limit) {rows : List α}
    (nodup : rows.Nodup) :
    TiesTogether before limit rows ↔ ∀ sortings : Nat → Sorting before, ∀ row ∈ rows,
      ∃ number, row ∈ page limit (number * limit) ((sortings number).sort rows) := by
  constructor
  · exact fun together sortings row member =>
      ⟨_, (mem_runPage_iff positive together _ _).2 ⟨member, rfl⟩⟩
  · intro read row member
    by_contra astride
    obtain ⟨sortings, drops⟩ := exists_dropped positive nodup member astride
    obtain ⟨number, found⟩ := read sortings row member
    have fewer := drops (fun other => decide (other = row)) (decide_eq_true rfl)
      (fun _ _ apart _ _ => decide_eq_false apart) (rows.length + number + 1)
      (Nat.le_trans (by omega) (Nat.le_mul_of_pos_right _ positive))
    have once : rows.countP (fun other => decide (other = row)) ≤ 1 :=
      List.nodup_iff_count_le_one.1 nodup row
    have some_read : 0 < (runPages sortings limit (rows.length + number + 1) rows).countP
        fun other => decide (other = row) :=
      List.countP_pos_iff.2 ⟨row, List.mem_flatMap.2
        ⟨number, List.mem_range.2 (by omega), found⟩, decide_eq_true rfl⟩
    omega

end Paging
