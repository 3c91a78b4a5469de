import UssdGateway.Library.Trimming

/-!
A text divided by a separator, the last segment apart from those before it: what is done to an end
of the text is done to the segment there.
-/

namespace Segments

variable {α : Type} {separator : α}

/-- The segments before the last are followed by a separator each. -/
structure Divided (separator : α) (text : List α) (before : List (List α)) (last : List α) :
    Prop where
  whole : text = before.flatMap (fun segment => segment ++ [separator]) ++ last
  apart : ∀ segment ∈ before, separator ∉ segment
  apartLast : separator ∉ last

theorem exists_divided [DecidableEq α] (separator : α) (text : List α) :
    ∃ before last, Divided separator text before last := by
  induction text with
  | nil => exact ⟨[], [], rfl, by simp, by simp⟩
  | cons point rest ih =>
      obtain ⟨before, last, whole, apart, apartLast⟩ := ih
      by_cases same : point = separator
      · refine ⟨[] :: before, last, ?_, ?_, apartLast⟩
        · rw [whole, same]
          simp
        · exact List.forall_mem_cons.2 ⟨by simp, apart⟩
      · have other : ∀ segment : List α, separator ∉ segment → separator ∉ point :: segment := by
          intro segment free inside
          rcases List.mem_cons.1 inside with here | later
          · exact same here.symm
          · exact free later
        rcases before with _ | ⟨first, before⟩
        · exact ⟨[], point :: last, by simpa using whole, by simp, other last apartLast⟩
        · obtain ⟨free, rest'⟩ := List.forall_mem_cons.1 apart
          refine ⟨(point :: first) :: before, last, ?_, ?_, apartLast⟩
          · rw [whole]
            simp
          · exact List.forall_mem_cons.2 ⟨other first free, rest'⟩

namespace Divided

variable {text last : List α} {before : List (List α)}

theorem split [DecidableEq α] (divided : Divided separator text before last) :
    text.splitOn separator = before ++ [last] := by
  obtain ⟨rfl, apart, apartLast⟩ := divided
  induction before with
  | nil => simpa using List.splitOn_eq_singleton apartLast
  | cons first rest ih =>
      obtain ⟨free, later⟩ := List.forall_mem_cons.1 apart
      have spelled : (first :: rest).flatMap (fun segment => segment ++ [separator]) ++ last =
          first ++ separator :: (rest.flatMap (fun segment => segment ++ [separator]) ++ last) := by
        simp
      rw [spelled, List.splitOn_append_cons_self_of_not_mem free, ih later, List.cons_append]

theorem isInfix (divided : Divided separator text before last) {segment : List α}
    (member : segment ∈ before ++ [last]) : segment <:+: text := by
  rw [divided.whole]
  rcases List.mem_append.1 member with earlier | ending
  · obtain ⟨front, back, rfl⟩ := List.append_of_mem earlier
    refine ⟨front.flatMap (fun segment => segment ++ [separator]),
      separator :: (back.flatMap (fun segment => segment ++ [separator]) ++ last), ?_⟩
    simp
  · rw [List.mem_singleton.1 ending]
    exact (List.suffix_append _ _).isInfix

theorem append (divided : Divided separator text before last) {tail : List α}
    (apart : separator ∉ tail) : Divided separator (text ++ tail) before (last ++ tail) where
  whole := by rw [divided.whole, List.append_assoc]
  apart := divided.apart
  apartLast inside := by
    rcases List.mem_append.1 inside with here | there
    · exact divided.apartLast here
    · exact apart there

theorem rdropWhile (divided : Divided separator text before last) {drop : α → Bool}
    (kept : drop separator = false) :
    Divided separator (text.rdropWhile drop) before (last.rdropWhile drop) where
  whole := by
    rw [divided.whole]
    rcases before.eq_nil_or_concat with rfl | ⟨earlier, segment, rfl⟩
    · rfl
    · have spelled : ∀ tail : List α,
          (earlier ++ [segment]).flatMap (fun segment => segment ++ [separator]) ++ tail =
            earlier.flatMap (fun segment => segment ++ [separator]) ++ segment ++
              separator :: tail := by
        intro tail
        simp
      rw [List.concat_eq_append, spelled, spelled, Trimming.rdropWhile_append_kept kept]
  apart := divided.apart
  apartLast inside := divided.apartLast ((List.rdropWhile_prefix drop last).subset inside)

theorem map (divided : Divided separator text before last) {change : List α → List α}
    (sides : ∀ first rest,
      change (first ++ separator :: rest) = change first ++ separator :: change rest)
    (apart : ∀ segment, separator ∉ segment → separator ∉ change segment) :
    Divided separator (change text) (before.map change) (change last) where
  whole := by
    rw [divided.whole]
    clear divided
    induction before with
    | nil => simp
    | cons first rest ih =>
        have spelled : (first :: rest).flatMap (fun segment => segment ++ [separator]) ++ last =
            first ++
              separator :: (rest.flatMap (fun segment => segment ++ [separator]) ++ last) := by
          simp
        rw [spelled, sides, ih]
        simp
  apart segment member := by
    obtain ⟨original, inside, rfl⟩ := List.mem_map.1 member
    exact apart original (divided.apart original inside)
  apartLast := apart last divided.apartLast

theorem prepend_last (divided : Divided separator text [] last) {front : List α}
    (apart : separator ∉ front) : Divided separator (front ++ text) [] (front ++ last) where
  whole := by rw [divided.whole]; rfl
  apart := by simp
  apartLast inside := by
    rcases List.mem_append.1 inside with here | there
    · exact apart here
    · exact divided.apartLast there

theorem prepend_first {first : List α} (divided : Divided separator text (first :: before) last)
    {front : List α} (apart : separator ∉ front) :
    Divided separator (front ++ text) ((front ++ first) :: before) last where
  whole := by
    rw [divided.whole]
    simp
  apart := by
    obtain ⟨free, later⟩ := List.forall_mem_cons.1 divided.apart
    refine List.forall_mem_cons.2 ⟨fun inside => ?_, later⟩
    rcases List.mem_append.1 inside with here | there
    · exact apart here
    · exact free there
  apartLast := divided.apartLast

end Divided

end Segments
