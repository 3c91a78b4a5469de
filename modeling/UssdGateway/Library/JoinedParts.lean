import UssdGateway.Library.Trimming

/-!
Texts joined by a separator, the empty ones left out, and what a trim of them changes.
-/

namespace JoinedParts

open Trimming

variable {α : Type}

def joined (separator first second : List α) : List α :=
  if first = [] then second
  else if second = [] then first
  else first ++ separator ++ second

/-- `parts.filter(nonempty).join(separator)`. -/
def joinAll (separator : List α) (parts : List (List α)) : List α :=
  separator.intercalate (parts.filter fun part => part ≠ [])

theorem joinAll_two (separator first second : List α) :
    joinAll separator [first, second] = joined separator first second := by
  rw [joinAll, joined]
  by_cases noFirst : first = []
  · by_cases noSecond : second = [] <;> simp [noFirst, noSecond]
  · by_cases noSecond : second = [] <;> simp [noFirst, noSecond]

theorem joinAll_three (separator first second third : List α) :
    joinAll separator [first, second, third] =
      joined separator first (joined separator second third) := by
  rw [joinAll, joined, joined]
  by_cases noFirst : first = []
  · by_cases noSecond : second = [] <;> by_cases noThird : third = [] <;>
      simp [noFirst, noSecond, noThird]
  · by_cases noSecond : second = [] <;> by_cases noThird : third = [] <;>
      simp [noFirst, noSecond, noThird]

theorem joined_assoc (separator first second third : List α) :
    joined separator (joined separator first second) third =
      joined separator first (joined separator second third) := by
  simp only [joined]
  by_cases noFirst : first = []
  · simp [noFirst]
  · by_cases noSecond : second = [] <;> by_cases noThird : third = [] <;>
      simp [noFirst, noSecond, noThird]

theorem joined_suffix (separator first second : List α) :
    second <:+ joined separator first second := by
  rw [joined]
  split
  · exact List.suffix_refl _
  · split
    next noSecond =>
      rw [noSecond]
      exact List.nil_suffix
    · exact List.suffix_append _ _

theorem joined_nil (separator first : List α) : joined separator first [] = first := by
  rw [joined]
  split
  next noFirst => exact noFirst.symm
  · rfl

theorem joined_ne_right {separator first second : List α} (nonempty : first ≠ [])
    (some_ : second ≠ []) : joined separator first second ≠ second := by
  intro same
  rw [joined, if_neg nonempty, if_neg some_] at same
  have size := congrArg List.length same
  have positive := List.length_pos_iff.2 nonempty
  simp only [List.length_append] at size
  omega

theorem joined_left_inj (separator second : List α) {first first' : List α} :
    joined separator first second = joined separator first' second ↔ first = first' := by
  refine ⟨fun same => ?_, fun same => by rw [same]⟩
  by_cases noSecond : second = []
  · rwa [noSecond, joined_nil, joined_nil] at same
  by_cases noFirst : first = []
  · by_cases noFirst' : first' = []
    · rw [noFirst, noFirst']
    · rw [noFirst] at same
      exact absurd same.symm (joined_ne_right noFirst' noSecond)
  · by_cases noFirst' : first' = []
    · rw [noFirst'] at same
      exact absurd same (joined_ne_right noFirst noSecond)
    · simp only [joined, noFirst, noFirst', noSecond, if_false] at same
      exact List.append_cancel_right (List.append_cancel_right same)

theorem length_joined (separator first second : List α) :
    (joined separator first second).length = first.length + second.length +
      if 0 < first.length ∧ 0 < second.length then separator.length else 0 := by
  rw [joined]
  rcases first with _ | ⟨point, first⟩ <;> rcases second with _ | ⟨point', second⟩
  all_goals simp
  omega

variable {blank : α → Bool}

theorem lastKept_joined {separator first second : List α} (firstKept : LastKept blank first)
    (secondKept : LastKept blank second) : LastKept blank (joined separator first second) := by
  rw [joined]
  split
  · exact secondKept
  · split
    · exact firstKept
    next some_ =>
      intro point last
      rw [List.getLast?_append_of_ne_nil _ some_] at last
      exact secondKept point last

theorem joined_eq_append {separator second : List α} (some_ : second ≠ []) (first : List α) :
    ∃ front, joined separator first second = front ++ second ∧
      (front = [] ∧ first = [] ∨ front = first ++ separator ∧ first ≠ []) := by
  by_cases noFirst : first = []
  · exact ⟨[], by rw [joined, if_pos noFirst, List.nil_append], Or.inl ⟨rfl, noFirst⟩⟩
  · exact ⟨first ++ separator, by rw [joined, if_neg noFirst, if_neg some_],
      Or.inr ⟨rfl, noFirst⟩⟩

theorem exists_leading (blank : α → Bool) (text : List α) (last : LastKept blank text) :
    ∃ front, text = front ++ strip blank text ∧ ∀ point ∈ front, blank point = true := by
  refine ⟨text.takeWhile blank, ?_, fun _ member => List.mem_takeWhile_imp member⟩
  have kept : LastKept blank (text.dropWhile blank) := by
    by_cases empty : text.dropWhile blank = []
    · rw [empty]
      intro point found
      exact absurd found (by simp)
    · intro point found
      apply last
      rw [← List.takeWhile_append_dropWhile (p := blank) (l := text),
        List.getLast?_append_of_ne_nil _ empty]
      exact found
  rw [strip, rdropWhile_of_lastKept kept, List.takeWhile_append_dropWhile]

theorem no_blank_in_separator {space dot : α} (dotKept : blank dot = false)
    {front spaces first : List α} (spaced : ∀ point ∈ spaces, blank point = true)
    (head : ∀ point ∈ spaces.head?, point ≠ space)
    (marks : front ++ spaces = first ++ [space, dot, space]) : spaces = [] := by
  rcases spaces.eq_nil_or_concat with rfl | ⟨earlier, ending, rfl⟩
  · rfl
  rw [List.concat_eq_append] at spaced head marks
  have shifted : front ++ earlier ++ [ending] = first ++ [space, dot] ++ [space] := by
    rw [List.append_assoc, marks, List.append_assoc]
    rfl
  obtain ⟨rest, ends⟩ := List.append_inj' shifted rfl
  rcases earlier.eq_nil_or_concat with rfl | ⟨more, point, rfl⟩
  · exact absurd (List.cons.inj ends).1 (head ending rfl)
  · have dots : front ++ more ++ [point] = first ++ [space] ++ [dot] := by
      simpa [List.concat_eq_append] using rest
    obtain ⟨_, same⟩ := List.append_inj' dots rfl
    have blankDot := spaced point (by simp)
    rw [(List.cons.inj same).1, dotKept] at blankDot
    exact absurd blankDot (by decide)

theorem strip_eq_of_joined {space dot : α} (dotKept : blank dot = false)
    {first first' second : List α} (lastFirst : LastKept blank first')
    (head : ∀ point ∈ second.head?, point ≠ space)
    (same : joined [space, dot, space] first second =
      joined [space, dot, space] first' (strip blank second)) : strip blank second = second := by
  by_cases empty : second = []
  · rw [empty]
    rfl
  obtain ⟨front, spelled, _⟩ := @joined_eq_append α [space, dot, space] second empty first
  have last : LastKept blank second := by
    have kept := @lastKept_joined α blank [space, dot, space] first' (strip blank second)
      lastFirst (lastKept_strip blank second)
    rw [← same, spelled] at kept
    intro point found
    apply kept
    rw [List.getLast?_append_of_ne_nil _ empty]
    exact found
  obtain ⟨spaces, whole, spaced⟩ := exists_leading blank second last
  generalize strip blank second = trimmed at same whole ⊢
  subst whole
  suffices none_ : spaces = [] by rw [none_, List.nil_append]
  by_cases allBlank : trimmed = []
  · subst allBlank
    rw [List.append_nil] at last
    by_contra some_
    have blankLast := spaced _ (List.getLast_mem some_)
    rw [last _ (List.getLast?_eq_some_getLast some_)] at blankLast
    exact absurd blankLast (by decide)
  obtain ⟨front', spelled', shape⟩ :=
    @joined_eq_append α [space, dot, space] trimmed allBlank first'
  have fronts : front ++ spaces = front' := by
    have sides : front ++ spaces ++ trimmed = front' ++ trimmed := by
      rw [← spelled', ← same, spelled, List.append_assoc]
    exact List.append_cancel_right sides
  rcases shape with ⟨rfl, _⟩ | ⟨rfl, _⟩
  · exact (List.append_eq_nil_iff.1 fronts).2
  · refine no_blank_in_separator dotKept spaced (fun point found => head point ?_) fronts
    rw [List.head?_append, found]
    rfl

theorem joined_strip_iff {space dot : α} (dotKept : blank dot = false)
    {first first' second : List α} (lastFirst : LastKept blank first')
    (head : ∀ point ∈ second.head?, point ≠ space) :
    joined [space, dot, space] first second =
        joined [space, dot, space] first' (strip blank second) ↔
      first = first' ∧ strip blank second = second := by
  constructor
  · intro same
    have trimmed := strip_eq_of_joined dotKept lastFirst head same
    rw [trimmed] at same
    exact ⟨(joined_left_inj _ _).1 same, trimmed⟩
  · rintro ⟨rfl, trimmed⟩
    rw [trimmed]

end JoinedParts
