import Mathlib.Data.List.DropRight
import Mathlib.Data.List.Infix

/-!
Two notions of blank. What is left of a text when either trims it, and when the two leave the same.
-/

namespace Trimming

variable {α : Type} (first second : α → Bool)

def strip (text : List α) : List α := (text.dropWhile first).rdropWhile first

def either (point : α) : Bool := first point || second point

def both (point : α) : Bool := first point && second point

def looseStart (starts : α → Bool) (text : List α) : List α :=
  match text with
  | [] => []
  | point :: rest => if starts point then (point :: rest).dropWhile second else point :: rest

def LeadAgrees (starts : α → Bool) (text : List α) : Prop :=
  match text with
  | [] => True
  | point :: rest =>
      if starts point then
        ∀ x ∈ (point :: rest).takeWhile (either first second), both first second x = true
      else first point = false

def HeadKept (text : List α) : Prop := ∀ point ∈ text.head?, first point = false

def LastKept (text : List α) : Prop := ∀ point ∈ text.getLast?, first point = false

section

variable {first second}

theorem headKept_reverse {text : List α} : HeadKept first text.reverse ↔ LastKept first text := by
  rw [HeadKept, LastKept, List.head?_reverse]

theorem HeadKept.narrow {text : List α} (kept : HeadKept first text)
    (blanks : ∀ x, second x = true → first x = true) : HeadKept second text := by
  intro point head
  rcases blank : second point with _ | _
  · rfl
  · rw [← kept point head, blanks point blank]

theorem LastKept.narrow {text : List α} (kept : LastKept first text)
    (blanks : ∀ x, second x = true → first x = true) : LastKept second text :=
  headKept_reverse.1 ((headKept_reverse.2 kept).narrow blanks)

theorem headKept_dropWhile (text : List α) : HeadKept first (text.dropWhile first) := by
  intro point head
  have kept := List.head?_dropWhile_not first text
  rwa [Option.mem_def.1 head] at kept

theorem rdropWhile_eq (text : List α) :
    text.rdropWhile first = (text.reverse.dropWhile first).reverse := rfl

theorem lastKept_rdropWhile (text : List α) : LastKept first (text.rdropWhile first) := by
  rw [← headKept_reverse, rdropWhile_eq, List.reverse_reverse]
  exact headKept_dropWhile _

theorem dropWhile_of_headKept {text : List α} (kept : HeadKept first text) :
    text.dropWhile first = text := by
  cases text with
  | nil => rfl
  | cons point rest => rw [List.dropWhile_cons, kept point rfl]; rfl

theorem rdropWhile_of_lastKept {text : List α} (kept : LastKept first text) :
    text.rdropWhile first = text := by
  rw [rdropWhile_eq, dropWhile_of_headKept (headKept_reverse.2 kept), List.reverse_reverse]

theorem rdropWhile_append_blank {back : List α} (blank : ∀ point ∈ back, first point = true)
    (text : List α) : (text ++ back).rdropWhile first = text.rdropWhile first := by
  rw [rdropWhile_eq, rdropWhile_eq, List.reverse_append, List.dropWhile_append_of_pos]
  intro point member
  exact blank point (List.mem_reverse.1 member)

theorem rdropWhile_append_kept {front : List α} {point : α} (kept : first point = false)
    (rest : List α) :
    (front ++ point :: rest).rdropWhile first = front ++ point :: rest.rdropWhile first := by
  induction rest using List.reverseRecOn with
  | nil =>
      rw [List.rdropWhile_nil]
      exact List.rdropWhile_concat_neg _ _ _ (by simp [kept])
  | append_singleton rest last ih =>
      rw [← List.cons_append, ← List.append_assoc, List.rdropWhile_concat,
        List.rdropWhile_concat]
      split
      · exact ih
      · simp

theorem append_eq_of_blank {front other rest tail : List α} {point : α}
    (same : front ++ rest = other ++ point :: tail) (blank : ∀ x ∈ front, first x = true)
    (kept : first point = false) : ∃ more, other = front ++ more := by
  rcases List.append_eq_append_iff.1 same with ⟨more, longer, _⟩ | ⟨more, shorter, tails⟩
  · exact ⟨more, longer⟩
  · rcases more with _ | ⟨head, more⟩
    · exact ⟨[], by simpa using shorter.symm⟩
    · have here : head = point := by simpa using (List.cons.inj tails).1.symm
      have inside : point ∈ front := by
        rw [shorter, ← here]
        simp
      rw [blank point inside] at kept
      exact absurd kept (by decide)

theorem middle_unique {front middle back front' back' : List α}
    (same : front ++ middle ++ back = front' ++ middle ++ back') (nonempty : middle ≠ [])
    (frontBlank : ∀ x ∈ front, first x = true) (backBlank : ∀ x ∈ back, first x = true)
    (head : HeadKept first middle) (last : LastKept first middle) :
    front' = front ∧ back' = back := by
  obtain ⟨point, tail, rfl⟩ := List.exists_cons_of_ne_nil nonempty
  have starts : front ++ (point :: tail ++ back) = front' ++ point :: (tail ++ back') := by
    simpa using same
  obtain ⟨before, longer⟩ := append_eq_of_blank starts frontBlank (head point rfl)
  obtain ⟨point', tail', reversed⟩ := List.exists_cons_of_ne_nil
    (List.reverse_ne_nil_iff.2 (List.cons_ne_nil point tail))
  have ends : back.reverse ++ ((point :: tail).reverse ++ front.reverse) =
      back'.reverse ++ point' :: (tail' ++ front'.reverse) := by
    have mirrored := congrArg List.reverse same
    rw [List.reverse_append, List.reverse_append, List.reverse_append, List.reverse_append]
      at mirrored
    rw [mirrored, reversed]
    rfl
  have lastPoint : first point' = false := by
    apply headKept_reverse.2 last
    rw [reversed]
    rfl
  obtain ⟨after, longerBack⟩ := append_eq_of_blank ends
    (fun x member => backBlank x (List.mem_reverse.1 member)) lastPoint
  have sizes := congrArg List.length same
  have backSize := congrArg List.length longerBack
  simp only [List.length_append, List.length_cons, List.length_reverse, longer] at sizes backSize
  have noneBefore : before = [] := List.length_eq_zero_iff.1 (by omega)
  have noneAfter : after = [] := List.length_eq_zero_iff.1 (by omega)
  subst noneBefore noneAfter
  exact ⟨by simpa using longer, by simpa using longerBack⟩

theorem strip_split (first : α → Bool) (text : List α) :
    ∃ front back, text = front ++ strip first text ++ back ∧
      (∀ x ∈ front, first x = true) ∧ ∀ x ∈ back, first x = true := by
  refine ⟨text.takeWhile first, (text.dropWhile first).rtakeWhile first, ?_, ?_, ?_⟩
  · rw [strip, List.append_assoc, List.rdropWhile_append_rtakeWhile,
      List.takeWhile_append_dropWhile]
  · intro x member
    exact List.mem_takeWhile_imp member
  · intro x member
    exact List.mem_rtakeWhile_imp member

theorem headKept_strip (first : α → Bool) (text : List α) : HeadKept first (strip first text) := by
  intro point head
  apply headKept_dropWhile text
  have start : strip first text <+: text.dropWhile first := List.rdropWhile_prefix _ _
  obtain ⟨rest, whole⟩ := start
  rw [← whole, List.head?_append, head]
  rfl

theorem lastKept_strip (first : α → Bool) (text : List α) : LastKept first (strip first text) :=
  lastKept_rdropWhile _

theorem strip_eq_middle_iff (front middle back : List α) :
    strip first (front ++ middle ++ back) = middle ↔
      (∀ x ∈ front, first x = true) ∧ (∀ x ∈ back, first x = true) ∧
        HeadKept first middle ∧ LastKept first middle := by
  constructor
  · intro stripped
    obtain ⟨front', back', whole, frontBlank, backBlank⟩ :=
      strip_split first (front ++ middle ++ back)
    have head := headKept_strip first (front ++ middle ++ back)
    have last := lastKept_strip first (front ++ middle ++ back)
    rw [stripped] at whole head last
    by_cases empty : middle = []
    · subst empty
      rw [List.append_nil, List.append_nil] at whole
      have blank : ∀ x ∈ front ++ back, first x = true := by
        intro x member
        rw [whole] at member
        rcases List.mem_append.1 member with inside | inside
        · exact frontBlank x inside
        · exact backBlank x inside
      exact ⟨fun x member => blank x (List.mem_append_left _ member),
        fun x member => blank x (List.mem_append_right _ member), head, last⟩
    · obtain ⟨sameFront, sameBack⟩ :=
        middle_unique whole.symm empty frontBlank backBlank head last
      rw [sameFront, sameBack]
      exact ⟨frontBlank, backBlank, head, last⟩
  · rintro ⟨frontBlank, backBlank, head, last⟩
    rw [strip, List.append_assoc, List.dropWhile_append_of_pos frontBlank]
    by_cases empty : middle = []
    · subst empty
      have gone : back.dropWhile first = [] := List.dropWhile_eq_nil_iff.2 backBlank
      rw [List.nil_append, gone, List.rdropWhile_nil]
    · have kept : HeadKept first (middle ++ back) := by
        intro point start
        rw [List.head?_append_of_ne_nil _ empty] at start
        exact head point start
      rw [dropWhile_of_headKept kept, rdropWhile_append_blank backBlank,
        rdropWhile_of_lastKept last]

theorem strip_strip (first : α → Bool) (text : List α) :
    strip first (strip first text) = strip first text := by
  have kept := (strip_eq_middle_iff [] (strip first text) []).2
    ⟨by simp, by simp, headKept_strip first text, lastKept_strip first text⟩
  rwa [List.nil_append, List.append_nil] at kept

theorem strip_strip_narrower (blanks : ∀ x, second x = true → first x = true) (text : List α) :
    strip first (strip second text) = strip first text := by
  obtain ⟨front, back, whole, frontBlank, backBlank⟩ := strip_split second text
  generalize strip second text = inner at whole ⊢
  obtain ⟨front', back', part, frontBlank', backBlank'⟩ := strip_split first inner
  have head := headKept_strip first inner
  have last := lastKept_strip first inner
  generalize strip first inner = middle at part head last ⊢
  have spelled : text = front ++ front' ++ middle ++ (back' ++ back) := by
    rw [whole, part]
    simp only [List.append_assoc]
  rw [spelled]
  refine ((strip_eq_middle_iff (front ++ front') middle (back' ++ back)).2
    ⟨?_, ?_, head, last⟩).symm
  · intro x member
    rcases List.mem_append.1 member with outer | inside
    · exact blanks x (frontBlank x outer)
    · exact frontBlank' x inside
  · intro x member
    rcases List.mem_append.1 member with inside | outer
    · exact backBlank' x inside
    · exact blanks x (backBlank x outer)

theorem strip_rdropWhile (text : List α) :
    strip first (text.rdropWhile first) = strip first text := by
  obtain ⟨front, back, whole, frontBlank, backBlank⟩ := strip_split first text
  have head := headKept_strip first text
  have last := lastKept_strip first text
  by_cases empty : strip first text = []
  · rw [empty, List.append_nil] at whole
    have blank : ∀ x ∈ text, first x = true := by
      intro x member
      rw [whole] at member
      rcases List.mem_append.1 member with inside | inside
      · exact frontBlank x inside
      · exact backBlank x inside
    rw [List.rdropWhile_eq_nil_iff.2 blank, empty]
    rfl
  · generalize strip first text = middle at *
    have cut : text.rdropWhile first = front ++ middle := by
      rw [whole, rdropWhile_append_blank backBlank]
      apply rdropWhile_of_lastKept
      intro point ends
      rw [List.getLast?_append_of_ne_nil _ empty] at ends
      exact last point ends
    rw [cut]
    simpa using (strip_eq_middle_iff front middle []).2 ⟨frontBlank, by simp, head, last⟩

/-! Two notions of blank against each other. -/

variable (first second)

theorem lead_alike_iff (text : List α) :
    (∀ x ∈ text.takeWhile (either first second), both first second x = true) ↔
      (∀ x ∈ text.takeWhile second, first x = true) ∧
        HeadKept first (text.dropWhile second) := by
  induction text with
  | nil => simp [HeadKept]
  | cons point rest ih =>
      rw [List.takeWhile_cons, List.takeWhile_cons, List.dropWhile_cons]
      rcases blank : second point with _ | _
      · rcases other : first point with _ | _
        · simp [either, blank, other, HeadKept]
        · simp [either, both, blank, other, HeadKept]
      · have blanks : either first second point = true := by simp [either, blank]
        rw [if_pos blanks, if_pos rfl, if_pos rfl, List.forall_mem_cons, List.forall_mem_cons, ih,
          and_assoc]
        simp [both, blank]

theorem trail_alike_iff (text : List α) :
    (∀ x ∈ text.rtakeWhile (either first second), both first second x = true) ↔
      (∀ x ∈ text.rtakeWhile second, first x = true) ∧
        LastKept first (text.rdropWhile second) := by
  have mirrored := lead_alike_iff first second text.reverse
  rw [← headKept_reverse, rdropWhile_eq, List.reverse_reverse]
  simpa only [List.rtakeWhile, List.mem_reverse] using mirrored

theorem looseStart_split (starts : α → Bool) (text : List α) :
    ∃ front, text = front ++ looseStart second starts text ∧
      ((∀ x ∈ front, first x = true) ∧ HeadKept first (looseStart second starts text) ↔
        LeadAgrees first second starts text) := by
  cases text with
  | nil => exact ⟨[], rfl, by simp [HeadKept, looseStart, LeadAgrees]⟩
  | cons point rest =>
      rw [looseStart, LeadAgrees]
      split
      · refine ⟨(point :: rest).takeWhile second, ?_, ?_⟩
        · rw [List.takeWhile_append_dropWhile]
        · exact (lead_alike_iff first second _).symm
      · refine ⟨[], rfl, ?_⟩
        simp [HeadKept]

theorem lastKept_looseStart (starts : α → Bool) {text : List α} (last : LastKept second text) :
    LastKept second (looseStart second starts text) := by
  obtain ⟨front, whole, _⟩ := looseStart_split second second starts text
  intro point ends
  apply last point
  rw [whole, List.getLast?_append, ends]
  rfl

theorem looseStart_eq_nil {starts : α → Bool} {text : List α} (last : LastKept second text)
    (empty : looseStart second starts text = []) : text = [] := by
  by_contra nonempty
  have blank : ∀ x ∈ text, second x = true := by
    cases text with
    | nil => exact absurd rfl nonempty
    | cons point rest =>
        rw [looseStart] at empty
        split at empty
        · exact List.dropWhile_eq_nil_iff.1 empty
        · exact absurd empty (List.cons_ne_nil point rest)
  have ends := last _ (List.getLast?_eq_some_getLast nonempty)
  rw [blank _ (List.getLast_mem nonempty)] at ends
  exact absurd ends (by decide)

theorem lastKept_looseStart_iff (starts : α → Bool) {text : List α}
    (last : LastKept second text) :
    LastKept first (looseStart second starts text) ↔ LastKept first text := by
  by_cases empty : looseStart second starts text = []
  · rw [looseStart_eq_nil second last empty]
    rfl
  · obtain ⟨front, whole, _⟩ := looseStart_split second second starts text
    have same : text.getLast? = (looseStart second starts text).getLast? := by
      rw [whole, List.getLast?_append_of_ne_nil _ empty, ← whole]
    rw [LastKept, LastKept, same]

theorem trims_agree_iff (starts : α → Bool) (text beyond : List α) :
    strip first ((text ++ beyond).rdropWhile first) =
        (looseStart second starts (text.rdropWhile second)).rdropWhile second ↔
      (∀ x ∈ beyond, first x = true) ∧
        (∀ x ∈ text.rtakeWhile (either first second), both first second x = true) ∧
          LeadAgrees first second starts (text.rdropWhile second) := by
  have last : LastKept second (text.rdropWhile second) := lastKept_rdropWhile text
  obtain ⟨front, whole, lead⟩ :=
    looseStart_split first second starts (text.rdropWhile second)
  rw [strip_rdropWhile, rdropWhile_of_lastKept (lastKept_looseStart second starts last),
    trail_alike_iff, ← lead, ← lastKept_looseStart_iff first second starts last]
  have parts : text ++ beyond =
      front ++ looseStart second starts (text.rdropWhile second) ++
        (text.rtakeWhile second ++ beyond) := by
    rw [← whole, ← List.append_assoc, List.rdropWhile_append_rtakeWhile]
  rw [parts, strip_eq_middle_iff]
  simp only [List.mem_append]
  constructor
  · rintro ⟨frontBlank, backBlank, head, kept⟩
    exact ⟨fun x member => backBlank x (Or.inr member),
      ⟨fun x member => backBlank x (Or.inl member), kept⟩, frontBlank, head⟩
  · rintro ⟨beyondBlank, ⟨tailBlank, kept⟩, frontBlank, head⟩
    refine ⟨frontBlank, ?_, head, kept⟩
    rintro x (member | member)
    · exact tailBlank x member
    · exact beyondBlank x member

theorem dropWhile_eq_of_kept {text : List α} {point other : α} {rest tail : List α}
    (one : text.dropWhile first = point :: rest) (two : text.dropWhile second = other :: tail)
    (kept : second point = false) (otherKept : first other = false) :
    point :: rest = other :: tail := by
  induction text with
  | nil => exact absurd one (by simp)
  | cons head text ih =>
      rw [List.dropWhile_cons] at one two
      rcases blank : first head with _ | _
      · rw [if_neg (by simp [blank])] at one
        obtain ⟨rfl, rfl⟩ := List.cons.inj one
        rwa [if_neg (by simp [kept])] at two
      · rw [if_pos blank] at one
        rcases same : second head with _ | _
        · rw [if_neg (by simp [same])] at two
          obtain ⟨rfl, _⟩ := List.cons.inj two
          rw [blank] at otherKept
          exact absurd otherKept (by decide)
        · rw [if_pos same] at two
          exact ih one two

end

end Trimming
