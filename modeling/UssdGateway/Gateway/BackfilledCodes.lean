import UssdGateway.Gateway.Pipeline
import UssdGateway.Gateway.ServiceCodes

/-!
The code that migration 009 gave the rows logged before it, and when all three codes of a dial are
the same. The migration decodes a dial but does not trim it.
-/

namespace UssdGateway

open Segments Trimming

def stringToArray (text : Str) : List Str := if text = [] then [] else Str.split star text

def backfilledServiceCode (dialed : Str) : Option Str :=
  if dialed = [] then none
  else
    -- `regexp_replace(…, '^\*+|#+$', '', 'g')` of the decoded dial.
    let segments := (stringToArray (dialCore
      (Str.replace (lit "%23") [hash] dialed.length dialed))).filter fun segment => segment ≠ []
    if 1 ≤ segments.length then some ([star] ++ Str.join [star] (segments.take 2) ++ [hash])
    else none

theorem backfilledServiceCode_eq (dialed : Str) :
    backfilledServiceCode dialed =
      if codeSegments (unescaped dialed) = [] then none
      else some (codeOf (codeSegments (unescaped dialed))) := by
  by_cases empty : dialed = []
  · rw [empty]
    rfl
  have segments : (stringToArray (dialCore (unescaped dialed))).filter (fun segment => segment ≠ [])
      = filled (Str.split star (Str.rstripBy (· = hash) (unescaped dialed))) := by
    rw [← filled_dialCore, stringToArray]
    split
    next core => rw [core]; rfl
    next => rfl
  have spelled : backfilledServiceCode dialed =
      if 1 ≤ (filled (Str.split star (Str.rstripBy (· = hash) (unescaped dialed)))).length then
        some ([star] ++ Str.join [star] (codeSegments (unescaped dialed)) ++ [hash])
      else none := by
    rw [backfilledServiceCode, if_neg empty]
    simp only [codeSegments, ← segments]
    rfl
  rw [spelled, codeOf]
  by_cases nothing : filled (Str.split star (Str.rstripBy (· = hash) (unescaped dialed))) = []
  · simp [codeSegments, nothing]
  · have some_ : codeSegments (unescaped dialed) ≠ [] := by
      simpa [codeSegments] using nothing
    have counted : 1 ≤ (filled (Str.split star
        (Str.rstripBy (· = hash) (unescaped dialed)))).length := List.length_pos_iff.2 nothing
    rw [if_pos counted, if_neg some_, if_neg some_]

def leading (dialed : Str) : Str := dialed.takeWhile CodePoint.isSpace

def trailing (dialed : Str) : Str :=
  (dialed.dropWhile CodePoint.isSpace).rtakeWhile CodePoint.isSpace

theorem whole_dial (dialed : Str) :
    dialed = leading dialed ++ Str.strip dialed ++ trailing dialed := by
  have inner : Str.strip dialed ++ trailing dialed = dialed.dropWhile CodePoint.isSpace :=
    List.rdropWhile_append_rtakeWhile
  rw [List.append_assoc, inner, leading, List.takeWhile_append_dropWhile]

def segmentsBefore (text : Str) : List Str := filled (Str.split star text).dropLast

theorem segmentsBefore_of_divided {text last : Str} {before : List Str}
    (divided : Divided star text before last) : segmentsBefore text = filled before := by
  have parts : Str.split star text = before ++ [last] := divided.split
  rw [segmentsBefore, parts, List.dropLast_concat]

def Blank (text : Str) : Prop := ∀ point ∈ text, CodePoint.isSpace point = true

theorem Blank.apart {text : Str} (blank : Blank text) {sign : CodePoint}
    (visible : CodePoint.isSpace sign = false) : sign ∉ text := by
  intro member
  rw [blank sign member] at visible
  exact absurd visible (by decide)

theorem not_mem_escapedHash_of_isSpace {point : CodePoint}
    (blank : CodePoint.isSpace point = true) : point ∉ escapedHash := by
  intro member
  have visible : (escapedHash.any CodePoint.isSpace) = false := by decide
  rw [List.any_eq_true.2 ⟨point, member, blank⟩] at visible
  exact absurd visible (by decide)

theorem unescaped_blank_append {front : Str} (blank : Blank front) (text : Str) :
    unescaped (front ++ text) = front ++ unescaped text := by
  induction front with
  | nil => rfl
  | cons point rest ih =>
      obtain ⟨here, later⟩ := List.forall_mem_cons.1 blank
      have sides := unescaped_sides (not_mem_escapedHash_of_isSpace here) [] (rest ++ text)
      rw [unescaped_nil, List.nil_append, List.nil_append, ih later] at sides
      exact sides

theorem unescaped_append_blank {back : Str} (blank : Blank back) (text : Str) :
    unescaped (text ++ back) = unescaped text ++ back := by
  rcases back with _ | ⟨point, rest⟩
  · rw [List.append_nil, List.append_nil]
  · obtain ⟨here, later⟩ := List.forall_mem_cons.1 blank
    have plain := unescaped_blank_append later []
    rw [List.append_nil, unescaped_nil, List.append_nil] at plain
    rw [unescaped_sides (not_mem_escapedHash_of_isSpace here), plain]

theorem headKept_unescaped {text : Str} (kept : HeadKept CodePoint.isSpace text) :
    HeadKept CodePoint.isSpace (unescaped text) := by
  rcases text with _ | ⟨point, rest⟩
  · exact kept
  by_cases escaped : escapedHash <+: point :: rest
  · rw [unescaped_of_escape escaped]
    intro first head
    obtain rfl := Option.some.inj head
    decide
  · rw [unescaped_cons escaped]
    intro first head
    exact kept first head

section

variable {text front back last : Str} {before : List Str}

theorem rstrip_append_blank (blank : Blank back) (nonempty : back ≠ []) :
    Str.rstripBy (· = hash) (text ++ back) = text ++ back := by
  refine List.rdropWhile_eq_self_iff.2 fun long ends => ?_
  have inside : (text ++ back).getLast long ∈ back := by
    rw [List.getLast_append_of_ne_nil _ nonempty]
    exact List.getLast_mem nonempty
  have spaced := blank _ inside
  rw [of_decide_eq_true ends] at spaced
  exact absurd spaced (by decide)

theorem codeSegments_append_blank (blank : Blank back) (nonempty : back ≠ [])
    (divided : Divided star text before last) :
    codeSegments (text ++ back) = (filled before ++ [last ++ back]).take 2 := by
  have spaced : last ++ back ≠ [] := by simp [nonempty]
  rw [codeSegments_of_divided (divided.append (blank.apart (by decide))),
    rstrip_append_blank blank nonempty, filled_cons spaced, filled]
  rfl

theorem trailing_harmless_iff (blank : Blank back) (nonempty : back ≠ [])
    (divided : Divided star text before last) :
    codeSegments text = codeSegments (text ++ back) ↔ 2 ≤ (filled before).length := by
  rw [codeSegments_append_blank blank nonempty divided, codeSegments_of_divided divided]
  have longer : last ++ back ≠ Str.rstripBy (· = hash) last := by
    intro same
    have size := congrArg List.length same
    have shorter := (List.rdropWhile_prefix (fun point => decide (point = hash)) last).length_le
    have positive := List.length_pos_iff.2 nonempty
    rw [List.length_append] at size
    change last.length + back.length = (last.rdropWhile _).length at size
    omega
  have absent : last ++ back ∉ filled [Str.rstripBy (· = hash) last] := by
    intro member
    exact longer (List.mem_singleton.1 (mem_filled.1 member).1)
  generalize filled before = kept
  rcases kept with _ | ⟨first, _ | ⟨second, rest⟩⟩
  · rw [List.nil_append, List.nil_append, take_two_filled]
    refine iff_of_false (fun same => absent ?_) (by simp)
    rw [same]
    exact List.mem_cons_self
  · rw [take_two_cons_filled]
    refine iff_of_false (fun same => absent ?_) (by simp)
    rw [(List.cons.inj same).2]
    exact List.mem_cons_self
  · exact iff_of_true rfl (by simp)

theorem take_two_cons (segment : Str) (rest : List Str) :
    (segment :: rest).take 2 = segment :: rest.take 1 := rfl

theorem visible_head (head : HeadKept CodePoint.isSpace text) {point : CodePoint}
    (opens : text.head? = some point) (blank : CodePoint.isSpace point = true) : False := by
  rw [head point opens] at blank
  exact absurd blank (by decide)

theorem codeSegments_blank_append (blank : Blank front) (nonempty : front ≠ [])
    (divided : Divided star text before last) (apart : star ∉ back) :
    ∃ segment rest, codeSegments (front ++ (text ++ back)) = segment :: rest ∧
      ((before = [] ∧ ∃ tail, segment = front.head nonempty :: tail) ∨
        ∃ first more, before = first :: more ∧ segment = front ++ first ∧
          rest = (filled more ++ filled [Str.rstripBy (· = hash) (last ++ back)]).take 1) := by
  have starless : star ∉ front := blank.apart (by decide)
  rcases before with _ | ⟨first, more⟩
  · have whole := (divided.append apart).prepend_last starless
    obtain ⟨point, later, rfl⟩ := List.exists_cons_of_ne_nil nonempty
    have visible : (decide (point = hash)) = false := by
      rw [decide_eq_false_iff_not]
      rintro rfl
      exact absurd (blank hash List.mem_cons_self) (by decide)
    have kept : Str.rstripBy (· = hash) (point :: later ++ (last ++ back)) =
        point :: Str.rstripBy (· = hash) (later ++ (last ++ back)) :=
      @rdropWhile_append_kept _ (fun point => decide (point = hash)) [] point visible _
    refine ⟨point :: Str.rstripBy (· = hash) (later ++ (last ++ back)), [], ?_,
      Or.inl ⟨rfl, _, rfl⟩⟩
    rw [codeSegments_of_divided whole, kept, filled_cons (List.cons_ne_nil _ _)]
    rfl
  · have whole := (divided.append apart).prepend_first starless
    have filledFirst : front ++ first ≠ [] := by simp [nonempty]
    refine ⟨_, _, ?_, Or.inr ⟨first, more, rfl, rfl, rfl⟩⟩
    rw [codeSegments_of_divided whole, filled_cons filledFirst, List.cons_append, take_two_cons]

theorem filled_rstrip_ne_nil {tail : Str} (some_ : filled [Str.rstripBy (· = hash) last] ≠ []) :
    filled [Str.rstripBy (· = hash) (last ++ tail)] ≠ [] := by
  intro none_
  apply some_
  have all : Str.rstripBy (· = hash) (last ++ tail) = [] := by
    by_contra kept
    rw [filled_cons kept] at none_
    exact absurd none_ (List.cons_ne_nil _ _)
  have hashes := List.rdropWhile_eq_nil_iff.1 all
  have dropped : Str.rstripBy (· = hash) last = [] :=
    List.rdropWhile_eq_nil_iff.2 fun point member =>
      hashes point (List.mem_append_left _ member)
  rw [dropped]
  rfl

theorem blank_first_iff (more : List Str) (back : Str) :
    (filled more ++ filled [Str.rstripBy (· = hash) last]).take 2 =
        front :: (filled more ++ filled [Str.rstripBy (· = hash) (last ++ back)]).take 1 ↔
      (filled more ++ filled [Str.rstripBy (· = hash) last]).take 2 = [front, front] := by
  have tails := @filled_rstrip_ne_nil last back
  generalize filled more = kept
  generalize filled [Str.rstripBy (· = hash) (last ++ back)] = longer at tails ⊢
  rcases kept with _ | ⟨second, _ | ⟨third, others⟩⟩
  · rw [List.nil_append, List.nil_append, take_two_filled]
    have few := length_filled_singleton (Str.rstripBy (· = hash) last)
    generalize filled [Str.rstripBy (· = hash) last] = ends at few tails ⊢
    constructor
    · rintro rfl
      rcases longer with _ | ⟨other, longer⟩
      · exact absurd rfl (tails (List.cons_ne_nil _ _))
      · exact absurd few (by simp)
    · rintro rfl
      exact absurd few (by simp)
  · rw [take_two_cons_filled]
    constructor
    · intro same
      obtain ⟨rfl, ending⟩ := List.cons.inj same
      rw [ending]
      rfl
    · intro same
      obtain ⟨rfl, ending⟩ := List.cons.inj same
      rw [ending]
      rfl
  · constructor
    · intro same
      obtain ⟨rfl, ending⟩ := List.cons.inj same
      obtain ⟨rfl, _⟩ := List.cons.inj ending
      rfl
    · intro same
      obtain ⟨rfl, ending⟩ := List.cons.inj same
      obtain ⟨rfl, _⟩ := List.cons.inj ending
      rfl

theorem undivided_code_ne {tail : Str} {point : CodePoint}
    (head : HeadKept CodePoint.isSpace last) (spaced : CodePoint.isSpace point = true)
    (others : List Str) :
    filled [Str.rstripBy (· = hash) last] ≠ (point :: tail) :: others := by
  intro same
  have member : point :: tail ∈ filled [Str.rstripBy (· = hash) last] := by
    rw [same]
    exact List.mem_cons_self
  have ends : point :: tail = Str.rstripBy (· = hash) last :=
    List.mem_singleton.1 (mem_filled.1 member).1
  obtain ⟨later, spelled⟩ := List.rdropWhile_prefix (fun point => decide (point = hash)) last
  refine (visible_head head ?_ spaced).elim
  rw [← spelled]
  exact congrArg (fun text : Str => (text ++ later).head?) ends.symm

theorem leading_harmless_iff (blank : Blank front) (nonempty : front ≠ [])
    (apart : star ∉ back) (head : HeadKept CodePoint.isSpace text)
    (divided : Divided star text before last) :
    codeSegments text = codeSegments (front ++ (text ++ back)) ↔
      codeSegments text = [front, front] := by
  have spaced := blank _ (List.head_mem nonempty)
  obtain ⟨segment, rest, read, shape⟩ := codeSegments_blank_append blank nonempty divided apart
  rw [read]
  rcases shape with ⟨rfl, tail, rfl⟩ | ⟨first, more, rfl, rfl, rfl⟩
  · have whole : text = last := divided.whole
    rw [whole] at head
    rw [codeSegments_of_divided divided, filled, List.filter_nil, List.nil_append,
      take_two_filled]
    refine iff_of_false (undivided_code_ne head spaced _) fun same => ?_
    have few := length_filled_singleton (Str.rstripBy (· = hash) last)
    rw [same] at few
    exact absurd few (by simp)
  · rw [codeSegments_of_divided divided]
    by_cases empty : first = []
    · subst empty
      rw [filled_cons_nil, List.append_nil]
      exact blank_first_iff more back
    · rw [filled_cons empty, List.cons_append, take_two_cons]
      constructor
      · intro same
        have longer := congrArg List.length (List.cons.inj same).1
        have positive := List.length_pos_iff.2 nonempty
        rw [List.length_append] at longer
        omega
      · intro same
        have opening : first = front := (List.cons.inj same).1
        refine (visible_head head ?_ spaced).elim
        rw [divided.whole, List.flatMap_cons, opening, List.append_assoc, List.append_assoc,
          List.head?_append_of_ne_nil _ nonempty, List.head?_eq_some_head nonempty]

end

structure OneCode (dialed : Str) : Prop where
  normalised : canonicalShortcode dialed = canonicalShortcode (normaliseDialed dialed)
  backfilled : ∀ code, backfilledServiceCode dialed = some code → canonicalShortcode dialed = code

def PlainSegments (dialed : Str) : Prop :=
  ∀ segment ∈ codeSegments (Str.strip dialed), ¬ escapedHash <:+: segment

/-- No white space around the dial; or after it only, with two segments before its last `*`; or
before it, where each of the two segments is that same white space. -/
def HarmlessSpace (dialed : Str) : Prop :=
  if leading dialed = [] then
    trailing dialed = [] ∨ 2 ≤ (segmentsBefore (Str.strip dialed)).length
  else codeSegments (Str.strip dialed) = [leading dialed, leading dialed]

theorem blank_leading (dialed : Str) : Blank (leading dialed) := fun _ member =>
  List.mem_takeWhile_imp member

theorem blank_trailing (dialed : Str) : Blank (trailing dialed) := fun _ member =>
  List.mem_rtakeWhile_imp member

theorem unescaped_dial (dialed : Str) :
    unescaped dialed =
      leading dialed ++ (unescaped (Str.strip dialed) ++ trailing dialed) := by
  have whole := congrArg unescaped (whole_dial dialed)
  rwa [List.append_assoc, unescaped_blank_append (blank_leading dialed),
    unescaped_append_blank (blank_trailing dialed)] at whole

theorem oneCode_iff_segments (dialed : Str) :
    OneCode dialed ↔
      codeSegments (Str.strip dialed) = codeSegments (unescaped (Str.strip dialed)) ∧
        (codeSegments (unescaped dialed) = [] ∨
          codeSegments (Str.strip dialed) = codeSegments (unescaped dialed)) := by
  have logged := canonicalShortcode_eq dialed
  constructor
  · rintro ⟨normalised, backfilled⟩
    rw [canonicalShortcode_normaliseDialed, logged, codeOf_codeSegments_inj] at normalised
    refine ⟨normalised, ?_⟩
    by_cases left : codeSegments (unescaped dialed) = []
    · exact Or.inl left
    · have given := backfilled _ (by rw [backfilledServiceCode_eq, if_neg left])
      rw [logged, codeOf_codeSegments_inj] at given
      exact Or.inr given
  · rintro ⟨normalised, backfilled⟩
    refine ⟨?_, fun code given => ?_⟩
    · rw [canonicalShortcode_normaliseDialed, logged, normalised]
    · rw [backfilledServiceCode_eq] at given
      split at given
      next => exact absurd given (by simp)
      next kept =>
        rcases backfilled with left | same
        · exact absurd left kept
        · rw [logged, same]
          exact Option.some.inj given

theorem migrated_iff (dialed : Str)
    (plain : codeSegments (Str.strip dialed) = codeSegments (unescaped (Str.strip dialed))) :
    (codeSegments (unescaped dialed) = [] ∨
        codeSegments (Str.strip dialed) = codeSegments (unescaped dialed)) ↔
      HarmlessSpace dialed := by
  obtain ⟨before, last, divided⟩ := exists_divided star (Str.strip dialed)
  have decoded := divided.map (unescaped_sides star_not_mem_escapedHash)
    fun _ => star_not_mem_unescaped
  rw [unescaped_dial, HarmlessSpace]
  by_cases front : leading dialed = []
  · rw [if_pos front, front, List.nil_append]
    by_cases back : trailing dialed = []
    · rw [back, List.append_nil]
      exact iff_of_true (Or.inr plain) (Or.inl rfl)
    · have read := codeSegments_append_blank (blank_trailing dialed) back decoded
      have some_ : codeSegments (unescaped (Str.strip dialed) ++ trailing dialed) ≠ [] := by
        rw [read]
        simp
      have kept := trailing_harmless_iff (blank_trailing dialed) back decoded
      rw [filled_map_unescaped, List.length_map, ← segmentsBefore_of_divided divided, ← plain]
        at kept
      simp only [some_, back, false_or, kept]
  · have head : HeadKept CodePoint.isSpace (unescaped (Str.strip dialed)) :=
      headKept_unescaped (headKept_strip CodePoint.isSpace dialed)
    have starless : star ∉ trailing dialed := (blank_trailing dialed).apart (by decide)
    obtain ⟨segment, rest, read, _⟩ :=
      codeSegments_blank_append (blank_leading dialed) front decoded starless
    have some_ : codeSegments (leading dialed ++ (unescaped (Str.strip dialed) ++
        trailing dialed)) ≠ [] := by
      rw [read]
      exact List.cons_ne_nil _ _
    have kept := leading_harmless_iff (blank_leading dialed) front starless head decoded
    rw [← plain] at kept
    rw [if_neg front]
    simp only [some_, false_or, kept]

/-- A dial has one code exactly when no escape is in the segments of the code, and the white space
around it, which the migration keeps, changes none of them. -/
theorem oneCode_iff (dialed : Str) :
    OneCode dialed ↔ PlainSegments dialed ∧ HarmlessSpace dialed := by
  rw [oneCode_iff_segments]
  constructor
  · rintro ⟨plain, migrated⟩
    exact ⟨(codeSegments_unescaped_iff _).1 plain, (migrated_iff dialed plain).1 migrated⟩
  · rintro ⟨free, harmless⟩
    have plain := (codeSegments_unescaped_iff _).2 free
    exact ⟨plain, (migrated_iff dialed plain).2 harmless⟩

theorem logServiceCode_eq (ur : UnifiedRequest) :
    logServiceCode ur = Str.orElse
      (canonicalShortcode (ur.rawPayload.getText (lit "dialed_code"))) ur.serviceCode := by
  rw [logServiceCode]
  split
  next empty =>
    rw [empty]
    rfl
  next => rfl

/-- An aggregator escapes the `#` twice: the log has a code of its own for the dial. -/
theorem escaped_dial_logged_apart :
    Tigo.dialedCode [(lit "short_code", .text (lit "*148*69%23"))] true = lit "*148*69%23" ∧
      canonicalShortcode (lit "*148*69%23") = lit "*148*69%23#" ∧
      canonicalShortcode (normaliseDialed (lit "*148*69%23")) = lit "*148*69#" ∧
      backfilledServiceCode (lit "*148*69%23") = some (lit "*148*69#") ∧
      ¬ OneCode (lit "*148*69%23") := by
  refine ⟨by decide, by decide, by decide, by decide, ?_⟩
  intro one
  exact absurd one.normalised (by decide)

end UssdGateway
