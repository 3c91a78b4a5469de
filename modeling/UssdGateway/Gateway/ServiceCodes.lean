import UssdGateway.Gateway.DialedCodes
import UssdGateway.Library.Segments

/-!
One service code for a dial: the code that is logged, the code of the normalised dial, and the code
that migration 009 gave the rows logged before.
-/

namespace UssdGateway

open Segments Trimming

def unescaped (text : Str) : Str := Str.replace escapedHash [hash] text.length text

theorem unescaped_eq (text : Str) : unescaped text = Str.replaceAll escapedHash [hash] text := rfl

theorem escapedHash_ne_nil : escapedHash ≠ [] := by decide

theorem unescaped_nil : unescaped [] = [] := rfl

theorem unescaped_of_escape {text : Str} (escaped : escapedHash <+: text) :
    unescaped text = hash :: unescaped (text.drop 3) := by
  obtain ⟨rest, rfl⟩ := escaped
  rw [unescaped_eq, Str.replaceAll_append escapedHash_ne_nil]
  rfl

theorem unescaped_cons {point : CodePoint} {rest : Str} (plain : ¬ escapedHash <+: point :: rest) :
    unescaped (point :: rest) = point :: unescaped rest := Str.replaceAll_cons plain

theorem unescaped_of_absent {text : Str} (plain : ¬ escapedHash <:+: text) :
    unescaped text = text := Str.replaceAll_of_absent plain

theorem noEscape_unescaped (text : Str) : ¬ escapedHash <:+: unescaped text :=
  not_infix_replace (by decide) (by decide) (Nat.le_refl _)

theorem unescaped_sides {separator : CodePoint} (apart : separator ∉ escapedHash)
    (first rest : Str) :
    unescaped (first ++ separator :: rest) = unescaped first ++ separator :: unescaped rest :=
  Str.replaceAll_sides escapedHash_ne_nil apart first rest

theorem star_not_mem_unescaped {text : Str} (apart : star ∉ text) : star ∉ unescaped text := by
  induction size : text.length using Nat.strongRecOn generalizing text with
  | ind size ih =>
      subst size
      rcases text with _ | ⟨point, rest⟩
      · exact List.not_mem_nil
      by_cases escaped : escapedHash <+: point :: rest
      · obtain ⟨later, same⟩ := escaped
        have shorter : later.length < (point :: rest).length := by
          rw [← same, List.length_append]
          exact Nat.lt_add_of_pos_left (by decide)
        rw [← same] at apart ⊢
        rw [unescaped_of_escape (List.prefix_append _ _), List.mem_cons]
        rintro (sign | inside)
        · exact absurd sign (by decide)
        · exact ih later.length shorter (fun member => apart (List.mem_append_right _ member)) rfl
            inside
      · rw [unescaped_cons escaped, List.mem_cons]
        rintro (rfl | inside)
        · exact apart List.mem_cons_self
        · exact ih rest.length (Nat.lt_succ_self _)
            (fun member => apart (List.mem_cons_of_mem _ member)) rfl inside

theorem unescaped_eq_nil_iff {text : Str} : unescaped text = [] ↔ text = [] := by
  constructor
  · intro empty
    rcases text with _ | ⟨point, rest⟩
    · rfl
    by_cases escaped : escapedHash <+: point :: rest
    · rw [unescaped_of_escape escaped] at empty
      exact absurd empty (List.cons_ne_nil _ _)
    · rw [unescaped_cons escaped] at empty
      exact absurd empty (List.cons_ne_nil _ _)
  · rintro rfl
    rfl

def filled (segments : List Str) : List Str := segments.filter fun segment => segment ≠ []

def codeSegments (text : Str) : List Str :=
  (filled (Str.split star (Str.rstripBy (· = hash) text))).take 2

def codeOf (segments : List Str) : Str :=
  if segments = [] then [] else [star] ++ Str.join [star] segments ++ [hash]

theorem filled_append (first second : List Str) :
    filled (first ++ second) = filled first ++ filled second := List.filter_append first second

theorem filled_cons_nil (segments : List Str) : filled ([] :: segments) = filled segments := rfl

theorem filled_cons {segment : Str} (nonempty : segment ≠ []) (segments : List Str) :
    filled (segment :: segments) = segment :: filled segments := by
  rw [filled, List.filter_cons, if_pos (decide_eq_true nonempty), filled]

theorem mem_filled {segments : List Str} {segment : Str} :
    segment ∈ filled segments ↔ segment ∈ segments ∧ segment ≠ [] := by
  simp [filled]

theorem length_filled_singleton (segment : Str) : (filled [segment]).length ≤ 1 :=
  List.length_filter_le _ _

theorem take_two_filled (segment : Str) : (filled [segment]).take 2 = filled [segment] :=
  List.take_of_length_le ((length_filled_singleton segment).trans (by decide))

theorem take_two_cons_filled (first segment : Str) :
    ([first] ++ filled [segment]).take 2 = first :: filled [segment] := by
  refine List.take_of_length_le ?_
  have few := length_filled_singleton segment
  rw [List.length_append, List.length_singleton]
  omega

theorem filled_map_unescaped (segments : List Str) :
    filled (segments.map unescaped) = (filled segments).map unescaped := by
  induction segments with
  | nil => rfl
  | cons segment rest ih =>
      by_cases empty : segment = []
      · rw [empty, List.map_cons, unescaped_nil, filled_cons_nil, filled_cons_nil, ih]
      · have kept : unescaped segment ≠ [] := fun same => empty (unescaped_eq_nil_iff.1 same)
        rw [List.map_cons, filled_cons kept, filled_cons empty, List.map_cons, ih]

theorem filled_dialCore (text : Str) :
    filled (Str.split star (dialCore text)) =
      filled (Str.split star (Str.rstripBy (· = hash) text)) := by
  induction text with
  | nil => rfl
  | cons point rest ih =>
      by_cases same : point = star
      · have opened : dialCore (point :: rest) = dialCore rest :=
          congrArg (Str.rstripBy (· = hash))
            (@List.dropWhile_cons_of_pos _ (fun point => decide (point = star)) point rest
              (decide_eq_true same))
        have apart : (decide (point = hash)) = false := by
          rw [same]
          decide
        have kept : Str.rstripBy (· = hash) (point :: rest) =
            point :: Str.rstripBy (· = hash) rest :=
          @rdropWhile_append_kept _ (fun point => decide (point = hash)) [] point apart rest
        have divided : (star :: Str.rstripBy (· = hash) rest).splitOn star =
            [] :: (Str.rstripBy (· = hash) rest).splitOn star :=
          List.splitOn_append_cons_self_of_not_mem List.not_mem_nil _
        rw [opened, ih, kept, same]
        exact (congrArg filled divided).symm
      · have opens : (point :: rest).head? ≠ some star := fun first =>
          same (Option.some.inj first)
        rw [dialCore, lstrip_of_head opens]

theorem codeSegments_of_divided {text last : Str} {before : List Str}
    (divided : Divided star text before last) :
    codeSegments text = (filled before ++ filled [Str.rstripBy (· = hash) last]).take 2 := by
  have apart : (decide (star = hash)) = false := by decide
  have ended := @Divided.rdropWhile _ star text last before divided
    (fun point => decide (point = hash)) apart
  have parts : Str.split star (Str.rstripBy (· = hash) text) =
      before ++ [Str.rstripBy (· = hash) last] := ended.split
  rw [codeSegments, parts, filled_append]

theorem canonicalShortcode_eq (dialed : Str) :
    canonicalShortcode dialed = codeOf (codeSegments (Str.strip dialed)) := by
  have core := filled_dialCore (Str.strip dialed)
  rw [codeSegments, ← core]
  change (if dialCore (Str.strip dialed) = [] then [] else
    if filled (Str.split star (dialCore (Str.strip dialed))) = [] then [] else
      [star] ++ Str.join [star] ((filled (Str.split star (dialCore (Str.strip dialed)))).take 2) ++
        [hash]) = _
  by_cases empty : dialCore (Str.strip dialed) = []
  · rw [if_pos empty, empty]
    rfl
  · rw [if_neg empty, codeOf]
    simp [List.take_eq_nil_iff]

theorem canonicalShortcode_normaliseDialed (dialed : Str) :
    canonicalShortcode (normaliseDialed dialed) =
      codeOf (codeSegments (unescaped (Str.strip dialed))) := by
  have empties : codeOf (codeSegments []) = [] := rfl
  by_cases blank : Str.strip dialed = []
  · have none_ : normaliseDialed dialed = [] := by
      rw [normaliseDialed]
      exact if_pos blank
    rw [none_, blank]
    rfl
  rw [normaliseDialed_of_nonempty blank]
  change canonicalShortcode (if dialCore (unescaped (Str.strip dialed)) = [] then [] else
    star :: dialCore (unescaped (Str.strip dialed)) ++ [hash]) = _
  generalize plain : unescaped (Str.strip dialed) = text
  have core := filled_dialCore text
  split
  next empty =>
    have none_ : codeSegments text = [] := by
      rw [codeSegments, ← core, empty]
      rfl
    rw [none_]
    rfl
  next body =>
    have dial : DialBody (dialCore text) :=
      dialBody_dialCore body (plain ▸ noEscape_unescaped (Str.strip dialed))
    have wrapped := filled_dialCore (star :: dialCore text ++ [hash])
    rw [dial.dialCore] at wrapped
    rw [canonicalShortcode_eq, strip_dial, codeSegments, ← wrapped, codeSegments, ← core]

theorem apart_of_mem_codeSegments {text segment : Str} (member : segment ∈ codeSegments text) :
    star ∉ segment ∧ segment ≠ [] ∧ segment <:+: text := by
  obtain ⟨before, last, divided⟩ := exists_divided star (Str.rstripBy (· = hash) text)
  have parts : Str.split star (Str.rstripBy (· = hash) text) = before ++ [last] := divided.split
  rw [codeSegments, parts] at member
  obtain ⟨inside, nonempty⟩ := mem_filled.1 (List.mem_of_mem_take member)
  refine ⟨?_, nonempty, (divided.isInfix inside).trans
    (List.rdropWhile_prefix (fun point => decide (point = hash)) text).isInfix⟩
  rcases List.mem_append.1 inside with earlier | ending
  · exact divided.apart segment earlier
  · rw [List.mem_singleton.1 ending]
    exact divided.apartLast

theorem codeOf_inj {first second : List Str} (firstApart : ∀ segment ∈ first, star ∉ segment)
    (secondApart : ∀ segment ∈ second, star ∉ segment)
    (same : codeOf first = codeOf second) : first = second := by
  have spelled : ∀ segments : List Str, segments ≠ [] →
      codeOf segments = star :: Str.join [star] segments ++ [hash] := fun segments nonempty =>
    if_neg nonempty
  by_cases noFirst : first = []
  · by_cases noSecond : second = []
    · rw [noFirst, noSecond]
    · rw [noFirst, spelled second noSecond] at same
      exact absurd same (List.cons_ne_nil _ _).symm
  · by_cases noSecond : second = []
    · rw [noSecond, spelled first noFirst] at same
      exact absurd same (List.cons_ne_nil _ _)
    · rw [spelled first noFirst, spelled second noSecond] at same
      have joined : [star].intercalate first = [star].intercalate second :=
        List.append_cancel_right (List.cons.inj same).2
      rw [← List.splitOn_intercalate star firstApart noFirst, joined,
        List.splitOn_intercalate star secondApart noSecond]

theorem codeOf_codeSegments_inj {first second : Str} :
    codeOf (codeSegments first) = codeOf (codeSegments second) ↔
      codeSegments first = codeSegments second := by
  constructor
  · exact codeOf_inj (fun _ member => (apart_of_mem_codeSegments member).1)
      fun _ member => (apart_of_mem_codeSegments member).1
  · intro same
    rw [same]

theorem noEscape_of_rstrip {text : Str}
    (plain : ¬ escapedHash <:+: Str.rstripBy (· = hash) text) : ¬ escapedHash <:+: text := by
  obtain ⟨hashes, whole, trailing⟩ : ∃ hashes, Str.rstripBy (· = hash) text ++ hashes = text ∧
      ∀ point ∈ hashes, point = hash :=
    ⟨_, @List.rdropWhile_append_rtakeWhile _ (fun point => decide (point = hash)) text,
      fun point member => by simpa using List.mem_rtakeWhile_imp member⟩
  rw [← whole]
  clear whole
  induction hashes using List.reverseRecOn with
  | nil => rwa [List.append_nil]
  | append_singleton hashes point ih =>
      have last : point = hash := trailing point (by simp)
      subst last
      intro found
      rw [← List.append_assoc] at found
      rcases infix_append_separator hash_not_mem_escapedHash found with before | after
      · exact ih (fun point member => trailing point (List.mem_append_left _ member)) before
      · exact absurd after (by decide)

theorem codeSegments_unescaped_iff (text : Str) :
    codeSegments text = codeSegments (unescaped text) ↔
      ∀ segment ∈ codeSegments text, ¬ escapedHash <:+: segment := by
  constructor
  · intro same segment member found
    rw [same] at member
    exact noEscape_unescaped text (found.trans (apart_of_mem_codeSegments member).2.2)
  · intro plain
    obtain ⟨before, last, divided⟩ := exists_divided star text
    have changed := divided.map (unescaped_sides star_not_mem_escapedHash)
      fun _ => star_not_mem_unescaped
    rw [codeSegments_of_divided divided] at plain ⊢
    rw [codeSegments_of_divided changed, filled_map_unescaped]
    have ending : (∀ segment ∈ filled [Str.rstripBy (· = hash) last],
        ¬ escapedHash <:+: segment) → unescaped last = last := by
      intro free
      apply unescaped_of_absent
      apply noEscape_of_rstrip
      by_cases empty : Str.rstripBy (· = hash) last = []
      · rw [empty]
        decide
      · exact free _ (mem_filled.2 ⟨List.mem_singleton_self _, empty⟩)
    generalize filled before = front at plain ⊢
    rcases front with _ | ⟨first, _ | ⟨second, rest⟩⟩
    · rw [List.nil_append, take_two_filled] at plain
      rw [ending plain]
      rfl
    · rw [take_two_cons_filled] at plain
      obtain ⟨here, later⟩ := List.forall_mem_cons.1 plain
      rw [ending later, List.map_singleton, unescaped_of_absent here]
    · obtain ⟨here, later⟩ := List.forall_mem_cons.1 plain
      have next := later second List.mem_cons_self
      change [first, second] = [unescaped first, unescaped second]
      rw [unescaped_of_absent here, unescaped_of_absent next]

end UssdGateway
