import UssdGateway.Gateway.BackfilledCodes

/-!
The spellings of a dial that have one canonical form.
-/

namespace UssdGateway

open Trimming

/-- A `#` at the end of a dial, as it is or escaped by a proxy. -/
inductive HashMark where
  | plain
  | escaped

def HashMark.text : HashMark → Str
  | .plain => [hash]
  | .escaped => escapedHash

def dialVariant (front : Str) (stars : Nat) (core : Str) (marks : List HashMark) (back : Str) :
    Str :=
  front ++ (List.replicate stars star ++ (core ++ marks.flatMap HashMark.text)) ++ back

structure PlainCore (core : Str) : Prop extends DialBody core where
  trimmed : Str.strip core = core

theorem escape_leads {text rest : Str} (leads : escapedHash <+: text ++ (escapedHash ++ rest)) :
    text = [] ∨ escapedHash <+: text := by
  rcases text with _ | ⟨first, _ | ⟨second, _ | ⟨third, later⟩⟩⟩
  · exact Or.inl rfl
  · obtain ⟨_, overlap⟩ := List.cons_prefix_cons.1 leads
    exact absurd (List.cons_prefix_cons.1 overlap).1 (by decide)
  · obtain ⟨_, overlap⟩ := List.cons_prefix_cons.1 leads
    obtain ⟨_, last⟩ := List.cons_prefix_cons.1 overlap
    exact absurd (List.cons_prefix_cons.1 last).1 (by decide)
  · obtain ⟨same, leads⟩ := List.cons_prefix_cons.1 leads
    obtain ⟨same', leads⟩ := List.cons_prefix_cons.1 leads
    obtain ⟨same'', _⟩ := List.cons_prefix_cons.1 leads
    refine Or.inr ⟨later, ?_⟩
    rw [← same, ← same', ← same'']
    rfl

theorem unescaped_append_escape (text rest : Str) :
    unescaped (text ++ (escapedHash ++ rest)) = unescaped text ++ hash :: unescaped rest := by
  induction text using Str.replaceAll_induction escapedHash_ne_nil with
  | nil =>
      rw [List.nil_append, unescaped_of_escape (List.prefix_append _ _)]
      rfl
  | found later ih =>
      rw [List.append_assoc, unescaped_of_escape (List.prefix_append _ _),
        unescaped_of_escape (List.prefix_append _ _)]
      exact congrArg (hash :: ·) ih
  | cons point later plain ih =>
      rw [List.cons_append, unescaped_cons, unescaped_cons plain, ih, List.cons_append]
      intro leads
      rcases @escape_leads (point :: later) rest leads with empty | inside
      · exact absurd empty (List.cons_ne_nil _ _)
      · exact plain inside

theorem unescaped_marks (text : Str) (marks : List HashMark) :
    unescaped (text ++ marks.flatMap HashMark.text) =
      unescaped text ++ List.replicate marks.length hash := by
  induction marks generalizing text with
  | nil =>
      rw [List.flatMap_nil, List.append_nil]
      exact (List.append_nil _).symm
  | cons mark rest ih =>
      have later := ih []
      rw [List.nil_append, unescaped_nil, List.nil_append] at later
      rw [List.flatMap_cons, List.length_cons, List.replicate_succ, ← later]
      cases mark with
      | plain => exact unescaped_sides hash_not_mem_escapedHash text _
      | escaped => exact unescaped_append_escape text _

theorem unescaped_stars (stars : Nat) (text : Str) :
    unescaped (List.replicate stars star ++ text) =
      List.replicate stars star ++ unescaped text := by
  refine Str.replaceAll_skip (fun member => ?_) text
  exact absurd (List.eq_of_mem_replicate member) (by decide)

section

variable {front spelled back : Str}

theorem dialCore_marked {body : Str} (dial : DialBody body) (stars marks : Nat) :
    dialCore (List.replicate stars star ++ (body ++ List.replicate marks hash)) = body := by
  have opened : Str.lstripBy (· = star) (List.replicate stars star ++
      (body ++ List.replicate marks hash)) = body ++ List.replicate marks hash := by
    rw [Str.lstripBy, List.dropWhile_append_of_pos]
    · refine lstrip_of_head ?_
      rw [List.head?_append_of_ne_nil _ dial.nonempty]
      exact dial.opens
    · intro point member
      exact decide_eq_true (List.eq_of_mem_replicate member)
  have closed : Str.rstripBy (· = hash) (body ++ List.replicate marks hash) =
      Str.rstripBy (· = hash) body := by
    refine rdropWhile_append_blank (fun point member => ?_) body
    exact decide_eq_true (List.eq_of_mem_replicate member)
  rw [dialCore, opened, closed, dial.rstrip]

theorem lastKept_mark (mark : HashMark) (text : Str) :
    LastKept CodePoint.isSpace (text ++ mark.text) := by
  have nonempty : mark.text ≠ [] := by cases mark <;> exact List.cons_ne_nil _ _
  intro point last
  rw [List.getLast?_append_of_ne_nil _ nonempty] at last
  cases mark with
  | plain =>
      obtain rfl := Option.some.inj last
      decide
  | escaped =>
      obtain rfl := Option.some.inj last
      decide

theorem strip_dialVariant (nonempty : spelled ≠ []) (trimmed : Str.strip spelled = spelled)
    (stars : Nat) (marks : List HashMark) (frontBlank : Blank front) (backBlank : Blank back) :
    Str.strip (dialVariant front stars spelled marks back) =
      List.replicate stars star ++ (spelled ++ marks.flatMap HashMark.text) := by
  have head := headKept_strip CodePoint.isSpace spelled
  have last := lastKept_strip CodePoint.isSpace spelled
  change HeadKept CodePoint.isSpace (Str.strip spelled) at head
  change LastKept CodePoint.isSpace (Str.strip spelled) at last
  rw [trimmed] at head last
  refine (strip_eq_middle_iff front _ back).2 ⟨frontBlank, backBlank, ?_, ?_⟩
  · intro point first
    rcases stars with _ | stars
    · rw [List.replicate_zero, List.nil_append,
        List.head?_append_of_ne_nil _ nonempty] at first
      exact head point first
    · rw [List.replicate_succ, List.cons_append] at first
      obtain rfl := Option.some.inj first
      decide
  · rcases marks.eq_nil_or_concat with rfl | ⟨earlier, mark, rfl⟩
    · rw [List.flatMap_nil, List.append_nil]
      intro point ending
      rw [List.getLast?_append_of_ne_nil _ nonempty] at ending
      exact last point ending
    · rw [List.concat_eq_append, List.flatMap_append, List.flatMap_singleton, ← List.append_assoc,
        ← List.append_assoc]
      exact lastKept_mark mark _

theorem normaliseDialed_dialVariant (dial : DialBody (unescaped spelled))
    (trimmed : Str.strip spelled = spelled) (stars : Nat) (marks : List HashMark)
    (frontBlank : Blank front) (backBlank : Blank back) :
    normaliseDialed (dialVariant front stars spelled marks back) =
      star :: unescaped spelled ++ [hash] := by
  have nonempty : spelled ≠ [] := fun empty => dial.nonempty (unescaped_eq_nil_iff.2 empty)
  have stripped := strip_dialVariant nonempty trimmed stars marks frontBlank backBlank
  have some_ : Str.strip (dialVariant front stars spelled marks back) ≠ [] := by
    rw [stripped]
    exact List.append_ne_nil_of_right_ne_nil _ (List.append_ne_nil_of_left_ne_nil nonempty _)
  have decoded : unescaped (Str.strip (dialVariant front stars spelled marks back)) =
      List.replicate stars star ++ (unescaped spelled ++ List.replicate marks.length hash) := by
    rw [stripped, unescaped_stars, unescaped_marks]
  rw [normaliseDialed_of_nonempty some_]
  change (if dialCore (unescaped (Str.strip _)) = [] then [] else
    star :: dialCore (unescaped (Str.strip _)) ++ [hash]) = _
  rw [decoded, dialCore_marked dial, if_neg dial.nonempty]

end

theorem normaliseDialed_normaliseDialed (raw : Str) :
    normaliseDialed (normaliseDialed raw) = normaliseDialed raw := by
  rcases normaliseDialed_eq raw with empty | ⟨body, dial, same⟩
  · rw [empty]
    rfl
  · rw [same, dial.normaliseDialed]

/-- Normalising twice is normalising once, and a core has one form in all its variants. -/
theorem normaliseDialed_canonical :
    (∀ raw, normaliseDialed (normaliseDialed raw) = normaliseDialed raw) ∧
      ∀ core, PlainCore core → ∀ front stars marks back, Blank front → Blank back →
        normaliseDialed (dialVariant front stars core marks back) = star :: core ++ [hash] := by
  refine ⟨normaliseDialed_normaliseDialed, ?_⟩
  intro core plain front stars marks back frontBlank backBlank
  have decoded := unescaped_of_absent plain.noEscape
  have dial : DialBody (unescaped core) := by
    rw [decoded]
    exact plain.toDialBody
  rw [normaliseDialed_dialVariant dial plain.trimmed stars marks frontBlank backBlank, decoded]

theorem padded_dial_canonical :
    normaliseDialed (lit " **148*69%23#\t") = lit "*148*69#" := by
  have plain : PlainCore (lit "148*69") :=
    ⟨⟨by decide, by decide, by decide, by decide⟩, by decide⟩
  have front : Blank (lit " ") := List.forall_mem_singleton.2 rfl
  have back : Blank (lit "\t") := List.forall_mem_singleton.2 rfl
  exact normaliseDialed_canonical.2 _ plain (lit " ") 2 [.escaped, .plain] (lit "\t") front back

theorem unescaped_eq_append {text first second : Str} (same : unescaped text = first ++ second) :
    ∃ before after, text = before ++ after ∧ unescaped before = first ∧
      unescaped after = second := by
  induction text using Str.replaceAll_induction escapedHash_ne_nil generalizing first with
  | nil =>
      obtain ⟨rfl, rfl⟩ := List.append_eq_nil_iff.1 same.symm
      exact ⟨[], [], rfl, rfl, rfl⟩
  | found later ih =>
      rcases first with _ | ⟨opening, first⟩
      · exact ⟨[], _, rfl, rfl, same⟩
      rw [unescaped_of_escape (List.prefix_append _ _)] at same
      obtain ⟨rfl, rest⟩ := List.cons.inj same
      obtain ⟨before, after, whole, left, right⟩ := ih rest
      refine ⟨escapedHash ++ before, after, ?_, ?_, right⟩
      · rw [whole, List.append_assoc]
      · rw [unescaped_of_escape (List.prefix_append _ _)]
        exact congrArg (hash :: ·) left
  | cons point later plain ih =>
      rcases first with _ | ⟨opening, first⟩
      · exact ⟨[], _, rfl, rfl, same⟩
      rw [unescaped_cons plain] at same
      obtain ⟨rfl, rest⟩ := List.cons.inj same
      obtain ⟨before, after, rfl, left, right⟩ := ih rest
      refine ⟨point :: before, after, rfl, ?_, right⟩
      rw [unescaped_cons fun leads => plain (leads.trans ?_), left]
      exact List.cons_prefix_cons.2 ⟨rfl, List.prefix_append before after⟩

theorem eq_of_unescaped_stars {text : Str} {stars : Nat}
    (same : unescaped text = List.replicate stars star) : text = List.replicate stars star := by
  have apart : hash ∉ unescaped text := by
    rw [same]
    exact fun member => absurd (List.eq_of_mem_replicate member) (by decide)
  rw [← same]
  symm
  refine unescaped_of_absent fun found => apart ?_
  obtain ⟨before, after, rfl⟩ := found
  rw [List.append_assoc, unescaped_append_escape]
  exact List.mem_append_right _ List.mem_cons_self

theorem exists_marks {text : Str} {count : Nat}
    (same : unescaped text = List.replicate count hash) :
    ∃ marks : List HashMark, text = marks.flatMap HashMark.text := by
  induction text using Str.replaceAll_induction escapedHash_ne_nil generalizing count with
  | nil => exact ⟨[], rfl⟩
  | found later ih =>
      rw [unescaped_of_escape (List.prefix_append _ _)] at same
      rcases count with _ | count
      · exact absurd same (List.cons_ne_nil _ _)
      obtain ⟨marks, rfl⟩ := ih (List.cons.inj same).2
      exact ⟨.escaped :: marks, rfl⟩
  | cons point later plain ih =>
      rw [unescaped_cons plain] at same
      rcases count with _ | count
      · exact absurd same (List.cons_ne_nil _ _)
      obtain ⟨rfl, rest⟩ := List.cons.inj same
      obtain ⟨marks, rfl⟩ := ih rest
      exact ⟨.plain :: marks, rfl⟩

theorem exists_stars_hashes (text : Str) :
    ∃ stars count, text =
      List.replicate stars star ++ (dialCore text ++ List.replicate count hash) := by
  let opened := Str.lstripBy (· = star) text
  have stars : text.takeWhile (· = star) =
      List.replicate (text.takeWhile (· = star)).length star :=
    List.eq_replicate_of_mem fun point member => of_decide_eq_true
      (@List.mem_takeWhile_imp _ (fun point => decide (point = star)) _ _ member)
  have hashes : opened.rtakeWhile (· = hash) =
      List.replicate (opened.rtakeWhile (· = hash)).length hash :=
    List.eq_replicate_of_mem fun point member => of_decide_eq_true
      (@List.mem_rtakeWhile_imp _ (fun point => decide (point = hash)) _ _ member)
  have closed : dialCore text ++ opened.rtakeWhile (· = hash) = opened :=
    List.rdropWhile_append_rtakeWhile
  refine ⟨(text.takeWhile (· = star)).length, (opened.rtakeWhile (· = hash)).length, ?_⟩
  rw [← stars, ← hashes, closed]
  exact List.takeWhile_append_dropWhile.symm

theorem strip_eq_of_unescaped {spelled : Str}
    (trimmed : Str.strip (unescaped spelled) = unescaped spelled) :
    Str.strip spelled = spelled := by
  have head := headKept_strip CodePoint.isSpace (unescaped spelled)
  have last := lastKept_strip CodePoint.isSpace (unescaped spelled)
  change HeadKept CodePoint.isSpace (Str.strip _) at head
  change LastKept CodePoint.isSpace (Str.strip _) at last
  rw [trimmed] at head last
  have kept : Str.strip ([] ++ spelled ++ []) = spelled := by
    refine (strip_eq_middle_iff [] spelled []).2
      ⟨List.forall_mem_nil _, List.forall_mem_nil _, ?_, ?_⟩
    · intro point first
      by_contra blank
      obtain ⟨rest, rfl⟩ := List.head?_eq_some_iff.1 first
      have opening : unescaped (point :: rest) = point :: unescaped rest :=
        @unescaped_blank_append [point]
          (List.forall_mem_singleton.2 (Bool.eq_true_of_not_eq_false blank)) rest
      refine blank (head point ?_)
      rw [opening]
      rfl
    · intro point ending
      by_contra blank
      obtain ⟨rest, rfl⟩ := List.getLast?_eq_some_iff.1 ending
      refine blank (last point ?_)
      rw [@unescaped_append_blank [point]
        (List.forall_mem_singleton.2 (Bool.eq_true_of_not_eq_false blank))]
      exact List.getLast?_concat
  rwa [List.nil_append, List.append_nil] at kept

theorem normaliseDialed_eq_iff {core : Str} (plain : PlainCore core) (raw : Str) :
    normaliseDialed raw = star :: core ++ [hash] ↔
      ∃ front stars spelled marks back, Blank front ∧ Blank back ∧ unescaped spelled = core ∧
        raw = dialVariant front stars spelled marks back := by
  constructor
  · intro same
    by_cases blank : Str.strip raw = []
    · rw [normaliseDialed, blank] at same
      exact absurd same (List.cons_ne_nil _ _).symm
    rw [normaliseDialed_of_nonempty blank] at same
    change (if dialCore (unescaped (Str.strip raw)) = [] then [] else
      star :: dialCore (unescaped (Str.strip raw)) ++ [hash]) = _ at same
    split at same
    next => exact absurd same (List.cons_ne_nil _ _).symm
    next =>
      have core_ := List.append_cancel_right (List.cons.inj same).2
      obtain ⟨stars, count, whole⟩ := exists_stars_hashes (unescaped (Str.strip raw))
      rw [core_] at whole
      obtain ⟨before, after, inner, left, right⟩ := unescaped_eq_append whole
      obtain ⟨spelled, ending, rfl, decoded, hashes⟩ := unescaped_eq_append right
      obtain ⟨marks, rfl⟩ := exists_marks hashes
      rw [eq_of_unescaped_stars left] at inner
      refine ⟨leading raw, stars, spelled, marks, trailing raw, blank_leading raw,
        blank_trailing raw, decoded, ?_⟩
      rw [dialVariant, ← inner]
      exact whole_dial raw
  · rintro ⟨front, stars, spelled, marks, back, frontBlank, backBlank, rfl, rfl⟩
    exact normaliseDialed_dialVariant plain.toDialBody (strip_eq_of_unescaped plain.trimmed) stars
      marks frontBlank backBlank

end UssdGateway
