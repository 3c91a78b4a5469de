import UssdGateway.Gateway.XmlDocuments

/-!
Line breaks as Halotel's adapter finds them in an escaped text, and the texts that edits leave free
of them.
-/

namespace UssdGateway

namespace Halotel

open Xml Str

def breakSpace (point : CodePoint) : Bool :=
  (decide (0x09 ≤ point.val) && decide (point.val ≤ 0x0D)) || decide (point.val = 0x20)

def dropStart : Str → Str → Option Str
  | [], text => some text
  | _ :: _, [] => none
  | first :: start, point :: rest => if point.toLower = first then dropStart start rest else none

def withoutSlash : Str → Str
  | [] => []
  | point :: rest => if point = chr '/' then rest else point :: rest

def matchBreak (opening closing text : Str) : Option Str :=
  (dropStart opening text).bind fun inner =>
    (dropStart (lit "br") (inner.dropWhile breakSpace)).bind fun rest =>
      dropStart closing ((withoutSlash (rest.dropWhile breakSpace)).dropWhile breakSpace)

def unescapeBreaks : Nat → Str → Str
  | 0, text => text
  | _ + 1, [] => []
  | fuel + 1, point :: rest =>
      match matchBreak (lit "&lt;") (lit "&gt;") (point :: rest) with
      | some later => lit "<br>" ++ unescapeBreaks fuel later
      | none => point :: unescapeBreaks fuel rest

theorem toLower_eq {point mark : CodePoint} (small : mark.val < 0x61 ∨ 0x7A < mark.val)
    (same : point.toLower = mark) : point = mark := by
  rw [CodePoint.toLower] at same
  split at same
  next letter =>
    have value := congrArg Fin.val same
    rw [Fin.val_add] at value
    have shift : ((0x20 : CodePoint) : Nat) = 0x20 := rfl
    omega
  · exact same

section

variable {kept : CodePoint → Prop} {edit : Str → Str}

theorem dropStart_edit (transparent : Transparent kept edit) {start : Str}
    (plain : ∀ point : CodePoint, point.toLower ∈ start → kept point) (text : Str) :
    dropStart start (edit text) = (dropStart start text).map edit := by
  induction start generalizing text with
  | nil => rw [dropStart, dropStart]; rfl
  | cons first start ih =>
      have later : ∀ point : CodePoint, point.toLower ∈ start → kept point :=
        fun point member => plain point (List.mem_cons_of_mem _ member)
      have fails : ∀ point rest, edit text = point :: rest → point.toLower = first →
          ∃ rest', text = point :: rest' := by
        intro point rest edited same
        obtain ⟨rest', spelled, _⟩ :=
          transparent.uncons point text rest (plain point (by rw [same]; simp)) edited
        exact ⟨rest', spelled⟩
      by_cases leads : ∃ point rest, text = point :: rest ∧ point.toLower = first
      · obtain ⟨point, rest, rfl, same⟩ := leads
        rw [transparent.cons point rest (plain point (by rw [same]; simp)), dropStart, dropStart,
          if_pos same, if_pos same, ih later]
      · have absent : dropStart (first :: start) text = none := by
          rcases text with _ | ⟨point, rest⟩
          · rfl
          · rw [dropStart, if_neg fun same => leads ⟨point, rest, rfl, same⟩]
        rw [absent]
        rcases edited : edit text with _ | ⟨point, rest⟩
        · rfl
        · rw [dropStart, if_neg]
          · rfl
          · intro same
            obtain ⟨rest', spelled⟩ := fails point rest edited same
            exact leads ⟨point, rest', spelled, same⟩

theorem withoutSlash_edit (transparent : Transparent kept edit) (plain : kept (chr '/'))
    (text : Str) : withoutSlash (edit text) = edit (withoutSlash text) := by
  by_cases leads : ∃ rest, text = chr '/' :: rest
  · obtain ⟨rest, rfl⟩ := leads
    rw [transparent.cons _ _ plain, withoutSlash, withoutSlash, if_pos rfl, if_pos rfl]
  · have same : withoutSlash text = text := by
      rcases text with _ | ⟨point, rest⟩
      · rfl
      · exact if_neg fun slash => leads ⟨rest, by rw [slash]⟩
    rw [same]
    rcases edited : edit text with _ | ⟨point, rest⟩
    · rfl
    · refine if_neg fun slash => leads ?_
      rw [slash] at edited
      obtain ⟨rest', spelled, _⟩ := transparent.uncons _ text rest plain edited
      exact ⟨rest', spelled⟩

def BreakMark (point : CodePoint) : Prop :=
  breakSpace point = true ∨ point.toLower ∈ lit "br" ∨ point = chr '/'

variable {opening closing opening' closing' : Str}

theorem matchBreak_edit (transparent : Transparent kept edit)
    (marks : ∀ point, BreakMark point → kept point)
    (opens : ∀ text, dropStart opening' (edit text) = (dropStart opening text).map edit)
    (closes : ∀ text, dropStart closing' (edit text) = (dropStart closing text).map edit)
    (text : Str) :
    matchBreak opening' closing' (edit text) = (matchBreak opening closing text).map edit := by
  have spaces := transparent.dropWhile fun point space => marks point (Or.inl space)
  have letters := dropStart_edit transparent fun point letter =>
    marks point (Or.inr (Or.inl letter))
  have slash := withoutSlash_edit transparent (marks _ (Or.inr (Or.inr rfl)))
  rw [matchBreak, matchBreak, opens]
  rcases dropStart opening text with _ | inner
  · rfl
  rw [Option.map_some, Option.bind_some, Option.bind_some, spaces, letters]
  rcases dropStart (lit "br") (inner.dropWhile breakSpace) with _ | rest
  · rfl
  rw [Option.map_some, Option.bind_some, Option.bind_some, spaces, slash, spaces, closes]

end

def BreakFree (opening closing text : Str) : Prop :=
  ∀ rest, rest <:+ text → matchBreak opening closing rest = none

theorem unescapeBreaks_of_free {text : Str} (free : BreakFree (lit "&lt;") (lit "&gt;") text)
    (fuel : Nat) : unescapeBreaks fuel text = text := by
  induction fuel generalizing text with
  | zero => rfl
  | succ fuel ih =>
      rcases text with _ | ⟨point, rest⟩
      · rfl
      rw [unescapeBreaks, free _ (List.suffix_refl _)]
      exact congrArg _ (ih fun later ends => free later (ends.trans (List.suffix_cons _ _)))

theorem matchBreak_leads {lead : CodePoint} (small : lead.val < 0x61 ∨ 0x7A < lead.val)
    {later closing text rest : Str} (found : matchBreak (lead :: later) closing text = some rest) :
    ∃ behind, text = lead :: behind := by
  rcases text with _ | ⟨point, behind⟩
  · exact absurd found (by simp [matchBreak, dropStart])
  · by_cases same : point.toLower = lead
    · exact ⟨behind, by rw [toLower_eq small same]⟩
    · rw [matchBreak, dropStart, if_neg same] at found
      exact absurd found (by simp)

instance (point : CodePoint) : Decidable (BreakMark point) :=
  inferInstanceAs (Decidable (_ ∨ _ ∨ _))

theorem breakMark_small {point : CodePoint} (mark : BreakMark point) : point.val < 0x80 := by
  rcases mark with space | letter | rfl
  · simp only [breakSpace, Bool.or_eq_true, Bool.and_eq_true, decide_eq_true_eq] at space
    omega
  · rw [CodePoint.toLower] at letter
    split at letter
    next capital => omega
    · have letters : lit "br" = [chr 'b', chr 'r'] := rfl
      rw [letters, List.mem_cons, List.mem_singleton] at letter
      rcases letter with rfl | rfl <;> decide
  · decide

theorem breakMark_plain {point : CodePoint} (mark : BreakMark point) : Plain point := by
  have small := breakMark_small mark
  refine ⟨?_, ?_, ?_, ?_⟩
  · rintro rfl
    exact absurd mark (by decide)
  · rintro rfl
    exact absurd mark (by decide)
  · rintro rfl
    exact absurd mark (by decide)
  · rw [CodePoint.isSurrogate, Bool.and_eq_false_iff, decide_eq_false_iff_not]
    exact Or.inl (by omega)

theorem suffix_append_cases {first second rest : Str} (ends : rest <:+ first ++ second) :
    rest <:+ second ∨ ∃ start, start <:+ first ∧ start ≠ [] ∧ rest = start ++ second := by
  obtain ⟨before, whole⟩ := ends
  rcases List.append_eq_append_iff.1 whole with ⟨more, outer, same⟩ | ⟨more, outer, same⟩
  · by_cases empty : more = []
    · rw [empty, List.nil_append] at same
      exact Or.inl ⟨[], same⟩
    · exact Or.inr ⟨more, ⟨before, outer.symm⟩, empty, same⟩
  · exact Or.inl ⟨more, same.symm⟩

def OuterMark (point : CodePoint) : Prop :=
  BreakMark point ∨ point = chr '<' ∨ point = chr '>'

instance (point : CodePoint) : Decidable (OuterMark point) :=
  inferInstanceAs (Decidable (_ ∨ _ ∨ _))

theorem outerMark_of_opening {point : CodePoint} (member : point.toLower ∈ lit "<") :
    OuterMark point :=
  Or.inr (Or.inl (toLower_eq (Or.inl (by decide)) (List.mem_singleton.1 member)))

theorem outerMark_of_closing {point : CodePoint} (member : point.toLower ∈ lit ">") :
    OuterMark point :=
  Or.inr (Or.inr (toLower_eq (Or.inl (by decide)) (List.mem_singleton.1 member)))

theorem breakFree_replaceAll {lead lead' : CodePoint} {later later' : Str}
    (unmarked : ¬ OuterMark lead ∧ ¬ OuterMark lead') (apart : chr '<' ∉ lead' :: later')
    {text : Str} (free : BreakFree (lit "<") (lit ">") text) :
    BreakFree (lit "<") (lit ">") (replaceAll (lead :: later) (lead' :: later') text) := by
  have marks : ∀ point, OuterMark point → point ≠ lead ∧ point ≠ lead' := fun point mark =>
    ⟨fun same => unmarked.1 (same ▸ mark), fun same => unmarked.2 (same ▸ mark)⟩
  have transparent := @transparent_replaceAll lead lead' later later'
  have edited := matchBreak_edit transparent (fun point mark => marks point (Or.inl mark))
    (dropStart_edit transparent fun point member => marks point (outerMark_of_opening member))
    (dropStart_edit transparent fun point member => marks point (outerMark_of_closing member))
  intro rest ends
  by_contra found
  obtain ⟨left, matched⟩ := Option.ne_none_iff_exists'.1 found
  obtain ⟨behind, rfl⟩ := @matchBreak_leads (chr '<') (Or.inl (by decide)) [] _ _ _ matched
  obtain ⟨source, within, same⟩ := suffix_replaceAll (List.cons_ne_nil lead later) apart text ends
  rw [← same, edited, free source within] at matched
  exact absurd matched (by simp)

theorem ampersand_leads {point : CodePoint} (scalar : point.isSurrogate = false) :
    chr '&' ∉ (xmlCharacter point).tail := by
  rcases plain_or_named scalar with plain | ⟨name, member⟩
  · rw [xmlCharacter_of_plain plain]
    exact List.not_mem_nil
  · have apart : ∀ pair ∈ named, chr '&' ∉ (xmlCharacter pair.2).tail := by decide
    exact apart _ member

theorem suffix_xmlText {text rest : Str} (scalar : text.Encodable)
    (ends : chr '&' :: rest <:+ xmlText text) :
    ∃ later, later <:+ text ∧ xmlText later = chr '&' :: rest := by
  induction text with
  | nil => exact absurd (List.suffix_nil.1 ends) (List.cons_ne_nil _ _)
  | cons point text ih =>
      obtain ⟨here, others⟩ := List.forall_mem_cons.1 scalar
      rw [xmlText_cons] at ends
      rcases suffix_append_cases ends with inside | ⟨start, within, nonempty, same⟩
      · obtain ⟨later, tail, shown⟩ := ih others inside
        exact ⟨later, tail.trans (List.suffix_cons _ _), shown⟩
      · refine ⟨point :: text, List.suffix_refl _, ?_⟩
        obtain ⟨first, more, rfl⟩ := List.exists_cons_of_ne_nil nonempty
        obtain rfl : chr '&' = first := (List.cons.inj same).1
        obtain ⟨before, whole⟩ := within
        rcases before with _ | ⟨other, before⟩
        · rw [xmlText_cons, ← whole, List.nil_append, same]
        · have apart := ampersand_leads here
          rw [← whole] at apart
          exact absurd (by simp) apart

theorem dropStart_named {name : Str} {mark : CodePoint}
    (pair : (name, mark) ∈ [(lit "&lt;", chr '<'), (lit "&gt;", chr '>')]) (text : Str) :
    dropStart name (xmlText text) = (dropStart [mark] text).map xmlText := by
  simp only [List.mem_cons, Prod.mk.injEq, List.not_mem_nil, or_false] at pair
  rcases text with _ | ⟨point, rest⟩
  · rcases pair with ⟨rfl, rfl⟩ | ⟨rfl, rfl⟩ <;> rfl
  by_cases ampersand : point = chr '&'
  · subst ampersand
    rcases pair with ⟨rfl, rfl⟩ | ⟨rfl, rfl⟩ <;> rfl
  by_cases opens : point = chr '<'
  · subst opens
    rcases pair with ⟨rfl, rfl⟩ | ⟨rfl, rfl⟩ <;> rfl
  by_cases closes : point = chr '>'
  · subst closes
    rcases pair with ⟨rfl, rfl⟩ | ⟨rfl, rfl⟩ <;> rfl
  have other : dropStart [mark] (point :: rest) = none := by
    rcases pair with ⟨rfl, rfl⟩ | ⟨rfl, rfl⟩
    · exact if_neg fun same => opens (toLower_eq (Or.inl (by decide)) same)
    · exact if_neg fun same => closes (toLower_eq (Or.inl (by decide)) same)
  rw [other, xmlText_cons]
  by_cases surrogate : point.isSurrogate = true
  · have numbered : xmlCharacter point =
        lit "&#" ++ lit (toString point.val) ++ lit ";" :=
      (if_neg ampersand).trans ((if_neg opens).trans ((if_neg closes).trans (if_pos surrogate)))
    rw [numbered]
    rcases pair with ⟨rfl, rfl⟩ | ⟨rfl, rfl⟩ <;> rfl
  · rw [Bool.not_eq_true] at surrogate
    rw [xmlCharacter_of_plain ⟨ampersand, opens, closes, surrogate⟩, List.singleton_append]
    rcases pair with ⟨rfl, rfl⟩ | ⟨rfl, rfl⟩
    · exact if_neg fun same => ampersand (toLower_eq (Or.inl (by decide)) same)
    · exact if_neg fun same => ampersand (toLower_eq (Or.inl (by decide)) same)

theorem breakFree_xmlText {text : Str} (scalar : text.Encodable)
    (free : BreakFree (lit "<") (lit ">") text) :
    BreakFree (lit "&lt;") (lit "&gt;") (xmlText text) := by
  have edited := matchBreak_edit transparent_xmlText (fun _ mark => breakMark_plain mark)
    (@dropStart_named (lit "&lt;") (chr '<') (by simp))
    (@dropStart_named (lit "&gt;") (chr '>') (by simp))
  intro rest ends
  by_contra found
  obtain ⟨left, matched⟩ := Option.ne_none_iff_exists'.1 found
  obtain ⟨behind, rfl⟩ :=
    @matchBreak_leads (chr '&') (Or.inl (by decide)) (lit "lt;") _ _ _ matched
  obtain ⟨source, within, same⟩ := suffix_xmlText scalar ends
  have none_ : matchBreak [chr '<'] [chr '>'] source = none := free source within
  rw [← same, edited, none_] at matched
  exact absurd matched (by simp)

theorem breakFree_spelled {tags : List (Str × Str)}
    (free : ∀ tag ∈ tags, chr '&' ∉ tag.1 ∧ BreakFree (lit "&lt;") (lit "&gt;") tag.2) :
    BreakFree (lit "&lt;") (lit "&gt;") (spelled tags) := by
  intro rest ends
  by_contra found
  obtain ⟨left, matched⟩ := Option.ne_none_iff_exists'.1 found
  obtain ⟨behind, rfl⟩ :=
    @matchBreak_leads (chr '&') (Or.inl (by decide)) (lit "lt;") _ _ _ matched
  induction tags with
  | nil => exact absurd (List.suffix_nil.1 ends) (List.cons_ne_nil _ _)
  | cons tag more ih =>
      obtain ⟨tag, text⟩ := tag
      obtain ⟨⟨apart, textFree⟩, later⟩ := List.forall_mem_cons.1 free
      have whole : spelled ((tag, text) :: more) =
          (chr '<' :: tag ++ [chr '>']) ++ (text ++ spelled more) := by
        rw [spelled_cons]
        simp
      rw [whole] at ends
      rcases suffix_append_cases ends with inside | ⟨start, within, nonempty, same⟩
      · rcases suffix_append_cases inside with beyond | ⟨start, within, nonempty, same⟩
        · exact ih later beyond
        · rcases more with _ | ⟨next, more⟩
          · have none_ : spelled [] = [] := rfl
            rw [none_, List.append_nil] at same
            rw [same, textFree start within] at matched
            exact absurd matched (by simp)
          · obtain ⟨nextTag, nextText⟩ := next
            have transparent := @Transparent.appended (chr '<')
              (nextTag ++ chr '>' :: (nextText ++ spelled more))
            have opens := @dropStart_edit _ _ transparent (lit "&lt;") fun point member same =>
              absurd (same ▸ member) (by decide)
            have closes := @dropStart_edit _ _ transparent (lit "&gt;") fun point member same =>
              absurd (same ▸ member) (by decide)
            have before := matchBreak_edit transparent (fun _ mark => (breakMark_plain mark).2.1)
              opens closes start
            rw [same, spelled_cons, before, textFree start within] at matched
            exact absurd matched (by simp)
      · obtain ⟨first, inner, rfl⟩ := List.exists_cons_of_ne_nil nonempty
        obtain rfl : chr '&' = first := (List.cons.inj same).1
        have member := within.subset List.mem_cons_self
        simp only [List.cons_append, List.mem_cons, List.mem_append, List.not_mem_nil,
          or_false] at member
        rcases member with opens | inTag | closes
        · exact absurd opens (by decide)
        · exact apart inTag
        · exact absurd closes (by decide)

end Halotel

end UssdGateway
