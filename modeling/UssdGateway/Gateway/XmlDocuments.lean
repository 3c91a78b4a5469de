import UssdGateway.Gateway.Adapters
import UssdGateway.Gateway.TextEdits
import UssdGateway.Gateway.XmlReader

/-!
Documents as tags with the text behind each: what edits of the whole text do to them, and how they
are read.
-/

namespace UssdGateway

namespace Xml

open Str

def spelled (tags : List (Str × Str)) : Str :=
  tags.flatMap fun (tag, text) => chr '<' :: tag ++ chr '>' :: text

theorem spelled_cons (tag text : Str) (rest : List (Str × Str)) :
    spelled ((tag, text) :: rest) = chr '<' :: (tag ++ chr '>' :: (text ++ spelled rest)) := by
  rw [spelled, List.flatMap_cons]
  simp [spelled]

theorem spelled_append (first second : List (Str × Str)) :
    spelled (first ++ second) = spelled first ++ spelled second := List.flatMap_append

def Unmarked (text : Str) : Prop := chr '<' ∉ text ∧ chr '>' ∉ text

instance (text : Str) : Decidable (Unmarked text) := inferInstanceAs (Decidable (_ ∧ _))

def TagsUnmarked (tags : List (Str × Str)) : Prop :=
  ∀ tag ∈ tags, Unmarked tag.1 ∧ Unmarked tag.2

theorem TagsUnmarked.head {tag text : Str} {rest : List (Str × Str)}
    (unmarked : TagsUnmarked ((tag, text) :: rest)) :
    Unmarked tag ∧ Unmarked text ∧ TagsUnmarked rest := by
  obtain ⟨here, later⟩ := List.forall_mem_cons.1 unmarked
  exact ⟨here.1, here.2, later⟩

/-- An edit that sees no markup, and nothing across markup. -/
structure Between (edit : Str → Str) : Prop where
  nil : edit [] = []
  opens : ∀ first rest, edit (first ++ chr '<' :: rest) = edit first ++ chr '<' :: edit rest
  closes : ∀ first rest, edit (first ++ chr '>' :: rest) = edit first ++ chr '>' :: edit rest

theorem between_replaceAll {old new : Str} (nonempty : old ≠ []) (unmarked : Unmarked old) :
    Between (replaceAll old new) where
  nil := replaceAll_nil
  opens := replaceAll_sides nonempty unmarked.1
  closes := replaceAll_sides nonempty unmarked.2

variable {edit : Str → Str}

theorem Between.text (between : Between edit) (text : Str) (tags : List (Str × Str)) :
    edit (text ++ spelled tags) = edit text ++ edit (spelled tags) := by
  rcases tags with _ | ⟨⟨tag, data⟩, rest⟩
  · rw [spelled, List.flatMap_nil, List.append_nil, between.nil, List.append_nil]
  · have alone := between.opens [] (tag ++ chr '>' :: (data ++ spelled rest))
    rw [List.nil_append, between.nil, List.nil_append] at alone
    rw [spelled_cons, between.opens, alone]

theorem Between.spelled (between : Between edit) (tags : List (Str × Str)) :
    edit (spelled tags) = spelled (tags.map fun tag => (edit tag.1, edit tag.2)) := by
  induction tags with
  | nil => exact between.nil
  | cons tag rest ih =>
      obtain ⟨tag, text⟩ := tag
      have alone := between.opens [] (tag ++ chr '>' :: (text ++ Xml.spelled rest))
      rw [List.nil_append, between.nil, List.nil_append] at alone
      rw [spelled_cons, alone, between.closes, between.text, ih, List.map_cons, spelled_cons]

def retagged (old new : Str) (tags : List (Str × Str)) : List (Str × Str) :=
  tags.map fun tag => (if tag.1 = old then new else tag.1, tag.2)

theorem tag_leads_iff {old tag rest : Str} (oldUnmarked : Unmarked old) (unmarked : Unmarked tag) :
    old ++ [chr '>'] <+: tag ++ chr '>' :: rest ↔ tag = old := by
  constructor
  · intro leads
    induction old generalizing tag with
    | nil =>
        rcases tag with _ | ⟨point, tag⟩
        · rfl
        · have same := (List.cons_prefix_cons.1 leads).1
          exact absurd (same ▸ List.mem_cons_self) unmarked.2
    | cons point old ih =>
        rcases tag with _ | ⟨point', tag⟩
        · have same := (List.cons_prefix_cons.1 leads).1
          exact absurd (same ▸ List.mem_cons_self) oldUnmarked.2
        · obtain ⟨rfl, later⟩ := List.cons_prefix_cons.1 leads
          simp only [Unmarked, List.mem_cons, not_or] at oldUnmarked unmarked
          rw [ih ⟨oldUnmarked.1.2, oldUnmarked.2.2⟩ ⟨unmarked.1.2, unmarked.2.2⟩ later]
  · rintro rfl
    exact ⟨rest, by simp⟩

theorem replaceAll_tag {old new : Str} (oldUnmarked : Unmarked old) {tags : List (Str × Str)}
    (unmarked : TagsUnmarked tags) :
    replaceAll (chr '<' :: (old ++ [chr '>'])) (chr '<' :: (new ++ [chr '>'])) (spelled tags) =
      spelled (retagged old new tags) := by
  induction tags with
  | nil => rfl
  | cons tag rest ih =>
      obtain ⟨tag, text⟩ := tag
      obtain ⟨tagUnmarked, textUnmarked, restUnmarked⟩ := unmarked.head
      have leads := @tag_leads_iff old tag (text ++ spelled rest) oldUnmarked tagUnmarked
      rw [retagged, List.map_cons, ← retagged, spelled_cons, spelled_cons]
      by_cases same : tag = old
      · subst same
        rw [if_pos rfl]
        have whole : chr '<' :: (tag ++ chr '>' :: (text ++ spelled rest)) =
            chr '<' :: (tag ++ [chr '>']) ++ (text ++ spelled rest) := by
          simp
        rw [whole, replaceAll_append (List.cons_ne_nil _ _), replaceAll_skip textUnmarked.1,
          ih restUnmarked]
        simp
      · rw [if_neg same, replaceAll_cons, replaceAll_skip tagUnmarked.1]
        · have closing := @replaceAll_skip (chr '<' :: (new ++ [chr '>'])) (chr '<')
            (old ++ [chr '>']) [chr '>'] (by decide) (text ++ spelled rest)
          rw [List.singleton_append, List.singleton_append] at closing
          rw [closing, replaceAll_skip textUnmarked.1, ih restUnmarked]
        · intro found
          exact same (leads.1 (List.cons_prefix_cons.1 found).2)

def TagCloses (tag : Str) : Prop := chr '>' ∉ tag ∧ tag.foldl afterQuote none = none

instance (tag : Str) : Decidable (TagCloses tag) := inferInstanceAs (Decidable (_ ∧ _))

theorem scan_text {text : Str} (unmarked : chr '<' ∉ text) (buffer rest : Str) :
    scan .text buffer (text ++ rest) = scan .text (buffer ++ text) rest := by
  induction text generalizing buffer with
  | nil => rw [List.nil_append, List.append_nil]
  | cons point text ih =>
      rw [List.mem_cons, not_or] at unmarked
      rw [List.cons_append, scan, if_neg (fun same => unmarked.1 same.symm), ih unmarked.2,
        List.append_assoc, List.singleton_append]

theorem scan_tag {tag : Str} (unmarked : chr '>' ∉ tag) (quote : Option CodePoint)
    (closed : tag.foldl afterQuote quote = none) (buffer rest : Str) :
    scan (.tag quote) buffer (tag ++ chr '>' :: rest) =
      (scan .text [] rest).map fun later => (buffer ++ tag) :: later := by
  induction tag generalizing quote buffer with
  | nil =>
      rw [List.foldl_nil] at closed
      rw [List.nil_append, scan, if_pos ⟨closed, rfl⟩, List.append_nil]
  | cons point tag ih =>
      rw [List.mem_cons, not_or] at unmarked
      rw [List.cons_append, scan, if_neg (fun both => unmarked.1 both.2.symm),
        ih unmarked.2 _ closed, List.append_assoc, List.singleton_append]

theorem scan_spelled {tags : List (Str × Str)}
    (readable : ∀ tag ∈ tags, TagCloses tag.1 ∧ chr '<' ∉ tag.2) (buffer : Str) :
    scan .text buffer (spelled tags) = some (buffer :: tags.flatMap fun tag => [tag.1, tag.2]) := by
  induction tags generalizing buffer with
  | nil => rfl
  | cons tag rest ih =>
      obtain ⟨tag, text⟩ := tag
      obtain ⟨⟨closes, unmarked⟩, later⟩ := List.forall_mem_cons.1 readable
      rw [spelled_cons, scan, if_pos rfl, scan_tag closes.1 none closes.2, scan_text unmarked,
        List.nil_append, ih later]
      rfl

theorem pairs_flatMap (tags : List (Str × Str)) :
    pairs (tags.flatMap fun tag => [tag.1, tag.2]) = tags := by
  induction tags with
  | nil => rfl
  | cons tag rest ih => rw [List.flatMap_cons, List.cons_append, List.cons_append, pairs,
      List.nil_append, ih]

theorem fromstring_spelled {tags : List (Str × Str)}
    (characters : (spelled tags).all legal = true)
    (readable : ∀ tag ∈ tags, TagCloses tag.1 ∧ chr '<' ∉ tag.2) :
    fromstring (spelled tags) = build [] tags := by
  rw [fromstring, if_pos characters, scan_spelled readable]
  exact congrArg (build []) (pairs_flatMap tags)

section

variable {frame parent : Frame} {above frames : List Frame} {tag after data name : Str}
  {attributes : List (Str × Str)} {rest : List (Str × Str)}

theorem openFrame_eq {clarkName : Str}
    (named : clark (declared attributes ++ (frames.head?.map Frame.scope).getD []) name =
      some clarkName) :
    openFrame frames name attributes data =
      some ⟨name, clarkName, data,
        declared attributes ++ (frames.head?.map Frame.scope).getD [], []⟩ := by
  rw [openFrame, named]
  rfl

theorem build_declaration (read : characterData after = some data)
    (declares : readTag tag = some .declaration) (blank : data.all isSpace = true) :
    build [] ((tag, after) :: rest) = build [] rest := by
  rw [build, read, declares]
  simp only [List.isEmpty_nil, blank, and_self, if_pos]

theorem build_opening (read : characterData after = some data)
    (opens : readTag tag = some (.opening name attributes))
    (opened : openFrame frames name attributes data = some frame) :
    build frames ((tag, after) :: rest) = build (frame :: frames) rest := by
  rw [build, read, opens]
  simp only [opened, Option.bind_some]

theorem build_closing (read : characterData after = some data)
    (closes : readTag tag = some (.closing name)) (same : frame.name = name) :
    build (frame :: parent :: above) ((tag, after) :: rest) =
      build (parent.withChild frame.element :: above) rest := by
  rw [build, read, closes, ← same]
  simp only [if_pos, afterElement]

theorem build_last (closes : readTag tag = some (.closing name)) (same : frame.name = name) :
    build [frame] [(tag, [])] = some frame.element := by
  have read : characterData [] = some [] := rfl
  rw [build, read, closes, ← same]
  simp only [if_pos, afterElement]
  rfl

end

theorem normalised_append {first : Str} (nonempty : first ≠ [])
    (apart : chr '\r' ∉ first ∧ chr '\n' ∉ first) (afterReturn : Bool) (rest : Str) :
    normalised afterReturn (first ++ rest) = first ++ normalised false rest := by
  induction first generalizing afterReturn with
  | nil => exact absurd rfl nonempty
  | cons point first ih =>
      simp only [List.mem_cons, not_or] at apart
      rw [List.cons_append, normalised, if_neg (fun same => apart.1.1 same.symm),
        if_neg (fun both => apart.2.1 both.2.symm), List.cons_append]
      rcases first with _ | ⟨second, first⟩
      · rfl
      · rw [ih (List.cons_ne_nil _ _) ⟨apart.1.2, apart.2.2⟩]

def Plain (point : CodePoint) : Prop :=
  point ≠ chr '&' ∧ point ≠ chr '<' ∧ point ≠ chr '>' ∧ point.isSurrogate = false

instance (point : CodePoint) : Decidable (Plain point) :=
  inferInstanceAs (Decidable (_ ∧ _ ∧ _ ∧ _))

theorem xmlCharacter_of_plain {point : CodePoint} (plain : Plain point) :
    xmlCharacter point = [point] := by
  obtain ⟨ampersand, opens, closes, scalar⟩ := plain
  have kept : ¬ point.isSurrogate = true := by simp [scalar]
  exact (if_neg ampersand).trans ((if_neg opens).trans ((if_neg closes).trans (if_neg kept)))

theorem xmlText_cons (point : CodePoint) (rest : Str) :
    xmlText (point :: rest) = xmlCharacter point ++ xmlText rest := List.flatMap_cons

def named : List (Str × CodePoint) :=
  [(lit "amp", chr '&'), (lit "lt", chr '<'), (lit "gt", chr '>')]

theorem named_spelled : ∀ pair ∈ named, reference pair.1 = some pair.2 ∧
    xmlCharacter pair.2 = chr '&' :: (pair.1 ++ [chr ';']) ∧ chr ';' ∉ pair.1 := by decide

theorem named_in_line : ∀ pair ∈ named, (chr '\r' ∉ xmlCharacter pair.2 ∧
    chr '\n' ∉ xmlCharacter pair.2) ∧ chr '\r' ∉ [pair.2] ∧ chr '\n' ∉ [pair.2] := by decide

theorem plain_or_named {point : CodePoint} (scalar : point.isSurrogate = false) :
    Plain point ∨ ∃ name, (name, point) ∈ named := by
  by_cases ampersand : point = chr '&'
  · exact Or.inr ⟨lit "amp", by rw [ampersand]; decide⟩
  by_cases opens : point = chr '<'
  · exact Or.inr ⟨lit "lt", by rw [opens]; decide⟩
  by_cases closes : point = chr '>'
  · exact Or.inr ⟨lit "gt", by rw [closes]; decide⟩
  exact Or.inl ⟨ampersand, opens, closes, scalar⟩

theorem xmlCharacter_leads (point : CodePoint) :
    xmlCharacter point = [point] ∨ ∃ rest, xmlCharacter point = chr '&' :: rest := by
  rw [xmlCharacter]
  split
  · exact Or.inr ⟨_, rfl⟩
  · split
    · exact Or.inr ⟨_, rfl⟩
    · split
      · exact Or.inr ⟨_, rfl⟩
      · split
        · exact Or.inr ⟨_, rfl⟩
        · exact Or.inl rfl

theorem transparent_xmlText : Transparent Plain xmlText where
  cons point rest plain := by
    rw [xmlText_cons, xmlCharacter_of_plain plain, List.singleton_append]
  uncons point text rest plain same := by
    rcases text with _ | ⟨first, text⟩
    · exact absurd same (List.cons_ne_nil _ _).symm
    rw [xmlText_cons] at same
    rcases xmlCharacter_leads first with single | ⟨later, named⟩
    · rw [single] at same
      obtain ⟨rfl, rfl⟩ := List.cons.inj same
      exact ⟨text, rfl, rfl⟩
    · rw [named] at same
      exact absurd (List.cons.inj same).1.symm plain.1

theorem unmarked_xmlText {text : Str} (scalar : text.Encodable) : Unmarked (xmlText text) := by
  have apart : ∀ mark : CodePoint, (∀ pair ∈ named, mark ∉ xmlCharacter pair.2) →
      ¬ Plain mark → mark ∉ xmlText text := by
    intro mark absent special inside
    obtain ⟨point, member, here⟩ := List.mem_flatMap.1 inside
    rcases plain_or_named (scalar point member) with plain | ⟨name, spelled⟩
    · rw [xmlCharacter_of_plain plain, List.mem_singleton] at here
      exact special (here ▸ plain)
    · exact absent _ spelled here
  exact ⟨apart _ (by decide) (by decide), apart _ (by decide) (by decide)⟩

theorem decoded_reference {name : Str} (apart : chr ';' ∉ name) (before rest : Str) :
    decoded (some before) (name ++ chr ';' :: rest) =
      (reference (before ++ name)).bind fun point =>
        (decoded none rest).map fun later => point :: later := by
  induction name generalizing before with
  | nil =>
      rw [List.nil_append, List.append_nil, decoded, if_pos rfl]
      cases reference before <;> cases decoded none rest <;> rfl
  | cons point name ih =>
      rw [List.mem_cons, not_or] at apart
      rw [List.cons_append, decoded, if_neg (fun same => apart.1 same.symm), ih apart.2,
        List.append_assoc, List.singleton_append]

theorem decoded_xmlText {text : Str} (scalar : text.Encodable) :
    decoded none (xmlText text) = some text := by
  induction text with
  | nil => rfl
  | cons point rest ih =>
      obtain ⟨here, later⟩ := List.forall_mem_cons.1 scalar
      rw [xmlText_cons]
      rcases plain_or_named here with plain | ⟨name, member⟩
      · rw [xmlCharacter_of_plain plain, List.singleton_append, decoded, if_neg plain.1, ih later]
        rfl
      · obtain ⟨meant, shown, apart⟩ := named_spelled _ member
        rw [shown, List.cons_append, decoded, if_pos rfl, List.append_assoc, List.singleton_append,
          decoded_reference apart, List.nil_append, meant, ih later]
        rfl

theorem normalised_xmlText {text : Str} (scalar : text.Encodable) (afterReturn : Bool) :
    normalised afterReturn (xmlText text) = xmlText (normalised afterReturn text) := by
  induction text generalizing afterReturn with
  | nil => rfl
  | cons point rest ih =>
      obtain ⟨here, later⟩ := List.forall_mem_cons.1 scalar
      rw [xmlText_cons]
      rcases plain_or_named here with plain | ⟨name, member⟩
      · rw [xmlCharacter_of_plain plain, List.singleton_append, normalised, normalised]
        split
        · rw [ih later, transparent_xmlText.cons _ _ (by decide)]
        · split
          · exact ih later false
          · rw [ih later, transparent_xmlText.cons _ _ plain]
      · obtain ⟨written, single⟩ := named_in_line _ member
        have nonempty : xmlCharacter point ≠ [] := by
          rw [(named_spelled _ member).2.1]
          exact List.cons_ne_nil _ _
        have kept : normalised afterReturn (point :: rest) = point :: normalised false rest :=
          normalised_append (List.cons_ne_nil point []) single afterReturn rest
        rw [normalised_append nonempty written, ih later, kept, xmlText_cons]

theorem encodable_normalised {text : Str} (scalar : text.Encodable) (afterReturn : Bool) :
    (normalised afterReturn text).Encodable := by
  induction text generalizing afterReturn with
  | nil => exact scalar
  | cons point rest ih =>
      obtain ⟨here, later⟩ := List.forall_mem_cons.1 scalar
      rw [normalised]
      split
      · exact List.forall_mem_cons.2 ⟨by decide, ih later true⟩
      · split
        · exact ih later false
        · exact List.forall_mem_cons.2 ⟨here, ih later false⟩

theorem characterData_xmlText {text : Str} (scalar : text.Encodable) :
    characterData (xmlText text) = some (normalised false text) := by
  rw [characterData, normalised_xmlText scalar, decoded_xmlText (encodable_normalised scalar false)]

theorem return_not_mem_normalised (text : Str) (afterReturn : Bool) :
    chr '\r' ∉ normalised afterReturn text := by
  induction text generalizing afterReturn with
  | nil => exact List.not_mem_nil
  | cons point rest ih =>
      rw [normalised]
      split
      · exact List.not_mem_cons_of_ne_of_not_mem (by decide) (ih true)
      next plain =>
        split
        · exact ih false
        · exact List.not_mem_cons_of_ne_of_not_mem (fun same => plain same.symm) (ih false)

theorem count_normalised_le {point : CodePoint} (other : point ≠ chr '\n') (text : Str)
    (afterReturn : Bool) : (normalised afterReturn text).count point ≤ text.count point := by
  induction text generalizing afterReturn with
  | nil => exact Nat.le_refl 0
  | cons first rest ih =>
      rw [normalised, List.count_cons]
      split
      · rw [List.count_cons_of_ne fun same => other same.symm]
        exact (ih true).trans (Nat.le_add_right _ _)
      · split
        · exact (ih false).trans (Nat.le_add_right _ _)
        · rw [List.count_cons]
          exact Nat.add_le_add_right (ih false) _

theorem normalised_of_absent {text : Str} (absent : chr '\r' ∉ text) :
    normalised false text = text := by
  induction text with
  | nil => rfl
  | cons point rest ih =>
      rw [List.mem_cons, not_or] at absent
      rw [normalised, if_neg fun same => absent.1 same.symm, if_neg (by simp), ih absent.2]

theorem legal_xmlText {text : Str} (scalar : text.Encodable) (all : text.all legal = true) :
    (xmlText text).all legal = true := by
  rw [List.all_eq_true] at all ⊢
  intro point member
  obtain ⟨source, among, here⟩ := List.mem_flatMap.1 member
  rcases plain_or_named (scalar source among) with plain | ⟨name, spelled⟩
  · rw [xmlCharacter_of_plain plain, List.mem_singleton] at here
    rw [here]
    exact all source among
  · have written : ∀ pair ∈ named, (xmlCharacter pair.2).all legal = true := by decide
    exact List.all_eq_true.1 (written _ spelled) point here

theorem legal_spelled {tags : List (Str × Str)}
    (each : ∀ tag ∈ tags, tag.1.all legal = true ∧ tag.2.all legal = true) :
    (spelled tags).all legal = true := by
  induction tags with
  | nil => rfl
  | cons tag rest ih =>
      obtain ⟨⟨name, text⟩, later⟩ := List.forall_mem_cons.1 each
      rw [spelled_cons, List.all_cons, List.all_append, List.all_cons, List.all_append, name, text,
        ih later]
      rfl

theorem replaceAll_xmlText {lead : CodePoint} {later new : Str}
    (plain : ∀ point ∈ lead :: later, Plain point) (written : ∀ point ∈ new, Plain point)
    (apart : ∀ pair ∈ named, lead ∉ xmlCharacter pair.2) {text : Str} (scalar : text.Encodable) :
    replaceAll (lead :: later) new (xmlText text) =
      xmlText (replaceAll (lead :: later) new text) := by
  induction text using replaceAll_induction (List.cons_ne_nil lead later) with
  | nil => rfl
  | found rest ih =>
      rw [encodable_append] at scalar
      rw [transparent_xmlText.append plain, replaceAll_append (List.cons_ne_nil _ _), ih scalar.2,
        replaceAll_append (List.cons_ne_nil _ _), transparent_xmlText.append written]
  | cons point rest unled ih =>
      obtain ⟨here, others⟩ := List.forall_mem_cons.1 scalar
      rw [replaceAll_cons unled, xmlText_cons, xmlText_cons]
      rcases plain_or_named here with kept | ⟨name, member⟩
      · rw [xmlCharacter_of_plain kept, List.singleton_append, List.singleton_append,
          replaceAll_cons, ih others]
        rw [← transparent_xmlText.cons _ _ kept, transparent_xmlText.prefix_iff plain]
        exact unled
      · rw [replaceAll_skip (apart _ member), ih others]

end Xml

end UssdGateway
