import Mathlib.Data.List.Infix
import UssdGateway.Gateway.Text

/-!
Texts with a pattern replaced everywhere: where the pattern cannot stand, what it cannot span, and
what a text of other characters keeps.
-/

namespace UssdGateway

theorem prefix_before_separator {pattern first rest : Str} {separator : CodePoint}
    (apart : separator ∉ pattern) (found : pattern <+: first ++ separator :: rest) :
    pattern <+: first := by
  induction first generalizing pattern with
  | nil =>
      rcases pattern with _ | ⟨point, pattern⟩
      · exact List.nil_prefix
      · obtain ⟨same, _⟩ := List.cons_prefix_cons.1 found
        exact absurd (same ▸ List.mem_cons_self) apart
  | cons _ first ih =>
      rcases pattern with _ | ⟨point, pattern⟩
      · exact List.nil_prefix
      · obtain ⟨rfl, later⟩ := List.cons_prefix_cons.1 found
        exact List.cons_prefix_cons.2
          ⟨rfl, ih (fun member => apart (List.mem_cons_of_mem _ member)) later⟩

/-- A map of texts that neither changes, adds nor hides the characters of a kind where they lead. -/
structure Transparent (kept : CodePoint → Prop) (edit : Str → Str) : Prop where
  cons : ∀ point rest, kept point → edit (point :: rest) = point :: edit rest
  uncons : ∀ point text rest, kept point → edit text = point :: rest →
    ∃ later, text = point :: later ∧ rest = edit later

namespace Transparent

variable {kept : CodePoint → Prop} {edit : Str → Str}

theorem dropWhile (transparent : Transparent kept edit) {drop : CodePoint → Bool}
    (plain : ∀ point, drop point = true → kept point) (text : Str) :
    (edit text).dropWhile drop = edit (text.dropWhile drop) := by
  induction text with
  | nil =>
      rcases edited : edit [] with _ | ⟨point, rest⟩
      · rw [List.dropWhile_nil, edited]
      · rw [List.dropWhile_cons_of_neg, List.dropWhile_nil, edited]
        intro dropped
        obtain ⟨later, absent, _⟩ := transparent.uncons point [] rest (plain point dropped) edited
        exact List.cons_ne_nil _ _ absent.symm
  | cons point rest ih =>
      by_cases dropped : drop point = true
      · rw [transparent.cons point rest (plain point dropped), List.dropWhile_cons_of_pos dropped,
          List.dropWhile_cons_of_pos dropped, ih]
      · rw [List.dropWhile_cons_of_neg dropped]
        rcases edited : edit (point :: rest) with _ | ⟨point', rest'⟩
        · rfl
        · rw [List.dropWhile_cons_of_neg]
          intro dropped'
          obtain ⟨later, same, _⟩ :=
            transparent.uncons point' _ rest' (plain point' dropped') edited
          rw [(List.cons.inj same).1] at dropped
          exact dropped dropped'

theorem prefix_iff (transparent : Transparent kept edit) {start : Str}
    (plain : ∀ point ∈ start, kept point) (text : Str) : start <+: edit text ↔ start <+: text := by
  induction start generalizing text with
  | nil => exact iff_of_true List.nil_prefix List.nil_prefix
  | cons point start ih =>
      obtain ⟨here, later⟩ := List.forall_mem_cons.1 plain
      constructor
      · rintro ⟨rest, edited⟩
        obtain ⟨text, rfl, same⟩ := transparent.uncons point _ _ here edited.symm
        exact List.cons_prefix_cons.2 ⟨rfl, (ih later text).1 ⟨rest, same⟩⟩
      · rintro ⟨rest, rfl⟩
        rw [List.cons_append, transparent.cons point _ here]
        exact List.cons_prefix_cons.2 ⟨rfl, (ih later _).2 (List.prefix_append _ _)⟩

theorem append (transparent : Transparent kept edit) {start : Str}
    (plain : ∀ point ∈ start, kept point) (rest : Str) :
    edit (start ++ rest) = start ++ edit rest := by
  induction start with
  | nil => rfl
  | cons point start ih =>
      obtain ⟨here, later⟩ := List.forall_mem_cons.1 plain
      rw [List.cons_append, transparent.cons point _ here, ih later, List.cons_append]

theorem appended {separator : CodePoint} (rest : Str) :
    Transparent (fun point => point ≠ separator) (fun text => text ++ separator :: rest) where
  cons _ _ _ := rfl
  uncons point text later plain same := by
    rcases text with _ | ⟨first, text⟩
    · exact absurd (List.cons.inj same).1.symm plain
    · obtain ⟨rfl, rfl⟩ := List.cons.inj same
      exact ⟨text, rfl, rfl⟩

end Transparent

namespace Str

theorem strip_sublist (text : Str) : List.Sublist (strip text) text := by
  have back := (@List.dropWhile_sublist _ (lstrip text).reverse CodePoint.isSpace).reverse
  rw [List.reverse_reverse] at back
  exact back.trans (List.dropWhile_sublist _)

theorem replace_enough {pattern new text : Str} (nonempty : pattern ≠ []) {fuel : Nat}
    (enough : text.length ≤ fuel) :
    replace pattern new fuel text = replace pattern new text.length text := by
  have positive : 0 < pattern.length := List.length_pos_iff.2 nonempty
  induction fuel using Nat.strongRecOn generalizing text with
  | ind fuel ih =>
      rcases text with _ | ⟨point, rest⟩
      · cases fuel <;> rfl
      obtain ⟨less, rfl⟩ : ∃ less, fuel = less + 1 := ⟨fuel - 1, by simp at enough; omega⟩
      rw [List.length_cons] at enough
      have shorter : ((point :: rest).drop pattern.length).length ≤ rest.length := by
        rw [List.length_drop, List.length_cons]
        omega
      rw [List.length_cons, replace, replace]
      by_cases same : rest.length = less
      · rw [same]
      · rw [ih less (by omega) (by omega), ih less (by omega) (by omega),
          ih rest.length (by omega) shorter]

def replaceAll (old new text : Str) : Str := replace old new text.length text

section

variable {old new : Str}

theorem replaceAll_nil : replaceAll old new [] = [] := rfl

theorem replaceAll_append (nonempty : old ≠ []) (rest : Str) :
    replaceAll old new (old ++ rest) = new ++ replaceAll old new rest := by
  obtain ⟨point, later, rfl⟩ := List.exists_cons_of_ne_nil nonempty
  have found : (point :: later).isPrefixOf (point :: later ++ rest) = true :=
    List.isPrefixOf_iff_prefix.2 (List.prefix_append _ _)
  have size : (point :: later ++ rest).length = (later ++ rest).length + 1 := rfl
  have replaced : replace (point :: later) new ((later ++ rest).length + 1)
      (point :: later ++ rest) =
        new ++ replace (point :: later) new (later ++ rest).length
          ((point :: later ++ rest).drop (point :: later).length) := if_pos found
  rw [replaceAll, size, replaced, List.drop_left, replace_enough nonempty, replaceAll]
  rw [List.length_append]
  exact Nat.le_add_left _ _

theorem replaceAll_cons {point : CodePoint} {rest : Str} (plain : ¬ old <+: point :: rest) :
    replaceAll old new (point :: rest) = point :: replaceAll old new rest := by
  have absent : ¬ old.isPrefixOf (point :: rest) = true := fun found =>
    plain (List.isPrefixOf_iff_prefix.1 found)
  rw [replaceAll, List.length_cons, replace, if_neg absent, replaceAll]

@[elab_as_elim]
theorem replaceAll_induction {motive : Str → Prop} (nonempty : old ≠ []) (nil : motive [])
    (found : ∀ rest, motive rest → motive (old ++ rest))
    (cons : ∀ point rest, ¬ old <+: point :: rest → motive rest → motive (point :: rest))
    (text : Str) : motive text := by
  induction size : text.length using Nat.strongRecOn generalizing text with
  | ind size ih =>
      subst size
      by_cases leads : old <+: text
      · obtain ⟨rest, rfl⟩ := leads
        refine found rest (ih rest.length ?_ rest rfl)
        rw [List.length_append]
        exact Nat.lt_add_of_pos_left (List.length_pos_iff.2 nonempty)
      · cases text with
        | nil => exact nil
        | cons point rest => exact cons point rest leads (ih rest.length (by simp) rest rfl)

theorem replaceAll_of_absent {text : Str} (free : ¬ old <:+: text) :
    replaceAll old new text = text := by
  induction text with
  | nil => rfl
  | cons point rest ih =>
      rw [replaceAll_cons fun leads => free leads.isInfix,
        ih fun later => free (later.trans (List.suffix_cons point rest).isInfix)]

theorem replaceAll_sides (nonempty : old ≠ []) {separator : CodePoint} (apart : separator ∉ old)
    (first rest : Str) :
    replaceAll old new (first ++ separator :: rest) =
      replaceAll old new first ++ separator :: replaceAll old new rest := by
  induction first using replaceAll_induction nonempty with
  | nil =>
      refine replaceAll_cons fun leads => ?_
      have before : old <+: [] := prefix_before_separator apart leads
      exact nonempty (List.prefix_nil.1 before)
  | found later ih =>
      rw [List.append_assoc, replaceAll_append nonempty, replaceAll_append nonempty, ih,
        List.append_assoc]
  | cons point later plain ih =>
      rw [List.cons_append, replaceAll_cons, replaceAll_cons plain, ih, List.cons_append]
      intro leads
      have before : old <+: point :: later := prefix_before_separator apart leads
      exact plain before

theorem replaceAll_skip {lead : CodePoint} {later first : Str} (apart : lead ∉ first) (rest : Str) :
    replaceAll (lead :: later) new (first ++ rest) =
      first ++ replaceAll (lead :: later) new rest := by
  induction first with
  | nil => rfl
  | cons point first ih =>
      rw [List.mem_cons, not_or] at apart
      rw [List.cons_append, replaceAll_cons, ih apart.2, List.cons_append]
      exact fun leads => apart.1 (List.cons_prefix_cons.1 leads).1

theorem forall_replaceAll (nonempty : old ≠ []) {kind : CodePoint → Prop}
    (written : ∀ point ∈ new, kind point) {text : Str} (all : ∀ point ∈ text, kind point) :
    ∀ point ∈ replaceAll old new text, kind point := by
  induction text using replaceAll_induction nonempty with
  | nil => exact all
  | found rest ih =>
      rw [replaceAll_append nonempty]
      intro point member
      rcases List.mem_append.1 member with inside | later
      · exact written point inside
      · exact ih (fun other here => all other (List.mem_append_right _ here)) point later
  | cons point rest plain ih =>
      obtain ⟨here, later⟩ := List.forall_mem_cons.1 all
      rw [replaceAll_cons plain]
      exact List.forall_mem_cons.2 ⟨here, ih later⟩

theorem count_replaceAll_le (nonempty : old ≠ []) {point : CodePoint}
    (fewer : new.count point < old.count point) (text : Str) :
    (replaceAll old new text).count point ≤ text.count point ∧
      (old <:+: text → (replaceAll old new text).count point < text.count point) := by
  induction text using replaceAll_induction nonempty with
  | nil => exact ⟨Nat.le_refl 0, fun within => absurd (List.infix_nil.1 within) nonempty⟩
  | found rest ih =>
      rw [replaceAll_append nonempty, List.count_append, List.count_append]
      exact ⟨by omega, fun _ => by omega⟩
  | cons other rest plain ih =>
      rw [replaceAll_cons plain, List.count_cons, List.count_cons]
      refine ⟨by omega, fun within => ?_⟩
      rcases List.infix_cons_iff.1 within with leads | later
      · exact absurd leads plain
      · have less := ih.2 later
        omega

theorem transparent_replaceAll {lead lead' : CodePoint} {later later' : Str} :
    Transparent (fun point => point ≠ lead ∧ point ≠ lead')
      (replaceAll (lead :: later) (lead' :: later')) where
  cons point rest plain :=
    replaceAll_cons fun leads => plain.1 (List.cons_prefix_cons.1 leads).1.symm
  uncons point text rest plain edited := by
    cases text using replaceAll_induction (List.cons_ne_nil lead later) with
    | nil => exact absurd edited (List.cons_ne_nil _ _).symm
    | found rest' =>
        rw [replaceAll_append (List.cons_ne_nil lead later)] at edited
        exact absurd (List.cons.inj edited).1.symm plain.2
    | cons other rest' unled =>
        rw [replaceAll_cons unled] at edited
        obtain ⟨rfl, rfl⟩ := List.cons.inj edited
        exact ⟨rest', rfl, rfl⟩

theorem suffix_replaceAll (nonempty : old ≠ []) {point : CodePoint} (apart : point ∉ new)
    {rest : Str} (text : Str) (ends : point :: rest <:+ replaceAll old new text) :
    ∃ later, later <:+ text ∧ replaceAll old new later = point :: rest := by
  induction text using replaceAll_induction nonempty with
  | nil => exact absurd (List.suffix_nil.1 ends) (List.cons_ne_nil _ _)
  | found later ih =>
      rw [replaceAll_append nonempty] at ends
      obtain ⟨before, whole⟩ := ends
      rcases List.append_eq_append_iff.1 whole with ⟨more, written, same⟩ | ⟨more, _, inside⟩
      · rcases more with _ | ⟨first, more⟩
        · exact ⟨later, List.suffix_append _ _, same.symm⟩
        · have here := (List.cons.inj same).1
          rw [written, here] at apart
          exact absurd (by simp) apart
      · obtain ⟨found, within, edited⟩ := ih ⟨more, inside.symm⟩
        exact ⟨found, within.trans (List.suffix_append _ _), edited⟩
  | cons other later plain ih =>
      rw [replaceAll_cons plain] at ends
      rcases List.suffix_cons_iff.1 ends with same | inside
      · exact ⟨other :: later, List.suffix_refl _, (replaceAll_cons plain).trans same.symm⟩
      · obtain ⟨found, within, edited⟩ := ih inside
        exact ⟨found, within.trans (List.suffix_cons _ _), edited⟩

end

end Str

end UssdGateway
