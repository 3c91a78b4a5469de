import Mathlib.Data.List.DropRight
import UssdGateway.Gateway.Sandbox
import UssdGateway.Gateway.TextEdits

/-!
Dialed codes: their canonical form, the registered codes they may extend, and how a code dialed
with a menu path behind it, `*149*46*1*2#`, is routed.
-/

namespace UssdGateway

section

variable {pattern text : Str} {sign : CodePoint} {fuel : Nat}

theorem prefix_of_prefix_replace {start : Str} (apart : sign ∉ start)
    (enough : text.length ≤ fuel) (found : start <+: Str.replace pattern [sign] fuel text) :
    start <+: text := by
  induction fuel generalizing text start with
  | zero => exact found
  | succ fuel ih =>
      rcases start with _ | ⟨first, start⟩
      · exact List.nil_prefix
      rcases text with _ | ⟨point, rest⟩
      · exact found
      rw [Str.replace] at found
      split at found
      next =>
        obtain ⟨same, _⟩ := List.cons_prefix_cons.1 found
        exact absurd (same ▸ List.mem_cons_self) apart
      next =>
        obtain ⟨rfl, later⟩ := List.cons_prefix_cons.1 found
        rw [List.length_cons] at enough
        exact List.cons_prefix_cons.2
          ⟨rfl, ih (fun member => apart (List.mem_cons_of_mem _ member)) (by omega) later⟩

theorem not_infix_replace (nonempty : pattern ≠ []) (apart : sign ∉ pattern)
    (enough : text.length ≤ fuel) : ¬ pattern <:+: Str.replace pattern [sign] fuel text := by
  induction fuel generalizing text with
  | zero =>
      rw [List.length_eq_zero_iff.1 (Nat.le_zero.1 enough)]
      exact fun found => nonempty (List.infix_nil.1 found)
  | succ fuel ih =>
      rcases text with _ | ⟨point, rest⟩
      · exact fun found => nonempty (List.infix_nil.1 found)
      rw [List.length_cons] at enough
      have positive : 0 < pattern.length := List.length_pos_iff.2 nonempty
      intro found
      rw [Str.replace] at found
      split at found
      next =>
        rcases List.infix_cons_iff.1 found with opening | later
        · rcases pattern with _ | ⟨first, pattern⟩
          · exact nonempty rfl
          · obtain ⟨same, _⟩ := List.cons_prefix_cons.1 opening
            exact apart (same ▸ List.mem_cons_self)
        · refine ih ?_ later
          rw [List.length_drop, List.length_cons]
          omega
      next unmatched =>
        rcases List.infix_cons_iff.1 found with opening | later
        · have copied : pattern <+: point :: rest :=
            @prefix_of_prefix_replace pattern (point :: rest) sign (fuel + 1) pattern apart
              (by simpa using enough) (by rw [Str.replace, if_neg unmatched]; exact opening)
          exact unmatched (List.isPrefixOf_iff_prefix.2 copied)
        · exact ih (by omega) later

theorem replace_of_absent {replacement : Str} (free : ¬ pattern <:+: text) :
    Str.replace pattern replacement fuel text = text := by
  induction fuel generalizing text with
  | zero => rfl
  | succ fuel ih =>
      rcases text with _ | ⟨point, rest⟩
      · rfl
      have unmatched : ¬ pattern.isPrefixOf (point :: rest) = true := fun matched =>
        free (List.isPrefixOf_iff_prefix.1 matched).isInfix
      have later : ¬ pattern <:+: rest := fun found =>
        free (found.trans (List.suffix_cons point rest).isInfix)
      rw [Str.replace, if_neg unmatched, ih later]

end

def escapedHash : Str := lit "%23"

def dialCore (dialed : Str) : Str :=
  Str.rstripBy (· = hash) (Str.lstripBy (· = star) dialed)

def menuPath (inputs : List Str) : Str := inputs.flatMap fun input => star :: input

def inlineDial (code : Str) (inputs : List Str) : Str :=
  Str.rstripBy (· = hash) code ++ menuPath inputs ++ [hash]

structure Typeable (input : Str) : Prop where
  nonempty : input ≠ []
  trimmed : Str.strip input = input
  noStar : star ∉ input
  noHash : hash ∉ input
  noEscape : ¬ escapedHash <:+: input

def dialPrefixes (dialed : Str) : List Str :=
  if dialCore (normaliseDialed dialed) = [] then []
  else dialCandidates (Str.split star (dialCore (normaliseDialed dialed)))

/-- Of the operator's live codes that are prefixes of the dial, `code` is the longest. -/
structure LongestRegisteredPrefix (registry : Registry) (operatorId : Nat) (dialed code : Str) :
    Prop where
  registered : ∃ record ∈ registry.shortcodes, record.operatorId = operatorId ∧
    record.environment = .production ∧ record.code = code
  isPrefix : code ∈ dialPrefixes dialed
  longest : ∀ record ∈ registry.shortcodes, record.operatorId = operatorId →
    record.environment = .production → record.code ∈ dialPrefixes dialed →
    record.code.length ≤ code.length

structure DialBody (body : Str) : Prop where
  nonempty : body ≠ []
  opens : body.head? ≠ some star
  closes : body.getLast? ≠ some hash
  noEscape : ¬ escapedHash <:+: body

section

variable {body : Str}

theorem infix_append_separator {pattern first rest : Str} {separator : CodePoint}
    (apart : separator ∉ pattern) (found : pattern <:+: first ++ separator :: rest) :
    pattern <:+: first ∨ pattern <:+: rest := by
  induction first with
  | nil =>
      rcases List.infix_cons_iff.1 found with opening | later
      · exact Or.inl (@prefix_before_separator pattern [] rest separator apart opening).isInfix
      · exact Or.inr later
  | cons point first ih =>
      rcases List.infix_cons_iff.1 found with opening | later
      · exact Or.inl
          (@prefix_before_separator pattern (point :: first) rest separator apart opening).isInfix
      · rcases ih later with inside | after
        · exact Or.inl (inside.trans (List.suffix_cons _ _).isInfix)
        · exact Or.inr after

theorem star_not_mem_escapedHash : star ∉ escapedHash := by decide

theorem hash_not_mem_escapedHash : hash ∉ escapedHash := by decide

theorem noEscape_menuPath {inputs : List Str} (typeable : ∀ input ∈ inputs, Typeable input)
    {first : Str} (free : ¬ escapedHash <:+: first) :
    ¬ escapedHash <:+: first ++ menuPath inputs := by
  induction inputs generalizing first with
  | nil => simpa [menuPath] using free
  | cons input rest ih =>
      obtain ⟨here, later⟩ := List.forall_mem_cons.1 typeable
      have joined : ¬ escapedHash <:+: first ++ star :: input := by
        intro found
        rcases infix_append_separator star_not_mem_escapedHash found with before | after
        · exact free before
        · exact here.noEscape after
      simpa [menuPath, List.append_assoc] using ih later joined

theorem dialCore_dial (text : Str) :
    dialCore (star :: text ++ [hash]) =
      Str.rstripBy (· = hash) (Str.lstripBy (· = star) text) := by
  have opened : Str.lstripBy (· = star) (star :: text ++ [hash]) =
      Str.lstripBy (· = star) text ++ [hash] := by
    simp only [Str.lstripBy, List.cons_append, List.dropWhile_cons, decide_true, if_true,
      List.dropWhile_append]
    split
    next nothing =>
      rw [List.isEmpty_iff.1 nothing]
      exact @List.dropWhile_cons_of_neg _ (fun point => decide (point = star)) hash [] (by decide)
    next => rfl
  rw [dialCore, opened]
  exact List.rdropWhile_concat_pos (fun point => decide (point = hash)) _ hash (by simp)

theorem strip_dial (text : Str) : Str.strip (star :: text ++ [hash]) = star :: text ++ [hash] := by
  have opened : Str.lstrip (star :: text ++ [hash]) = star :: text ++ [hash] :=
    @List.dropWhile_cons_of_neg _ CodePoint.isSpace star (text ++ [hash]) (by decide)
  have closed : Str.rstrip (star :: text ++ [hash]) = star :: text ++ [hash] :=
    List.rdropWhile_concat_neg CodePoint.isSpace (star :: text) hash (by decide)
  rw [Str.strip, opened, closed]

theorem noEscape_dial {text : Str} (free : ¬ escapedHash <:+: text) :
    ¬ escapedHash <:+: star :: text ++ [hash] := by
  intro found
  rcases @infix_append_separator escapedHash (star :: text) [] hash hash_not_mem_escapedHash
    found with inside | after
  · rcases @infix_append_separator escapedHash [] text star star_not_mem_escapedHash inside with
      before | inside
    · exact absurd before (by decide)
    · exact free inside
  · exact absurd after (by decide)

theorem normaliseDialed_of_nonempty {raw : Str} (nonempty : Str.strip raw ≠ []) :
    normaliseDialed raw =
      let unquoted := Str.replace escapedHash [hash] (Str.strip raw).length (Str.strip raw)
      if dialCore unquoted = [] then [] else star :: dialCore unquoted ++ [hash] := by
  rw [normaliseDialed]
  exact if_neg nonempty

theorem normaliseDialed_dial {text : Str} (free : ¬ escapedHash <:+: text) :
    normaliseDialed (star :: text ++ [hash]) =
      if dialCore (star :: text ++ [hash]) = [] then []
      else star :: dialCore (star :: text ++ [hash]) ++ [hash] := by
  have stripped := strip_dial text
  rw [normaliseDialed_of_nonempty (by rw [stripped]; simp), stripped]
  simp only [replace_of_absent (noEscape_dial free)]

theorem lstrip_of_head {text : Str} (opens : text.head? ≠ some star) :
    Str.lstripBy (· = star) text = text := by
  rcases text with _ | ⟨first, rest⟩
  · rfl
  · have apart : first ≠ star := fun same => opens (by rw [same, List.head?_cons])
    simp [Str.lstripBy, apart]

theorem DialBody.rstrip (dial : DialBody body) : Str.rstripBy (· = hash) body = body := by
  refine List.rdropWhile_eq_self_iff.2 fun nonempty last => dial.closes ?_
  rw [List.getLast?_eq_some_getLast nonempty, of_decide_eq_true last]

theorem DialBody.dialCore (dial : DialBody body) : dialCore (star :: body ++ [hash]) = body := by
  rw [dialCore_dial, lstrip_of_head dial.opens, dial.rstrip]

theorem DialBody.normaliseDialed (dial : DialBody body) :
    normaliseDialed (star :: body ++ [hash]) = star :: body ++ [hash] := by
  rw [normaliseDialed_dial dial.noEscape, dial.dialCore, if_neg dial.nonempty]

theorem dialBody_dialCore {raw : Str} (nonempty : dialCore raw ≠ [])
    (free : ¬ escapedHash <:+: raw) : DialBody (dialCore raw) := by
  have opening : dialCore raw <+: Str.lstripBy (· = star) raw :=
    List.rdropWhile_prefix (fun point => decide (point = hash)) _
  refine ⟨nonempty, ?_, ?_, ?_⟩
  · intro opens
    have first : (Str.lstripBy (· = star) raw).head? = some star := by
      obtain ⟨rest, same⟩ := opening
      rw [← same, List.head?_append, opens, Option.some_or]
    have kept := List.head?_dropWhile_not (fun point : CodePoint => decide (point = star)) raw
    rw [Str.lstripBy] at first
    simp [first] at kept
  · intro closes
    have last := List.rdropWhile_last_not (fun point : CodePoint => decide (point = hash))
      (Str.lstripBy (· = star) raw) nonempty
    rw [List.getLast?_eq_some_getLast nonempty] at closes
    exact last (decide_eq_true (Option.some.inj closes))
  · intro found
    exact free (found.trans (opening.isInfix.trans (List.dropWhile_suffix _).isInfix))

theorem normaliseDialed_eq (raw : Str) :
    normaliseDialed raw = [] ∨
      ∃ body, DialBody body ∧ normaliseDialed raw = star :: body ++ [hash] := by
  by_cases nonempty : Str.strip raw = []
  · exact Or.inl (by rw [normaliseDialed, nonempty]; rfl)
  rw [normaliseDialed_of_nonempty nonempty]
  simp only
  split
  · exact Or.inl rfl
  next body =>
    exact Or.inr ⟨_, dialBody_dialCore body
      (not_infix_replace (by decide) (by decide) (Nat.le_refl _)), rfl⟩

theorem join_eq_menuPath (first : Str) (rest : List Str) :
    Str.join [star] (first :: rest) = first ++ menuPath rest := by
  induction rest generalizing first with
  | nil => simp [Str.join, menuPath]
  | cons second rest ih =>
      rw [join_cons_cons, ih]
      simp [menuPath]

theorem join_take_drop {segments : List Str} (nonempty : segments ≠ []) {count : Nat}
    (positive : 0 < count) : Str.join [star] segments =
      Str.join [star] (segments.take count) ++ menuPath (segments.drop count) := by
  obtain ⟨first, rest, rfl⟩ := List.exists_cons_of_ne_nil nonempty
  obtain ⟨fewer, rfl⟩ : ∃ fewer, count = fewer + 1 := ⟨count - 1, by omega⟩
  rw [List.take_succ_cons, List.drop_succ_cons, join_eq_menuPath, join_eq_menuPath,
    List.append_assoc]
  congr 1
  rw [menuPath, menuPath, menuPath, ← List.flatMap_append, List.take_append_drop]

theorem exists_menuPath {text code : Str} (member : code ∈ dialCandidates (Str.split star text)) :
    ∃ body rest, code = star :: body ++ [hash] ∧ text = body ++ menuPath rest := by
  simp only [dialCandidates, List.mem_map, List.mem_reverse, List.mem_range] at member
  obtain ⟨shorter, _, rfl⟩ := member
  have whole : Str.join [star] (Str.split star text) = text := List.intercalate_splitOn star
  refine ⟨Str.join [star] ((Str.split star text).take (shorter + 1)),
    (Str.split star text).drop (shorter + 1), rfl, ?_⟩
  exact whole.symm.trans (join_take_drop (List.splitOn_ne_nil star text) (Nat.succ_pos shorter))

theorem dialMatch_ne_nil {registry : Registry} {operatorId : Nat} {dialed : Str}
    {known : ShortcodePrefixMatch} (found : registry.dialMatch operatorId dialed = some known) :
    known.code ≠ [] := by
  simp only [Registry.dialMatch] at found
  split at found
  next => cases found
  next =>
    obtain ⟨code, longest, rfl⟩ := Option.map_eq_some_iff.1 found
    obtain ⟨record, member, rfl⟩ := List.mem_map.1 (List.argmax_mem longest)
    obtain ⟨_, listed⟩ := List.mem_filter.1 member
    simp only [decide_eq_true_eq] at listed
    obtain ⟨body, rest, same, _⟩ := exists_menuPath listed.2.1
    change record.code ≠ []
    rw [same]
    exact List.cons_ne_nil _ _

theorem hash_not_mem_menuPath {inputs : List Str} (typeable : ∀ input ∈ inputs, Typeable input) :
    hash ∉ menuPath inputs := by
  intro member
  obtain ⟨input, present, inside⟩ := List.mem_flatMap.1 member
  rcases List.mem_cons.1 inside with same | later
  · exact absurd same (by decide)
  · exact (typeable input present).noHash later

theorem DialBody.extended (dial : DialBody body) {inputs : List Str}
    (typeable : ∀ input ∈ inputs, Typeable input) : DialBody (body ++ menuPath inputs) where
  nonempty := by simp [dial.nonempty]
  opens := by
    obtain ⟨first, rest, rfl⟩ := List.exists_cons_of_ne_nil dial.nonempty
    exact dial.opens
  closes := by
    rw [List.getLast?_append]
    rcases last : (menuPath inputs).getLast? with _ | point
    · exact dial.closes
    · rintro ⟨rfl⟩
      exact hash_not_mem_menuPath typeable (List.mem_of_getLast? last)
  noEscape := noEscape_menuPath typeable dial.noEscape

theorem rstrip_code (body : Str) :
    Str.rstripBy (· = hash) (star :: body ++ [hash]) =
      star :: Str.rstripBy (· = hash) body := by
  have closed : Str.rstripBy (· = hash) (star :: body ++ [hash]) =
      Str.rstripBy (· = hash) (star :: body) :=
    List.rdropWhile_concat_pos (fun point => decide (point = hash)) _ hash (by simp)
  rw [closed, Str.rstripBy, Str.rstripBy, List.reverse_cons, List.dropWhile_append]
  split
  next nothing =>
    rw [List.isEmpty_iff.1 nothing]
    rfl
  next => simp

theorem mem_of_mem_dialCore {point : CodePoint} {text : Str}
    (member : point ∈ dialCore (star :: text ++ [hash])) : point ∈ text := by
  rw [dialCore_dial] at member
  have opening := List.rdropWhile_prefix (fun point : CodePoint => decide (point = hash))
    (Str.lstripBy (· = star) text)
  exact (List.dropWhile_sublist _).subset (opening.subset member)

theorem dialBody_rstrip (opens : body.head? ≠ some star) (free : ¬ escapedHash <:+: body)
    (nonempty : Str.rstripBy (· = hash) body ≠ []) : DialBody (Str.rstripBy (· = hash) body) := by
  have core : dialCore (star :: body ++ [hash]) = Str.rstripBy (· = hash) body := by
    rw [dialCore_dial, lstrip_of_head opens]
  rw [← core] at nonempty ⊢
  exact dialBody_dialCore nonempty (noEscape_dial free)

theorem rstrip_eq_self {inputs rest : List Str} (typeable : ∀ input ∈ inputs, Typeable input)
    (opens : body.head? ≠ some star) (free : ¬ escapedHash <:+: body)
    (path : dialCore (star :: (Str.rstripBy (· = hash) body ++ menuPath inputs) ++ [hash]) =
      body ++ menuPath rest) : Str.rstripBy (· = hash) body = body := by
  obtain ⟨hashes, divided, trailing⟩ : ∃ hashes, Str.rstripBy (· = hash) body ++ hashes = body ∧
      ∀ point ∈ hashes, point = hash :=
    ⟨_, @List.rdropWhile_append_rtakeWhile _ (fun point => decide (point = hash)) body,
      fun point member => by simpa using List.mem_rtakeWhile_imp member⟩
  have noHash := hash_not_mem_menuPath typeable
  -- A `#` left over would have to come from the menu path.
  rcases hashes with _ | ⟨point, hashes⟩
  · rwa [List.append_nil] at divided
  have point_eq : point = hash := trailing point List.mem_cons_self
  subst point_eq
  refine absurd ?_ noHash
  by_cases empty : Str.rstripBy (· = hash) body = []
  · rw [empty, List.nil_append] at path divided
    apply mem_of_mem_dialCore
    rw [path, ← divided]
    simp
  · have whole := (dialBody_rstrip opens free empty).extended typeable
    rw [whole.dialCore] at path
    have tail : menuPath inputs = hash :: hashes ++ menuPath rest := by
      apply List.append_cancel_left
      rw [path, ← List.append_assoc, divided]
    rw [tail]
    simp

theorem canonical_of_isPrefix {code : Str} {inputs : List Str}
    (typeable : ∀ input ∈ inputs, Typeable input)
    (isPrefix : code ∈ dialPrefixes (inlineDial code inputs)) :
    ∃ body, DialBody body ∧ code = star :: body ++ [hash] ∧
      normaliseDialed (inlineDial code inputs) = star :: (body ++ menuPath inputs) ++ [hash] := by
  rw [dialPrefixes] at isPrefix
  split at isPrefix
  · exact absurd isPrefix List.not_mem_nil
  next dialed =>
    obtain ⟨body, rest, rfl, path⟩ := exists_menuPath isPrefix
    rcases normaliseDialed_eq (inlineDial (star :: body ++ [hash]) inputs) with
      empty | ⟨whole, dial, read⟩
    · rw [empty] at dialed
      exact absurd rfl dialed
    rw [read, dial.dialCore] at path
    have opening : body ≠ [] ∧ body.head? ≠ some star := by
      rcases body with _ | ⟨first, body⟩
      · rcases rest with _ | ⟨input, rest⟩
        · exact absurd path dial.nonempty
        · exact absurd (congrArg List.head? path) dial.opens
      · exact ⟨by simp, fun same => dial.opens (by rw [path]; exact same)⟩
    have free : ¬ escapedHash <:+: body := fun found =>
      dial.noEscape (found.trans (path ▸ (List.prefix_append _ _).isInfix))
    have stripped : Str.rstripBy (· = hash) body = body := by
      have freeStripped : ¬ escapedHash <:+: Str.rstripBy (· = hash) body := fun found =>
        free (found.trans (List.rdropWhile_prefix _ _).isInfix)
      rw [inlineDial, rstrip_code, List.cons_append,
        normaliseDialed_dial (noEscape_menuPath typeable freeStripped)] at read
      split at read
      · cases read
      · exact rstrip_eq_self typeable opening.2 free
          ((List.append_cancel_right (List.cons.inj read).2).trans path)
    have canonical : DialBody body := by
      have whole := dialBody_rstrip opening.2 free (by rw [stripped]; exact opening.1)
      rwa [stripped] at whole
    refine ⟨body, canonical, rfl, ?_⟩
    rw [inlineDial, rstrip_code, stripped]
    exact (canonical.extended typeable).normaliseDialed

/-! Routing. -/

theorem drop_menuPath (inputs : List Str) : (menuPath inputs).drop 1 = Str.join [star] inputs := by
  rcases inputs with _ | ⟨input, rest⟩
  · rfl
  · rw [join_eq_menuPath]
    rfl

theorem remainder_menuPath (body : Str) (inputs : List Str) :
    (if body ++ menuPath inputs = body then []
      else (body ++ menuPath inputs).drop (body.length + 1)) = Str.join [star] inputs := by
  split
  next alone =>
    have nothing : menuPath inputs = [] := List.append_right_eq_self.1 alone
    rw [← drop_menuPath, nothing, List.drop_nil]
  next => rw [List.drop_append, List.drop_eq_nil_of_le (by omega), Nat.add_sub_cancel_left,
      List.nil_append, drop_menuPath]

theorem split_menuPath {inputs : List Str} (typeable : ∀ input ∈ inputs, Typeable input)
    (text : Str) :
    Str.split star (text ++ menuPath inputs) = Str.split star text ++ inputs := by
  induction inputs generalizing text with
  | nil => simp [menuPath]
  | cons input rest ih =>
      obtain ⟨here, later⟩ := List.forall_mem_cons.1 typeable
      have behind :
          text ++ menuPath (input :: rest) = (text ++ star :: input) ++ menuPath rest := by
        simp [menuPath]
      have divided : Str.split star (text ++ star :: input) = Str.split star text ++ [input] := by
        have alone : input.splitOn star = [input] := List.splitOn_eq_singleton here.noStar
        rw [Str.split, List.splitOn_append_cons_self, alone]
        rfl
      rw [behind, ih later, divided, List.append_assoc, List.singleton_append]

theorem dialCandidates_append (segments more : List Str) {code : Str}
    (member : code ∈ dialCandidates segments) : code ∈ dialCandidates (segments ++ more) := by
  simp only [dialCandidates, List.mem_map, List.mem_reverse, List.mem_range,
    List.length_append] at member ⊢
  obtain ⟨shorter, bound, rfl⟩ := member
  exact ⟨shorter, by omega, by rw [List.take_append_of_le_length (by omega)]⟩

theorem DialBody.prefixes (dial : DialBody body) :
    dialPrefixes (star :: body ++ [hash]) = dialCandidates (Str.split star body) := by
  rw [dialPrefixes, dial.normaliseDialed, dial.dialCore, if_neg dial.nonempty]

theorem DialBody.self_mem (dial : DialBody body) :
    star :: body ++ [hash] ∈ dialPrefixes (star :: body ++ [hash]) := by
  rw [dial.prefixes]
  have whole : Str.join [star] (Str.split star body) = body := List.intercalate_splitOn star
  have positive : 0 < (Str.split star body).length :=
    List.length_pos_iff.2 (List.splitOn_ne_nil star body)
  simp only [dialCandidates, List.mem_map, List.mem_reverse, List.mem_range]
  refine ⟨(Str.split star body).length - 1, by omega, ?_⟩
  rw [Nat.sub_add_cancel positive, List.take_length, whole]
  rfl

end

section

variable {registry : Registry} {operatorId : Nat} {code : Str} {inputs : List Str}

theorem LongestRegisteredPrefix.longestRegistered {dialed : Str}
    (longest : LongestRegisteredPrefix registry operatorId dialed code) {segments : List Str}
    (prefixes : dialPrefixes dialed = dialCandidates segments) :
    registry.longestRegistered operatorId (dialCandidates segments) = some code := by
  obtain ⟨record, member, owner, live, coded⟩ := longest.registered
  have isPrefix := longest.isPrefix
  rw [prefixes] at isPrefix
  rw [Registry.longestRegistered]
  generalize listed : (registry.shortcodes.filter fun record =>
    record.operatorId = operatorId ∧ record.code ∈ dialCandidates segments ∧
      record.environment = .production).map ShortcodeRecord.code = codes
  have inside : ∀ other, other ∈ codes ↔ ∃ record ∈ registry.shortcodes,
      record.operatorId = operatorId ∧ record.environment = .production ∧
        other ∈ dialCandidates segments ∧ record.code = other := by
    intro other
    rw [← listed]
    simp only [List.mem_map, List.mem_filter, decide_eq_true_eq]
    constructor
    · rintro ⟨record, ⟨member, owner, dialed, live⟩, rfl⟩
      exact ⟨record, member, owner, live, dialed, rfl⟩
    · rintro ⟨record, member, owner, live, dialed, rfl⟩
      exact ⟨record, ⟨member, owner, dialed, live⟩, rfl⟩
  have here : code ∈ codes := (inside code).2 ⟨record, member, owner, live, isPrefix, coded⟩
  rcases found : codes.argmax List.length with _ | other
  · rw [List.argmax_eq_none.1 found] at here
    exact absurd here List.not_mem_nil
  · obtain ⟨rival, rivalMember, rivalOwner, rivalLive, rivalPrefix, rfl⟩ :=
      (inside other).1 (List.argmax_mem found)
    have above := List.le_of_mem_argmax here found
    have below := longest.longest rival rivalMember rivalOwner rivalLive
      (by rw [prefixes]; exact rivalPrefix)
    rw [dialCandidates_apart segments _ rivalPrefix _ isPrefix (Nat.le_antisymm below above)]

theorem dialMatch_inline (longest : LongestRegisteredPrefix registry operatorId
      (inlineDial code inputs) code) (typeable : ∀ input ∈ inputs, Typeable input) :
    registry.dialMatch operatorId (normaliseDialed (inlineDial code inputs)) =
      some { code, remainder := Str.join [star] inputs } := by
  obtain ⟨body, dial, rfl, read⟩ := canonical_of_isPrefix typeable longest.isPrefix
  have whole := dial.extended typeable
  have prefixes : dialPrefixes (inlineDial (star :: body ++ [hash]) inputs) =
      dialCandidates (Str.split star (body ++ menuPath inputs)) := by
    rw [dialPrefixes, read, whole.dialCore, if_neg whole.nonempty]
  have core := whole.dialCore
  have codeCore := dial.dialCore
  rw [dialCore] at core codeCore
  rw [read, Registry.dialMatch, core, if_neg whole.nonempty,
    longest.longestRegistered prefixes, Option.map_some, prefixMatch, codeCore]
  rw [remainder_menuPath]

theorem LongestRegisteredPrefix.of_inline (longest : LongestRegisteredPrefix registry operatorId
      (inlineDial code inputs) code) (typeable : ∀ input ∈ inputs, Typeable input) :
    inlineDial code [] = code ∧
      LongestRegisteredPrefix registry operatorId (inlineDial code []) code := by
  obtain ⟨body, dial, rfl, read⟩ := canonical_of_isPrefix typeable longest.isPrefix
  have whole := dial.extended typeable
  have alone : inlineDial (star :: body ++ [hash]) [] = star :: body ++ [hash] := by
    rw [inlineDial, rstrip_code, dial.rstrip, menuPath, List.flatMap_nil, List.append_nil]
  refine ⟨alone, longest.registered, by rw [alone]; exact dial.self_mem, ?_⟩
  intro record member owner live isPrefix
  apply longest.longest record member owner live
  rw [alone, dial.prefixes] at isPrefix
  rw [dialPrefixes, read, whole.dialCore, if_neg whole.nonempty, split_menuPath typeable]
  exact dialCandidates_append _ _ isPrefix

end

end UssdGateway
