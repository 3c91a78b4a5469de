import UssdGateway.Library.JsText
import UssdGateway.Library.Trimming

/-!
Text as JavaScript has it, in UTF-16 code units. Lengths and cuts count units, and a cut may leave
half of a character.
-/

namespace Utf16

open Trimming

def encodeChar (char : Char) : List Nat :=
  if char.toNat < 0x10000 then [char.toNat]
  else [0xD800 + (char.toNat - 0x10000) / 0x400, 0xDC00 + (char.toNat - 0x10000) % 0x400]

def encode (text : List Char) : List Nat := text.flatMap encodeChar

def characters : List Nat → Nat
  | [] => 0
  | [_] => 1
  | first :: second :: rest =>
      if 0xD800 ≤ first ∧ first < 0xDC00 ∧ 0xDC00 ≤ second ∧ second < 0xE000 then
        characters rest + 1
      else characters (second :: rest) + 1

def loneScalar (unit : Nat) : Char :=
  if 0xD800 ≤ unit ∧ unit < 0xE000 then '\uFFFD' else Char.ofNat unit

def scalars : List Nat → List Char
  | [] => []
  | [unit] => [loneScalar unit]
  | first :: second :: rest =>
      if 0xD800 ≤ first ∧ first < 0xDC00 ∧ 0xDC00 ≤ second ∧ second < 0xE000 then
        Char.ofNat (0x10000 + (first - 0xD800) * 0x400 + (second - 0xDC00)) :: scalars rest
      else loneScalar first :: scalars (second :: rest)

def Basic (char : Char) : Prop := char.toNat < 0x10000

instance (char : Char) : Decidable (Basic char) := inferInstanceAs (Decidable (_ < _))

theorem not_surrogate (char : Char) : char.toNat < 0xD800 ∨ 0xE000 ≤ char.toNat := by
  have valid := char.valid
  simp only [UInt32.isValidChar, Nat.isValidChar] at valid
  simp only [Char.toNat]
  omega

theorem toNat_lt (char : Char) : char.toNat < 0x110000 := by
  have valid := char.valid
  simp only [UInt32.isValidChar, Nat.isValidChar] at valid
  simp only [Char.toNat]
  omega

theorem encode_append (first second : List Char) :
    encode (first ++ second) = encode first ++ encode second := List.flatMap_append

theorem encode_cons (char : Char) (rest : List Char) :
    encode (char :: rest) = encodeChar char ++ encode rest := List.flatMap_cons

theorem encodeChar_ne_nil (char : Char) : encodeChar char ≠ [] := by
  rw [encodeChar]
  split <;> exact List.cons_ne_nil _ _

theorem encode_eq_nil_iff {text : List Char} : encode text = [] ↔ text = [] := by
  rcases text with _ | ⟨char, rest⟩
  · exact iff_of_true rfl rfl
  · rw [encode_cons, List.append_eq_nil_iff]
    exact iff_of_false (fun empty => encodeChar_ne_nil char empty.1) (List.cons_ne_nil _ _)

theorem length_encodeChar (char : Char) :
    (encodeChar char).length = if Basic char then 1 else 2 := by
  rw [encodeChar]
  by_cases basic : char.toNat < 0x10000
  · rw [if_pos basic]
    exact (if_pos basic).symm
  · rw [if_neg basic]
    exact (if_neg basic).symm

theorem length_le (text : List Char) : text.length ≤ (encode text).length := by
  induction text with
  | nil => exact Nat.le_refl 0
  | cons char rest ih =>
      rw [encode_cons, List.length_append, length_encodeChar, List.length_cons]
      split <;> omega

theorem length_eq_iff (text : List Char) :
    (encode text).length = text.length ↔ ∀ char ∈ text, Basic char := by
  induction text with
  | nil => exact iff_of_true rfl (by simp)
  | cons char rest ih =>
      have shorter := length_le rest
      rw [encode_cons, List.length_append, length_encodeChar, List.length_cons,
        List.forall_mem_cons, ← ih]
      by_cases basic : Basic char
      · rw [if_pos basic]
        simp only [basic, true_and]
        omega
      · rw [if_neg basic]
        simp only [basic, false_and, iff_false]
        omega

theorem toNat_injective {first second : Char} (same : first.toNat = second.toNat) :
    first = second := Char.ext (UInt32.toNat_inj.1 same)

theorem encodeChar_append_inj {first second : Char} {rest rest' : List Nat}
    (same : encodeChar first ++ rest = encodeChar second ++ rest') :
    first = second ∧ rest = rest' := by
  have oneAway := not_surrogate first
  have otherAway := not_surrogate second
  have oneBound := toNat_lt first
  have otherBound := toNat_lt second
  rw [encodeChar, encodeChar] at same
  split at same
  next =>
    split at same
    next =>
      obtain ⟨unit, tails⟩ := List.cons.inj same
      exact ⟨toNat_injective unit, tails⟩
    next =>
      obtain ⟨unit, _⟩ := List.cons.inj same
      omega
  next =>
    split at same
    next =>
      obtain ⟨unit, _⟩ := List.cons.inj same
      omega
    next =>
      obtain ⟨high, later⟩ := List.cons.inj same
      obtain ⟨low, tails⟩ := List.cons.inj later
      exact ⟨toNat_injective (by omega), tails⟩

theorem encode_injective {first second : List Char} (same : encode first = encode second) :
    first = second := by
  induction first generalizing second with
  | nil => exact (encode_eq_nil_iff.1 same.symm).symm
  | cons char rest ih =>
      rcases second with _ | ⟨char', rest'⟩
      · exact encode_eq_nil_iff.1 same
      · rw [encode_cons, encode_cons] at same
        obtain ⟨rfl, tails⟩ := encodeChar_append_inj same
        rw [ih tails]

theorem characters_encodeChar_append (char : Char) (rest : List Nat) :
    characters (encodeChar char ++ rest) = characters rest + 1 := by
  have away := not_surrogate char
  have bound := toNat_lt char
  rw [encodeChar]
  split
  next basic =>
    rcases rest with _ | ⟨unit, rest⟩
    · rfl
    · exact if_neg (by omega)
  next => exact if_pos (by omega)

theorem characters_encode (text : List Char) : characters (encode text) = text.length := by
  induction text with
  | nil => rfl
  | cons char rest ih => rw [encode_cons, characters_encodeChar_append, ih, List.length_cons]

theorem scalars_cons {unit : Nat} (single : unit < 0xD800 ∨ 0xE000 ≤ unit) (rest : List Nat) :
    scalars (unit :: rest) = Char.ofNat unit :: scalars rest := by
  have alone : loneScalar unit = Char.ofNat unit := if_neg (by omega)
  rcases rest with _ | ⟨second, rest⟩
  · exact congrArg (fun char => [char]) alone
  · rw [scalars, if_neg (by omega), alone]

theorem scalars_encodeChar_append (char : Char) (rest : List Nat) :
    scalars (encodeChar char ++ rest) = char :: scalars rest := by
  have away := not_surrogate char
  have bound := toNat_lt char
  rw [encodeChar]
  split
  next basic =>
    rw [List.singleton_append, scalars_cons away, Char.ofNat_toNat]
  next =>
    have number : 0x10000 + (0xD800 + (char.toNat - 0x10000) / 0x400 - 0xD800) * 0x400 +
        (0xDC00 + (char.toNat - 0x10000) % 0x400 - 0xDC00) = char.toNat := by
      omega
    rw [List.cons_append, List.singleton_append, scalars, if_pos (by omega), number,
      Char.ofNat_toNat]

theorem scalars_encode_append (text : List Char) (rest : List Nat) :
    scalars (encode text ++ rest) = text ++ scalars rest := by
  induction text with
  | nil => rfl
  | cons char text ih =>
      rw [encode_cons, List.append_assoc, scalars_encodeChar_append, ih, List.cons_append]

theorem scalars_encode (text : List Char) : scalars (encode text) = text := by
  have whole := scalars_encode_append text []
  rwa [List.append_nil, scalars, List.append_nil] at whole

theorem all_space_encodeChar (char : Char) :
    (∀ unit ∈ encodeChar char, JsText.isSpaceCode unit = JsText.isSpace char) := by
  have bound := toNat_lt char
  rw [encodeChar]
  split
  next =>
    intro unit member
    rw [List.mem_singleton.1 member]
    rfl
  next astral =>
    have wide : ∀ unit, 0xD800 ≤ unit ∧ unit < 0xE000 ∨ 0x10000 ≤ unit →
        JsText.isSpaceCode unit = false := by
      intro unit range
      simp only [JsText.isSpaceCode, Bool.or_eq_false_iff, Bool.and_eq_false_iff,
        decide_eq_false_iff_not]
      omega
    have visible : JsText.isSpace char = false := wide char.toNat (Or.inr (by omega))
    intro unit member
    rw [visible]
    simp only [List.mem_cons, List.not_mem_nil, or_false] at member
    exact wide unit (Or.inl (by omega))

theorem dropWhile_encode (text : List Char) :
    (encode text).dropWhile JsText.isSpaceCode = encode (text.dropWhile JsText.isSpace) := by
  induction text with
  | nil => rfl
  | cons char rest ih =>
      have units := all_space_encodeChar char
      rw [encode_cons]
      rcases blank : JsText.isSpace char with _ | _
      · obtain ⟨unit, more, spelled⟩ := List.exists_cons_of_ne_nil (encodeChar_ne_nil char)
        have visible : JsText.isSpaceCode unit = false := by
          rw [units unit (by rw [spelled]; exact List.mem_cons_self), blank]
        rw [List.dropWhile_cons_of_neg (by simp [blank]), encode_cons, spelled, List.cons_append,
          List.dropWhile_cons_of_neg (by simp [visible])]
      · rw [List.dropWhile_append_of_pos fun unit member => by rw [units unit member, blank], ih,
          List.dropWhile_cons_of_pos blank]

theorem rdropWhile_encode (text : List Char) :
    (encode text).rdropWhile JsText.isSpaceCode = encode (text.rdropWhile JsText.isSpace) := by
  induction text using List.reverseRecOn with
  | nil => rfl
  | append_singleton text char ih =>
      have units := all_space_encodeChar char
      have single : encode [char] = encodeChar char := List.append_nil _
      rw [encode_append, single]
      rcases blank : JsText.isSpace char with _ | _
      · rw [List.rdropWhile_concat_neg _ _ _ (by simp [blank]), encode_append, single]
        apply rdropWhile_of_lastKept
        intro unit last
        rw [List.getLast?_append_of_ne_nil _ (encodeChar_ne_nil char)] at last
        rw [units unit (List.mem_of_getLast? last), blank]
      · rw [rdropWhile_append_blank fun unit member => by rw [units unit member, blank], ih,
          List.rdropWhile_concat_pos _ _ _ blank]

theorem strip_encode (text : List Char) :
    strip JsText.isSpaceCode (encode text) = encode (strip JsText.isSpace text) := by
  rw [strip, dropWhile_encode, rdropWhile_encode, strip]

theorem headKept_encode (text : List Char) :
    HeadKept JsText.isSpaceCode (encode text) ↔ HeadKept JsText.isSpace text := by
  constructor
  · intro kept
    have same := dropWhile_encode text
    rw [dropWhile_of_headKept kept] at same
    rw [encode_injective same]
    exact headKept_dropWhile text
  · intro kept
    have same := dropWhile_encode text
    rw [dropWhile_of_headKept kept] at same
    rw [← same]
    exact headKept_dropWhile _

theorem take_encode {text : List Char} {count : Nat} (enough : count ≤ text.length)
    (basic : ∀ char ∈ text.take count, Basic char) :
    (encode text).take count = encode (text.take count) := by
  have size := (length_eq_iff _).2 basic
  rw [List.length_take, Nat.min_eq_left enough] at size
  conv_lhs => rw [← List.take_append_drop count text, encode_append]
  rw [List.take_append_of_le_length (by omega), List.take_of_length_le (by omega)]

end Utf16
