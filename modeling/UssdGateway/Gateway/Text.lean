import Mathlib.Algebra.GroupWithZero.Nat
import Mathlib.Data.List.Basic

/-!
Python strings: sequences of code points, lone surrogates included. Only the operations the
gateway uses are here, with the behaviour of `str`.
-/

namespace UssdGateway

abbrev CodePoint := Fin 0x110000

abbrev Str := List CodePoint

instance Str.instLawfulBEq : LawfulBEq Str := inferInstance

namespace CodePoint

instance instNeZero : NeZero 0x110000 := ⟨Nat.succ_ne_zero _⟩

instance instLawfulBEq : LawfulBEq CodePoint := inferInstance

def ofChar (char : Char) : CodePoint :=
  ⟨char.toNat, by
    have valid := char.valid
    simp only [UInt32.isValidChar, Nat.isValidChar] at valid
    simp only [Char.toNat]
    omega⟩

def isSurrogate (point : CodePoint) : Bool :=
  decide (0xD800 ≤ point.val) && decide (point.val ≤ 0xDFFF)

theorem isSurrogate_ofChar (char : Char) : (ofChar char).isSurrogate = false := by
  have valid := char.valid
  simp only [UInt32.isValidChar, Nat.isValidChar] at valid
  rw [isSurrogate, ← Bool.decide_and, decide_eq_false_iff_not]
  simp only [ofChar, Char.toNat]
  omega

/-- The white space of `str.strip`. -/
def isSpace (point : CodePoint) : Bool :=
  (decide (0x09 ≤ point.val) && decide (point.val ≤ 0x0D)) ||
  (decide (0x1C ≤ point.val) && decide (point.val ≤ 0x20)) ||
  decide (point.val = 0x85) || decide (point.val = 0xA0) || decide (point.val = 0x1680) ||
  (decide (0x2000 ≤ point.val) && decide (point.val ≤ 0x200A)) ||
  decide (point.val = 0x2028) || decide (point.val = 0x2029) || decide (point.val = 0x202F) ||
  decide (point.val = 0x205F) || decide (point.val = 0x3000)

/-- `str.upper` on the letters a–z. No other code point upper-cases to a letter of the action
tokens or of an operator name. -/
def toUpper (point : CodePoint) : CodePoint :=
  if 0x61 ≤ point.val ∧ point.val ≤ 0x7A then point - 0x20 else point

/-- `str.lower` on the letters A–Z, as the field and header names need it. -/
def toLower (point : CodePoint) : CodePoint :=
  if 0x41 ≤ point.val ∧ point.val ≤ 0x5A then point + 0x20 else point

end CodePoint

def lit (text : String) : Str := text.toList.map CodePoint.ofChar

theorem lit_ne_nil {text : String} (nonempty : text.toList ≠ []) : lit text ≠ [] := by
  intro empty
  exact nonempty (List.map_eq_nil_iff.1 empty)

namespace Str

def lstripBy (drop : CodePoint → Bool) (text : Str) : Str := text.dropWhile drop

def rstripBy (drop : CodePoint → Bool) (text : Str) : Str :=
  (text.reverse.dropWhile drop).reverse

def lstrip (text : Str) : Str := lstripBy CodePoint.isSpace text

def rstrip (text : Str) : Str := rstripBy CodePoint.isSpace text

def strip (text : Str) : Str := rstrip (lstrip text)

def upper (text : Str) : Str := text.map CodePoint.toUpper

def lower (text : Str) : Str := text.map CodePoint.toLower

def startsWith (text start : Str) : Bool := start.isPrefixOf text

def split (separator : CodePoint) (text : Str) : List Str := text.splitOn separator

def join (separator : Str) (parts : List Str) : Str := List.intercalate separator parts

/-- `text.replace(old, new)`, scanning left to right over non-overlapping occurrences. -/
def replace (old new : Str) : Nat → Str → Str
  | 0, text => text
  | _ + 1, [] => []
  | fuel + 1, point :: rest =>
      if old.isPrefixOf (point :: rest) then
        new ++ replace old new fuel ((point :: rest).drop old.length)
      else point :: replace old new fuel rest

def orElse (text fallback : Str) : Str := if text = [] then fallback else text

/-- Text that UTF-8 can encode. -/
def Encodable (text : Str) : Prop := ∀ point ∈ text, point.isSurrogate = false

instance (text : Str) : Decidable (Encodable text) :=
  decidable_of_iff (text.all (fun point => !point.isSurrogate) = true) (by simp [Encodable])

@[simp] theorem encodable_append (first second : Str) :
    Encodable (first ++ second) ↔ Encodable first ∧ Encodable second := by
  simp only [Encodable, List.mem_append]
  constructor
  · intro all
    exact ⟨fun point member => all point (Or.inl member),
      fun point member => all point (Or.inr member)⟩
  · rintro ⟨first, second⟩ point (member | member)
    · exact first point member
    · exact second point member

@[simp] theorem encodable_lit (text : String) : (lit text).Encodable := by
  intro point member
  obtain ⟨char, _, rfl⟩ := List.mem_map.1 member
  exact CodePoint.isSurrogate_ofChar char

end Str

def isHighSurrogate (point : CodePoint) : Bool :=
  decide (0xD800 ≤ point.val) && decide (point.val ≤ 0xDBFF)

def isLowSurrogate (point : CodePoint) : Bool :=
  decide (0xDC00 ≤ point.val) && decide (point.val ≤ 0xDFFF)

/-- A JSON string that `jsonb` takes: no NUL, and surrogates only in pairs. -/
def jsonbText : Str → Bool
  | [] => true
  | [point] => decide (point.val ≠ 0) && !point.isSurrogate
  | first :: second :: rest =>
      if isHighSurrogate first then isLowSurrogate second && jsonbText rest
      else decide (first.val ≠ 0) && !isLowSurrogate first && jsonbText (second :: rest)

/-- Text on its way to the wire: `str.encode("utf-8")` succeeds on exactly these. -/
structure EncodedText where
  text : Str
  encodable : text.Encodable

end UssdGateway
