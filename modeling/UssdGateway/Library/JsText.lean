import Mathlib.Algebra.GroupWithZero.Nat
import Mathlib.Data.List.Basic

/-!
JavaScript text: the white space of `trim`, and `parseInt` in base ten.
-/

namespace JsText

def isSpaceCode (code : Nat) : Bool :=
  (decide (0x09 ≤ code) && decide (code ≤ 0x0D)) || decide (code = 0x20) ||
  decide (code = 0xA0) || decide (code = 0x1680) ||
  (decide (0x2000 ≤ code) && decide (code ≤ 0x200A)) || decide (code = 0x2028) ||
  decide (code = 0x2029) || decide (code = 0x202F) || decide (code = 0x205F) ||
  decide (code = 0x3000) || decide (code = 0xFEFF)

def isSpace (char : Char) : Bool := isSpaceCode char.toNat

def trim (text : String) : String :=
  String.ofList ((text.toList.dropWhile isSpace).reverse.dropWhile isSpace).reverse

/-- The nearest double, ties to even. None from where it is infinite. -/
def toDouble (value : Nat) : Option Nat :=
  let unit := 2 ^ (value.log2 - 52)
  let excess := value % unit
  let down := value - excess
  let nearest :=
    if 2 * excess < unit ∨ (2 * excess = unit ∧ value / unit % 2 = 0) then down else down + unit
  if nearest.log2 < 1024 then some nearest else none

def readDigits (chars : List Char) : Option Nat :=
  match chars.takeWhile Char.isDigit with
  | [] => none
  | digits => toDouble (digits.foldl (fun value digit => 10 * value + (digit.toNat - 48)) 0)

/-- None for `NaN` and for an infinite result. -/
def parseInt (text : String) : Option Int :=
  match text.toList.dropWhile isSpace with
  | '-' :: chars => (readDigits chars).map fun value => -(value : Int)
  | '+' :: chars => (readDigits chars).map Int.ofNat
  | chars => (readDigits chars).map Int.ofNat

example : parseInt " 12ab" = some 12 := by decide

end JsText
