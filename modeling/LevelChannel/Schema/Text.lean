import Mathlib.Algebra.GroupWithZero.Nat

namespace LevelChannel

/-!
# Text of requests

The string functions of the source that decide what is stored: `trim`, `slice` and
the checks that a body field has a given type.
-/

/-- White space and line terminators, as `String.prototype.trim` removes them. -/
def isJsSpace (char : Char) : Bool :=
  [0x09, 0x0a, 0x0b, 0x0c, 0x0d, 0x20, 0xa0, 0x1680, 0x2028, 0x2029, 0x202f, 0x205f,
    0x3000, 0xfeff].contains char.toNat || (0x2000 ≤ char.toNat && char.toNat ≤ 0x200a)

/-- `text.trim()` -/
def jsTrim (text : String) : String :=
  String.ofList ((text.toList.dropWhile isJsSpace).reverse.dropWhile isJsSpace).reverse

def unitWidth (char : Char) : Nat :=
  if char.toNat < 0x10000 then 1 else 2

/-- `text.length` -/
def jsLength (text : String) : Nat :=
  (text.toList.map unitWidth).sum

def takeUnits : Nat -> List Char -> List Char
  | _, [] => []
  | units, char :: rest =>
    if units < unitWidth char then [] else char :: takeUnits (units - unitWidth char) rest

/-- `text.slice(0, units)`.  A pair of surrogates at the cut is dropped whole. -/
def jsSlice (units : Nat) (text : String) : String :=
  String.ofList (takeUnits units text.toList)

/-- Trim an optional text, treat an empty one as absent and cut it to a length. -/
def trimmedText (units : Nat) (text : Option String) : Option String :=
  text.bind fun raw =>
    let trimmed := jsTrim raw
    if trimmed.isEmpty then none else some (jsSlice units trimmed)

inductive JsonNumber where
  | integer (value : Int)
  | fractional
  deriving DecidableEq, Repr

/-- `typeof n === 'number' && Number.isInteger(n) && n > 0 ? n : null` -/
def positiveInteger : Option JsonNumber -> Option Nat
  | some (.integer value) => if 0 < value then some value.toNat else none
  | _ => none

end LevelChannel
