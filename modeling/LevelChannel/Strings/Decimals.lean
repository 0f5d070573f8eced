import Mathlib.Data.List.TakeDrop
import Mathlib.Algebra.GroupWithZero.Nat

namespace Strings

/-!
# Decimal digits

Numbers are written with a least number of digits, and fields of a fixed width are read back one
after the other.
-/

/-- `text.padStart(width, '0')` -/
def padStart (width : Nat) (text : List Char) : List Char :=
  List.replicate (width - text.length) '0' ++ text

def zeroPadded (width number : Nat) : List Char :=
  padStart width (Nat.toDigits 10 number)

/-- A number of a fixed number of digits at the beginning of a text, and the rest of the text. -/
def readField (width : Nat) (text : List Char) : Option (Nat × List Char) :=
  if (text.take width).length = width ∧ (text.take width).all Char.isDigit then
    some (Nat.ofDigitChars 10 (text.take width) 0, text.drop width)
  else none

def readSymbol (symbol : Char) : List Char -> Option (List Char)
  | [] => none
  | first :: rest => if first = symbol then some rest else none

theorem readSymbol_cons (symbol : Char) (rest : List Char) :
    readSymbol symbol (symbol :: rest) = some rest :=
  if_pos rfl

variable {width number : Nat}

theorem isDigit_of_mem_toDigits {char : Char} (listed : char ∈ Nat.toDigits 10 number) :
    char.isDigit = true :=
  Nat.isDigit_of_mem_toDigits (by decide) (by decide) listed

theorem isDigit_of_mem_zeroPadded {char : Char} (listed : char ∈ zeroPadded width number) :
    char.isDigit = true := by
  rcases List.mem_append.mp listed with zero | digit
  · rw [List.eq_of_mem_replicate zero]
    rfl
  · exact isDigit_of_mem_toDigits digit

theorem ofDigitChars_zeroPadded : Nat.ofDigitChars 10 (zeroPadded width number) 0 = number := by
  rw [zeroPadded, padStart, Nat.ofDigitChars_append, Nat.ofDigitChars_replicate_zero, Nat.mul_zero,
    Nat.ofDigitChars_ten_toDigits]

theorem length_zeroPadded (wide : 0 < width) (small : number < 10 ^ width) :
    (zeroPadded width number).length = width := by
  have short : (Nat.toDigits 10 number).length ≤ width :=
    (Nat.length_toDigits_le_iff (by decide) wide).mpr small
  rw [zeroPadded, padStart, List.length_append, List.length_replicate]
  omega

theorem readField_zeroPadded (wide : 0 < width) (small : number < 10 ^ width) (rest : List Char) :
    readField width (zeroPadded width number ++ rest) = some (number, rest) := by
  have length := length_zeroPadded wide small
  have taken : (zeroPadded width number ++ rest).take width = zeroPadded width number :=
    List.take_left' length
  have left : (zeroPadded width number ++ rest).drop width = rest :=
    List.drop_left' length
  have digits : (zeroPadded width number).all Char.isDigit = true :=
    List.all_eq_true.mpr fun _ listed => isDigit_of_mem_zeroPadded listed
  rw [readField, taken, left, if_pos ⟨length, digits⟩, ofDigitChars_zeroPadded]

end Strings
