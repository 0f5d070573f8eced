import LevelChannel.Numbers.Rounding
import LevelChannel.Strings.Decimals

namespace Numbers

open Strings

/-!
# Numbers as texts

A text of decimal digits is read as the nearest number of double precision.  A number is written
with a fixed number of places, or as the shortest digits that are read back.
-/

/-- The decimal number that digits before and after the point stand for. -/
def valueOf (whole fraction : List Char) : Rat :=
  (Nat.ofDigitChars 10 (whole ++ fraction) 0 : Rat) / 10 ^ fraction.length

/-- `Number(text)` of a decimal number; none stands for `Infinity`. -/
def number? (decimal : Rat) : Option Rat :=
  if decimal < 2 ^ 1024 - 2 ^ 970 then some (toDouble decimal) else none

theorem number?_of_lt {decimal : Rat} (less : decimal < 2 ^ 1023) :
    number? decimal = some (toDouble decimal) := by
  have largest : (2 : Rat) ^ 970 < 2 ^ 1023 := pow_lt_pow_right₀ (by norm_num) (by norm_num)
  have double : (2 : Rat) ^ 1024 = 2 * 2 ^ 1023 := pow_succ' 2 1023
  refine if_pos (less.trans_le (le_sub_iff_add_le.mpr ?_))
  rw [double, two_mul]
  exact add_le_add_right largest.le _

/-- `number.toFixed(places)`, of the nearest multiple of the last place. -/
def fixedText (places multiple : Nat) : List Char :=
  if places = 0 then Nat.toDigits 10 multiple
  else Nat.toDigits 10 (multiple / 10 ^ places) ++ '.' :: zeroPadded places (multiple % 10 ^ places)

theorem toDouble_decimal {places : Nat} (few : places ≤ 100) (numerator : Nat) :
    0 ≤ toDouble ((numerator : Rat) / 10 ^ places) ∧
      toDouble (toDouble ((numerator : Rat) / 10 ^ places)) =
        toDouble ((numerator : Rat) / 10 ^ places) := by
  rcases Nat.eq_zero_or_pos numerator with rfl | positive
  · rw [Nat.cast_zero, zero_div, toDouble_zero, toDouble_zero]
    exact ⟨le_refl _, rfl⟩
  · have wide := binaryLog_decimal positive places
    have number : (0 : Rat) < (numerator : Rat) / 10 ^ places :=
      div_pos (by exact_mod_cast positive) (by positivity)
    have normal : Normal ((numerator : Rat) / 10 ^ places) := ⟨number, by omega⟩
    exact ⟨(toDouble_pos normal).le, toDouble_toDouble normal (by omega)⟩

theorem valueOf_fixed {places : Nat} (some_places : 0 < places) (multiple : Nat) :
    valueOf (Nat.toDigits 10 (multiple / 10 ^ places))
      (zeroPadded places (multiple % 10 ^ places)) = (multiple : Rat) / 10 ^ places := by
  have less : multiple % 10 ^ places < 10 ^ places := Nat.mod_lt _ (by positivity)
  have length := length_zeroPadded some_places less
  rw [valueOf, length, Nat.ofDigitChars_append, Nat.ofDigitChars_ten_toDigits,
    Nat.ofDigitChars_eq_ofDigitChars_zero, length, ofDigitChars_zeroPadded, Nat.mul_comm]
  rw [Nat.mul_comm, Nat.div_add_mod]

theorem toDigits_head (number : Nat) :
    Nat.toDigits 10 number = ['0'] ∨ (Nat.toDigits 10 number).head? ≠ some '0' := by
  induction number using Nat.strongRecOn with
  | ind number shorter =>
    rcases Nat.lt_or_ge number 10 with less | long
    · have digits : ∀ digit : Nat, digit < 10 ->
          [digit.digitChar] = ['0'] ∨ [digit.digitChar].head? ≠ some '0' := by decide
      rw [Nat.toDigits_of_lt_base less]
      exact digits number less
    · right
      rw [Nat.toDigits_of_base_le (by decide) long, List.head?_append]
      rcases shorter (number / 10) (Nat.div_lt_self (by omega) (by decide)) with zero | other
      · have value := Nat.ofDigitChars_ten_toDigits (n := number / 10)
        rw [zero] at value
        have none : number / 10 = 0 := value.symm
        omega
      · cases first : (Nat.toDigits 10 (number / 10)).head? with
        | none => exact absurd (List.head?_eq_none_iff.mp first) Nat.toDigits_ne_nil
        | some char =>
          rw [first] at other
          exact other

theorem number?_fixed {places numerator : Nat} (few : places ≤ 100)
    (small : toDouble ((numerator : Rat) / 10 ^ places) < 10 ^ 21)
    (unskewed : ∀ power, skewedPower places = some power ->
      toDouble ((numerator : Rat) / 10 ^ places) ≠ 1 / 2 ^ power) :
    number? (((nearestUp (toDouble ((numerator : Rat) / 10 ^ places) * 10 ^ places)).toNat : Rat) /
      10 ^ places) = some (toDouble ((numerator : Rat) / 10 ^ places)) := by
  have power : (1 : Rat) ≤ 10 ^ places := one_le_pow₀ (by norm_num)
  have ⟨nonneg, _⟩ := toDouble_decimal few numerator
  rcases Nat.eq_zero_or_pos numerator with rfl | positive
  · have zero : nearestUp 0 = 0 := by simpa using nearestUp_intCast 0
    rw [Nat.cast_zero, zero_div, toDouble_zero, zero_mul, zero, Int.toNat_zero, Nat.cast_zero,
      zero_div, number?_of_lt (by positivity), toDouble_zero]
  have read := toDouble_fixed few positive unskewed
  generalize toDouble ((numerator : Rat) / 10 ^ places) = double at nonneg small read ⊢
  have product : 0 ≤ double * 10 ^ places := mul_nonneg nonneg (by positivity)
  have whole : (((nearestUp (double * 10 ^ places)).toNat : Nat) : Rat) =
      nearestUp (double * 10 ^ places) := by
    have natural : ((nearestUp (double * 10 ^ places)).toNat : Int) =
        nearestUp (double * 10 ^ places) :=
      Int.toNat_of_nonneg (Int.floor_nonneg.mpr (by linarith))
    exact_mod_cast congrArg (Int.cast (R := Rat)) natural
  rw [whole]
  refine (number?_of_lt ?_).trans (congrArg some read)
  have floor_le : (nearestUp (double * 10 ^ places) : Rat) ≤ double * 10 ^ places + 1 / 2 :=
    Int.floor_le _
  have limit : (10 : Rat) ^ 21 + 1 < 2 ^ 1023 :=
    (show (10 : Rat) ^ 21 + 1 < 2 ^ 71 by norm_num).trans
      (pow_lt_pow_right₀ (by norm_num) (by norm_num))
  rw [div_lt_iff₀ (by positivity)]
  calc (nearestUp (double * 10 ^ places) : Rat)
    _ ≤ double * 10 ^ places + 1 / 2 := floor_le
    _ < (10 ^ 21 + 1) * 10 ^ places := by nlinarith
    _ ≤ 2 ^ 1023 * 10 ^ places := mul_le_mul_of_nonneg_right limit.le (by positivity)

/-- The multiple of a power of ten that is read back as a whole number, the nearest one. -/
def shortestAt (whole exponent : Nat) : Option Nat :=
  let unit := 10 ^ exponent
  let less := whole / unit
  let nearer :=
    if 2 * (whole % unit) < unit ∨ 2 * (whole % unit) = unit ∧ less % 2 = 0 then [less, less + 1]
    else [less + 1, less]
  (nearer.map (· * unit)).find? fun multiple => toDouble multiple = whole

def shortest (whole : Nat) : Nat -> Nat
  | 0 => whole
  | exponent + 1 => (shortestAt whole (exponent + 1)).getD (shortest whole exponent)

theorem toDouble_shortest {whole : Nat} (double : toDouble whole = whole) (exponent : Nat) :
    toDouble (shortest whole exponent) = whole := by
  induction exponent with
  | zero => exact double
  | succ exponent shorter =>
    rw [shortest]
    cases found : shortestAt whole (exponent + 1) with
    | none => exact shorter
    | some multiple =>
      rw [shortestAt] at found
      have read := List.find?_some found
      exact of_decide_eq_true read

theorem shortest_le (whole exponent : Nat) : shortest whole exponent ≤ whole + 10 ^ exponent := by
  induction exponent with
  | zero => exact Nat.le_add_right _ _
  | succ exponent shorter =>
    rw [shortest]
    cases found : shortestAt whole (exponent + 1) with
    | none =>
      exact shorter.trans (Nat.add_le_add_left (Nat.pow_le_pow_right (by decide) (by omega)) _)
    | some multiple =>
      have part := Nat.div_mul_le_self whole (10 ^ (exponent + 1))
      have listed := List.mem_of_find?_eq_some found
      rcases List.mem_map.mp listed with ⟨factor, among, rfl⟩
      have bounded : factor ≤ whole / 10 ^ (exponent + 1) + 1 := by
        split at among <;> simp only [List.mem_cons, List.not_mem_nil, or_false] at among <;> omega
      calc factor * 10 ^ (exponent + 1)
        _ ≤ (whole / 10 ^ (exponent + 1) + 1) * 10 ^ (exponent + 1) :=
          Nat.mul_le_mul_right _ bounded
        _ = whole / 10 ^ (exponent + 1) * 10 ^ (exponent + 1) + 10 ^ (exponent + 1) :=
          Nat.succ_mul _ _
        _ ≤ whole + 10 ^ (exponent + 1) := Nat.add_le_add_right part _

/-- The digits of `String(number)`, with zeros after them. -/
def wholeDigits (whole : Nat) : Nat :=
  shortest whole (Nat.toDigits 10 whole).length

/-- `String(number)`, of a whole number: from `10 ^ 21` on, which is a number of double precision,
with an exponent. -/
def wholeText (whole : Nat) : List Char :=
  let digits := Nat.toDigits 10 (wholeDigits whole)
  if whole < 10 ^ 21 then digits
  else
    let significant := (digits.reverse.dropWhile (· = '0')).reverse
    significant.take 1 ++ (if significant.length = 1 then [] else '.' :: significant.drop 1) ++
      ['e', '+'] ++ Nat.toDigits 10 (digits.length - 1)

theorem wholeText_of_lt {whole : Nat} (small : whole < 10 ^ 21) :
    wholeText whole = Nat.toDigits 10 (wholeDigits whole) :=
  if_pos small

example : wholeText (10 ^ 21) = "1e+21".toList := by decide +kernel

theorem number?_wholeText {whole : Nat} (small : whole < 10 ^ 21)
    (double : toDouble whole = whole) :
    number? (valueOf (wholeText whole) []) = some (whole : Rat) := by
  have digits : (Nat.toDigits 10 whole).length ≤ 21 :=
    (Nat.length_toDigits_le_iff (by decide) (by decide)).mpr small
  have bounded : wholeDigits whole ≤ whole + 10 ^ 21 :=
    (shortest_le whole _).trans
      (Nat.add_le_add_left (Nat.pow_le_pow_right (by decide) digits) whole)
  have value : valueOf (wholeText whole) [] = (wholeDigits whole : Rat) := by
    rw [wholeText_of_lt small, valueOf, List.append_nil, Nat.ofDigitChars_ten_toDigits,
      List.length_nil, pow_zero, div_one]
  have less : (wholeDigits whole : Rat) < 2 ^ 1023 := by
    have natural : wholeDigits whole < 2 ^ 71 := by omega
    have rational : (wholeDigits whole : Rat) < 2 ^ 71 := by exact_mod_cast natural
    exact rational.trans (pow_lt_pow_right₀ (by norm_num) (by norm_num))
  rw [value, number?_of_lt less, wholeDigits, toDouble_shortest double]

end Numbers
