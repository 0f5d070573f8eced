import Mathlib.Algebra.Order.Field.Power
import Mathlib.Data.Rat.Floor
import Mathlib.Tactic.FieldSimp
import Mathlib.Tactic.Linarith
import Mathlib.Tactic.NormNum
import Mathlib.Tactic.Positivity
import Mathlib.Tactic.Ring

namespace Numbers

/-!
# Rounding to double precision

A number is rounded to a multiple of a power of two, such that at most 53 binary digits are left;
of two multiples that are equally near the even one is taken.  The multiples are closer below a
power of two than above it, and apart from that whatever is no farther from a rounded number than
the number it came from is rounded to the same.
-/

def halfEven (number : Rat) : Int :=
  if number - ⌊number⌋ < 1 / 2 then ⌊number⌋
  else if 1 / 2 < number - ⌊number⌋ then ⌊number⌋ + 1
  else if ⌊number⌋ % 2 = 0 then ⌊number⌋
  else ⌊number⌋ + 1

theorem halfEven_spec (number : Rat) :
    |number - halfEven number| < 1 / 2 ∨
      |number - halfEven number| = 1 / 2 ∧ halfEven number % 2 = 0 := by
  have floor_le : (⌊number⌋ : Rat) ≤ number := Int.floor_le number
  have lt_floor : number < ⌊number⌋ + 1 := Int.lt_floor_add_one number
  unfold halfEven
  split_ifs with below above even
  · left
    rw [abs_of_nonneg (by linarith)]
    exact below
  · left
    push_cast
    rw [abs_of_nonpos (by linarith)]
    linarith
  · right
    refine ⟨?_, even⟩
    rw [abs_of_nonneg (by linarith)]
    linarith
  · right
    constructor
    · push_cast
      rw [abs_of_nonpos (by linarith)]
      linarith
    · omega

theorem halfEven_eq {number : Rat} {whole : Int}
    (near : |number - whole| < 1 / 2 ∨ |number - whole| = 1 / 2 ∧ whole % 2 = 0) :
    halfEven number = whole := by
  have distance : |((halfEven number - whole : Int) : Rat)| ≤
      |number - halfEven number| + |number - whole| := by
    have split : ((halfEven number - whole : Int) : Rat) =
        (number - whole) - (number - halfEven number) := by
      push_cast
      ring
    rw [split, add_comm]
    exact abs_sub _ _
  have close : |((halfEven number - whole : Int) : Rat)| < 1 ∨
      |((halfEven number - whole : Int) : Rat)| ≤ 1 ∧ halfEven number % 2 = 0 ∧ whole % 2 = 0 := by
    rcases halfEven_spec number with first | ⟨first, even⟩
    · left
      rcases near with second | ⟨second, -⟩ <;> linarith
    · rcases near with second | ⟨second, also⟩
      · left
        linarith
      · exact Or.inr ⟨by linarith, even, also⟩
  rcases close with small | ⟨small, even, also⟩
  · have less : |halfEven number - whole| < 1 := by exact_mod_cast small
    rw [abs_lt] at less
    omega
  · have le : |halfEven number - whole| ≤ 1 := by exact_mod_cast small
    rw [abs_le] at le
    omega

def binaryLog (number : Rat) : Int :=
  let guess := (Nat.log2 number.num.natAbs : Int) - Nat.log2 number.den
  if (2 : Rat) ^ guess ≤ number then guess else guess - 1

theorem two_pow_log2_le {number : Nat} (positive : 0 < number) :
    (2 : Rat) ^ (Nat.log2 number : Int) ≤ number := by
  rw [zpow_natCast]
  exact_mod_cast Nat.log2_self_le positive.ne'

theorem lt_two_pow_log2 (number : Nat) :
    (number : Rat) < (2 : Rat) ^ ((Nat.log2 number : Int) + 1) := by
  rw [← Nat.cast_one, ← Nat.cast_add, zpow_natCast]
  exact_mod_cast Nat.lt_log2_self

theorem div_bounds {above below : Nat} (above_pos : 0 < above) (below_pos : 0 < below) :
    (2 : Rat) ^ ((Nat.log2 above : Int) - Nat.log2 below - 1) ≤ (above : Rat) / below ∧
      (above : Rat) / below < (2 : Rat) ^ ((Nat.log2 above : Int) - Nat.log2 below + 1) := by
  have positive : (0 : Rat) < below := by exact_mod_cast below_pos
  constructor
  · rw [le_div_iff₀ positive]
    calc (2 : Rat) ^ ((Nat.log2 above : Int) - Nat.log2 below - 1) * below
      _ ≤ (2 : Rat) ^ ((Nat.log2 above : Int) - Nat.log2 below - 1) *
          (2 : Rat) ^ ((Nat.log2 below : Int) + 1) :=
        mul_le_mul_of_nonneg_left (lt_two_pow_log2 _).le (by positivity)
      _ = (2 : Rat) ^ (Nat.log2 above : Int) := by
        rw [← zpow_add₀ (by norm_num)]
        congr 1
        omega
      _ ≤ _ := two_pow_log2_le above_pos
  · rw [div_lt_iff₀ positive]
    calc (above : Rat)
      _ < (2 : Rat) ^ ((Nat.log2 above : Int) + 1) := lt_two_pow_log2 _
      _ = (2 : Rat) ^ ((Nat.log2 above : Int) - Nat.log2 below + 1) *
          (2 : Rat) ^ (Nat.log2 below : Int) := by
        rw [← zpow_add₀ (by norm_num)]
        congr 1
        omega
      _ ≤ _ := mul_le_mul_of_nonneg_left (two_pow_log2_le below_pos) (by positivity)

theorem binaryLog_spec {number : Rat} (positive : 0 < number) :
    (2 : Rat) ^ binaryLog number ≤ number ∧ number < (2 : Rat) ^ (binaryLog number + 1) := by
  have numerator : 0 < number.num.natAbs := Int.natAbs_pos.mpr (Rat.num_pos.mpr positive).ne'
  have whole : ((number.num.natAbs : Nat) : Rat) = number.num := by
    rw [← Int.cast_natCast, Int.natAbs_of_nonneg (Rat.num_pos.mpr positive).le]
  have bounds := div_bounds numerator number.den_pos
  rw [whole, Rat.num_div_den] at bounds
  rw [binaryLog]
  split_ifs with reached
  · exact ⟨reached, bounds.2⟩
  · exact ⟨bounds.1, by rw [Int.sub_add_cancel]; exact not_le.mp reached⟩

theorem binaryLog_eq {number : Rat} {place : Int} (least : (2 : Rat) ^ place ≤ number)
    (less : number < (2 : Rat) ^ (place + 1)) : binaryLog number = place := by
  have positive : 0 < number := lt_of_lt_of_le (by positivity) least
  have ⟨least_, less_⟩ := binaryLog_spec positive
  have first : place < binaryLog number + 1 :=
    (zpow_lt_zpow_iff_right₀ (by norm_num : (1 : Rat) < 2)).mp (lt_of_le_of_lt least less_)
  have second : binaryLog number < place + 1 :=
    (zpow_lt_zpow_iff_right₀ (by norm_num : (1 : Rat) < 2)).mp (lt_of_le_of_lt least_ less)
  omega

/-! ## Double precision -/

def lastPlace (number : Rat) : Int :=
  max (binaryLog number - 52) (-1074)

def toDouble (number : Rat) : Rat :=
  halfEven (number / 2 ^ lastPlace number) * 2 ^ lastPlace number

/-- Numbers that are not so small that digits are lost at the least place. -/
def Normal (number : Rat) : Prop :=
  0 < number ∧ -1022 ≤ binaryLog number

theorem lastPlace_of_normal {number : Rat} (normal : Normal number) :
    lastPlace number = binaryLog number - 52 :=
  max_eq_left (by have := normal.2; omega)

theorem digits_bounds {number : Rat} (normal : Normal number) :
    (2 : Rat) ^ (52 : Int) ≤ number / 2 ^ lastPlace number ∧
      number / 2 ^ lastPlace number < (2 : Rat) ^ (53 : Int) := by
  have ⟨least, less⟩ := binaryLog_spec normal.1
  have unit : (0 : Rat) < 2 ^ lastPlace number := by positivity
  have first : 52 + (binaryLog number - 52) = binaryLog number := by omega
  have last : 53 + (binaryLog number - 52) = binaryLog number + 1 := by omega
  rw [le_div_iff₀ unit, div_lt_iff₀ unit, ← zpow_add₀ (by norm_num), ← zpow_add₀ (by norm_num),
    lastPlace_of_normal normal, first, last]
  exact ⟨least, less⟩

theorem half_place (place : Int) : (2 : Rat) ^ (place - 53) = 1 / 2 * 2 ^ (place - 52) := by
  rw [show place - 52 = (place - 53) + 1 by omega, zpow_add_one₀ (by norm_num)]
  ring

theorem abs_div_sub {unit : Rat} (positive : 0 < unit) (number whole : Rat) :
    |number / unit - whole| = |number - whole * unit| / unit := by
  rw [← abs_of_pos positive, ← abs_div, abs_of_pos positive, sub_div, mul_div_assoc,
    div_self positive.ne', mul_one]

theorem toDouble_eq {number : Rat} {place whole : Int} (normal : -1022 ≤ place)
    (least : (2 : Rat) ^ place ≤ number) (less : number < (2 : Rat) ^ (place + 1))
    (near : |number - whole * 2 ^ (place - 52)| < 2 ^ (place - 53) ∨
      |number - whole * 2 ^ (place - 52)| = 2 ^ (place - 53) ∧ whole % 2 = 0) :
    toDouble number = whole * 2 ^ (place - 52) := by
  have unit : (0 : Rat) < 2 ^ (place - 52) := by positivity
  have last : lastPlace number = place - 52 := by
    rw [lastPlace, binaryLog_eq least less]
    exact max_eq_left (by omega)
  rw [toDouble, last]
  congr 2
  refine halfEven_eq ?_
  rw [abs_div_sub unit]
  rcases near with less | ⟨same, even⟩
  · left
    rw [div_lt_iff₀ unit, ← half_place]
    exact less
  · right
    rw [div_eq_iff unit.ne', ← half_place]
    exact ⟨same, even⟩

example : toDouble (1 / 10) = 3602879701896397 / 2 ^ 55 := by decide +kernel

/-- A rounded number, its place and its digits, and how near the number was. -/
structure Rounded (number : Rat) (place digits : Int) : Prop where
  eq : toDouble number = digits * 2 ^ (place - 52)
  place_eq : binaryLog number = place
  least : 2 ^ 52 ≤ digits
  most : digits ≤ 2 ^ 53
  near : |number - digits * 2 ^ (place - 52)| < 2 ^ (place - 53) ∨
    |number - digits * 2 ^ (place - 52)| = 2 ^ (place - 53) ∧ digits % 2 = 0

theorem exists_rounded {number : Rat} (normal : Normal number) :
    ∃ digits, Rounded number (binaryLog number) digits := by
  have last := lastPlace_of_normal normal
  have unit : (0 : Rat) < 2 ^ (binaryLog number - 52) := by positivity
  have ⟨low, high⟩ := digits_bounds normal
  have spec := halfEven_spec (number / 2 ^ lastPlace number)
  rw [last] at low high spec
  have half := abs_le.mp (show |number / 2 ^ (binaryLog number - 52) -
      halfEven (number / 2 ^ (binaryLog number - 52))| ≤ 1 / 2 by
    rcases spec with less | ⟨same, -⟩ <;> linarith)
  refine ⟨halfEven (number / 2 ^ (binaryLog number - 52)), ?_, rfl, ?_, ?_, ?_⟩
  · rw [toDouble, last]
  · have bound : ((2 ^ 52 - 1 : Int) : Rat) < halfEven (number / 2 ^ (binaryLog number - 52)) := by
      push_cast
      norm_num at low
      linarith [half.2]
    have less : (2 ^ 52 - 1 : Int) < halfEven (number / 2 ^ (binaryLog number - 52)) := by
      exact_mod_cast bound
    omega
  · have bound : (halfEven (number / 2 ^ (binaryLog number - 52)) : Rat) <
        ((2 ^ 53 + 1 : Int) : Rat) := by
      push_cast
      norm_num at high
      linarith [half.1]
    have less : halfEven (number / 2 ^ (binaryLog number - 52)) < (2 ^ 53 + 1 : Int) := by
      exact_mod_cast bound
    omega
  · rw [abs_div_sub unit, div_lt_iff₀ unit, div_eq_iff unit.ne', ← half_place] at spec
    exact spec

theorem toDouble_pos {number : Rat} (normal : Normal number) : 0 < toDouble number := by
  rcases exists_rounded normal with ⟨digits, rounded⟩
  have positive : (0 : Rat) < digits := by
    have least := rounded.least
    exact_mod_cast (show (0 : Int) < digits by omega)
  rw [rounded.eq]
  exact mul_pos positive (by positivity)

theorem pow_place (place : Int) : ((2 ^ 52 : Int) : Rat) * 2 ^ (place - 52) = 2 ^ place := by
  have digits : ((2 ^ 52 : Int) : Rat) = (2 : Rat) ^ (52 : Int) := by norm_num
  rw [digits, ← zpow_add₀ (by norm_num)]
  congr 1
  omega

theorem pow_next_place (place : Int) :
    ((2 ^ 53 : Int) : Rat) * 2 ^ (place - 52) = 2 ^ (place + 1) := by
  have digits : ((2 ^ 53 : Int) : Rat) = (2 : Rat) ^ (53 : Int) := by norm_num
  rw [digits, ← zpow_add₀ (by norm_num)]
  congr 1
  omega

theorem toDouble_of_closer {number other : Rat} {place digits : Int} (normal : -1022 ≤ place)
    (rounded : Rounded number place digits) (above : 2 ^ 52 < digits) (below : digits < 2 ^ 53)
    (closer : |other - toDouble number| ≤ |number - toDouble number|) :
    toDouble other = toDouble number := by
  have unit : (0 : Rat) < 2 ^ (place - 52) := by positivity
  have near := rounded.near
  rw [rounded.eq] at closer ⊢
  have half := half_place place
  have bound : |other - digits * 2 ^ (place - 52)| ≤ 1 / 2 * 2 ^ (place - 52) := by
    rcases near with less | ⟨same, -⟩ <;> linarith
  rw [abs_le] at bound
  have aboveRat : ((2 ^ 52 + 1 : Int) : Rat) ≤ digits := by exact_mod_cast above
  have belowRat : (digits : Rat) ≤ ((2 ^ 53 - 1 : Int) : Rat) := by
    exact_mod_cast Int.le_sub_one_of_lt below
  push_cast at aboveRat belowRat
  have lower := mul_le_mul_of_nonneg_right aboveRat unit.le
  have upper := mul_le_mul_of_nonneg_right belowRat unit.le
  have first := pow_place place
  have last := pow_next_place place
  push_cast at first last
  refine toDouble_eq normal (by linarith) (by linarith) ?_
  rcases near with less | ⟨same, even⟩
  · exact Or.inl (lt_of_le_of_lt closer less)
  · rcases lt_or_eq_of_le closer with less | equal
    · exact Or.inl (same ▸ less)
    · exact Or.inr ⟨equal.trans same, even⟩

theorem toDouble_near_power {other : Rat} {place : Int} (normal : -1021 ≤ place)
    (low : (2 : Rat) ^ place - 2 ^ (place - 54) ≤ other)
    (high : other ≤ (2 : Rat) ^ place + 2 ^ (place - 53)) : toDouble other = 2 ^ place := by
  have quarter : (2 : Rat) ^ (place - 53) = 2 * 2 ^ (place - 54) := by
    rw [show place - 53 = (place - 54) + 1 by omega, zpow_add_one₀ (by norm_num)]
    ring
  have double : (2 : Rat) ^ (place + 1) = 2 * 2 ^ place := by
    rw [zpow_add_one₀ (by norm_num)]
    ring
  have halved : (2 : Rat) ^ place = 2 * 2 ^ (place - 1) := by
    rw [← zpow_one_add₀ (by norm_num)]
    congr 1
    omega
  have tiny : (2 : Rat) ^ (place - 54) ≤ 2 ^ (place - 1) :=
    zpow_le_zpow_right₀ (by norm_num) (by omega)
  have less : (2 : Rat) ^ (place - 53) ≤ 2 ^ (place - 1) :=
    zpow_le_zpow_right₀ (by norm_num) (by omega)
  have small : (0 : Rat) < 2 ^ (place - 54) := by positivity
  have size : (0 : Rat) < 2 ^ (place - 1) := by positivity
  rcases le_or_gt ((2 : Rat) ^ place) other with reached | missed
  · have near : |other - ((2 ^ 52 : Int) : Rat) * 2 ^ (place - 52)| ≤ 2 ^ (place - 53) := by
      rw [pow_place, abs_of_nonneg (by linarith)]
      linarith
    have is := toDouble_eq (by omega) reached (by linarith)
      ((lt_or_eq_of_le near).imp_right fun same => ⟨same, by decide⟩)
    rw [is, pow_place]
  · have before : place - 1 + 1 = place := by omega
    have near : |other - ((2 ^ 53 : Int) : Rat) * 2 ^ (place - 1 - 52)| ≤
        2 ^ (place - 1 - 53) := by
      rw [pow_next_place, before, abs_of_nonpos (by linarith),
        show place - 1 - 53 = place - 54 by omega]
      linarith
    have is := toDouble_eq (by omega) (by linarith) (by rw [before]; exact missed)
      ((lt_or_eq_of_le near).imp_right fun same => ⟨same, by decide⟩)
    rw [is, pow_next_place, before]

theorem rounded_cases {number : Rat} (normal : Normal number) :
    (∃ digits, Rounded number (binaryLog number) digits ∧ 2 ^ 52 < digits ∧ digits < 2 ^ 53) ∨
    ∃ place, -1022 ≤ place ∧ binaryLog number ≤ place ∧ toDouble number = 2 ^ place ∧
      (2 : Rat) ^ place - 2 ^ (place - 54) ≤ number ∧
      number ≤ (2 : Rat) ^ place + 2 ^ (place - 53) := by
  rcases exists_rounded normal with ⟨digits, rounded⟩
  have half : |number - toDouble number| ≤ 2 ^ (binaryLog number - 53) := by
    rw [rounded.eq]
    rcases rounded.near with less | ⟨same, -⟩
    · exact less.le
    · exact same.le
  have ⟨least, less⟩ := binaryLog_spec normal.1
  have wide := normal.2
  rw [abs_le] at half
  by_cases first : digits = 2 ^ 52
  · right
    have is : toDouble number = 2 ^ binaryLog number := by
      rw [rounded.eq, first, pow_place]
    rw [is] at half
    have small : (0 : Rat) < 2 ^ (binaryLog number - 54) := by positivity
    exact ⟨binaryLog number, wide, le_refl _, is, by linarith, by linarith⟩
  by_cases last : digits = 2 ^ 53
  · right
    have is : toDouble number = 2 ^ (binaryLog number + 1) := by
      rw [rounded.eq, last, pow_next_place]
    rw [is] at half
    have same : (2 : Rat) ^ (binaryLog number + 1 - 54) = 2 ^ (binaryLog number - 53) := by
      congr 1
      omega
    have small : (0 : Rat) < 2 ^ (binaryLog number + 1 - 53) := by positivity
    refine ⟨binaryLog number + 1, by omega, by omega, is, ?_, by linarith⟩
    rw [same]
    linarith
  · have low := rounded.least
    have high := rounded.most
    exact Or.inl ⟨digits, rounded, by omega, by omega⟩

theorem toDouble_of_no_farther {number other : Rat} (normal : Normal number)
    (wide : -1021 ≤ binaryLog number)
    (closer : |other - toDouble number| ≤ |number - toDouble number|)
    (below : ∀ place : Int, toDouble number = 2 ^ place -> 2 ^ place < number ->
      number ≤ (2 : Rat) ^ place + 2 ^ (place - 53) ->
      (2 : Rat) ^ place - 2 ^ (place - 54) ≤ other) : toDouble other = toDouble number := by
  rcases rounded_cases normal with
    ⟨digits, rounded, above, less⟩ | ⟨place, -, later, is, low, high⟩
  · exact toDouble_of_closer normal.2 rounded above less closer
  · rw [is] at closer ⊢
    rcases le_or_gt number (2 ^ place) with short | long
    · rw [abs_of_nonpos (a := number - 2 ^ place) (by linarith), abs_le] at closer
      have less : (2 : Rat) ^ (place - 54) ≤ 2 ^ (place - 53) :=
        zpow_le_zpow_right₀ (by norm_num) (by omega)
      exact toDouble_near_power (by omega) (by linarith [closer.1]) (by linarith [closer.2])
    · rw [abs_of_pos (a := number - 2 ^ place) (by linarith), abs_le] at closer
      exact toDouble_near_power (by omega) (below place is long high) (by linarith [closer.2])

theorem toDouble_toDouble {number : Rat} (normal : Normal number)
    (wide : -1021 ≤ binaryLog number) : toDouble (toDouble number) = toDouble number := by
  refine toDouble_of_no_farther normal wide ?_ fun place is _ _ => ?_
  · rw [sub_self, abs_zero]
    exact abs_nonneg _
  · rw [is]
    have small : (0 : Rat) < 2 ^ (place - 54) := by positivity
    linarith

theorem halfEven_zero : halfEven 0 = 0 :=
  halfEven_eq (by norm_num)

theorem toDouble_zero : toDouble 0 = 0 := by
  rw [toDouble, zero_div, halfEven_zero, Int.cast_zero, zero_mul]

/-! ## Fixed places -/

def nearestUp (number : Rat) : Int :=
  ⌊number + 1 / 2⌋

theorem nearestUp_closest (number : Rat) (whole : Int) :
    |nearestUp number - number| ≤ |whole - number| := by
  have low : (nearestUp number : Rat) ≤ number + 1 / 2 := Int.floor_le _
  have high : number + 1 / 2 < nearestUp number + 1 := Int.lt_floor_add_one _
  rcases lt_trichotomy whole (nearestUp number) with before | same | after
  · have apart : (whole : Rat) ≤ nearestUp number - 1 := by
      exact_mod_cast Int.le_sub_one_of_lt before
    rw [abs_of_nonpos (a := whole - number) (by linarith), abs_le]
    constructor <;> linarith
  · rw [same]
  · have apart : (nearestUp number : Rat) + 1 ≤ whole := by exact_mod_cast after
    rw [abs_of_nonneg (a := whole - number) (by linarith), abs_le]
    constructor <;> linarith

theorem nearestUp_intCast (whole : Int) : nearestUp whole = whole := by
  rw [nearestUp, Int.floor_eq_iff]
  constructor <;> linarith

/-- Just above the power `1 / 2 ^ power` there is a number of that many decimal places that is
rounded to it, while the next one below, which is nearer, is not. -/
def Skewed (places power : Nat) : Prop :=
  (2 ^ power - 10 ^ places % 2 ^ power) * 2 ^ 53 ≤ 10 ^ places ∧
    2 * (10 ^ places % 2 ^ power) < 2 ^ power ∧
    10 ^ places < 10 ^ places % 2 ^ power * 2 ^ 54

instance (places power : Nat) : Decidable (Skewed places power) := by
  unfold Skewed
  infer_instance

theorem Skewed.log2_eq {places power : Nat} (skewed : Skewed places power) :
    Nat.log2 (10 ^ places) = power + 52 := by
  have ⟨least, half, near⟩ := skewed
  have doubled : 2 ^ (power + 52) = 2 ^ power * 2 ^ 52 := pow_add 2 power 52
  have tripled : 2 ^ (power + 52 + 1) = 2 ^ power * 2 ^ 53 := pow_add 2 power 53
  rw [Nat.log2_eq_iff (by positivity), doubled, tripled]
  omega

def skewedPower : Nat -> Option Nat
  | 29 => some 44
  | 39 => some 77
  | 45 => some 97
  | 58 => some 140
  | _ => none

theorem skewedPower_of_log2 : ∀ places : Nat, places < 101 ->
    52 ≤ Nat.log2 (10 ^ places) -> Skewed places (Nat.log2 (10 ^ places) - 52) ->
    skewedPower places = some (Nat.log2 (10 ^ places) - 52) := by
  decide +kernel

theorem Skewed.skewedPower_eq {places power : Nat} (few : places ≤ 100)
    (skewed : Skewed places power) : skewedPower places = some power := by
  have places_eq := skewed.log2_eq
  have power_eq : Nat.log2 (10 ^ places) - 52 = power := by omega
  have found := skewedPower_of_log2 places (by omega) (by omega)
  rw [power_eq] at found
  exact found skewed

theorem binaryLog_decimal {numerator : Nat} (positive : 0 < numerator) (places : Nat) :
    -(4 * places : Int) ≤ binaryLog ((numerator : Rat) / 10 ^ places) := by
  have power : (0 : Rat) < 10 ^ places := by positivity
  have number : (0 : Rat) < (numerator : Rat) / 10 ^ places :=
    div_pos (by exact_mod_cast positive) power
  have least : (2 : Rat) ^ (-(4 * places : Int)) ≤ (numerator : Rat) / 10 ^ places := by
    rw [le_div_iff₀ power, zpow_neg, inv_mul_le_iff₀ (by positivity)]
    have wider : (10 : Rat) ^ places ≤ 2 ^ (4 * places : Int) := by
      have natural : 10 ^ places ≤ 2 ^ (4 * places) := by
        rw [pow_mul]
        exact Nat.pow_le_pow_left (by norm_num) places
      exact_mod_cast natural
    have one : (1 : Rat) ≤ numerator := by exact_mod_cast positive
    nlinarith [power]
  have less := least.trans_lt (binaryLog_spec number).2
  have := (zpow_lt_zpow_iff_right₀ (by norm_num : (1 : Rat) < 2)).mp less
  omega

theorem nearestUp_below {number : Rat} (below : nearestUp number < number) :
    nearestUp number = ⌊number⌋ ∧ Int.fract number < 1 / 2 := by
  have low : (nearestUp number : Rat) ≤ number + 1 / 2 := Int.floor_le _
  have high : number + 1 / 2 < nearestUp number + 1 := Int.lt_floor_add_one _
  have whole : ⌊number⌋ = nearestUp number :=
    Int.floor_eq_iff.mpr ⟨below.le, by linarith⟩
  refine ⟨whole.symm, ?_⟩
  rw [Int.fract, whole]
  linarith

theorem skewed_of_fract {places power : Nat} {number : Rat}
    (scaled : number = 10 ^ places / 2 ^ power) (far : 1 - Int.fract number ≤ number / 2 ^ 53)
    (half : Int.fract number < 1 / 2) (near : number / 2 ^ 54 < Int.fract number) :
    Skewed places power := by
  have unit : (0 : Rat) < 2 ^ power := by positivity
  have fraction : Int.fract number = ((10 ^ places % 2 ^ power : Nat) : Rat) / 2 ^ power := by
    have := Int.fract_div_natCast_eq_div_natCast_mod (k := Rat) (m := 10 ^ places) (n := 2 ^ power)
    push_cast at this
    rw [scaled, this]
  have rest_le : 10 ^ places % 2 ^ power ≤ 2 ^ power := (Nat.mod_lt _ (by positivity)).le
  rw [fraction, scaled] at far near
  rw [fraction] at half
  rw [Skewed]
  generalize 10 ^ places % 2 ^ power = rest at rest_le far half near ⊢
  rw [div_lt_iff₀ unit] at half
  rw [div_right_comm, div_lt_div_iff_of_pos_right unit, div_lt_iff₀ (by norm_num)] at near
  rw [div_right_comm, one_sub_div unit.ne', div_le_div_iff_of_pos_right unit,
    le_div_iff₀ (by norm_num)] at far
  refine ⟨?_, ?_, ?_⟩
  · rw [← Nat.cast_le (α := Rat), Nat.cast_mul, Nat.cast_sub rest_le]
    push_cast
    exact far
  · rw [← Nat.cast_lt (α := Rat)]
    push_cast
    linarith
  · rw [← Nat.cast_lt (α := Rat)]
    push_cast
    exact near

theorem skewed_of_short {places power numerator : Nat} {number : Rat}
    (scaled : number = 10 ^ places / 2 ^ power) (long : number < numerator)
    (high : (numerator : Rat) ≤ number + number / 2 ^ 53)
    (low : (nearestUp number : Rat) < number - number / 2 ^ 54) : Skewed places power := by
  have positive : 0 < number := by
    rw [scaled]
    positivity
  have share : 0 < number / 2 ^ 54 := by positivity
  have below : nearestUp number < number := by linarith
  have ⟨same, half⟩ := nearestUp_below below
  have above : (⌊number⌋ : Rat) + 1 ≤ numerator := by
    have less : ⌊number⌋ < (numerator : Int) := Int.floor_lt.mpr (by exact_mod_cast long)
    exact_mod_cast less
  have split : number = ⌊number⌋ + Int.fract number := (Int.floor_add_fract number).symm
  rw [same] at low
  exact skewed_of_fract scaled (by linarith) half (by linarith)

theorem power_le_nearestUp {places numerator : Nat} {place : Int}
    (long : (2 : Rat) ^ place < (numerator : Rat) / 10 ^ places)
    (high : (numerator : Rat) / 10 ^ places ≤ (2 : Rat) ^ place + 2 ^ (place - 53))
    (straight : ∀ power : Nat, place = -power -> ¬ Skewed places power) :
    (2 : Rat) ^ place - 2 ^ (place - 54) ≤
      (nearestUp (2 ^ place * 10 ^ places) : Rat) / 10 ^ places := by
  have scale : (0 : Rat) < 10 ^ places := by positivity
  have part : ∀ digits : Nat, (2 : Rat) ^ (place - digits) * 10 ^ places =
      2 ^ place * 10 ^ places / 2 ^ digits := by
    intro digits
    rw [zpow_sub₀ (by norm_num), zpow_natCast, div_mul_eq_mul_div]
  rw [div_le_iff₀ scale, add_mul, show place - 53 = place - (53 : Nat) from rfl, part] at high
  rw [le_div_iff₀ scale, sub_mul, show place - 54 = place - (54 : Nat) from rfl, part]
  rw [lt_div_iff₀ scale] at long
  rcases Int.eq_nat_or_neg place with ⟨power, whole | fraction⟩
  · have natural : (2 : Rat) ^ place * 10 ^ places = ((2 ^ power * 10 ^ places : Nat) : Int) := by
      rw [whole, zpow_natCast]
      push_cast
      rfl
    rw [natural, nearestUp_intCast, ← natural]
    have positive : (0 : Rat) < 2 ^ place * 10 ^ places / 2 ^ 54 := by positivity
    linarith
  · by_contra low
    have scaled : (2 : Rat) ^ place * 10 ^ places = 10 ^ places / 2 ^ power := by
      rw [fraction, zpow_neg, zpow_natCast]
      ring
    exact straight power fraction (skewed_of_short scaled long high (not_le.mp low))

theorem toDouble_fixed {places numerator : Nat} (few : places ≤ 100) (positive : 0 < numerator)
    (unskewed : ∀ power, skewedPower places = some power ->
      toDouble ((numerator : Rat) / 10 ^ places) ≠ 1 / 2 ^ power) :
    toDouble ((nearestUp (toDouble ((numerator : Rat) / 10 ^ places) * 10 ^ places) : Rat) /
        10 ^ places) = toDouble ((numerator : Rat) / 10 ^ places) := by
  have power : (0 : Rat) < 10 ^ places := by positivity
  have wide := binaryLog_decimal positive places
  have number : (0 : Rat) < (numerator : Rat) / 10 ^ places :=
    div_pos (by exact_mod_cast positive) power
  have normal : Normal ((numerator : Rat) / 10 ^ places) := ⟨number, by omega⟩
  generalize read : toDouble ((numerator : Rat) / 10 ^ places) = double at unskewed ⊢
  have closest := nearestUp_closest (double * 10 ^ places) numerator
  refine (toDouble_of_no_farther normal (by omega) ?_ fun place is long high => ?_).trans read
  · rw [read, abs_div_sub power, abs_div_sub power]
    exact div_le_div_of_nonneg_right (by exact_mod_cast closest) power.le
  rw [read] at is
  rw [is]
  refine power_le_nearestUp long high fun power place_eq skewed => ?_
  refine unskewed power (skewed.skewedPower_eq few) ?_
  rw [is, place_eq, zpow_neg, zpow_natCast, one_div]

end Numbers
