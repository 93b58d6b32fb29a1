import Iec104North.Library.Float
import Mathlib.Algebra.Order.Field.Rat
import Mathlib.Tactic.Linarith
import Mathlib.Tactic.Positivity
import Mathlib.Tactic.Ring

/-!
# Decimal texts and the numbers they denote

What a `float` stands for is a rational number, an infinity or no number.  What
a text stands for is read from its characters alone.  The text that
`std::to_string` writes denotes the number up to half a unit of its last
decimal, and exactly when so many decimals suffice.
-/

namespace Iec104North.Library

open Float.Model
open Float.Model.UnpackedFloat

/-- What a `float` or a text stands for. -/
inductive Numeric where
  | finite (number : ℚ)
  | infinite (isNegative : Bool)
  | nan

/-- Two finite numbers are close; the others have to be the same. -/
def Numeric.Within (tolerance : ℚ) : Numeric → Numeric → Prop
  | .finite number, .finite other => |number - other| ≤ tolerance
  | .infinite isNegative, .infinite other => isNegative = other
  | .nan, .nan => True
  | _, _ => False

/-- So many decimals suffice to write a number, if it is finite. -/
def Numeric.HasDecimals (decimals : Nat) : Numeric → Prop
  | .finite number => ∃ units : ℤ, number = units / 10 ^ decimals
  | .infinite _ => True
  | .nan => True

/-- A number is the nearest one with so many decimals. -/
def Numeric.Nearest (decimals : Nat) : Numeric → Numeric → Prop
  | .finite nearest, .finite number =>
      ∃ units : ℤ,
        nearest = units / 10 ^ decimals ∧
          |units - number * 10 ^ decimals| ≤ 1 / 2
  | .infinite isNegative, .infinite other => isNegative = other
  | .nan, .nan => True
  | _, _ => False

/-- The number a `float` is. -/
def numericOf (number : Single) : Numeric :=
  match unpack Format.binary32 number with
  | .infinity sign => .infinite (sign == .negative)
  | .notANumber => .nan
  | .zero _ => .finite 0
  | .finite sign mantissa exponent _ =>
      .finite (sign.apply mantissa * 2 ^ exponent)

/--
The number a text writes: decimal digits with a point before the last of them
or none, `inf` or `nan`, and a sign in front of it.
-/
def readNumeric (text : List Char) : Option Numeric :=
  let (sign, unsigned) := splitSign text
  if unsigned = "inf".toList then
    some (.infinite (decide (sign < 0)))
  else if unsigned = "nan".toList then
    some .nan
  else
    let whole := unsigned.takeWhile Char.isDigit
    let rest := unsigned.dropWhile Char.isDigit
    let decimals := rest.drop 1
    if isDecimal whole && rest.head?.all (· == '.') &&
        decimals.all Char.isDigit then
      some
        (.finite (sign * decimal (whole ++ decimals) / 10 ^ decimals.length))
    else
      none

/-- A text denotes a number, up to a tolerance. -/
def Denotes (tolerance : ℚ) (text : List Char) (number : Numeric) : Prop :=
  ∃ read, readNumeric text = some read ∧ read.Within tolerance number

theorem denotes_iff {tolerance : ℚ} {text : List Char}
    {read number : Numeric} (isRead : readNumeric text = some read) :
    Denotes tolerance text number ↔ read.Within tolerance number := by
  constructor
  · rintro ⟨other, isOther, within⟩
    rcases Option.some.inj (isRead.symm.trans isOther) with rfl
    exact within
  · intro within
    exact ⟨read, isRead, within⟩

/-! ## Nearest numbers -/

/-- The nearest number is off by half a unit of the last decimal at most. -/
theorem Numeric.Nearest.within {decimals : Nat} {nearest number : Numeric}
    (isNearest : nearest.Nearest decimals number) :
    nearest.Within (1 / 2 / 10 ^ decimals) number := by
  cases nearest <;> cases number
  case finite.finite nearest number =>
    rcases isNearest with ⟨units, rfl, close⟩
    have scale : (0 : ℚ) < 10 ^ decimals := by positivity
    have difference :
        (units : ℚ) / 10 ^ decimals - number =
          (units - number * 10 ^ decimals) / 10 ^ decimals := by
      rw [sub_div, mul_div_assoc, div_self scale.ne', mul_one]
    rw [Numeric.Within, difference, abs_div, abs_of_pos scale]
    exact div_le_div_of_nonneg_right close scale.le
  all_goals exact isNearest

/-- It is the number itself exactly when so many decimals suffice. -/
theorem Numeric.Nearest.within_zero_iff {decimals : Nat}
    {nearest number : Numeric}
    (isNearest : nearest.Nearest decimals number) :
    nearest.Within 0 number ↔ number.HasDecimals decimals := by
  cases nearest <;> cases number
  case finite.finite nearest number =>
    rcases isNearest with ⟨units, rfl, close⟩
    have scale : (10 : ℚ) ^ decimals ≠ 0 := by positivity
    constructor
    · intro within
      have same : (units : ℚ) / 10 ^ decimals - number = 0 :=
        abs_nonpos_iff.mp within
      exact ⟨units, (sub_eq_zero.mp same).symm⟩
    · rintro ⟨written, rfl⟩
      rw [div_mul_cancel₀ _ scale] at close
      have integers : |units - written| < 1 := by
        have less : |(units : ℚ) - written| < 1 :=
          close.trans_lt (by norm_num)
        exact_mod_cast less
      have same : units = written :=
        sub_eq_zero.mp (Int.abs_lt_one_iff.mp integers)
      rw [same, Numeric.Within, sub_self, abs_zero]
  case infinite.infinite => exact ⟨fun _ => trivial, fun _ => isNearest⟩
  case nan.nan => exact ⟨fun _ => trivial, fun _ => trivial⟩
  all_goals exact isNearest.elim

/-! ## Rounding -/

/-- The rounded number is off by half a unit at most. -/
theorem roundHalfEven_bounds (numerator : Nat) {denominator : Nat}
    (positive : 0 < denominator) :
    2 * numerator ≤
        (2 * roundHalfEven numerator denominator + 1) * denominator ∧
      2 * roundHalfEven numerator denominator * denominator ≤
        2 * numerator + denominator := by
  have parts := Nat.div_add_mod numerator denominator
  have below := Nat.mod_lt numerator positive
  unfold roundHalfEven
  generalize numerator / denominator = quotient at parts ⊢
  generalize numerator % denominator = remainder at parts below ⊢
  dsimp only
  split
  · rename_i up
    have large : denominator ≤ 2 * remainder := by omega
    constructor <;> linarith
  · rename_i down
    have small : 2 * remainder ≤ denominator := by omega
    constructor <;> linarith

theorem roundHalfEven_nearest (numerator : Nat) {denominator : Nat}
    (positive : 0 < denominator) :
    |(roundHalfEven numerator denominator : ℚ) - numerator / denominator| ≤
      1 / 2 := by
  have denominatorPos : (0 : ℚ) < denominator := by exact_mod_cast positive
  rcases roundHalfEven_bounds numerator positive with ⟨above, below⟩
  rw [← Nat.cast_le (α := ℚ)] at above below
  push_cast at above below
  have low :
      (numerator : ℚ) / denominator ≤
        roundHalfEven numerator denominator + 1 / 2 := by
    rw [div_le_iff₀ denominatorPos]
    linarith
  have high :
      (roundHalfEven numerator denominator : ℚ) - 1 / 2 ≤
        numerator / denominator := by
    rw [le_div_iff₀ denominatorPos]
    linarith
  rw [abs_le]
  constructor <;> linarith

theorem roundScaled_nearest (number : Nat) (exponent : Int) :
    |(roundScaled number exponent : ℚ) - number * 2 ^ exponent| ≤
      1 / 2 := by
  have scale :
      (2 : ℚ) ^ exponent =
        2 ^ exponent.toNat / 2 ^ (-exponent).toNat := by
    rw [← zpow_natCast, ← zpow_natCast, ← zpow_sub₀ (by norm_num)]
    congr 1
    omega
  have nearest :=
    roundHalfEven_nearest (number * 2 ^ exponent.toNat)
      (Nat.two_pow_pos (-exponent).toNat)
  push_cast at nearest
  rwa [scale, ← mul_div_assoc]

/-! ## Texts with a fixed number of decimals -/

theorem decimal_append (whole decimals : List Char) :
    decimal (whole ++ decimals) =
      decimal whole * 10 ^ decimals.length + decimal decimals := by
  induction decimals using List.reverseRecOn with
  | nil => simp [decimal]
  | append_singleton decimals digit induction =>
      rw [← List.append_assoc, decimal_concat, decimal_concat, induction,
        List.length_append, List.length_singleton, pow_succ]
      ring

theorem digitChar_spec {digit : Nat} (small : digit < 10) :
    (Nat.digitChar digit).isDigit = true ∧
      ((Nat.digitChar digit).toNat - '0'.toNat : Int) = digit := by
  have all :
      ∀ digit < 10,
        (Nat.digitChar digit).isDigit = true ∧
          ((Nat.digitChar digit).toNat - '0'.toNat : Int) = digit := by
    decide
  exact all digit small

@[simp]
theorem lastDigits_length (count number : Nat) :
    (lastDigits count number).length = count := by
  induction count generalizing number with
  | zero => rfl
  | succ count induction =>
      rw [lastDigits, List.length_append, induction, List.length_singleton]

theorem isDigit_of_mem_lastDigits {count number : Nat} {character : Char}
    (member : character ∈ lastDigits count number) :
    character.isDigit = true := by
  induction count generalizing number with
  | zero => simp [lastDigits] at member
  | succ count induction =>
      rcases List.mem_append.mp member with before | last
      · exact induction before
      · rcases List.mem_singleton.mp last with rfl
        exact (digitChar_spec (Nat.mod_lt number (by omega))).1

theorem decimal_lastDigits (count number : Nat) :
    decimal (lastDigits count number) = (number % 10 ^ count : ℕ) := by
  induction count generalizing number with
  | zero => simp [lastDigits, decimal, Nat.mod_one]
  | succ count induction =>
      rw [lastDigits, decimal_concat, induction,
        (digitChar_spec (Nat.mod_lt number (by omega))).2, pow_succ',
        Nat.mod_mul]
      push_cast
      ring

/-- The digits before and behind the point write the number. -/
theorem decimal_fixedPoint (decimals number : Nat) :
    decimal
        (Nat.toDigits 10 (number / 10 ^ decimals) ++
          lastDigits decimals number) =
      number := by
  rw [decimal_append, decimal_toDigits, decimal_lastDigits,
    lastDigits_length]
  have parts := Nat.div_add_mod number (10 ^ decimals)
  rw [Nat.mul_comm] at parts
  exact_mod_cast parts

/-- A sign in front of digits is read again. -/
theorem splitSign_withSign (sign : Sign) {digits : List Char}
    (nonempty : digits ≠ []) (rest : List Char)
    (areDigits : ∀ digit ∈ digits, digit.isDigit = true) :
    splitSign (withSign sign (digits ++ rest)) =
      (sign.apply 1, digits ++ rest) := by
  cases sign with
  | negative => rfl
  | positive =>
      rw [withSign, splitSign_append nonempty, splitSign_of_digits areDigits]
      rfl

/-- The number that is read from a decimal fraction. -/
theorem readNumeric_fixedPoint (sign : Sign) (decimals number : Nat) :
    readNumeric (withSign sign (fixedPoint decimals number)) =
      some (.finite (sign.apply number / 10 ^ decimals)) := by
  have areDigits :
      ∀ digit ∈ Nat.toDigits 10 (number / 10 ^ decimals),
        digit.isDigit = true :=
    fun digit member =>
      Nat.isDigit_of_mem_toDigits (by omega) (by omega) member
  have nonempty : Nat.toDigits 10 (number / 10 ^ decimals) ≠ [] :=
    Nat.toDigits_ne_nil
  have noDigit :
      ∀ next ∈ ('.' :: lastDigits decimals number).head?,
        next.isDigit = false := by
    simp
  have point : '.' ∈ fixedPoint decimals number :=
    List.mem_append_right _ List.mem_cons_self
  have notInf : fixedPoint decimals number ≠ "inf".toList := by
    intro same
    rw [same] at point
    exact absurd point (by decide)
  have notNan : fixedPoint decimals number ≠ "nan".toList := by
    intro same
    rw [same] at point
    exact absurd point (by decide)
  have split :
      splitSign (withSign sign (fixedPoint decimals number)) =
        (sign.apply 1, fixedPoint decimals number) :=
    splitSign_withSign sign nonempty _ areDigits
  have whole :
      (fixedPoint decimals number).takeWhile Char.isDigit =
        Nat.toDigits 10 (number / 10 ^ decimals) :=
    takeWhile_isDigit_append areDigits noDigit
  have rest :
      (fixedPoint decimals number).dropWhile Char.isDigit =
        '.' :: lastDigits decimals number := by
    rw [fixedPoint, List.dropWhile_append_of_pos areDigits,
      List.dropWhile_cons_of_neg (by decide)]
  have isNumber :
      isDecimal (Nat.toDigits 10 (number / 10 ^ decimals)) = true :=
    isDecimal_iff.mpr ⟨nonempty, areDigits⟩
  have allDigits :
      (lastDigits decimals number).all Char.isDigit = true :=
    List.all_eq_true.mpr fun _ member => isDigit_of_mem_lastDigits member
  have value : sign.apply 1 * (number : ℤ) = sign.apply number := by
    cases sign <;> simp [Sign.apply]
  simp only [readNumeric, split, if_neg notInf, if_neg notNan, whole, rest,
    List.head?_cons, List.drop_succ_cons, List.drop_zero, isNumber,
    allDigits, decimal_fixedPoint, lastDigits_length]
  rw [← value]
  simp

/-! ## The text of a `float` -/

/-- The text of a `float` is the nearest number with six decimals. -/
theorem floatToString_nearest (number : Single) :
    ∃ read,
      readNumeric (floatToString number).toList = some read ∧
        read.Nearest 6 (numericOf number) := by
  cases unpacked : unpack Format.binary32 number with
  | infinity sign =>
      refine ⟨.infinite (sign == .negative), ?_, ?_⟩
      · simp only [floatToString, unpacked, String.toList_ofList]
        cases sign <;> rfl
      · simp only [numericOf, unpacked, Numeric.Nearest]
  | notANumber =>
      refine ⟨.nan, ?_, ?_⟩
      · simp only [floatToString, unpacked, String.toList_ofList]
        cases Sign.ofBitVec (@unpackSign Format.binary32 number) <;> rfl
      · simp only [numericOf, unpacked, Numeric.Nearest]
  | zero sign =>
      have written :
          (floatToString number).toList = withSign sign (fixedPoint 6 0) := by
        simp only [floatToString, unpacked, String.toList_ofList]
      rw [written]
      refine ⟨_, readNumeric_fixedPoint sign 6 0, ?_⟩
      simp only [numericOf, unpacked, Numeric.Nearest]
      exact ⟨_, rfl, by cases sign <;> simp [Sign.apply]⟩
  | finite sign mantissa exponent positive =>
      have written :
          (floatToString number).toList =
            withSign sign
              (fixedPoint 6 (roundScaled (mantissa * 10 ^ 6) exponent)) := by
        rw [floatToString, unpacked]
        exact String.toList_ofList
      have isNumber :
          numericOf number = .finite (sign.apply mantissa * 2 ^ exponent) := by
        rw [numericOf, unpacked]
      rw [written, isNumber]
      refine ⟨_, readNumeric_fixedPoint sign 6 _, _, rfl, ?_⟩
      have nearest := roundScaled_nearest (mantissa * 10 ^ 6) exponent
      push_cast at nearest
      have difference :
          (sign.apply (roundScaled (mantissa * 10 ^ 6) exponent) : ℚ) -
              sign.apply mantissa * 2 ^ exponent * 10 ^ 6 =
            sign.apply 1 *
              (roundScaled (mantissa * 10 ^ 6) exponent -
                mantissa * 10 ^ 6 * 2 ^ exponent) := by
        cases sign <;> simp only [Sign.apply] <;> push_cast <;> ring
      have unit : |(sign.apply 1 : ℚ)| = 1 := by
        cases sign <;> simp [Sign.apply]
      rwa [difference, abs_mul, unit, one_mul]

/-- It denotes the number up to half a unit of the sixth decimal. -/
theorem floatToString_denotes (number : Single) :
    Denotes (1 / 2 / 10 ^ 6) (floatToString number).toList
      (numericOf number) := by
  rcases floatToString_nearest number with ⟨read, isRead, nearest⟩
  exact ⟨read, isRead, nearest.within⟩

/-- It denotes the number itself exactly when six decimals suffice. -/
theorem floatToString_denotes_zero_iff (number : Single) :
    Denotes 0 (floatToString number).toList (numericOf number) ↔
      (numericOf number).HasDecimals 6 := by
  rcases floatToString_nearest number with ⟨read, isRead, nearest⟩
  rw [denotes_iff isRead, nearest.within_zero_iff]

end Iec104North.Library
