import Iec104North.Library.Cxx
import Mathlib.Algebra.Group.Nat.Defs

/-!
# The C++ runtime: `float` and `double`

Numbers with a fraction are their bits in the binary interchange formats, which
Lean's own model of floating point unpacks and packs again.  Conversions round
to the nearest number and, between two of them, to the even one.
-/

namespace Iec104North.Library

open Float.Model
open Float.Model.UnpackedFloat

/-- A `float`, by its bits. -/
abbrev Single := BitVec 32

/-- A `double`, by its bits. -/
abbrev Double := BitVec 64

/--
The cast `(float)` of a `double`.  What is too large becomes infinite; a NaN is
made quiet and keeps its sign and the upper part of its payload.
-/
def toFloat (number : Double) : Single :=
  match unpack Format.binary64 number with
  | .infinity sign => pack Format.binary32 (.infinity sign)
  | .notANumber =>
      number.extractLsb' 63 1 ++ 0x1ff#9 ++ number.extractLsb' 29 22
  | .zero sign => pack Format.binary32 (.zero sign)
  | .finite sign mantissa exponent _ =>
      pack Format.binary32 (round Format.binary32 sign mantissa exponent)

/-! ## Numbers as texts -/

/-- The integer nearest to a fraction; the even one of two. -/
def roundHalfEven (numerator denominator : Nat) : Nat :=
  let quotient := numerator / denominator
  let remainder := numerator % denominator
  if denominator < 2 * remainder ∨
      (2 * remainder = denominator ∧ quotient % 2 = 1) then
    quotient + 1
  else
    quotient

/-- The integer nearest to a number times a power of two. -/
def roundScaled (number : Nat) (exponent : Int) : Nat :=
  roundHalfEven (number * 2 ^ exponent.toNat) (2 ^ (-exponent).toNat)

/-- The last decimal digits of a number, as many as asked for. -/
def lastDigits : Nat → Nat → List Char
  | 0, _ => []
  | count + 1, number =>
      lastDigits count (number / 10) ++ [Nat.digitChar (number % 10)]

/-- The decimal fraction `number / 10 ^ decimals`, with all its decimals. -/
def fixedPoint (decimals number : Nat) : List Char :=
  Nat.toDigits 10 (number / 10 ^ decimals) ++
    '.' :: lastDigits decimals number

/-- A text with the sign it stands for. -/
def withSign : Sign → List Char → List Char
  | .negative, text => '-' :: text
  | .positive, text => text

/-- `std::to_string(float)`, which has the format `%f`: six decimals. -/
def floatToString (number : Single) : String :=
  let text :=
    match unpack Format.binary32 number with
    | .infinity sign => withSign sign "inf".toList
    | .notANumber =>
        withSign (Sign.ofBitVec (@unpackSign Format.binary32 number))
          "nan".toList
    | .zero sign => withSign sign (fixedPoint 6 0)
    | .finite sign mantissa exponent _ =>
        withSign sign
          (fixedPoint 6 (roundScaled (mantissa * 10 ^ 6) exponent))
  String.ofList text

example : toFloat 0x3fb999999999999a = 0x3dcccccd := by decide

example : floatToString 0x33d6bf95 = "0.000000" := by decide

example : floatToString 0xbfc00000 = "-1.500000" := by decide

end Iec104North.Library
