import Mathlib.Data.Int.Basic
import Mathlib.Data.List.Induction
import Mathlib.Data.List.TakeWhile

/-!
# The C++ runtime: integer conversions and strings

Conversions to `int` and `uint64_t` wrap around.  A `std::string` is a list of
characters with one character for each byte.
-/

namespace Iec104North.Library

/-- Conversion to a 32-bit signed `int`. -/
def toInt32 (value : Int) : Int :=
  value.bmod 0x100000000

/-- Conversion to `uint64_t`. -/
def toUInt64 (value : Int) : Nat :=
  (value % 0x10000000000000000).toNat

theorem toUInt64_natCast (value : Nat) :
    toUInt64 value = value % 0x10000000000000000 := by
  unfold toUInt64
  omega

/-- The range of a 32-bit signed `int`. -/
def IsInt32 (value : Int) : Prop :=
  -0x80000000 ≤ value ∧ value < 0x80000000

instance (value : Int) : Decidable (IsInt32 value) :=
  inferInstanceAs (Decidable (_ ∧ _))

theorem toInt32_of_isInt32 {value : Int} (inRange : IsInt32 value) :
    toInt32 value = value := by
  rcases inRange with ⟨low, high⟩
  exact Int.bmod_eq_of_le (by omega) (by omega)

/-- The largest `int` is `0x7fffffff`. -/
theorem toInt32_lt (value : Int) : toInt32 value < 0x80000000 := by
  have upper := Int.bmod_lt (x := value) (m := 0x100000000) (by omega)
  exact upper

/-- A converted number is between 0 and a limit when its low 32 bits are. -/
theorem toInt32_between_iff {value limit : Int} (small : limit < 0x80000000) :
    (0 ≤ toInt32 value ∧ toInt32 value ≤ limit) ↔
      value % 0x100000000 ≤ limit := by
  have converted : toInt32 value = _ :=
    Int.bmod_eq_emod value 0x100000000
  have low := Int.emod_nonneg value (b := 0x100000000) (by omega)
  have high := Int.emod_lt_of_pos value (b := 0x100000000) (by omega)
  rw [converted]
  split <;> omega

/-- The exceptions `std::string` and `std::stoi` throw. -/
inductive CxxException where
  | invalidArgument
  | outOfRange
deriving DecidableEq, Repr

/-- `std::string::substr`; a length past the end is cut off. -/
def substr (text : List Char) (position length : Nat) :
    Except CxxException (List Char) :=
  if text.length < position then
    .error .outOfRange
  else
    .ok ((text.drop position).take length)

/-- `std::isspace` in the C locale. -/
def isSpace (character : Char) : Bool :=
  character == ' ' || ('\t' ≤ character && character ≤ '\r')

/-- The number written by a list of decimal digits. -/
def decimal (digits : List Char) : Int :=
  digits.foldl
    (fun value digit => 10 * value + (digit.toNat - '0'.toNat : Int)) 0

/-- The sign in front of a number and what follows it. -/
def splitSign : List Char → Int × List Char
  | '-' :: rest => (-1, rest)
  | '+' :: rest => (1, rest)
  | text => (1, text)

/--
`std::stoi` in base 10: blanks are skipped, a sign is optional, and whatever
follows the digits is ignored.
-/
def stoi (text : List Char) : Except CxxException Int :=
  let signed := splitSign (text.dropWhile isSpace)
  let digits := signed.2.takeWhile Char.isDigit
  if digits.isEmpty then
    .error .invalidArgument
  else
    let value := signed.1 * decimal digits
    if IsInt32 value then
      .ok value
    else
      .error .outOfRange

example : stoi " -12x".toList = .ok (-12) := by decide

/-! ## Texts that are numbers -/

/-- The number of a text that is an `int` in decimal and nothing else. -/
def intOf (text : List Char) : Option Int :=
  let signed := splitSign text
  let value := signed.1 * decimal signed.2
  if !signed.2.isEmpty && signed.2.all Char.isDigit &&
      decide (IsInt32 value) then
    some value
  else
    none

theorem intOf_eq_some_iff {text : List Char} {value : Int} :
    intOf text = some value ↔
      (splitSign text).2 ≠ [] ∧
        (∀ digit ∈ (splitSign text).2, digit.isDigit = true) ∧
        IsInt32 value ∧
        value = (splitSign text).1 * decimal (splitSign text).2 := by
  simp only [intOf, Option.ite_none_right_eq_some, Bool.and_eq_true,
    Bool.not_eq_true', List.isEmpty_eq_false_iff, List.all_eq_true,
    decide_eq_true_eq, Option.some.injEq, and_assoc]
  constructor
  · rintro ⟨nonempty, digits, inRange, rfl⟩
    exact ⟨nonempty, digits, inRange, rfl⟩
  · rintro ⟨nonempty, digits, inRange, rfl⟩
    exact ⟨nonempty, digits, inRange, rfl⟩

theorem isSpace_of_isDigit {character : Char}
    (digit : character.isDigit = true) : isSpace character = false := by
  simp only [Char.isDigit, Bool.and_eq_true, decide_eq_true_eq, ge_iff_le,
    UInt32.le_iff_toNat_le] at digit
  have low : 48 ≤ character.val.toNat := digit.1
  have notBlank : character ≠ ' ' := by
    rintro rfl
    revert low
    decide
  have notControl : ¬ character ≤ '\r' := by
    rw [Char.le_def, UInt32.le_iff_toNat_le]
    have limit : ('\r' : Char).val.toNat = 13 := rfl
    omega
  simp [isSpace, notBlank, notControl]

/-- A text with a number starts with its sign or a digit. -/
theorem isSpace_head_of_intOf {text : List Char} {value : Int}
    (number : intOf text = some value) :
    ∀ first ∈ text.head?, isSpace first = false := by
  rcases intOf_eq_some_iff.mp number with ⟨-, digits, -⟩
  rintro first isFirst
  rcases List.head?_eq_some_iff.mp (Option.mem_def.mp isFirst) with ⟨rest, rfl⟩
  rw [splitSign.eq_def] at digits
  split at digits
  · rename_i signed
    rcases (List.cons.inj signed).1 with rfl
    decide
  · rename_i signed
    rcases (List.cons.inj signed).1 with rfl
    decide
  · exact isSpace_of_isDigit (digits first (by simp))

/-- The text is a decimal number without a sign, of any size. -/
def isDecimal (text : List Char) : Bool :=
  !text.isEmpty && text.all Char.isDigit

theorem isDecimal_iff {text : List Char} :
    isDecimal text = true ↔
      text ≠ [] ∧ ∀ digit ∈ text, digit.isDigit = true := by
  simp [isDecimal]

theorem splitSign_of_digits {text : List Char}
    (digits : ∀ digit ∈ text, digit.isDigit = true) :
    splitSign text = (1, text) := by
  rw [splitSign.eq_def]
  split
  · exact absurd (digits '-' (by simp)) (by decide)
  · exact absurd (digits '+' (by simp)) (by decide)
  · rfl

/-- `std::stoi` reads a decimal number or throws because of its size. -/
theorem stoi_of_isDecimal {text : List Char}
    (isNumber : isDecimal text = true) :
    stoi text =
      if IsInt32 (decimal text) then
        .ok (decimal text)
      else
        .error .outOfRange := by
  rcases isDecimal_iff.mp isNumber with ⟨nonempty, digits⟩
  have noBlank : text.dropWhile isSpace = text := by
    cases text with
    | nil => rfl
    | cons first rest =>
        rw [List.dropWhile_cons_of_neg]
        simp [isSpace_of_isDigit (digits first (by simp))]
  have all : text.takeWhile Char.isDigit = text :=
    List.takeWhile_eq_self_iff.mpr digits
  simp only [stoi, noBlank, splitSign_of_digits digits, all,
    List.isEmpty_iff, nonempty, if_false, Int.one_mul]

/-- The text without its first and last character. -/
def withoutEnds (text : List Char) : List Char :=
  (text.drop 1).dropLast

/-- `substr(1, length() - 2)` of a text with both characters to cut off. -/
theorem substr_withoutEnds {text : List Char} (long : 2 ≤ text.length)
    (fits : text.length < 0x10000000000000000) :
    substr text 1 (toUInt64 (text.length - 2)) = .ok (withoutEnds text) := by
  have length : toUInt64 (text.length - 2) = text.length - 2 := by
    unfold toUInt64
    omega
  rw [substr, if_neg (by omega), length, withoutEnds, List.dropLast_eq_take,
    List.length_drop]
  rfl

/-- On a text without both it takes no other characters. -/
theorem substr_mem_withoutEnds {text : List Char} (nonempty : text ≠ []) :
    ∃ cleaned,
      substr text 1 (toUInt64 (text.length - 2)) = .ok cleaned ∧
        ∀ character ∈ cleaned, character ∈ withoutEnds text := by
  have length : 0 < text.length := List.length_pos_iff.mpr nonempty
  refine ⟨_, by rw [substr, if_neg (by omega)], ?_⟩
  intro character member
  rw [withoutEnds, List.dropLast_eq_take]
  by_cases long : 2 ≤ text.length
  · refine (List.take_subset_take_left _ ?_) member
    unfold toUInt64
    rw [List.length_drop]
    omega
  · have nothing : text.drop 1 = [] :=
      List.drop_eq_nil_of_le (by omega)
    simp [nothing] at member

/-! ## Texts that start with a number -/

/--
The text starts with an `int` in decimal.  Blanks may stand in front of it, and
anything that does not go on with a digit behind it.
-/
def StartsWithInt (text : List Char) (value : Int) : Prop :=
  ∃ blanks number rest,
    text = blanks ++ number ++ rest ∧
      (∀ blank ∈ blanks, isSpace blank = true) ∧
      intOf number = some value ∧
      ∀ next ∈ rest.head?, next.isDigit = false

/-- The sign in front of a text is cut off, if there is one. -/
theorem exists_sign (text : List Char) :
    ∃ sign,
      text = sign ++ (splitSign text).2 ∧
        ∀ digits : List Char,
          (∀ digit ∈ digits, digit.isDigit = true) →
          splitSign (sign ++ digits) = ((splitSign text).1, digits) := by
  rw [splitSign.eq_def]
  split
  · exact ⟨['-'], rfl, fun _ _ => rfl⟩
  · exact ⟨['+'], rfl, fun _ _ => rfl⟩
  · exact ⟨[], rfl, fun _ digits => splitSign_of_digits digits⟩

/-- `std::stoi` cuts a text into blanks, a number and the rest. -/
theorem exists_parts (text : List Char) :
    ∃ blanks number rest,
      text = blanks ++ number ++ rest ∧
        (∀ blank ∈ blanks, isSpace blank = true) ∧
        splitSign number =
          ((splitSign (text.dropWhile isSpace)).1,
            (splitSign (text.dropWhile isSpace)).2.takeWhile
              Char.isDigit) ∧
        ∀ next ∈ rest.head?, next.isDigit = false := by
  rcases exists_sign (text.dropWhile isSpace) with ⟨sign, signed, split⟩
  generalize isUnsigned : (splitSign (text.dropWhile isSpace)).2 = unsigned
    at signed ⊢
  refine
    ⟨text.takeWhile isSpace, sign ++ unsigned.takeWhile Char.isDigit,
      unsigned.dropWhile Char.isDigit, ?_, ?_, ?_, ?_⟩
  · rw [List.append_assoc, List.append_assoc,
      List.takeWhile_append_dropWhile, ← signed,
      List.takeWhile_append_dropWhile]
  · intro blank member
    exact List.mem_takeWhile_imp member
  · apply split
    intro digit member
    exact List.mem_takeWhile_imp member
  · intro next isNext
    have stops := List.head?_dropWhile_not Char.isDigit unsigned
    rw [Option.mem_def.mp isNext] at stops
    simpa using stops

theorem splitSign_append {number : List Char} (nonempty : number ≠ [])
    (rest : List Char) :
    splitSign (number ++ rest) =
      ((splitSign number).1, (splitSign number).2 ++ rest) := by
  rcases List.exists_cons_of_ne_nil nonempty with ⟨first, others, rfl⟩
  by_cases minus : first = '-'
  · rw [minus]
    rfl
  by_cases plus : first = '+'
  · rw [plus]
    rfl
  simp [splitSign, minus, plus]

/-- Blanks are skipped, and no others. -/
theorem dropWhile_isSpace_append {blanks : List Char}
    (areBlanks : ∀ blank ∈ blanks, isSpace blank = true)
    {text : List Char} (noBlank : ∀ first ∈ text.head?, isSpace first = false) :
    (blanks ++ text).dropWhile isSpace = text := by
  rw [List.dropWhile_append_of_pos areBlanks]
  cases text with
  | nil => rfl
  | cons first rest =>
      rw [List.dropWhile_cons_of_neg]
      simpa using noBlank

theorem takeWhile_isDigit_append {digits : List Char}
    (areDigits : ∀ digit ∈ digits, digit.isDigit = true)
    {rest : List Char} (noDigit : ∀ next ∈ rest.head?, next.isDigit = false) :
    (digits ++ rest).takeWhile Char.isDigit = digits := by
  rw [List.takeWhile_append_of_pos areDigits]
  cases rest with
  | nil => simp
  | cons next others =>
      rw [List.takeWhile_cons_of_neg, List.append_nil]
      simpa using noDigit

/-- `std::stoi` reads the number a text starts with, and nothing else. -/
theorem stoi_eq_ok_iff {text : List Char} {value : Int} :
    stoi text = .ok value ↔ StartsWithInt text value := by
  constructor
  · intro read
    rcases exists_parts text with
      ⟨blanks, number, rest, parts, areBlanks, cut, noDigit⟩
    have digits :
        ∀ digit ∈
            (splitSign (text.dropWhile isSpace)).2.takeWhile Char.isDigit,
          digit.isDigit = true :=
      fun digit member => List.mem_takeWhile_imp member
    refine ⟨blanks, number, rest, parts, areBlanks, ?_, noDigit⟩
    simp only [stoi] at read
    split at read
    · simp at read
    rename_i nonempty
    split at read
    · rename_i inRange
      rcases Except.ok.inj read with rfl
      rw [intOf_eq_some_iff, cut]
      exact
        ⟨fun none => nonempty (List.isEmpty_iff.mpr none), digits, inRange,
          rfl⟩
    · simp at read
  · rintro ⟨blanks, number, rest, rfl, areBlanks, isNumber, noDigit⟩
    rcases intOf_eq_some_iff.mp isNumber with
      ⟨nonempty, digits, inRange, rfl⟩
    have isText : number ≠ [] := by
      rintro rfl
      exact nonempty rfl
    have noBlank :
        ∀ first ∈ (number ++ rest).head?, isSpace first = false := by
      intro first isFirst
      apply isSpace_head_of_intOf isNumber
      rcases List.exists_cons_of_ne_nil isText with ⟨head, others, rfl⟩
      exact isFirst
    rw [List.append_assoc]
    simp only [stoi, dropWhile_isSpace_append areBlanks noBlank,
      splitSign_append isText, takeWhile_isDigit_append digits noDigit,
      List.isEmpty_iff, nonempty, if_false]
    rw [if_pos inRange]

/-- `std::stoi` reads the number of a text that is nothing else. -/
theorem stoi_of_intOf {text : List Char} {value : Int}
    (number : intOf text = some value) : stoi text = .ok value :=
  stoi_eq_ok_iff.mpr ⟨[], text, [], by simp, by simp, number, by simp⟩

/-- A decimal number that is an `int` starts with itself. -/
theorem startsWithInt_of_isDecimal {text : List Char}
    (isNumber : isDecimal text = true) (inRange : IsInt32 (decimal text)) :
    StartsWithInt text (decimal text) := by
  rw [← stoi_eq_ok_iff, stoi_of_isDecimal isNumber, if_pos inRange]

/-! ## Numbers that are written and read again -/

theorem decimal_concat (digits : List Char) (digit : Char) :
    decimal (digits ++ [digit]) =
      10 * decimal digits + (digit.toNat - '0'.toNat : Int) := by
  rw [decimal, List.foldl_append]
  rfl

theorem decimal_eq_ofDigitChars {digits : List Char}
    (areDigits : ∀ digit ∈ digits, digit.isDigit = true) :
    decimal digits = Nat.ofDigitChars 10 digits 0 := by
  induction digits using List.reverseRecOn with
  | nil => rfl
  | append_singleton digits digit induction =>
      have before :=
        induction fun other member =>
          areDigits other (List.mem_append_left _ member)
      have zero : '0'.toNat ≤ digit.toNat := by
        have isDigit := areDigits digit (by simp)
        simp [Char.isDigit, UInt32.le_iff_toNat_le] at isDigit
        exact isDigit.1
      rw [decimal_concat, before, Nat.ofDigitChars_append,
        Nat.ofDigitChars_cons, Nat.ofDigitChars_nil, Int.natCast_add,
        Int.natCast_mul, Int.natCast_sub zero]
      rfl

theorem decimal_toDigits (number : Nat) :
    decimal (Nat.toDigits 10 number) = number := by
  rw [decimal_eq_ofDigitChars fun digit member =>
      Nat.isDigit_of_mem_toDigits (by omega) (by omega) member,
    Nat.ofDigitChars_ten_toDigits]

/-- A number that `std::to_string` writes is read again by `std::stoi`. -/
theorem stoi_toString {value : Int} (inRange : IsInt32 value) :
    stoi (toString value).toList = .ok value := by
  apply stoi_of_intOf
  rw [intOf_eq_some_iff]
  cases value with
  | ofNat number =>
      have text :
          (toString (Int.ofNat number)).toList = Nat.toDigits 10 number := by
        rw [Int.toString_eq_repr, Int.repr, Nat.toList_repr]
      have digits :
          ∀ digit ∈ Nat.toDigits 10 number, digit.isDigit = true :=
        fun digit member =>
          Nat.isDigit_of_mem_toDigits (by omega) (by omega) member
      rw [text, splitSign_of_digits digits, decimal_toDigits, Int.one_mul]
      exact ⟨Nat.toDigits_ne_nil, digits, inRange, rfl⟩
  | negSucc number =>
      have text :
          (toString (Int.negSucc number)).toList =
            '-' :: Nat.toDigits 10 (number + 1) := by
        rw [Int.toString_eq_repr, Int.repr, String.toList_append,
          Nat.toList_repr]
        rfl
      rw [text, splitSign, decimal_toDigits]
      exact
        ⟨Nat.toDigits_ne_nil,
          fun digit member =>
            Nat.isDigit_of_mem_toDigits (by omega) (by omega) member,
          inRange, by omega⟩

/-! ## Searching from the end -/

/-- `std::string::npos`. -/
def npos : Nat :=
  0xffffffffffffffff

/-- The position of the last occurrence of a pattern. -/
def lastOccurrence (pattern : List Char) : List Char → Option Nat
  | [] => if pattern.isEmpty then some 0 else none
  | first :: rest =>
      match lastOccurrence pattern rest with
      | some position => some (position + 1)
      | none => if pattern.isPrefixOf (first :: rest) then some 0 else none

/-- `std::string::rfind`. -/
def rfind (text pattern : List Char) : Nat :=
  (lastOccurrence pattern text).getD npos

example : rfind "a.pem.pem".toList ".pem".toList = 5 := by decide

/-- The pattern stands where it was found. -/
theorem prefix_of_lastOccurrence {pattern text : List Char} {position : Nat}
    (found : lastOccurrence pattern text = some position) :
    pattern <+: text.drop position ∧
      position + pattern.length ≤ text.length := by
  induction text generalizing position with
  | nil =>
      simp only [lastOccurrence, Option.ite_none_right_eq_some,
        List.isEmpty_iff, Option.some.injEq] at found
      rcases found with ⟨rfl, rfl⟩
      simp
  | cons first rest ih =>
      rw [lastOccurrence] at found
      cases later : lastOccurrence pattern rest with
      | some position' =>
          simp only [later, Option.some.injEq] at found
          rcases ih later with ⟨here, fits⟩
          rw [← found]
          refine ⟨by simpa using here, ?_⟩
          rw [List.length_cons]
          omega
      | none =>
          simp only [later, Option.ite_none_right_eq_some,
            List.isPrefixOf_iff_prefix, Option.some.injEq] at found
          rcases found with ⟨here, rfl⟩
          exact ⟨here, by simpa using here.length_le⟩

/-- A text that ends with the pattern has its last occurrence there. -/
theorem lastOccurrence_of_suffix {pattern text : List Char}
    (ends : pattern <:+ text) :
    lastOccurrence pattern text = some (text.length - pattern.length) := by
  induction text with
  | nil => simp [List.suffix_nil.mp ends, lastOccurrence]
  | cons first rest ih =>
      rw [lastOccurrence]
      rcases List.suffix_cons_iff.mp ends with rfl | inRest
      · have none : lastOccurrence (first :: rest) rest = none := by
          by_contra some
          rcases Option.ne_none_iff_exists'.mp some with ⟨position, found⟩
          have fits := (prefix_of_lastOccurrence found).2
          rw [List.length_cons] at fits
          omega
        simp [none]
      · have fits := inRest.length_le
        rw [ih inRest, List.length_cons]
        dsimp only
        congr 1
        omega

theorem lastOccurrence_eq_end_iff {pattern text : List Char}
    (fits : pattern.length ≤ text.length) :
    lastOccurrence pattern text = some (text.length - pattern.length) ↔
      pattern <:+ text := by
  constructor
  · intro found
    have here := (prefix_of_lastOccurrence found).1
    have same :
        pattern = text.drop (text.length - pattern.length) := by
      apply here.eq_of_length
      rw [List.length_drop]
      omega
    rw [same]
    exact List.drop_suffix _ text
  · exact lastOccurrence_of_suffix

/--
`rfind(pattern) == size() - length` holds for the texts that end with the
pattern, and for those that are shorter by one: the difference wraps around to
`npos`.
-/
theorem rfind_eq_end_iff {pattern text : List Char}
    (fits : text.length < 0x10000000000000000)
    (small : pattern.length < 0x10000000000000000) :
    rfind text pattern = toUInt64 (text.length - pattern.length) ↔
      pattern <:+ text ∨ pattern.length = text.length + 1 := by
  by_cases long : pattern.length ≤ text.length
  · have difference :
        toUInt64 (text.length - pattern.length) =
          text.length - pattern.length := by
      unfold toUInt64
      omega
    rw [difference, or_iff_left (by omega),
      ← lastOccurrence_eq_end_iff long, rfind]
    cases found : lastOccurrence pattern text with
    | some position => simp
    | none =>
        have nonempty : pattern ≠ [] := by
          rintro rfl
          rw [lastOccurrence_of_suffix (List.nil_suffix)] at found
          simp at found
        have length := List.length_pos_iff.mpr nonempty
        simp only [Option.getD_none, npos, reduceCtorEq, iff_false]
        omega
  · have noSuffix : ¬ pattern <:+ text :=
      fun ends => long ends.length_le
    have none : lastOccurrence pattern text = none := by
      by_contra some
      rcases Option.ne_none_iff_exists'.mp some with ⟨position, found⟩
      have fits := (prefix_of_lastOccurrence found).2
      omega
    rw [or_iff_right noSuffix, rfind, none, Option.getD_none, npos]
    unfold toUInt64
    omega

end Iec104North.Library
