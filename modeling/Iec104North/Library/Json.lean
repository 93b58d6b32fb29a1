import Iec104North.Library.Cxx

/-!
# JSON documents as C++ code reads them

A parsed document, the member lookup and the typed accessors.  The accessors
are partial: each gives a result for values of its type only.  A string is
handed over as a C string, which ends at its first NUL.
-/

namespace Iec104North.Library

/-- A JSON value; the members of an object keep their order. -/
inductive Json where
  | null
  | bool (value : Bool)
  | int (value : Int)
  | real (literal : String)
  | string (value : String)
  | array (elements : List Json)
  | object (members : List (String × Json))

namespace Json

/-- A string as a C string. -/
def cString (value : String) : String :=
  String.ofList (value.toList.takeWhile (· != '\x00'))

/-- The value is an object. -/
def isObject : Json → Bool
  | .object _ => true
  | _ => false

/-- The first member with a name, if the value is an object that has one. -/
def member? (value : Json) (name : String) : Option Json :=
  match value with
  | .object members => members.lookup name
  | _ => none

/-- The elements of an array. -/
def asArray : Json → Option (List Json)
  | .array elements => some elements
  | _ => none

/-- The C string of a string. -/
def asString : Json → Option String
  | .string value => some (cString value)
  | _ => none

/-- The value of a Boolean. -/
def asBool : Json → Option Bool
  | .bool value => some value
  | _ => none

/-- The value of a number that is a 32-bit integer. -/
def asInt : Json → Option Int
  | .int value => if IsInt32 value then some value else none
  | _ => none

theorem isObject_of_member? {value member : Json} {name : String}
    (found : value.member? name = some member) : value.isObject = true := by
  cases value with
  | object members => rfl
  | _ => simp [member?] at found

theorem asInt_inRange {value : Json} {number : Int}
    (isInt : value.asInt = some number) : IsInt32 number := by
  cases value with
  | int value =>
      simp only [asInt, Option.ite_none_right_eq_some,
        Option.some.injEq] at isInt
      rcases isInt with ⟨inRange, rfl⟩
      exact inRange
  | _ => simp [asInt] at isInt

end Json

end Iec104North.Library
