import Mathlib.Data.List.Basic

/-!
# JSON documents

A document after it was read, and the readers that look for a field or for a value of one kind
and find nothing when the document has another shape. An object has its fields in the order of
the reading; each name is there once.
-/

namespace Json

/-- A number as the reader keeps it: an integer where the text is one that fits, any other number
by the bits of its binary64 value, so that the two zeros are two numbers. -/
inductive JsonNumber where
  | posInt (n : UInt64)
  | negInt (n : Int64)
  | float (bits : UInt64)
  deriving DecidableEq

/-- Each number is kept in one way only, and none is infinite. -/
def JsonNumber.Valid : JsonNumber → Prop
  | .posInt _ => True
  | .negInt n => n < 0
  | .float bits => (bits >>> 52) % 2048 ≠ 2047

/-- A JSON value. The members of an object keep their order. -/
inductive JsonValue where
  | null
  | bool (b : Bool)
  | number (n : JsonNumber)
  | string (s : String)
  | array (items : List JsonValue)
  | object (fields : List (String × JsonValue))

namespace JsonValue

/-- The field of an object. -/
def get : JsonValue → String → Option JsonValue
  | .object fields, name => fields.lookup name
  | _, _ => none

/-- The text, if the value is one. -/
def asStr : JsonValue → Option String
  | .string s => some s
  | _ => none

/-- The truth value, if the value is one. -/
def asBool : JsonValue → Option Bool
  | .bool b => some b
  | _ => none

/-- The number, if the value is one without a sign. -/
def asU64 : JsonValue → Option UInt64
  | .number (.posInt n) => some n
  | _ => none

/-- The items, if the value is an array. -/
def asArray : JsonValue → Option (List JsonValue)
  | .array items => some items
  | _ => none

/-! ## Fields of a kind -/

/-- A member that is a text. -/
def strAt (document : JsonValue) (name : String) : Option String := (document.get name).bind asStr

/-- A member that is a truth value. -/
def boolAt (document : JsonValue) (name : String) : Option Bool := (document.get name).bind asBool

/-- A member that is a number. -/
def u64At (document : JsonValue) (name : String) : Option UInt64 := (document.get name).bind asU64

/-- A member that is an array. -/
def arrayAt (document : JsonValue) (name : String) : Option (List JsonValue) :=
  (document.get name).bind asArray

end JsonValue

end Json
