import Dataspace.Decimal
import Dataspace.Members

/-!
# JSON values

Objects keep their members in order. Whole numbers of 64 bits stay whole; every
other number is a binary64 value, so `1` and `1.0` differ.
-/

namespace Dataspace

namespace Json

inductive Number
  | integer (value : Int)
  | real (value : Binary64)
  deriving DecidableEq, Repr

def Number.isZero : Number → Bool
  | .integer value => value == 0
  | .real value => value.isZero

end Json

inductive Json
  | null
  | bool (value : Bool)
  | number (value : Json.Number)
  | string (value : String)
  | array (items : List Json)
  | object (members : List (String × Json))

namespace Json

def ofNat (n : Nat) : Json := .number (.integer n)

def ofStrings (values : List String) : Json := .array (values.map .string)

def ofOption (encode : α → Json) : Option α → Json
  | none => .null
  | some a => encode a

/-- An object in which repeated names have been settled: the last value and
the first position of each. -/
def ofMembers (entries : List (String × Json)) : Json :=
  .object (Members.ofList entries).entries

def member? (name : String) : Json → Option Json
  | .object members => Members.find? name members
  | _ => none

def string? : Json → Option String
  | .string value => some value
  | _ => none

def array? : Json → Option (List Json)
  | .array items => some items
  | _ => none

def bool? : Json → Option Bool
  | .bool value => some value
  | _ => none

def strings? (json : Json) : Option (List String) :=
  json.array?.bind fun items => items.mapM string?

/-- Anything but null, false, zero and the empty string, array and object. -/
def isPresent : Json → Bool
  | .null => false
  | .bool value => value
  | .number value => !value.isZero
  | .string value => !value.isEmpty
  | .array items => !items.isEmpty
  | .object members => !members.isEmpty

/-- The payload of a submodel entry: the first item of an array, or an object
itself. -/
def firstDocument? : Json → Option Json
  | .array items => items.head?
  | .object members => some (.object members)
  | _ => none

end Json

end Dataspace
