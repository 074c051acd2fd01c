import Dataspace.Decimal
import Dataspace.Json.Printer
import Dataspace.Text.Basic

/-!
# Setting values

What a source of settings holds under a name, and how it converts to the type
of a field. Scalars convert to text and to switches; only lists convert to
lists.

A name may reach into a setting: `bpns[1]` is an item of a list and `a.b` an
entry of a table, and longer paths go on from there. A name that is no path
stands for itself, and case does not count. Putting a value at a path turns
whatever is on the way into lists and tables, and fills a list that is too short
with nulls.
-/

namespace Dataspace

-- ---------------------------------------------------------------------------
-- Values
-- ---------------------------------------------------------------------------

inductive SettingValue
  | null
  | bool (value : Bool)
  | integer (value : Int)
  | real (value : Extended)
  | text (value : String)
  | list (items : List SettingValue)
  | table (entries : List (String × SettingValue))

namespace SettingValue

/-- Whole numbers of 63 bits and a sign; greater ones count as real. -/
def isInteger (value : Int) : Bool := -(Nat.pow 2 63 : Int) ≤ value && value < Nat.pow 2 63

mutual

def ofJson : Json → SettingValue
  | .null => .null
  | .bool value => .bool value
  | .number (.integer value) =>
    if isInteger value then .integer value
    else .real (Extended.ofDecimal (value < 0) value.natAbs 0)
  | .number (.real value) => .real (.finite value)
  | .string value => .text value
  | .array items => .list (ofItems items)
  | .object members => .table (ofMembers members)

def ofItems : List Json → List SettingValue
  | [] => []
  | item :: rest => ofJson item :: ofItems rest

def ofMembers : List (String × Json) → List (String × SettingValue)
  | [] => []
  | (name, value) :: rest => (name, ofJson value) :: ofMembers rest

end

def items : SettingValue → List SettingValue
  | .list items => items
  | _ => []

def entries : SettingValue → List (String × SettingValue)
  | .table entries => entries
  | _ => []

def text? : SettingValue → Option String
  | .bool true => some "true"
  | .bool false => some "false"
  | .integer value => some (Json.Number.integer value).compact
  | .real value => some value.text
  | .text value => some value
  | .null | .list _ | .table _ => none

def switchText? (word : String) : Option Bool :=
  if word ∈ ["1", "true", "on", "yes"] then some true
  else if word ∈ ["0", "false", "off", "no"] then some false
  else none

/-- Numbers are on unless zero; words count in any case. -/
def switch? : SettingValue → Option Bool
  | .bool value => some value
  | .integer value => some (value ≠ 0)
  | .real value => some (!value.isZero)
  | .text value => switchText? (Text.lower value)
  | .null | .list _ | .table _ => none

def list? : SettingValue → Option (List String)
  | .list items => items.mapM text?
  | _ => none

end SettingValue

abbrev Layer := List (String × SettingValue)

-- ---------------------------------------------------------------------------
-- Paths
-- ---------------------------------------------------------------------------

inductive SettingStep
  | entry (name : String)
  | item (index : Int)
  deriving DecidableEq, Repr

namespace SettingStep

inductive Lexeme
  | name (done : List Char)
  | index (done : List Char)
  | closed

def isNameChar (c : Char) : Bool := c.isAlphanum || c = '_' || c = '-' || c = ' '

def isBlank (c : Char) : Bool := c = ' ' || c = '\t'

def trim (text : List Char) : List Char :=
  ((text.dropWhile isBlank).reverse.dropWhile isBlank).reverse

def index? (text : List Char) : Option Int :=
  let (negative, digits) := match trim text with
    | '-' :: digits => (true, digits)
    | digits => (false, digits)
  let magnitude := Numeral.value digits
  let value : Int := if negative then -magnitude else magnitude
  if digits ≠ [] && digits.all Char.isDigit && SettingValue.isInteger value then some value
  else none

namespace Lexeme

def finish? : Lexeme → Option (List SettingStep)
  | .name [] | .index _ => none
  | .name done => some [.entry (String.ofList done.reverse)]
  | .closed => some []

def step? (c : Char) (lexeme : Lexeme) : Option (Lexeme × List SettingStep) :=
  match lexeme with
  | .index done =>
    if c = ']' then (index? done.reverse).map fun index => (.closed, [.item index])
    else some (.index (c :: done), [])
  | .name done =>
    if isNameChar c then some (.name (c :: done), [])
    else if c = '.' then lexeme.finish?.map fun steps => (.name [], steps)
    else if c = '[' then lexeme.finish?.map fun steps => (.index [], steps)
    else none
  | .closed =>
    if c = '.' then some (.name [], [])
    else if c = '[' then some (.index [], [])
    else none

end Lexeme

def scanner : Text.Scanner Lexeme SettingStep := ⟨.name [], Lexeme.step?, Lexeme.finish?⟩

def ofName (name : String) : List SettingStep :=
  let name := Text.lower name
  (scanner.tokens? name).getD [.entry name]

/-- The position that an index means in a list of some length. A list grows as far as an
index says. Negative indices count from the end and must not go beyond the beginning. -/
def position? (index : Int) (length : Nat) : Option Nat :=
  if 0 ≤ index then some index.toNat
  else if -index ≤ length then some (length - (-index).toNat)
  else none

end SettingStep

namespace SettingValue

mutual

/-- A table is entered name by name into what stands there; any other value
replaces it. Names are entered in lower case. -/
def place : SettingValue → SettingValue → SettingValue
  | .table entries, old => placeAll entries old
  | new, _ => new

def placeAll : List (String × SettingValue) → SettingValue → SettingValue
  | [], old => old
  | (name, new) :: rest, old =>
    let placed := new.place ((Members.find? (Text.lower name) old.entries).getD (.table []))
    placeAll rest (.table (Members.assign (Text.lower name) placed old.entries))

end

/-- Puts `item` at a position, behind nulls if the list is too short. -/
def putItem (position : Nat) (item : SettingValue) (items : List SettingValue) :
    List SettingValue :=
  let missing := List.replicate (position + 1 - items.length) SettingValue.null
  (items ++ missing).set position item

/-- Puts `new` at the end of the steps. There is no result if an index lies
outside its list. -/
def put? (new : SettingValue) : List SettingStep → SettingValue → Option SettingValue
  | [], _ => some new
  | [.entry name], old => some (placeAll [(name, new)] old)
  | .entry name :: rest, old => do
    let inner ← put? new rest ((Members.find? name old.entries).getD .null)
    return .table (Members.assign name inner old.entries)
  | .item index :: rest, old => do
    let position ← SettingStep.position? index old.items.length
    let inner ← put? new rest (old.items[position]?.getD .null)
    return .list (putItem position inner old.items)

end SettingValue

end Dataspace
