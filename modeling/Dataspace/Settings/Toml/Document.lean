import Dataspace.Settings.Toml.Scalar
import Dataspace.Settings.Toml.Token

/-!
# Settings as TOML

A file is a sequence of lines that assign a value to a key or open a table. Lines
before the first header go into the document itself, later ones into the table that
the last header opened. Values may go on over several lines inside brackets. Fewer
than 80 brackets and braces are open at once, and a key has fewer than 80 parts.

How a table came about decides what may still be added while the file is being read:
a table with a header of its own is closed to dotted keys, one made by dotted keys is
closed to headers, one that only a longer header implies may still get its own
header, and one in braces is closed to everything. The order of entries matters: a
table whose first name marks a moment stands for that moment.
-/

namespace Dataspace.Toml

-- ---------------------------------------------------------------------------
-- Tables
-- ---------------------------------------------------------------------------

inductive Origin
  | defined | implied | dotted | inline
  deriving DecidableEq, Repr

/-- `tables` is an array of tables with headers, which is never empty. -/
inductive Item
  | scalar (value : Scalar)
  | array (items : List Item)
  | table (origin : Origin) (entries : List (String × Item))
  | tables (earlier : List (List (String × Item))) (last : List (String × Item))

abbrev Table := List (String × Item)

/-- A key of several parts is a path of tables and a name in the last of them. -/
structure Key where
  path : List String
  name : String
  deriving DecidableEq, Repr

namespace Table

/-- Changes the table at a path. Tables that are missing on the way are made
with `origin`; of an array of tables the last one is meant. -/
def within? (origin : Origin) (change : Origin → Table → Option Table) :
    List String → Origin → Table → Option Table
  | [], own, table => change own table
  | name :: path, _, table => do
    let item ← match Members.find? name table with
      | none => (within? origin change path origin []).map (.table origin)
      | some (.scalar _) | some (.array _) => none
      | some (.tables earlier last) =>
        (within? origin change path .defined last).map (.tables earlier)
      | some (.table own inner) =>
        if own = .inline ∨ (origin = .dotted ∧ own = .defined) then none
        else (within? origin change path own inner).map (.table own)
    return Members.assign name item table

def assign? (table : Table) (key : Key) (item : Item) : Option Table :=
  within? .dotted (fun own inner =>
    if (own == .dotted) == key.path.isEmpty then none
    else if (Members.find? key.name inner).isSome then none
    else some (Members.assign key.name item inner)) key.path .defined table

/-- A header defines a table that is new or only implied, and moves it to the
end. -/
def define? (table : Table) (key : Key) : Option Table :=
  within? .implied (fun _ inner => match Members.find? key.name inner with
    | none => some (Members.assign key.name (.table .defined []) inner)
    | some (.table .implied entries) =>
      some (inner.filter (fun entry => entry.1 ≠ key.name) ++ [(key.name, .table .defined entries)])
    | some _ => none) key.path .defined table

def append? (table : Table) (key : Key) : Option Table :=
  within? .implied (fun _ inner => match Members.find? key.name inner with
    | none => some (Members.assign key.name (.tables [] []) inner)
    | some (.tables earlier last) =>
      some (Members.assign key.name (.tables (earlier ++ [last]) []) inner)
    | some _ => none) key.path .defined table

end Table

def momentName : String := "$__toml_private_datetime"

def Item.quotedMoment? : Item → Option Moment
  | .scalar (.text text) => Moment.read? .quoted text.toList
  | _ => none

mutual

def Item.setting? : Item → Option SettingValue
  | .scalar value => some value.setting
  | .array items => do return .list (← settings? items)
  | .table _ entries => tableSetting? entries
  | .tables earlier last => do
    return .list ((← tableSettings? earlier) ++ [← tableSetting? last])

/-- A table as a setting. Under a first name that marks a moment the moment must
be spelled out, and what else the table holds does not matter. -/
def tableSetting? : List (String × Item) → Option SettingValue
  | [] => some (.table [])
  | (name, item) :: rest =>
    if name = momentName then item.quotedMoment?.map fun moment => .text moment.text
    else do return .table ((name, ← item.setting?) :: (← entrySettings? rest))

def entrySettings? : List (String × Item) → Option (List (String × SettingValue))
  | [] => some []
  | (name, item) :: rest => do return (name, ← item.setting?) :: (← entrySettings? rest)

def settings? : List Item → Option (List SettingValue)
  | [] => some []
  | item :: rest => do return (← item.setting?) :: (← settings? rest)

def tableSettings? : List (List (String × Item)) → Option (List SettingValue)
  | [] => some []
  | table :: rest => do return (← tableSetting? table) :: (← tableSettings? rest)

end

-- ---------------------------------------------------------------------------
-- Statements
-- ---------------------------------------------------------------------------

inductive Statement
  | assign (key : Key) (item : Item)
  | header (key : Key)
  | arrayHeader (key : Key)

inductive KeyUse
  | assign | inline | header | arrayHeader
  deriving DecidableEq, Repr

/-- A key in progress: its parts in reverse, and whether the last thing read
was a part and not a point. -/
structure OpenKey where
  parts : List String
  complete : Bool
  deriving DecidableEq, Repr

/-- What a value belongs to: a line, an array, or an inline table, which has no
key under way before its first value and after each. -/
inductive Frame
  | line (key : Key)
  | items (done : List Item)
  | inline (table : Table) (key : Option Key)

/-- What may stand next. A value is awaited also before the first item of an
array and after a comma, where the array may close instead. -/
inductive Awaited
  | line
  | key (use : KeyUse) (opened : OpenKey)
  | firstKey
  | value
  | separator
  | headerEnd
  | lineEnd

structure Reader where
  statements : List Statement
  frames : List Frame
  awaited : Awaited

namespace OpenKey

def empty : OpenKey := ⟨[], false⟩

def part? (key : OpenKey) (text : String) : Option OpenKey :=
  if key.complete then none else some ⟨text :: key.parts, true⟩

def point? (key : OpenKey) : Option OpenKey :=
  if key.complete then some { key with complete := false } else none

def plainPart? (key : OpenKey) (text : List Char) : Option OpenKey :=
  if text = [] then some key
  else if text.all isKeyChar then key.part? (String.ofList text)
  else none

/-- The pieces of a word between its points, of which the outer ones may be
empty. -/
def pieces? (key : OpenKey) : List (List Char) → Option OpenKey
  | [] => some key
  | [text] => key.plainPart? text
  | text :: rest => do
    let key ← key.plainPart? text
    let key ← key.point?
    key.pieces? rest

def partLimit : Nat := 80

def finish? (key : OpenKey) : Option Key :=
  match key.parts with
  | name :: path =>
    if key.complete && key.parts.length < partLimit then some ⟨path.reverse, name⟩ else none
  | [] => none

end OpenKey

namespace Reader

def depthLimit : Nat := 80

def start : Reader := ⟨[], [], .line⟩

def deliver? (reader : Reader) (item : Item) : List Frame → Option Reader
  | .line key :: _ => some ⟨.assign key item :: reader.statements, [], .lineEnd⟩
  | .items done :: outer =>
    some { reader with frames := .items (item :: done) :: outer, awaited := .separator }
  | .inline table (some key) :: outer => do
    let table ← table.assign? key item
    return { reader with frames := .inline table none :: outer, awaited := .separator }
  | _ => none

/-- The frame of the line itself is no bracket. -/
def enter? (reader : Reader) (frame : Frame) (awaited : Awaited) : Option Reader :=
  if reader.frames.length < depthLimit then
    some { reader with frames := frame :: reader.frames, awaited }
  else none

def value? (reader : Reader) : Token → Option Reader
  | .word word => do reader.deliver? (.scalar (← Scalar.ofWord? word)) reader.frames
  | .text value | .block value => reader.deliver? (.scalar (.text value)) reader.frames
  | .openBracket _ => reader.enter? (.items []) .value
  | .openBrace => reader.enter? (.inline [] none) .firstKey
  | _ => none

def closeItems? (reader : Reader) : Option Reader :=
  match reader.frames with
  | .items done :: outer => reader.deliver? (.array done.reverse) outer
  | _ => none

def closeInline? (reader : Reader) : Option Reader :=
  match reader.frames with
  | .inline table none :: outer => reader.deliver? (.table .inline table) outer
  | _ => none

def isInItems (reader : Reader) : Bool :=
  match reader.frames with
  | .items _ :: _ => true
  | _ => false

def assign? (reader : Reader) (use : KeyUse) (key : Key) : Option Reader :=
  match use, reader.frames with
  | .assign, frames => some { reader with frames := .line key :: frames, awaited := .value }
  | .inline, .inline table none :: outer =>
    some { reader with frames := .inline table (some key) :: outer, awaited := .value }
  | _, _ => none

def closeHeader? (reader : Reader) (use : KeyUse) (key : Key) : Option Reader :=
  match use with
  | .header =>
    some { reader with statements := .header key :: reader.statements, awaited := .lineEnd }
  | .arrayHeader =>
    some { reader with
      statements := .arrayHeader key :: reader.statements, awaited := .headerEnd }
  | _ => none

def key? (reader : Reader) (use : KeyUse) (opened : OpenKey) : Token → Option Reader
  | .word word => do
    return { reader with awaited := .key use (← opened.pieces? (Text.split '.' word)) }
  | .text name => do return { reader with awaited := .key use (← opened.part? name) }
  | .equals => do reader.assign? use (← opened.finish?)
  | .closeBracket _ => do reader.closeHeader? use (← opened.finish?)
  | .openBracket true =>
    if use = .header ∧ opened = .empty then
      some { reader with awaited := .key .arrayHeader .empty }
    else none
  | _ => none

/-- A comma may be followed by the end of an array, but not of a table. -/
def afterComma (reader : Reader) : Reader :=
  { reader with awaited := if reader.isInItems then .value else .key .inline .empty }

def step? (reader : Reader) (token : Token) : Option Reader :=
  match reader.awaited, token with
  | .line, .newline => some reader
  | .line, .openBracket _ => some { reader with awaited := .key .header .empty }
  | .line, token => reader.key? .assign .empty token
  | .key use opened, token => reader.key? use opened token
  | .firstKey, .closeBrace => reader.closeInline?
  | .firstKey, token => reader.key? .inline .empty token
  | .value, .newline => if reader.isInItems then some reader else none
  | .value, .closeBracket _ => reader.closeItems?
  | .value, token => reader.value? token
  | .separator, .newline => if reader.isInItems then some reader else none
  | .separator, .comma => some reader.afterComma
  | .separator, .closeBracket _ => reader.closeItems?
  | .separator, .closeBrace => reader.closeInline?
  | .headerEnd, .closeBracket true => some { reader with awaited := .lineEnd }
  | .lineEnd, .newline => some { reader with awaited := .line }
  | _, _ => none

def result? (reader : Reader) : Option (List Statement) :=
  match reader.awaited with
  | .line | .lineEnd => some reader.statements.reverse
  | _ => none

end Reader

def Statement.ofTokens? (tokens : List Token) : Option (List Statement) :=
  (tokens.foldlM Reader.step? Reader.start).bind Reader.result?

-- ---------------------------------------------------------------------------
-- Documents
-- ---------------------------------------------------------------------------

/-- `opened` is the path of the table that lines go into. -/
structure Document where
  root : Table
  opened : List String

namespace Document

def empty : Document := ⟨[], []⟩

def assign? (document : Document) (key : Key) (item : Item) : Option Document := do
  let root ← Table.within? .implied (fun _ table => table.assign? key item)
    document.opened .defined document.root
  return { document with root }

def record? (document : Document) : Statement → Option Document
  | .assign key item => document.assign? key item
  | .header key => do return ⟨← document.root.define? key, key.path ++ [key.name]⟩
  | .arrayHeader key => do return ⟨← document.root.append? key, key.path ++ [key.name]⟩

end Document

/-- The settings of a whole text. A file that stands for a moment has none. -/
def read? (text : String) : Option Layer := do
  let statements ← Statement.ofTokens? (← tokens? text)
  let document ← statements.foldlM Document.record? Document.empty
  match ← tableSetting? document.root with
  | .table entries => return entries
  | _ => none

end Dataspace.Toml
