import Dataspace.Json.Reader
import Dataspace.Text.Basic

/-!
# TOML tokens

Strings stand between double quotes with escapes or between single quotes
without; three quotes enclose a block of lines. A run of letters, digits, signs,
points and colons is one word, be it a key or a value; a date and a time of day
may have a space between them. Comments are dropped; the ends of lines are kept.
-/

namespace Dataspace.Toml

/-- A bracket is joined if one of its kind stands directly before it. -/
inductive Token
  | word (text : List Char)
  | text (value : String)
  | block (value : String)
  | equals | comma | openBrace | closeBrace | newline
  | openBracket (joined : Bool)
  | closeBracket (joined : Bool)

structure Quotation where
  mark : Char
  isBlock : Bool

/-- The token in progress; what has been read of it stands in reverse. `between`
knows the bracket that stands directly before, and `marks` counts quotes that
may be part of a block or close it. -/
inductive Lexeme
  | between (bracket : Option Char)
  | comment
  | word (done : List Char)
  | dateGap (done : List Char)
  | opened (mark : Char)
  | openedTwice (mark : Char)
  | blockStart (mark : Char)
  | text (quotation : Quotation) (done : List Char)
  | marks (mark : Char) (done : List Char) (count : Nat)
  | escape (quotation : Quotation) (done : List Char)
  | code (quotation : Quotation) (done : List Char) (left value : Nat)
  | lineTail (quotation : Quotation) (done : List Char) (ended : Bool)

def isKeyChar (c : Char) : Bool := c.isAlphanum || c = '_' || c = '-'

def isWordChar (c : Char) : Bool := isKeyChar c || c = '+' || c = '.' || c = ':'

def isBlank (c : Char) : Bool := c = ' ' || c = '\t'

/-- Texts and comments hold no control but the tab. -/
def isTextChar (c : Char) : Bool := (0x20 ≤ c.toNat && c.toNat ≠ 0x7F) || c = '\t'

def isFullDate : List Char → Bool
  | [a, b, c, d, '-', e, f, '-', g, h] => [a, b, c, d, e, f, g, h].all Char.isDigit
  | _ => false

/-- The slash needs no escape and has none. -/
def unescape? (c : Char) : Option Char := if c = '/' then none else Json.unescape? c

namespace Lexeme

def start? (bracket : Option Char) (c : Char) : Option (Lexeme × List Token) :=
  if isBlank c then some (.between none, [])
  else if c = '#' then some (.comment, [])
  else if c = '"' || c = '\'' then some (.opened c, [])
  else if isWordChar c then some (.word [c], [])
  else match c with
    | '[' => some (.between (some '['), [.openBracket (bracket == some '[')])
    | ']' => some (.between (some ']'), [.closeBracket (bracket == some ']')])
    | '=' => some (.between none, [.equals])
    | ',' => some (.between none, [.comma])
    | '{' => some (.between none, [.openBrace])
    | '}' => some (.between none, [.closeBrace])
    | '\n' => some (.between none, [.newline])
    | _ => none

def startAfter? (token : Token) (c : Char) : Option (Lexeme × List Token) :=
  (start? none c).map fun (next, tokens) => (next, token :: tokens)

def textStep? (quotation : Quotation) (done : List Char) (c : Char) :
    Option (Lexeme × List Token) :=
  if c = quotation.mark then
    if quotation.isBlock then some (.marks c done 1, [])
    else some (.between none, [.text (String.ofList done.reverse)])
  else if c = '\\' && quotation.mark = '"' then some (.escape quotation done, [])
  else if isTextChar c || (quotation.isBlock && c = '\n') then
    some (.text quotation (c :: done), [])
  else none

/-- The last three of the quotes close the block, those before them belong to
it. -/
def closedBlock (mark : Char) (done : List Char) (count : Nat) : Token :=
  .block (String.ofList (done.reverse ++ List.replicate (count - 3) mark))

/-- No more than two quotes stand before the three that close a block. -/
def marksStep? (mark : Char) (done : List Char) (count : Nat) (c : Char) :
    Option (Lexeme × List Token) :=
  if c = mark then if count < 5 then some (.marks mark done (count + 1), []) else none
  else if 3 ≤ count then startAfter? (closedBlock mark done count) c
  else textStep? ⟨mark, true⟩ (List.replicate count mark ++ done) c

/-- Codes of surrogates, and beyond the last character, stand for nothing. -/
def ofCode? (quotation : Quotation) (done : List Char) (code : Nat) : Option Lexeme :=
  if code.isValidChar then some (.text quotation (Char.ofNat code :: done)) else none

/-- In a block a backslash may also end a line. -/
def escapeStep? (quotation : Quotation) (done : List Char) (c : Char) : Option Lexeme :=
  if c = 'u' then some (.code quotation done 4 0)
  else if c = 'U' then some (.code quotation done 8 0)
  else if quotation.isBlock && isBlank c then some (.lineTail quotation done false)
  else if quotation.isBlock && c = '\n' then some (.lineTail quotation done true)
  else (unescape? c).map fun e => .text quotation (e :: done)

def step? (c : Char) : Lexeme → Option (Lexeme × List Token)
  | .between bracket => start? bracket c
  | .comment =>
    if c = '\n' then some (.between none, [.newline])
    else if isTextChar c then some (.comment, [])
    else none
  | .word done =>
    if isWordChar c then some (.word (c :: done), [])
    else if c = ' ' && isFullDate done.reverse then some (.dateGap done, [])
    else startAfter? (.word done.reverse) c
  | .dateGap done =>
    if c.isDigit then some (.word (c :: ' ' :: done), [])
    else startAfter? (.word done.reverse) c
  | .opened mark =>
    if c = mark then some (.openedTwice mark, []) else textStep? ⟨mark, false⟩ [] c
  | .openedTwice mark =>
    if c = mark then some (.blockStart mark, []) else startAfter? (.text "") c
  | .blockStart mark =>
    -- A line end right after the opening quotes is no part of the block.
    if c = '\n' then some (.text ⟨mark, true⟩ [], []) else textStep? ⟨mark, true⟩ [] c
  | .text quotation done => textStep? quotation done c
  | .marks mark done count => marksStep? mark done count c
  | .escape quotation done => (escapeStep? quotation done c).map fun next => (next, [])
  | .code quotation done left value => do
    let code := 16 * value + (← Json.hexValue? c)
    if left ≤ 1 then return (← ofCode? quotation done code, [])
    else return (.code quotation done (left - 1) code, [])
  | .lineTail quotation done ended =>
    if isBlank c then some (.lineTail quotation done ended, [])
    else if c = '\n' then some (.lineTail quotation done true, [])
    else if ended then textStep? quotation done c
    else none

def finish? : Lexeme → Option (List Token)
  | .between _ | .comment => some []
  | .word done | .dateGap done => some [.word done.reverse]
  | .openedTwice _ => some [.text ""]
  | .marks mark done count => if 3 ≤ count then some [closedBlock mark done count] else none
  | _ => none

end Lexeme

def scanner : Text.Scanner Lexeme Token := ⟨.between none, Lexeme.step?, Lexeme.finish?⟩

/-- Carriage returns stand only before line feeds, and go with them. -/
def joinLineEnds? : List Char → Option (List Char)
  | [] => some []
  | '\r' :: '\n' :: rest => (joinLineEnds? rest).map ('\n' :: ·)
  | c :: rest => if c = '\r' then none else (joinLineEnds? rest).map (c :: ·)

/-- A byte order mark may stand before everything else. -/
def tokens? (text : String) : Option (List Token) := do
  let text ← joinLineEnds? (Text.withoutMark text.toList)
  scanner.tokens? (String.ofList text)

end Dataspace.Toml
