import Dataspace.Decimal
import Dataspace.Json.Basic
import Dataspace.Text.Basic

/-!
# Reading JSON

A text is cut into tokens one character at a time. `Lexeme` is what has been
read of the token in progress; a string may stand inside an escape or between
the halves of a surrogate pair. A run of letters, digits, signs and points is
one word, which must be a number or one of the three names. A numeral without
fraction and exponent that fits 64 bits is a whole number; negative zero does not
count as whole.

Tokens are put together with a stack of open containers. No more than 127 may
be open at once. Among members of one name the last value and the first
position win.
-/

namespace Dataspace.Json.Number

-- ---------------------------------------------------------------------------
-- Numbers
-- ---------------------------------------------------------------------------

def bound : Nat := Nat.pow 2 64

/-- Digits are taken while the number they form fits 64 bits. Each digit of the
whole part that is dropped raises the exponent instead. -/
def takeWhole : List Char → Nat → Int → Nat × Int
  | [], n, exponent => (n, exponent)
  | c :: rest, n, exponent =>
    if exponent = 0 && 10 * n + Numeral.digitValue c < bound then
      takeWhole rest (10 * n + Numeral.digitValue c) 0
    else takeWhole rest n (exponent + 1)

/-- Each digit of the fraction that is taken lowers the exponent; from the
first that does not fit, the rest are dropped. -/
def takeFraction : List Char → Nat → Int → Nat × Int
  | [], n, exponent => (n, exponent)
  | c :: rest, n, exponent =>
    if 10 * n + Numeral.digitValue c < bound then
      takeFraction rest (10 * n + Numeral.digitValue c) (exponent - 1)
    else (n, exponent)

def powerOfTen? (exponent : Nat) : Option Binary64 := Binary64.ofNat? false (Nat.pow 10 exponent)

/-- Exponents below `-308` take two quotients, and below `-616` every 64-bit
significand vanishes. -/
def scale? (significand : Binary64) (exponent : Int) : Option Binary64 :=
  if 308 < exponent then if significand.isZero then some significand else none
  else if 0 ≤ exponent then do
    significand.mul? (← powerOfTen? exponent.toNat)
  else if -308 ≤ exponent then do
    significand.div? (← powerOfTen? (-exponent).toNat)
  else if -616 ≤ exponent then do
    let first ← significand.div? (← powerOfTen? 308)
    first.div? (← powerOfTen? (-exponent - 308).toNat)
  else some (Binary64.zero significand.negative)

def real? (n : Numeral) : Option Number := do
  let (whole, exponent) := takeWhole n.whole 0 0
  let (significand, exponent) := takeFraction (n.fraction.getD []) whole exponent
  let significand ← Binary64.ofNat? n.isNegative significand
  let value ← scale? significand (exponent + n.power)
  return .real value

/-- No plus sign, no empty digit run, and no zero before other digits. -/
def admits (n : Numeral) : Bool :=
  n.sign ≠ some .plus && n.whole ≠ [] && (n.whole.head? ≠ some '0' || n.whole.length = 1) &&
    n.fraction ≠ some []

def ofNumeral? (n : Numeral) : Option Number :=
  if !admits n then none
  else if !n.isWhole then real? n
  else
    let magnitude := Numeral.value n.whole
    if n.isNegative then
      if 0 < magnitude && magnitude ≤ Nat.pow 2 63 then some (.integer (-magnitude)) else real? n
    else if magnitude < bound then some (.integer magnitude) else real? n

def read? (text : List Char) : Option Number := (Numeral.read? text).bind ofNumeral?

end Dataspace.Json.Number

namespace Dataspace.Json

-- ---------------------------------------------------------------------------
-- Tokens
-- ---------------------------------------------------------------------------

inductive Token
  | openBracket | closeBracket | openBrace | closeBrace | comma | colon
  | scalar (value : Json)

/-- Characters already read stand in reverse. -/
inductive Lexeme
  | between
  | word (done : List Char)
  | text (done : List Char)
  | escape (done : List Char)
  | code (done : List Char) (high : Option Nat) (count value : Nat)
  | half (done : List Char) (high : Nat)
  | halfEscape (done : List Char) (high : Nat)

namespace Token

def isBlank (c : Char) : Bool := c = ' ' || c = '\t' || c = '\n' || c = '\r'

def isWordChar (c : Char) : Bool := c.isAlphanum || c = '+' || c = '-' || c = '.'

def ofWord? (word : List Char) : Option Token :=
  if word = ['t', 'r', 'u', 'e'] then some (.scalar (.bool true))
  else if word = ['f', 'a', 'l', 's', 'e'] then some (.scalar (.bool false))
  else if word = ['n', 'u', 'l', 'l'] then some (.scalar .null)
  else (Number.read? word).map fun n => .scalar (.number n)

def punctuation? : Char → Option Token
  | '[' => some .openBracket
  | ']' => some .closeBracket
  | '{' => some .openBrace
  | '}' => some .closeBrace
  | ',' => some .comma
  | ':' => some .colon
  | _ => none

end Token

def hexValue? (c : Char) : Option Nat :=
  if c.isDigit then some (c.toNat - '0'.toNat)
  else if 'a' ≤ c ∧ c ≤ 'f' then some (c.toNat - 'a'.toNat + 10)
  else if 'A' ≤ c ∧ c ≤ 'F' then some (c.toNat - 'A'.toNat + 10)
  else none

def unescape? : Char → Option Char
  | '"' => some '"'
  | '\\' => some '\\'
  | '/' => some '/'
  | 'b' => some '\x08'
  | 'f' => some '\x0c'
  | 'n' => some '\n'
  | 'r' => some '\r'
  | 't' => some '\t'
  | _ => none

def isHighSurrogate (code : Nat) : Bool := 0xD800 ≤ code && code < 0xDC00

def isLowSurrogate (code : Nat) : Bool := 0xDC00 ≤ code && code < 0xE000

namespace Lexeme

/-- A code unit closes the pair begun by `high`, begins a pair, or stands for
itself; halves that do not pair up are refused. -/
def ofCode? (done : List Char) (high : Option Nat) (code : Nat) : Option Lexeme :=
  match high with
  | some h =>
    if isLowSurrogate code then
      some (.text (Char.ofNat (0x10000 + (h - 0xD800) * 0x400 + (code - 0xDC00)) :: done))
    else none
  | none =>
    if isHighSurrogate code then some (.half done code)
    else if isLowSurrogate code then none
    else some (.text (Char.ofNat code :: done))

def start? (c : Char) : Option (Lexeme × List Token) :=
  if Token.isBlank c then some (.between, [])
  else if c = '"' then some (.text [], [])
  else if Token.isWordChar c then some (.word [c], [])
  else (Token.punctuation? c).map fun t => (.between, [t])

def step? (c : Char) : Lexeme → Option (Lexeme × List Token)
  | .between => start? c
  | .word done =>
    if Token.isWordChar c then some (.word (c :: done), [])
    else do
      let token ← Token.ofWord? done.reverse
      let (next, tokens) ← start? c
      return (next, token :: tokens)
  | .text done =>
    if c = '"' then some (.between, [.scalar (.string (String.ofList done.reverse))])
    else if c = '\\' then some (.escape done, [])
    else if c.toNat < 0x20 then none
    else some (.text (c :: done), [])
  | .escape done =>
    if c = 'u' then some (.code done none 0 0, [])
    else (unescape? c).map fun e => (.text (e :: done), [])
  | .code done high count value => do
    let code := 16 * value + (← hexValue? c)
    if count = 3 then return (← ofCode? done high code, [])
    else return (.code done high (count + 1) code, [])
  | .half done high => if c = '\\' then some (.halfEscape done high, []) else none
  | .halfEscape done high => if c = 'u' then some (.code done (some high) 0 0, []) else none

def finish? : Lexeme → Option (List Token)
  | .between => some []
  | .word done => (Token.ofWord? done.reverse).map fun t => [t]
  | _ => none

end Lexeme

namespace Token

def scanner : Text.Scanner Lexeme Token := ⟨.between, Lexeme.step?, Lexeme.finish?⟩

def ofText? (text : String) : Option (List Token) := scanner.tokens? text

def first? (text : String) : Option Token := scanner.first? text

end Token

-- ---------------------------------------------------------------------------
-- Values
-- ---------------------------------------------------------------------------

/-- Why a text is not the value asked for: it is not JSON, or JSON of another
shape. -/
inductive ReadError
  | malformed
  | shape
  deriving DecidableEq, Repr

/-- An open container. What it holds stands in reverse. -/
inductive Frame
  | items (done : List Json)
  | members (done : List (String × Json)) (name : String)

/-- What may stand next. A value is awaited also before the first item of an
array, where the array may close instead. -/
inductive Awaited
  | value
  | firstItem
  | name (done : List (String × Json))
  | colon (done : List (String × Json)) (name : String)
  | separator
  | nothing (result : Json)

structure Reader where
  frames : List Frame
  awaited : Awaited

namespace Reader

def depthLimit : Nat := 127

def start : Reader := ⟨[], .value⟩

def deliver (value : Json) : List Frame → Reader
  | [] => ⟨[], .nothing value⟩
  | .items done :: outer => ⟨.items (value :: done) :: outer, .separator⟩
  | .members done name :: outer => ⟨.members ((name, value) :: done) name :: outer, .separator⟩

def value? (frames : List Frame) : Token → Option Reader
  | .scalar value => some (deliver value frames)
  | .openBracket =>
    if frames.length < depthLimit then some ⟨.items [] :: frames, .firstItem⟩ else none
  | .openBrace =>
    if frames.length < depthLimit then some ⟨frames, .name []⟩ else none
  | _ => none

def step? (reader : Reader) (token : Token) : Option Reader :=
  match reader.awaited, token with
  | .value, token => value? reader.frames token
  | .firstItem, .closeBracket => match reader.frames with
    | .items _ :: outer => some (deliver (.array []) outer)
    | _ => none
  | .firstItem, token => value? reader.frames token
  | .name [], .closeBrace => some (deliver (.object []) reader.frames)
  | .name done, .scalar (.string name) => some ⟨reader.frames, .colon done name⟩
  | .colon done name, .colon => some ⟨.members done name :: reader.frames, .value⟩
  | .separator, .comma => match reader.frames with
    | .items done :: outer => some ⟨.items done :: outer, .value⟩
    | .members done _ :: outer => some ⟨outer, .name done⟩
    | [] => none
  | .separator, .closeBracket => match reader.frames with
    | .items done :: outer => some (deliver (.array done.reverse) outer)
    | _ => none
  | .separator, .closeBrace => match reader.frames with
    | .members done _ :: outer => some (deliver (ofMembers done.reverse) outer)
    | _ => none
  | _, _ => none

def result? (reader : Reader) : Option Json :=
  match reader.awaited with
  | .nothing value => some value
  | _ => none

end Reader

def ofTokens? (tokens : List Token) : Option Json :=
  (tokens.foldlM Reader.step? Reader.start).bind Reader.result?

def parse? (text : String) : Option Json := (Token.ofText? text).bind ofTokens?

/-- The members of an object. A text whose first value is no object has the
wrong shape, however it goes on after that value. -/
def parseMembers (text : String) : Except ReadError (List (String × Json)) :=
  match Token.first? text with
  | some .openBracket | some (.scalar _) => .error .shape
  | _ => match parse? text with
    | some (.object members) => .ok members
    | some _ => .error .shape
    | none => .error .malformed

end Dataspace.Json
