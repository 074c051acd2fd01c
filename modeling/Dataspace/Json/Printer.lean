import Dataspace.Decimal
import Dataspace.Json.Basic

/-!
# Compact JSON

No blanks, members in order, and in strings only the quote, the backslash and
controls below the space are escaped. Reals have the fewest digits that read
back, positional while the leading digit's exponent lies from `-5` to `15`.
Halfway between two decimals they take the even one.
-/

namespace Dataspace.Json

def hexDigit (n : Nat) : Char := (Nat.toDigits 16 n).headD '0'

def escapeChar (c : Char) : List Char :=
  if c = '"' then ['\\', '"']
  else if c = '\\' then ['\\', '\\']
  else if c = '\x08' then ['\\', 'b']
  else if c = '\x0c' then ['\\', 'f']
  else if c = '\n' then ['\\', 'n']
  else if c = '\r' then ['\\', 'r']
  else if c = '\t' then ['\\', 't']
  else if c.toNat < 0x20 then
    ['\\', 'u', '0', '0', hexDigit (c.toNat / 16), hexDigit (c.toNat % 16)]
  else [c]

def quote (text : String) : String :=
  String.ofList ('"' :: text.toList.flatMap escapeChar ++ ['"'])

def Number.compact : Number → String
  | .integer value => (if value < 0 then "-" else "") ++ Nat.repr value.natAbs
  | .real value =>
    let decimal := Decimal.shortest .toEven value
    (if value.negative then "-" else "") ++
      if value.isZero || (-5 ≤ decimal.leading && decimal.leading ≤ 15) then
        decimal.positional ".0"
      else decimal.scientific

mutual

def compact : Json → String
  | .null => "null"
  | .bool true => "true"
  | .bool false => "false"
  | .number value => value.compact
  | .string value => quote value
  | .array items => "[" ++ compactItems items ++ "]"
  | .object members => "\x7b" ++ compactMembers members ++ "\x7d"

def compactItems : List Json → String
  | [] => ""
  | [item] => item.compact
  | item :: rest => item.compact ++ "," ++ compactItems rest

def compactMembers : List (String × Json) → String
  | [] => ""
  | [(name, value)] => quote name ++ ":" ++ value.compact
  | (name, value) :: rest => quote name ++ ":" ++ value.compact ++ "," ++ compactMembers rest

end

end Dataspace.Json
