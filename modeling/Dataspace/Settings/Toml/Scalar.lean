import Dataspace.Decimal
import Dataspace.Json.Reader
import Dataspace.Settings.Value

/-!
# TOML scalars

Texts, and the values that stand as words: switches, whole numbers of 64 bits
with a sign, reals, and moments. A real too great for binary64 is no value
unless it is negative.

Moments are dates, times of day, and both together with or without an offset from
world time. A moment is shown in one form, whichever of the allowed ones it was
written in, and counts as text as a setting. A moment in quotes is held to wider
bounds than one that stands by itself.
-/

namespace Dataspace.Toml

-- ---------------------------------------------------------------------------
-- Moments
-- ---------------------------------------------------------------------------

structure Date where
  year : Nat
  month : Nat
  day : Nat
  deriving DecidableEq, Repr

/-- `fraction` holds the digits of the second's fraction, no zero at the end. -/
structure DayTime where
  hour : Nat
  minute : Nat
  second : Nat
  fraction : List Char
  deriving DecidableEq, Repr

/-- World time itself, or a difference of minutes from it. -/
inductive Offset
  | world
  | difference (negative : Bool) (minutes : Nat)
  deriving DecidableEq, Repr

inductive Moment
  | date (day : Date)
  | dayTime (time : DayTime)
  | both (day : Date) (time : DayTime) (offset : Option Offset)
  deriving DecidableEq, Repr

inductive Spelling
  | plain | quoted
  deriving DecidableEq, Repr

namespace Spelling

def greatestHour : Spelling → Nat
  | .plain => 23
  | .quoted => 24

/-- The greatest hours and minutes of an offset; in quotes any two digits. -/
def offsetBounds : Spelling → Nat × Nat
  | .plain => (23, 59)
  | .quoted => (99, 99)

end Spelling

def bounded? (digits : List Char) (greatest : Nat) : Option Nat :=
  let n := Numeral.value digits
  if digits.all Char.isDigit && n ≤ greatest then some n else none

def padded (width n : Nat) : String :=
  let digits := Nat.toDigits 10 n
  String.ofList (List.replicate (width - digits.length) '0' ++ digits)

namespace Date

def isLeap (year : Nat) : Bool := year % 4 = 0 && (year % 100 ≠ 0 || year % 400 = 0)

def daysIn (year month : Nat) : Nat :=
  if month = 2 then if isLeap year then 29 else 28
  else if month ∈ [4, 6, 9, 11] then 30
  else 31

def read? : List Char → Option (Date × List Char)
  | a :: b :: c :: d :: '-' :: e :: f :: '-' :: g :: h :: rest => do
    let year ← bounded? [a, b, c, d] 9999
    let month ← bounded? [e, f] 12
    let day ← bounded? [g, h] (daysIn year month)
    if month = 0 || day = 0 then none else some (⟨year, month, day⟩, rest)
  | _ => none

def text (date : Date) : String :=
  padded 4 date.year ++ "-" ++ padded 2 date.month ++ "-" ++ padded 2 date.day

end Date

namespace DayTime

/-- Digits beyond the ninth are dropped. -/
def fractionOf (digits : List Char) : List Char :=
  ((digits.take 9).reverse.dropWhile fun c => c = '0').reverse

def withFraction? (hour minute second : Nat) : List Char → Option (DayTime × List Char)
  | '.' :: rest =>
    let digits := rest.takeWhile Char.isDigit
    if digits = [] then none
    else some (⟨hour, minute, second, fractionOf digits⟩, rest.dropWhile Char.isDigit)
  | rest => some (⟨hour, minute, second, []⟩, rest)

/-- A time of day at the beginning of a text, and what follows it. A minute may
have a leap second. -/
def read? (spelling : Spelling) : List Char → Option (DayTime × List Char)
  | a :: b :: ':' :: c :: d :: ':' :: e :: f :: rest => do
    let hour ← bounded? [a, b] spelling.greatestHour
    let minute ← bounded? [c, d] 59
    let second ← bounded? [e, f] 60
    withFraction? hour minute second rest
  | _ => none

def text (time : DayTime) : String :=
  padded 2 time.hour ++ ":" ++ padded 2 time.minute ++ ":" ++ padded 2 time.second ++
    if time.fraction = [] then "" else "." ++ String.ofList time.fraction

end DayTime

namespace Offset

def greatest : Nat := 1440

/-- The whole rest of a text as an offset; an empty rest is none. -/
def read? (spelling : Spelling) : List Char → Option (Option Offset)
  | [] => some none
  | ['Z'] | ['z'] => some (some .world)
  | [sign, a, b, ':', c, d] => do
    let hours ← bounded? [a, b] spelling.offsetBounds.1
    let minutes ← bounded? [c, d] spelling.offsetBounds.2
    let total := 60 * hours + minutes
    if (sign = '+' || sign = '-') && total ≤ greatest then
      some (some (.difference (sign = '-') total))
    else none
  | _ => none

/-- No difference counts as positive. -/
def text : Offset → String
  | .world => "Z"
  | .difference negative minutes =>
    (if negative && minutes ≠ 0 then "-" else "+") ++
      padded 2 (minutes / 60) ++ ":" ++ padded 2 (minutes % 60)

end Offset

namespace Moment

def separatesTime (c : Char) : Bool := c = 'T' || c = 't' || c = ' '

/-- Only a time with a date has an offset. -/
def read? (spelling : Spelling) (text : List Char) : Option Moment :=
  match Date.read? text with
  | some (day, []) => some (.date day)
  | some (day, c :: rest) => do
    if separatesTime c then
      let (time, rest) ← DayTime.read? spelling rest
      return .both day time (← Offset.read? spelling rest)
    else none
  | none => match DayTime.read? spelling text with
    | some (time, []) => some (.dayTime time)
    | _ => none

def text : Moment → String
  | .date day => day.text
  | .dayTime time => time.text
  | .both day time offset => day.text ++ "T" ++ time.text ++ (offset.map Offset.text).getD ""

end Moment

-- ---------------------------------------------------------------------------
-- Scalars
-- ---------------------------------------------------------------------------

inductive Scalar
  | text (value : String)
  | moment (value : Moment)
  | bool (value : Bool)
  | integer (value : Int)
  | real (value : Extended)

namespace Scalar

def setting : Scalar → SettingValue
  | .text value => .text value
  | .moment value => .text value.text
  | .bool value => .bool value
  | .integer value => .integer value
  | .real value => .real value

/-- Underscores stand only between digits. -/
def withoutUnderscores? (isDigit : Char → Bool) : List Char → Option (List Char)
  | [] => some []
  | [c] => if c = '_' then none else some [c]
  | a :: b :: rest =>
    if a = '_' then none
    else if b = '_' then match rest with
      | c :: _ =>
        if isDigit a && isDigit c then (withoutUnderscores? isDigit rest).map (a :: ·) else none
      | [] => none
    else (withoutUnderscores? isDigit (b :: rest)).map (a :: ·)

def hasLeadingZero (n : Numeral) : Bool := n.whole.head? == some '0' && n.whole.length ≠ 1

def real? (value : Extended) : Option Scalar :=
  if value = .infinite false then none else some (.real value)

def ofNumeral? (n : Numeral) : Option Scalar :=
  if n.whole = [] || hasLeadingZero n || n.fraction = some [] then none
  else if n.isWhole then
    let magnitude := Numeral.value n.whole
    let value : Int := if n.isNegative then -magnitude else magnitude
    if SettingValue.isInteger value then some (.integer value) else none
  else real? (Extended.ofNumeral n)

def ofDigits? (base : Nat) (digits : List Char) : Option Scalar := do
  let digits ← withoutUnderscores? (fun c => (Json.hexValue? c).isSome) digits
  let values ← digits.mapM Json.hexValue?
  let value := values.foldl (fun n d => base * n + d) 0
  if values ≠ [] && values.all (· < base) && SettingValue.isInteger value then
    some (.integer value)
  else none

/-- `inf` and `nan`, with or without a sign, are the reals without digits. -/
def ofDecimalWord? (word : List Char) : Option Scalar :=
  let (sign, name) := Numeral.takeSign word
  if name = ['i', 'n', 'f'] || name = ['n', 'a', 'n'] then
    (Extended.ofName? (sign == some .minus) (String.ofList name)).map .real
  else ((withoutUnderscores? Char.isDigit word).bind Numeral.read?).bind ofNumeral?

def ofWord? : List Char → Option Scalar
  | ['t', 'r', 'u', 'e'] => some (.bool true)
  | ['f', 'a', 'l', 's', 'e'] => some (.bool false)
  | '0' :: 'x' :: digits => ofDigits? 16 digits
  | '0' :: 'o' :: digits => ofDigits? 8 digits
  | '0' :: 'b' :: digits => ofDigits? 2 digits
  | word => match Moment.read? .plain word with
    | some read => some (.moment read)
    | none => ofDecimalWord? word

end Scalar

end Dataspace.Toml
