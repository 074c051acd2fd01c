import Dataspace.Text.Basic

/-!
# Binary64 values and their decimals

A finite value is a sign, a whole mantissa and a power of two, held exactly. Every
operation computes the exact ratio of two naturals and rounds it once, to the
nearest value, an exact half going to the even mantissa. Written out, a value has
the fewest decimal digits that read back, and of those the digits nearest to it.

With infinities, reading rounds the whole decimal once, and what lies beyond the
greatest value is infinite; writing is always positional, and without a point if the
value is whole.
-/

namespace Dataspace

-- ---------------------------------------------------------------------------
-- Finite values
-- ---------------------------------------------------------------------------

/-- `mantissa * 2 ^ exponent`, negated if `negative`. Values made by `ofRatio?`
have mantissas below `2 ^ 53` and exponents from `-1074` to `971`. -/
structure Binary64 where
  negative : Bool
  mantissa : Nat
  exponent : Int
  deriving DecidableEq, Repr

namespace Binary64

def least : Int := -1074
def greatest : Int := 971

def zero (negative : Bool) : Binary64 := ⟨negative, 0, least⟩

def isZero (x : Binary64) : Bool := x.mantissa == 0

def ratio (x : Binary64) : Nat × Nat :=
  (x.mantissa * Nat.pow 2 x.exponent.toNat, Nat.pow 2 (-x.exponent).toNat)

/-- The whole number nearest to a ratio, the even one of two. -/
def roundRatio (num den : Nat) : Nat :=
  let whole := num / den
  let rest := 2 * (num % den)
  if den < rest || (rest == den && whole % 2 == 1) then whole + 1 else whole

/-- The exponent of the greatest power of two at most the ratio. -/
def floorLog (num den : Nat) : Int :=
  let guess := (Nat.log2 num : Int) - Nat.log2 den
  if num * Nat.pow 2 (-guess).toNat < den * Nat.pow 2 guess.toNat then guess - 1 else guess

/-- The value nearest to a ratio; none if it lies beyond the greatest value. -/
def ofRatio? (negative : Bool) (num den : Nat) : Option Binary64 :=
  if num = 0 then some (zero negative)
  else
    let exponent := max (floorLog num den - 52) least
    let mantissa := roundRatio (num * Nat.pow 2 (-exponent).toNat) (den * Nat.pow 2 exponent.toNat)
    -- Rounding up may reach the next power of two.
    let (mantissa, exponent) :=
      if mantissa = Nat.pow 2 53 then (Nat.pow 2 52, exponent + 1) else (mantissa, exponent)
    if greatest < exponent then none else some ⟨negative, mantissa, exponent⟩

def ofNat? (negative : Bool) (n : Nat) : Option Binary64 := ofRatio? negative n 1

def neg (x : Binary64) : Binary64 := { x with negative := !x.negative }

def mul? (x y : Binary64) : Option Binary64 :=
  ofRatio? (x.negative != y.negative) (x.ratio.1 * y.ratio.1) (x.ratio.2 * y.ratio.2)

def div? (x y : Binary64) : Option Binary64 :=
  ofRatio? (x.negative != y.negative) (x.ratio.1 * y.ratio.2) (x.ratio.2 * y.ratio.1)

def ofDecimal? (negative : Bool) (digits : Nat) (exponent : Int) : Option Binary64 :=
  ofRatio? negative (digits * Nat.pow 10 exponent.toNat) (Nat.pow 10 (-exponent).toNat)

end Binary64

-- ---------------------------------------------------------------------------
-- Shortest decimals
-- ---------------------------------------------------------------------------

structure Decimal where
  digits : Nat
  exponent : Int
  deriving DecidableEq, Repr

/-- Which of two neighbouring decimals stands for a value halfway between. -/
inductive Halfway
  | toEven | up
  deriving DecidableEq, Repr

namespace Decimal

def digitCount (n : Nat) : Nat := (Nat.toDigits 10 n).length

def magnitude (num den : Nat) : Int :=
  let guess := (digitCount num : Int) - digitCount den
  if num * Nat.pow 10 (-guess).toNat < den * Nat.pow 10 guess.toNat then guess else guess + 1

/-- The decimal with `count` digits before the cut that is nearest to the
value, if one reads back as it. -/
def withDigits? (halfway : Halfway) (x : Binary64) (count : Nat) : Option Decimal :=
  -- Counted in quarters of the last place, halfway points are whole. The one
  -- below a power of two is only half as far away.
  let num := Nat.pow 2 (x.exponent - 2).toNat
  let den := Nat.pow 2 (-(x.exponent - 2)).toNat
  let value := 4 * x.mantissa
  let low := if x.mantissa = Nat.pow 2 52 && Binary64.least < x.exponent then value - 1 else value - 2
  let high := value + 2
  let exponent := magnitude (value * num) den - count
  let unit := Nat.pow 10 exponent.toNat * den
  let part := Nat.pow 10 (-exponent).toNat * num
  let even := x.mantissa % 2 == 0
  let inside (d : Nat) : Bool :=
    if even then low * part ≤ d * unit && d * unit ≤ high * part
    else low * part < d * unit && d * unit < high * part
  let below := value * part / unit
  let lower : Decimal := ⟨below, exponent⟩
  let upper : Decimal :=
    if below + 1 = Nat.pow 10 count then ⟨1, exponent + count⟩ else ⟨below + 1, exponent⟩
  match inside below, inside (below + 1) with
  | false, false => none
  | true, false => some lower
  | false, true => some upper
  | true, true =>
    let twice := 2 * value * part
    let middle := (2 * below + 1) * unit
    let takesLower := halfway == .toEven && below % 2 == 0
    if twice < middle || (twice == middle && takesLower) then some lower else some upper

/-- Seventeen digits always suffice. -/
def shortest (halfway : Halfway) (x : Binary64) : Decimal :=
  if x.isZero then ⟨0, 0⟩
  else ((List.range 17).findSome? fun i => withDigits? halfway x (i + 1)).getD ⟨0, 0⟩

/-- The decimal point stands after `digits` and `exponent` zeros, or among the
digits, or after `0.` and leading zeros; `whole` follows a number without a
fraction. -/
def positional (d : Decimal) (whole : String) : String :=
  let digits := Nat.toDigits 10 d.digits
  if 0 ≤ d.exponent then
    String.ofList (digits ++ List.replicate d.exponent.toNat '0') ++ whole
  else
    let fraction := (-d.exponent).toNat
    if fraction < digits.length then
      String.ofList (digits.take (digits.length - fraction)) ++ "." ++
        String.ofList (digits.drop (digits.length - fraction))
    else "0." ++ String.ofList (List.replicate (fraction - digits.length) '0' ++ digits)

/-- One digit, the rest of the digits after a point, and an exponent that
always has a sign. -/
def scientific (d : Decimal) : String :=
  let digits := Nat.toDigits 10 d.digits
  let exponent := d.exponent + digits.length - 1
  let mantissa := match digits with
    | first :: second :: rest => first :: '.' :: second :: rest
    | short => short
  String.ofList mantissa ++ (if exponent < 0 then "e-" else "e+") ++ Nat.repr exponent.natAbs

def leading (d : Decimal) : Int := d.exponent + digitCount d.digits - 1

end Decimal

-- ---------------------------------------------------------------------------
-- Numerals
-- ---------------------------------------------------------------------------

inductive Sign
  | plus | minus
  deriving DecidableEq, Repr

/-- An exponent is a sign, if one is written, and at least one digit. -/
structure Numeral where
  sign : Option Sign
  whole : List Char
  fraction : Option (List Char)
  exponent : Option (Option Sign × List Char)
  deriving DecidableEq, Repr

namespace Numeral

def takeSign : List Char → Option Sign × List Char
  | '+' :: rest => (some .plus, rest)
  | '-' :: rest => (some .minus, rest)
  | text => (none, text)

def digitValue (c : Char) : Nat := c.toNat - '0'.toNat

def value (digits : List Char) : Nat :=
  digits.foldl (fun n c => 10 * n + digitValue c) 0

def readExponent? : List Char → Option (Option (Option Sign × List Char))
  | [] => some none
  | c :: rest =>
    if c = 'e' || c = 'E' then
      let (sign, digits) := takeSign rest
      if digits ≠ [] && digits.all Char.isDigit then some (some (sign, digits)) else none
    else none

def read? (text : List Char) : Option Numeral :=
  let (sign, text) := takeSign text
  let whole := text.takeWhile Char.isDigit
  match text.dropWhile Char.isDigit with
  | '.' :: rest => do
    let exponent ← readExponent? (rest.dropWhile Char.isDigit)
    return ⟨sign, whole, some (rest.takeWhile Char.isDigit), exponent⟩
  | rest => do
    let exponent ← readExponent? rest
    return ⟨sign, whole, none, exponent⟩

def isNegative (n : Numeral) : Bool := n.sign == some .minus

def isWhole (n : Numeral) : Bool := n.fraction.isNone && n.exponent.isNone

def hasDigits (n : Numeral) : Bool := n.whole ≠ [] || n.fraction.getD [] ≠ []

def power (n : Numeral) : Int :=
  match n.exponent with
  | none => 0
  | some (some .minus, digits) => -(value digits : Int)
  | some (_, digits) => value digits

end Numeral

-- ---------------------------------------------------------------------------
-- Values with infinities
-- ---------------------------------------------------------------------------

inductive Extended
  | finite (value : Binary64)
  | infinite (negative : Bool)
  | notANumber
  deriving DecidableEq, Repr

namespace Extended

def isZero : Extended → Bool
  | .finite value => value.isZero
  | _ => false

def signText (negative : Bool) : String := if negative then "-" else ""

def text : Extended → String
  | .finite value => signText value.negative ++ (Decimal.shortest .up value).positional ""
  | .infinite negative => signText negative ++ "inf"
  | .notANumber => "NaN"

/-- Decimals far outside the range of binary64 are settled by their size. -/
def ofDecimal (negative : Bool) (digits : Nat) (exponent : Int) : Extended :=
  let size := exponent + Decimal.digitCount digits
  if digits = 0 || size < -330 then .finite (Binary64.zero negative)
  else if 330 < size then .infinite negative
  else match Binary64.ofDecimal? negative digits exponent with
    | some value => .finite value
    | none => .infinite negative

def ofNumeral (n : Numeral) : Extended :=
  let fraction := n.fraction.getD []
  ofDecimal n.isNegative (Numeral.value (n.whole ++ fraction)) (n.power - fraction.length)

def ofName? (negative : Bool) (name : String) : Option Extended :=
  if name = "inf" || name = "infinity" then some (.infinite negative)
  else if name = "nan" then some .notANumber
  else none

/-- Digits may be missing before or after the point, but not on both sides.
Names are read in any case. -/
def read? (text : List Char) : Option Extended :=
  match Numeral.read? text with
  | some n => if n.hasDigits then some (ofNumeral n) else none
  | none =>
    let (sign, name) := Numeral.takeSign text
    ofName? (sign == some .minus) (String.ofList (name.map Char.toLower))

end Extended

end Dataspace
