import DiceChat.Numeral

/-! Binary floating-point numbers of 64 bits, held exactly, read from decimals and written with the fewest digits. -/

namespace DiceChat

/-- A number of 64 bits: a sign with a significand times a power of two, an infinity, or no number. -/
inductive Binary64 where
  /-- The significand times two to the exponent. -/
  | finite (negative : Bool) (significand : Nat) (exponent : Int)
  /-- Beyond every finite number. -/
  | infinite (negative : Bool)
  /-- Not a number. -/
  | nan
deriving DecidableEq

namespace Binary64

/-- The exponent of the smallest positive number. -/
def leastExponent : Int := -1074

/-- The exponent of the numbers next below infinity. -/
def greatestExponent : Int := 971

/-- The first significand that has all 53 bits. -/
def fullSignificand : Nat := Nat.pow 2 52

/-- The quotient rounded to the nearest natural number, a tie to the even one. -/
def roundDiv (num den : Nat) : Nat :=
  -- The remainder is compared with one half of the divisor.
  let quotient := num / den
  let twice := 2 * (num % den)
  if twice < den then quotient
  else if den < twice then quotient + 1
  else quotient + quotient % 2

/-- The whole part of the binary logarithm of a positive quotient. -/
def log2Div (num den : Nat) : Int :=
  -- The difference of the two logarithms is right or one too large.
  let guess : Int := (num.log2 : Int) - (den.log2 : Int)
  let reached := if 0 ≤ guess then den * Nat.pow 2 guess.toNat ≤ num
    else den ≤ num * Nat.pow 2 (-guess).toNat
  if reached then guess else guess - 1

/-- The number nearest to a quotient, with the given sign. -/
def ofQuotient (negative : Bool) (num den : Nat) : Binary64 :=
  -- The exponent leaves 53 bits of significand, or fewer at the lower end of the range.
  if num = 0 then .finite negative 0 leastExponent
  else
    let exponent := max leastExponent (log2Div num den - 52)
    let rounded := if 0 ≤ exponent then roundDiv num (den * Nat.pow 2 exponent.toNat)
      else roundDiv (num * Nat.pow 2 (-exponent).toNat) den
    let (significand, exponent) :=
      if rounded = 2 * fullSignificand then (fullSignificand, exponent + 1)
      else (rounded, exponent)
    if greatestExponent < exponent then .infinite negative
    else .finite negative significand exponent

/-- The number nearest to digits times a power of ten, with the given sign. -/
def ofDecimal (negative : Bool) (digits : Nat) (scale : Int) : Binary64 :=
  -- Far outside the range the powers of ten are not computed.
  let places : Int := (writeNat digits).length + scale
  if digits = 0 || places < -400 then .finite negative 0 leastExponent
  else if 400 < places then .infinite negative
  else if 0 ≤ scale then ofQuotient negative (digits * Nat.pow 10 scale.toNat) 1
  else ofQuotient negative digits (Nat.pow 10 (-scale).toNat)

/-- The magnitude as a quotient of natural numbers. -/
def quotient (significand : Nat) (exponent : Int) : Nat × Nat :=
  if 0 ≤ exponent then (significand * Nat.pow 2 exponent.toNat, 1)
  else (significand, Nat.pow 2 (-exponent).toNat)

/-- Whether a number equals zero. -/
def isZero : Binary64 → Bool
  | .finite _ significand _ => significand == 0
  | _ => false

/-- Whether an integer lies below a number. -/
def above (x : Binary64) (n : Int) : Bool :=
  -- Nothing compares with what is not a number.
  match x with
  | .nan => false
  | .infinite negative => !negative
  | .finite negative significand exponent =>
    let (num, den) := quotient significand exponent
    let signed : Int := if negative then -(num : Int) else num
    n * den < signed

/-- Whether an integer lies above a number. -/
def below (x : Binary64) (n : Int) : Bool :=
  -- Nothing compares with what is not a number.
  match x with
  | .nan => false
  | .infinite negative => negative
  | .finite negative significand exponent =>
    let (num, den) := quotient significand exponent
    let signed : Int := if negative then -(num : Int) else num
    signed < n * den

/-- The whole part of a finite number, cut towards zero. -/
def whole? : Binary64 → Option Int
  -- Infinities and what is not a number have no whole part.
  | .finite negative significand exponent =>
    let (num, den) := quotient significand exponent
    let magnitude : Int := (num / den : Nat)
    some (if negative then -magnitude else magnitude)
  | _ => none

/-- How many decimal places stand before the point; none or fewer below one tenth. -/
def pointPlace (num den : Nat) : Int :=
  -- Below one, the zeros behind the point are counted by multiplying with ten.
  if den ≤ num then (writeNat (num / den)).length
  else
    match (List.range 400).find? fun zeros => den ≤ num * Nat.pow 10 zeros with
    | some zeros => 1 - (zeros : Int)
    | none => 0

/-- The numbers a decimal may stand for: quotients over one denominator, with or without the ends. -/
structure Interval where
  /-- The lower end. -/
  low : Nat
  /-- The number itself. -/
  value : Nat
  /-- The upper end. -/
  high : Nat
  /-- The common denominator. -/
  den : Nat
  /-- Whether the ends belong to the interval. -/
  closed : Bool

/-- The decimals that read back as a positive number. -/
def interval (significand : Nat) (exponent : Int) : Interval :=
  -- Neighbours are one unit apart, half a unit below a full significand; an even one takes ties.
  let unit := Nat.pow 2 exponent.toNat
  let lower := if significand = fullSignificand ∧ leastExponent < exponent then unit else 2 * unit
  { low := 4 * significand * unit - lower
    value := 4 * significand * unit
    high := 4 * significand * unit + 2 * unit
    den := 4 * Nat.pow 2 (-exponent).toNat
    closed := significand % 2 = 0 }

/-- A decimal of the grid with the given scale, over the denominator of the interval. -/
def gridPoint (within : Interval) (scale : Int) (digits : Nat) : Nat × Nat × Nat × Nat :=
  -- Negative scales multiply the interval, others the decimal.
  if 0 ≤ scale then
    (digits * Nat.pow 10 scale.toNat * within.den, within.low, within.value, within.high)
  else
    let factor := Nat.pow 10 (-scale).toNat
    (digits * within.den, within.low * factor, within.value * factor, within.high * factor)

/-- Whether a decimal of the grid lies in the interval. -/
def hits (within : Interval) (scale : Int) (digits : Nat) : Bool :=
  -- The ends count only in a closed interval.
  let (point, low, _, high) := gridPoint within scale digits
  if within.closed then low ≤ point && point ≤ high else low < point && point < high

/-- The distance of a decimal of the grid from the number itself. -/
def distance (within : Interval) (scale : Int) (digits : Nat) : Nat :=
  let (point, _, value, _) := gridPoint within scale digits
  (point - value) + (value - point)

/-- The decimal on one grid that reads back, if either neighbour of the number does. -/
def nearest? (within : Interval) (scale : Int) : Option Nat :=
  -- Of two hits the nearer counts, and of two equally near ones the even.
  let under := if 0 ≤ scale then within.value / (within.den * Nat.pow 10 scale.toNat)
    else within.value * Nat.pow 10 (-scale).toNat / within.den
  match hits within scale under, hits within scale (under + 1) with
  | true, false => some under
  | false, true => some (under + 1)
  | false, false => none
  | true, true =>
    let left := distance within scale under
    let right := distance within scale (under + 1)
    if left < right || (left = right && under % 2 = 0) then some under else some (under + 1)

/-- Digits without the zeros at their end, and the scale that makes up for them. -/
def dropZeros : Nat → Nat → Int → Nat × Int
  -- Seventeen digits have at most sixteen zeros at their end.
  | 0, digits, scale => (digits, scale)
  | fuel + 1, digits, scale =>
    if digits ≠ 0 ∧ digits % 10 = 0 then dropZeros fuel (digits / 10) (scale + 1)
    else (digits, scale)

/-- The fewest digits, and their scale, that read back as a positive number. -/
def shortest (significand : Nat) (exponent : Int) : Nat × Int :=
  -- Seventeen digits always read back, so a grid with at most so many is found.
  let within := interval significand exponent
  let place := pointPlace within.value within.den
  match (List.range 17).findSome? fun (count : Nat) =>
      (nearest? within (place - (count + 1))).map fun digits => (digits, place - (count + 1)) with
  | some (digits, scale) => dropZeros 17 digits scale
  | none => (significand, exponent)

/-- Digits with a point after so many places, and at least one digit on either side. -/
def writePositional (digits : Text) (place : Int) : Text :=
  -- Zeros fill the space between the digits and the point.
  if place ≤ 0 then "0.".toList ++ List.replicate (-place).toNat '0' ++ digits
  else
    let whole := digits.take place.toNat ++ List.replicate (place.toNat - digits.length) '0'
    let part := digits.drop place.toNat
    whole ++ ['.'] ++ (if part.isEmpty then ['0'] else part)

/-- Digits with a point after the first one and a signed exponent of at least two digits. -/
def writeScientific (digits : Text) (place : Int) : Text :=
  -- A single digit has no point.
  let exponent := place - 1
  let magnitude := writeNat exponent.natAbs
  let mantissa := match digits with
    | first :: second :: rest => first :: '.' :: second :: rest
    | short => short
  mantissa ++ ['e', if exponent < 0 then '-' else '+']
    ++ List.replicate (2 - magnitude.length) '0' ++ magnitude

/-- A magnitude, positional from one ten-thousandth up to ten to the sixteenth. -/
def writeMagnitude (significand : Nat) (exponent : Int) : Text :=
  -- Outside that range the exponent is written.
  if significand = 0 then "0.0".toList
  else
    let (digits, scale) := shortest significand exponent
    let text := writeNat digits
    let place := (text.length : Int) + scale
    if -4 < place ∧ place ≤ 16 then writePositional text place else writeScientific text place

/-- The text of a number, given the words for infinity and for what is not a number. -/
def write (infinity notNumber : Text) : Binary64 → Text
  -- The sign of zero is kept.
  | .nan => notNumber
  | .infinite negative => (if negative then ['-'] else []) ++ infinity
  | .finite negative significand exponent =>
    (if negative then ['-'] else []) ++ writeMagnitude significand exponent

end Binary64

end DiceChat
