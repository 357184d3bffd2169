import StorageConfig.Decimal.Binary64

/-! The shortest decimal that reads back as a given binary64 number, nearest to it among those. -/

namespace StorageConfig

/-- The size `digits * 10 ^ exponent`. -/
structure Decimal where
  digits : Nat
  exponent : Int
  deriving DecidableEq, Repr

/-- The sizes that round to one binary64 number, over a common denominator and in units of `10 ^ exponent`. -/
structure RoundingRange where
  low : Nat
  value : Nat
  high : Nat
  denominator : Nat
  /-- Whether the ends round to the number too. -/
  endsIncluded : Bool

namespace RoundingRange

/-- The range of a number with the given decimal exponent as its unit. -/
def ofBinary64 (x : Binary64) (exponent : Int) : RoundingRange :=
  -- A quarter of the gap is the unit in which every bound is an integer.
  let quarter := x.scale - 2
  let up := Nat.pow 2 quarter.toNat * Nat.pow 10 (-exponent).toNat
  let m := 4 * x.significand
  { low := (m - if x.isLowerGapHalved then 1 else 2) * up
    value := m * up
    high := (m + 2) * up
    denominator := Nat.pow 2 (-quarter).toNat * Nat.pow 10 exponent.toNat
    endsIncluded := x.significand % 2 == 0 }

/-- Whether an integer count of units rounds to the number. -/
def holds (range : RoundingRange) (count : Nat) : Bool :=
  let size := count * range.denominator
  if range.endsIncluded then range.low ≤ size && size ≤ range.high
  else range.low < size && size < range.high

/-- The nearest count of units that rounds to the number, if one does; a tie goes to the even count. -/
def nearest? (range : RoundingRange) : Option Nat :=
  let below := range.value / range.denominator
  let toBelow := range.value - below * range.denominator
  let toAbove := (below + 1) * range.denominator - range.value
  match range.holds below, range.holds (below + 1) with
  | true, true =>
    if toBelow < toAbove || (toBelow == toAbove && below % 2 == 0) then some below else some (below + 1)
  | true, false => some below
  | false, true => some (below + 1)
  | false, false => none

end RoundingRange

/-- How often a fraction below one is multiplied by ten before it reaches one. -/
def stepsToOne (numerator denominator : Nat) : Nat → Nat
  | 0 => 0
  | fuel + 1 =>
    if denominator ≤ numerator then 0 else stepsToOne (numerator * 10) denominator fuel + 1

/-- The exponent of the leading decimal digit of a number that is not zero. -/
def Binary64.decimalMagnitude (x : Binary64) : Int :=
  let range := RoundingRange.ofBinary64 x 0
  if range.denominator ≤ range.value then
    ((Nat.toDigits 10 (range.value / range.denominator)).length : Int) - 1
  else
    -- The smallest number is above 10 ^ -324.
    -(stepsToOne range.value range.denominator 400 : Nat)

/-- A decimal without trailing zeros among its digits. -/
def Decimal.strip (d : Decimal) : Nat → Decimal
  | 0 => d
  | fuel + 1 =>
    if d.digits ≠ 0 ∧ d.digits % 10 = 0 then Decimal.strip ⟨d.digits / 10, d.exponent + 1⟩ fuel else d

/-- The first of the grids with ever more digits that has a point in the rounding range. -/
def firstGrid (x : Binary64) (magnitude : Int) : Nat → Nat → Decimal
  | _, 0 => ⟨x.significand, x.scale⟩
  | places, fuel + 1 =>
    let exponent := magnitude - (places : Int)
    match (RoundingRange.ofBinary64 x exponent).nearest? with
    | some count => Decimal.strip ⟨count, exponent⟩ 20
    | none => firstGrid x magnitude (places + 1) fuel

/-- The shortest decimal of the size of a finite number; seventeen digits always suffice. -/
def Binary64.shortest (x : Binary64) : Decimal :=
  if x.isZero then ⟨0, 0⟩ else firstGrid x x.decimalMagnitude 0 18

/-- The digits of a decimal, most significant first. -/
def Decimal.digitChars (d : Decimal) : List Char := Nat.toDigits 10 d.digits

/-- The exponent of the leading digit. -/
def Decimal.leadingExponent (d : Decimal) : Int := (d.digitChars.length : Int) - 1 + d.exponent

/-- A decimal in positional notation, with a point only where a fraction follows. -/
def Decimal.positional (d : Decimal) : String :=
  let digits := d.digitChars
  if 0 ≤ d.exponent then
    String.ofList (digits ++ List.replicate d.exponent.toNat '0')
  else
    let fraction := (-d.exponent).toNat
    let padded := List.replicate (fraction + 1 - digits.length) '0' ++ digits
    let whole := padded.length - fraction
    String.ofList (padded.take whole ++ '.' :: padded.drop whole)

/-- A decimal with one digit before the point and a signed exponent. -/
def Decimal.scientific (d : Decimal) : String :=
  let exponent := d.leadingExponent
  let sign := if exponent < 0 then "-" else "+"
  let mantissa :=
    match d.digitChars with
    | first :: second :: rest => first :: '.' :: second :: rest
    | short => short
  String.ofList mantissa ++ "e" ++ sign ++ toString exponent.natAbs

/-- A number in positional notation whatever its size, an integer without a point. -/
def Binary64.plainText (x : Binary64) : String :=
  if x.isNaN then "NaN"
  else (if x.isNegative then "-" else "") ++ (if x.isFinite then x.shortest.positional else "inf")

/--
A number as documents write it.

Leading exponents from -5 to 15 are positional, with `.0` after an integer, and all others scientific.
-/
def Binary64.documentText (x : Binary64) : String :=
  let d := x.shortest
  let size :=
    if d.leadingExponent < -5 ∨ 15 < d.leadingExponent then d.scientific
    else if 0 ≤ d.exponent then d.positional ++ ".0"
    else d.positional
  (if x.isNegative then "-" else "") ++ size

end StorageConfig
