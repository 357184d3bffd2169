import StorageConfig.Json

/-!
The numbers of documents, from their texts.

Integers of at most 64 bits are exact, and all others are rounded to binary64.
-/

namespace StorageConfig

namespace Json

/-- The largest significand that is kept; further digits only scale the number. -/
def significandLimit : Nat := UInt64.size - 1

/-- Take digits into a significand while it stays within the limit, and count those taken. -/
def takeDigits : Nat → Nat → List Char → Nat × Nat × List Char
  | significand, taken, [] => (significand, taken, [])
  | significand, taken, c :: rest =>
    let next := significand * 10 + (c.toNat - '0'.toNat)
    if c.isDigit ∧ next ≤ significandLimit then takeDigits next (taken + 1) rest
    else (significand, taken, c :: rest)

/--
The number `significand * 10 ^ exponent`, rounded once for the significand and once for the scaling.

A number too large to hold is flawed, and one too small becomes zero.
-/
def scaled (isNegative : Bool) (significand : Nat) (exponent : Int) : Json :=
  let base := (UInt64.ofNat significand).toFloat
  let power (n : Nat) : Float := Float.ofScientific 1 false n
  -- Powers beyond the range of the format are applied in two turns; none needs more.
  let shrunk := if exponent < -308 then base / power 308 else base
  let exponent := if exponent < -308 then exponent + 308 else exponent
  let value :=
    if significand = 0 then some (0 : Float)
    else if 308 < exponent then none
    else if 0 ≤ exponent then some (shrunk * power exponent.toNat)
    else if exponent < -308 then some 0
    else some (shrunk / power (-exponent).toNat)
  match value with
  | some size => if size.isInf then flawed else num (.floating (.ofFloat (if isNegative then -size else size)))
  | none => flawed

/-- Read what may follow the digits of a floating number: an exponent. -/
def readExponent (isNegative : Bool) (significand : Nat) (exponent : Int) (text : List Char) :
    Option (Json × List Char) :=
  match text with
  | mark :: rest =>
    if mark = 'e' ∨ mark = 'E' then
      let (isDown, digits) := match rest with
        | '+' :: digits => (false, digits)
        | '-' :: digits => (true, digits)
        | digits => (false, digits)
      let run := digits.takeWhile Char.isDigit
      if run = [] then none
      else
        let size := run.foldl (fun n c => 10 * n + (c.toNat - '0'.toNat)) 0
        let shift := if isDown then -(size : Int) else (size : Int)
        some (scaled isNegative significand (exponent + shift), digits.drop run.length)
    else some (scaled isNegative significand exponent, text)
  | [] => some (scaled isNegative significand exponent, text)

/-- Read a fraction after its point, and an exponent. -/
def readFraction (isNegative : Bool) (significand : Nat) (exponent : Int) (text : List Char) :
    Option (Json × List Char) :=
  match text with
  | c :: _ =>
    if c.isDigit then
      let (significand, taken, rest) := takeDigits significand 0 text
      readExponent isNegative significand (exponent - (taken : Int)) (rest.dropWhile Char.isDigit)
    else none
  | [] => none

/-- Read a number, whose first digit stands in front. -/
def readNumber (isNegative : Bool) (text : List Char) : Option (Json × List Char) :=
  match text with
  | '0' :: c :: _ => if c.isDigit then none else readWhole (takeDigits 0 0 text)
  | _ => readWhole (takeDigits 0 0 text)
where
  /-- Tell an integer from a floating number by what follows its digits. -/
  readWhole : Nat × Nat × List Char → Option (Json × List Char)
    | (significand, taken, rest) =>
      let surplus := rest.takeWhile Char.isDigit
      let exponent := (surplus.length : Int)
      if taken = 0 then none
      else
        match rest.drop surplus.length with
        | '.' :: fraction => readFraction isNegative significand exponent fraction
        | c :: more =>
          if c = 'e' ∨ c = 'E' then readExponent isNegative significand exponent (c :: more)
          else some (whole significand surplus, c :: more)
        | [] => some (whole significand surplus, [])
  /-- An integer of more than 64 bits is a floating number, and so is a negative zero. -/
  whole (significand : Nat) (surplus : List Char) : Json :=
    if surplus ≠ [] then scaled isNegative significand surplus.length
    else if ¬isNegative then int significand
    else if significand = 0 ∨ Nat.pow 2 63 < significand then scaled true significand 0
    else int (-(significand : Int))

end Json

end StorageConfig
