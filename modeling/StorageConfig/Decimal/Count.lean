/-! Counts of 64 bits, read from decimal digits. -/

namespace StorageConfig

/-- Why a text is no count. -/
inductive CountFault where
  | noDigits
  | strangeCharacter
  | tooLarge
  deriving DecidableEq, Repr

/-- The wording of a count fault. -/
def CountFault.message : CountFault → String
  | noDigits => "cannot parse integer from empty string"
  | strangeCharacter => "invalid digit found in string"
  | tooLarge => "number too large to fit in target type"

namespace Count

/-- Read the digits that follow those of a number, which has to stay below the bound. -/
def readDigits (bound : Nat) (number : Nat) : List Char → Except CountFault Nat
  | [] => .ok number
  | c :: rest =>
    if c.isDigit then
      let longer := 10 * number + (c.toNat - '0'.toNat)
      -- The first fault from the left wins, so a number too large ends the reading at once.
      if longer < bound then readDigits bound longer rest else .error .tooLarge
    else .error .strangeCharacter

/-- Read a count; a plus sign may stand before its digits. -/
def parse (text : String) : Except CountFault UInt64 :=
  match text.toList with
  | [] => .error .noDigits
  | ['+'] => .error .strangeCharacter
  | '+' :: digits | digits => (readDigits UInt64.size 0 digits).map UInt64.ofNat

end Count

end StorageConfig
