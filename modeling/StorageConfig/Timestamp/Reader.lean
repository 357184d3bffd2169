import StorageConfig.Text.Blank
import StorageConfig.Timestamp

/-!
Reading instants from dates with a time and an offset, as RFC 3339 writes them and a little beyond.

Blanks may stand before every number, dash and colon, the letter between date and time may be a space,
a signed year may have any number of digits, and the offset may be the letters UTC.
-/

namespace StorageConfig

/-- Why a text is no instant. -/
inductive Timestamp.Fault where
  /-- The text ends too early. -/
  | tooShort
  /-- Another character was wanted. -/
  | invalid
  /-- A number is larger than its place allows, or the date does not exist. -/
  | outOfRange
  /-- Something follows the offset. -/
  | tooLong
  /-- The offset moves the instant out of the calendar. -/
  | impossible
  deriving DecidableEq, Repr

namespace Timestamp

/-- The wording of a fault. -/
def Fault.message : Fault → String
  | .tooShort => "premature end of input"
  | .invalid => "input contains invalid characters"
  | .outOfRange => "input is out of range"
  | .tooLong => "trailing input"
  | .impossible => "no possible date and time matching input"

/-- The number that a text of digits stands for. -/
def digitsValue (digits : List Char) : Nat :=
  digits.foldl (fun n c => 10 * n + (c.toNat - '0'.toNat)) 0

/-- Read digits, at least one and at most so many as given, if a limit is given. -/
def readDigits (limit : Option Nat) (text : List Char) : Except Fault (Nat × List Char) :=
  let digits := text.takeWhile Char.isDigit
  let taken := match limit with
    | some most => digits.take most
    | none => digits
  match text, taken with
  | [], _ => .error .tooShort
  | _, [] => .error .invalid
  | _, _ => .ok (digitsValue taken, text.drop taken.length)

/-- Read a number of one or two digits that lies between two bounds, after any blanks. -/
def readField (low high : Nat) (text : List Char) : Except Fault (Nat × List Char) := do
  let (value, rest) ← readDigits (some 2) (trimStart text)
  if low ≤ value ∧ value ≤ high then .ok (value, rest) else .error .outOfRange

/-- Read a year: up to four digits, or a sign and any number of digits. -/
def readYear (text : List Char) : Except Fault (Int × List Char) := do
  let (value, rest) ← match trimStart text with
    | '-' :: digits => do
      let (size, rest) ← readDigits none digits
      pure (-(size : Int), rest)
    | '+' :: digits => do
      let (size, rest) ← readDigits none digits
      pure ((size : Int), rest)
    | digits => do
      let (size, rest) ← readDigits (some 4) digits
      pure ((size : Int), rest)
  if -2147483648 ≤ value ∧ value ≤ 2147483647 then .ok (value, rest) else .error .outOfRange

/-- Read one mark, after any blanks. -/
def readMark (mark : Char) (text : List Char) : Except Fault (List Char) :=
  match trimStart text with
  | [] => .error .tooShort
  | c :: rest => if c = mark then .ok rest else .error .invalid

/-- Read what separates the date from the time. -/
def readSeparator : List Char → Except Fault (List Char)
  | [] => .error .tooShort
  | c :: rest => if c = 't' ∨ c = 'T' ∨ c = ' ' then .ok rest else .error .invalid

/-- Pass over a fraction of a second; only whole seconds are kept. -/
def skipFraction : List Char → Except Fault (List Char)
  | '.' :: text => do
    let (_, rest) ← readDigits none text
    .ok rest
  | text => .ok text

/-- Read exactly two digits; a lone character counts by its UTF-8 bytes. -/
def readTwoDigits : List Char → Except Fault ((Nat × Nat) × List Char)
  | [] => .error .tooShort
  | [c] => .error (if c.utf8Size < 2 then .tooShort else .invalid)
  | tens :: ones :: rest =>
    if tens.isDigit ∧ ones.isDigit then
      .ok ((tens.toNat - '0'.toNat, ones.toNat - '0'.toNat), rest)
    else .error .invalid

/-- Read the offset from UTC in seconds: `Z`, the letters UTC, or a signed count of hours and minutes. -/
def readOffset (text : List Char) : Except Fault (Int × List Char) :=
  match trimStart text with
  | [] => .error .tooShort
  | c :: rest =>
    if ((c :: rest).take 3).map Char.toUpper = ['U', 'T', 'C'] then .ok (0, rest.drop 2)
    else if c = 'Z' ∨ c = 'z' then .ok (0, rest)
    else if c = '+' ∨ c = '-' ∨ c = '\u2212' then do
      let ((hourTens, hourOnes), afterHours) ← readTwoDigits rest
      let minuteText := afterHours.dropWhile fun mark => mark = ':' || isBlank mark
      let ((minuteTens, minuteOnes), afterMinutes) ← readTwoDigits minuteText
      if 5 < minuteTens then .error .outOfRange
      else
        let size := ((10 * hourTens + hourOnes) * 3600 + (10 * minuteTens + minuteOnes) * 60 : Nat)
        .ok (if c = '+' then (size : Int) else -(size : Int), afterMinutes)
    else .error .invalid

/-- The instant of a date and time of day under an offset; second sixty is a leap second. -/
def ofParts (date : CivilDate) (hour minute second : Nat) (offset : Int) : Except Fault Timestamp :=
  if ¬date.isValid then .error .outOfRange
  else if offset ≤ -86400 ∨ 86400 ≤ offset then .error .outOfRange
  else
    let clock := hour * 3600 + minute * 60 + min second 59
    let seconds := date.toDays * 86400 + (clock : Int) - offset
    if CivilDate.isYear (CivilDate.ofDays (seconds / 86400)).year then .ok ⟨seconds, second == 60⟩
    else .error .impossible

/-- Read an instant from a whole text. -/
def parse (text : String) : Except Fault Timestamp := do
  let (year, rest) ← readYear text.toList
  let rest ← readMark '-' rest
  let (month, rest) ← readField 1 12 rest
  let rest ← readMark '-' rest
  let (day, rest) ← readField 1 31 rest
  let rest ← readSeparator rest
  let (hour, rest) ← readField 0 23 rest
  let rest ← readMark ':' rest
  let (minute, rest) ← readField 0 59 rest
  let rest ← readMark ':' rest
  let (second, rest) ← readField 0 60 rest
  let rest ← skipFraction rest
  let (offset, rest) ← readOffset rest
  if trimStart rest ≠ [] then .error .tooLong
  ofParts ⟨year, month, day⟩ hour minute second offset

end Timestamp

end StorageConfig
