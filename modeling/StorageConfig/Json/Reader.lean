import StorageConfig.Json.Numeral

/-!
Reading a document from its text.

What is well formed is read, and what has no value is marked as flawed: a number too large for its form,
a text with half a surrogate pair, an object with such a text for a name, and a container more than 127 deep.
-/

namespace StorageConfig

namespace Json

/-- The blanks that may stand between the parts of a document. -/
def isSpace (c : Char) : Bool := c == ' ' || c == '\n' || c == '\t' || c == '\r'

/-- A text without the blanks in front. -/
def skipSpace (text : List Char) : List Char := text.dropWhile isSpace

/-- The value of a hexadecimal digit. -/
def hexValue? (c : Char) : Option Nat :=
  if c.isDigit then some (c.toNat - '0'.toNat)
  else if 'a' ≤ c ∧ c ≤ 'f' then some (c.toNat - 'a'.toNat + 10)
  else if 'A' ≤ c ∧ c ≤ 'F' then some (c.toNat - 'A'.toNat + 10)
  else none

/-- Read four hexadecimal digits. -/
def readHex : List Char → Option (Nat × List Char)
  | a :: b :: c :: d :: rest => do
    let value := (((← hexValue? a) * 16 + (← hexValue? b)) * 16 + (← hexValue? c)) * 16 + (← hexValue? d)
    some (value, rest)
  | _ => none

/-- Whether a code unit is the first half of a surrogate pair. -/
def isHighHalf (unit : Nat) : Bool := 0xD800 ≤ unit && unit ≤ 0xDBFF

/-- Whether a code unit is the second half of a surrogate pair. -/
def isLowHalf (unit : Nat) : Bool := 0xDC00 ≤ unit && unit ≤ 0xDFFF

/-- The character of a surrogate pair. -/
def pairChar (high low : Nat) : Char := Char.ofNat (0x10000 + (high - 0xD800) * 0x400 + (low - 0xDC00))

/-- The second half of a surrogate pair, where it is escaped next. -/
def lowHalf? : List Char → Option (Nat × List Char)
  | '\\' :: 'u' :: text => (readHex text).filter fun (unit, _) => isLowHalf unit
  | _ => none

/-- Read a numeric escape; half a pair stands for no character. -/
def readCodePoint (text : List Char) : Option (Option Char × List Char) := do
  let (unit, rest) ← readHex text
  if isHighHalf unit then
    match lowHalf? rest with
    | some (low, rest) => some (some (pairChar unit low), rest)
    | none => some (none, rest)
  else some (if isLowHalf unit then none else some (Char.ofNat unit), rest)

/-- Read what a backslash introduces. -/
def readEscape : List Char → Option (Option Char × List Char)
  | '\"' :: rest => some (some '\"', rest)
  | '\\' :: rest => some (some '\\', rest)
  | '/' :: rest => some (some '/', rest)
  | 'b' :: rest => some (some '\x08', rest)
  | 'f' :: rest => some (some '\x0c', rest)
  | 'n' :: rest => some (some '\n', rest)
  | 'r' :: rest => some (some '\r', rest)
  | 't' :: rest => some (some '\t', rest)
  | 'u' :: rest => readCodePoint rest
  | _ => none

/--
Read a text up to its closing quote.

The characters read so far are held in reverse, and given up once an escape stands for none.
-/
def readText : Nat → Option (List Char) → List Char → Option (Option String × List Char)
  | 0, _, _ => none
  | _ + 1, _, [] => none
  | _ + 1, done, '\"' :: rest => some (done.map (String.ofList ·.reverse), rest)
  | fuel + 1, done, '\\' :: rest => do
    let (read, rest) ← readEscape rest
    readText fuel (read.bind fun c => done.map (c :: ·)) rest
  | fuel + 1, done, c :: rest =>
    if c.toNat < 0x20 then none else readText fuel (done.map (c :: ·)) rest

/-- Read a fixed word. -/
def readWord (word : List Char) (value : Json) (text : List Char) : Option (Json × List Char) :=
  if word.isPrefixOf text then some (value, text.drop word.length) else none

/-- Read a document that is no container. -/
def readScalar (fuel : Nat) : List Char → Option (Json × List Char)
  | 'n' :: rest => readWord ['u', 'l', 'l'] null rest
  | 't' :: rest => readWord ['r', 'u', 'e'] (bool true) rest
  | 'f' :: rest => readWord ['a', 'l', 's', 'e'] (bool false) rest
  | '\"' :: rest => (readText fuel (some []) rest).map fun (text, rest) => (text.elim flawed str, rest)
  | '-' :: rest => readNumber true rest
  | text => readNumber false text

/-- Read the name of a member and the colon after it. -/
def readName (fuel : Nat) (text : List Char) : Option (Option String × List Char) :=
  match skipSpace text with
  | '\"' :: rest => do
    let (name, rest) ← readText fuel (some []) rest
    match skipSpace rest with
    | ':' :: rest => some (name, rest)
    | _ => none
  | _ => none

/-- A container that has been opened. -/
inductive Bracket where
  | square
  | brace
  deriving DecidableEq, Repr

/--
Pass over what follows a value inside containers, the innermost first.

What remains open is given back with the text of a further value, and nothing is left open at the end.
-/
def passEnd (fuel : Nat) : List Bracket → List Char → Option (List Bracket × List Char)
  | [], text => some ([], text)
  | bracket :: outer, text =>
    match bracket, skipSpace text with
    | .square, ']' :: rest => passEnd fuel outer rest
    | .brace, '\x7d' :: rest => passEnd fuel outer rest
    | .square, ',' :: rest => some (.square :: outer, rest)
    | .brace, ',' :: rest => (readName fuel rest).map fun (_, rest) => (.brace :: outer, rest)
    | _, _ => none

/-- Pass over a value and over the rest of the containers around it; they may nest without bound. -/
def passValue : Nat → List Bracket → List Char → Option (List Char)
  | 0, _, _ => none
  | fuel + 1, outer, text => do
    let (opened, rest) ←
      match skipSpace text with
      | '[' :: rest =>
        match skipSpace rest with
        | ']' :: rest => passEnd fuel outer rest
        | items => some (.square :: outer, items)
      | '\x7b' :: rest =>
        match skipSpace rest with
        | '\x7d' :: rest => passEnd fuel outer rest
        | members => (readName fuel members).map fun (_, rest) => (.brace :: outer, rest)
      | text => do
        let (_, rest) ← readScalar fuel text
        passEnd fuel outer rest
    if opened = [] then some rest else passValue fuel opened rest

mutual

/-- Read one document, whose containers may nest so much deeper. -/
def readValue : Nat → Nat → List Char → Option (Json × List Char)
  | 0, _, _ => none
  | fuel + 1, depth, text =>
    match skipSpace text with
    | '[' :: rest =>
      if depth = 0 then (passValue fuel [] ('[' :: rest)).map (flawed, ·)
      else
        match skipSpace rest with
        | ']' :: rest => some (arr [], rest)
        | items => readItems fuel (depth - 1) [] items
    | '\x7b' :: rest =>
      if depth = 0 then (passValue fuel [] ('\x7b' :: rest)).map (flawed, ·)
      else
        match skipSpace rest with
        | '\x7d' :: rest => some (obj [], rest)
        | members => readMembers fuel (depth - 1) (some []) members
    | text => readScalar fuel text

/-- Read the items of an array up to its closing bracket; those read so far are held in reverse. -/
def readItems : Nat → Nat → List Json → List Char → Option (Json × List Char)
  | 0, _, _, _ => none
  | fuel + 1, depth, done, text => do
    let (item, rest) ← readValue fuel depth text
    match skipSpace rest with
    | ',' :: rest => readItems fuel depth (item :: done) rest
    | ']' :: rest => some (arr (item :: done).reverse, rest)
    | _ => none

/--
Read the members of an object up to its closing brace.

Those read so far are held in reverse, and given up once a name is flawed.
-/
def readMembers : Nat → Nat → Option (List (String × Json)) → List Char → Option (Json × List Char)
  | 0, _, _, _ => none
  | fuel + 1, depth, done, text => do
    let (name, rest) ← readName fuel text
    let (value, rest) ← readValue fuel depth rest
    let done := name.bind fun name => done.map ((name, value) :: ·)
    match skipSpace rest with
    | ',' :: rest => readMembers fuel depth done rest
    | '\x7d' :: rest => some (done.elim flawed (obj ·.reverse), rest)
    | _ => none

end

/-- The document that a whole text is, parts without a value marked as flawed, if it is well formed. -/
def parse? (text : String) : Option Json :=
  let chars := text.toList
  -- Of two calls on the way down at least one reads a character, so the fuel outlasts the text.
  match readValue (2 * chars.length + 2) 127 chars with
  | some (value, rest) => if skipSpace rest = [] then some value else none
  | none => none

/-- The document that a whole text is, if every part of it has a value. -/
def parseSound? (text : String) : Option Json := (parse? text).filter isSound

end Json

end StorageConfig
