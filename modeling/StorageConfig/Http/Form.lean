import StorageConfig.Text.Split

/-! Pairs of texts in the query of a request target. -/

namespace StorageConfig

namespace Form

/-- The bytes that stand as they are: letters, digits, star, dash, point and underscore. -/
def isUnreserved (byte : UInt8) : Bool :=
  let c := Char.ofNat byte.toNat
  c.isAlphanum || c == '*' || c == '-' || c == '.' || c == '_'

/-- An upper-case hexadecimal digit. -/
def hexDigit (n : Nat) : Char := (Nat.digitChar n).toUpper

/-- How a byte stands in a query. -/
def encodeByte (byte : UInt8) : List Char :=
  if isUnreserved byte then [Char.ofNat byte.toNat]
  else if byte = 0x20 then ['+']
  else ['%', hexDigit (byte.toNat / 16), hexDigit (byte.toNat % 16)]

/-- A text as it stands in a query. -/
def encode (text : String) : String := String.ofList (text.toUTF8.toList.flatMap encodeByte)

/-- What the next bytes of a character must be: how many, the bounds of the first, and the bits so far. -/
structure Pending where
  missing : Nat
  low : Nat
  high : Nat
  bits : Nat

/-- How a character of several bytes starts. -/
def Pending.start? (byte : Nat) : Option Pending :=
  if 0xC2 ≤ byte && byte ≤ 0xDF then some ⟨1, 0x80, 0xBF, byte - 0xC0⟩
  else if byte == 0xE0 then some ⟨2, 0xA0, 0xBF, 0⟩
  else if byte == 0xED then some ⟨2, 0x80, 0x9F, 0xD⟩
  else if 0xE1 ≤ byte && byte ≤ 0xEF then some ⟨2, 0x80, 0xBF, byte - 0xE0⟩
  else if byte == 0xF0 then some ⟨3, 0x90, 0xBF, 0⟩
  else if byte == 0xF4 then some ⟨3, 0x80, 0x8F, 4⟩
  else if 0xF1 ≤ byte && byte ≤ 0xF3 then some ⟨3, 0x80, 0xBF, byte - 0xF0⟩
  else none

/-- What stands for bytes that are no character. -/
def replacement : Char := '\ufffd'

/-- What a byte that starts a character gives at once, and what it leaves pending. -/
def begin (byte : Nat) : List Char × Option Pending :=
  if byte < 0x80 then ([Char.ofNat byte], none)
  else
    match Pending.start? byte with
    | some pending => ([], some pending)
    | none => ([replacement], none)

/-- What a further byte gives, after what was pending. -/
def advance (pending : Pending) (byte : Nat) : List Char × Option Pending :=
  if pending.low ≤ byte && byte ≤ pending.high then
    let bits := pending.bits * 64 + byte % 64
    if pending.missing ≤ 1 then ([Char.ofNat bits], none)
    else ([], some ⟨pending.missing - 1, 0x80, 0xBF, bits⟩)
  else
    let (chars, next) := begin byte
    (replacement :: chars, next)

/-- Read UTF-8, with one replacement for each longest start of a character that is not finished. -/
def decodeUtf8 : Option Pending → List Nat → List Char
  | none, [] => []
  | some _, [] => [replacement]
  | pending, byte :: rest =>
    let (chars, next) := match pending with
      | some unfinished => advance unfinished byte
      | none => begin byte
    chars ++ decodeUtf8 next rest

/-- The value of a hexadecimal digit. -/
def digitValue? (byte : Nat) : Option Nat :=
  if 0x30 ≤ byte && byte ≤ 0x39 then some (byte - 0x30)
  else if 0x41 ≤ byte && byte ≤ 0x46 then some (byte - 0x41 + 10)
  else if 0x61 ≤ byte && byte ≤ 0x66 then some (byte - 0x61 + 10)
  else none

/-- The bytes that stand for a text in a query; a percent sign without two digits stands for itself. -/
def unescape : List Nat → List Nat
  | 0x25 :: high :: low :: rest =>
    match digitValue? high, digitValue? low with
    | some tens, some ones => (16 * tens + ones) :: unescape rest
    | _, _ => 0x25 :: unescape (high :: low :: rest)
  | 0x2B :: rest => 0x20 :: unescape rest
  | byte :: rest => byte :: unescape rest
  | [] => []

/-- The text that stands in a query. -/
def decode (text : List Char) : String :=
  String.ofList (decodeUtf8 none (unescape ((String.ofList text).toUTF8.toList.map UInt8.toNat)))

/-- The pairs of a query; a part without an equals sign has an empty value. -/
def pairs (query : String) : List (String × String) :=
  ((splitAtMark '&' query.toList).filter fun part => !part.isEmpty).map fun part =>
    match cutAtFirst '=' part with
    | some (name, value) => (decode name, decode value)
    | none => (decode part, "")

end Form

end StorageConfig
