import StorageConfig.Failure

/-! Request targets: a path, and perhaps a query, in the characters that may stand there as they are. -/

namespace StorageConfig

/-- Where a request goes. -/
structure Target where
  path : String
  /-- What follows the question mark, if there is one. -/
  query : Option String
  deriving DecidableEq, Repr

namespace Target

/-- The most bytes a target may have. -/
def maxLength : Nat := 65534

/-- The characters of a path; quotes and braces are let through. -/
def isPathChar (c : Char) : Bool :=
  let code := c.toNat
  code == 0x21 || code == 0x22 || (0x24 ≤ code && code ≤ 0x3B) || code == 0x3D
    || (0x40 ≤ code && code ≤ 0x5F) || (0x61 ≤ code && code ≤ 0x7E)

/-- The characters of a query; further question marks are let through. -/
def isQueryChar (c : Char) : Bool :=
  let code := c.toNat
  code == 0x21 || (0x24 ≤ code && code ≤ 0x3B) || code == 0x3D || (0x3F ≤ code && code ≤ 0x7E)

/-- A text up to the number sign that starts a fragment. -/
def beforeFragment (text : List Char) : List Char := text.takeWhile (· != '#')

/-- Read a target; a fragment is dropped unseen. -/
def parse (text : String) : Except UriFault Target :=
  let shown := beforeFragment text.toList
  let path := shown.takeWhile (· != '?')
  if maxLength < text.utf8ByteSize then .error .tooLong
  else if ¬path.all isPathChar then .error .invalidCharacter
  else
    match shown.drop path.length with
    | [] => .ok ⟨String.ofList path, none⟩
    | _ :: query =>
      if query.all isQueryChar then .ok ⟨String.ofList path, some (String.ofList query)⟩
      else .error .invalidCharacter

end Target

end StorageConfig
