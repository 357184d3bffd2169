/-! Sets of characters, written as the code points at which membership turns on or off. -/

namespace StorageConfig

/-- Whether a character is in a set: an odd number of toggles, which rise, lie at or below it. -/
def isToggled (toggles : List Nat) (c : Char) : Bool :=
  (toggles.takeWhile (· ≤ c.toNat)).length % 2 == 1

end StorageConfig
