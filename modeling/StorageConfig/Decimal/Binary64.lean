/-! The numbers that 64 bits of binary floating point stand for, as exact fractions. -/

namespace StorageConfig

/-- A binary64 number by its bits. -/
structure Binary64 where
  /-- Sign, exponent and fraction, from the top bit down. -/
  bits : UInt64
  deriving DecidableEq, Repr, Inhabited

namespace Binary64

/-- Whether the sign bit is set. -/
def isNegative (x : Binary64) : Bool := x.bits.toNat / Nat.pow 2 63 == 1

/-- The exponent field. -/
def exponentField (x : Binary64) : Nat := x.bits.toNat / Nat.pow 2 52 % Nat.pow 2 11

/-- The fraction field. -/
def fractionField (x : Binary64) : Nat := x.bits.toNat % Nat.pow 2 52

/-- Whether the size is zero. -/
def isZero (x : Binary64) : Bool := x.exponentField == 0 && x.fractionField == 0

/-- Whether the number has a size, which infinities and what is no number do not. -/
def isFinite (x : Binary64) : Bool := x.exponentField != Nat.pow 2 11 - 1

/-- Whether the bits stand for no number. -/
def isNaN (x : Binary64) : Bool := !x.isFinite && x.fractionField != 0

/-- The integer `m` of the size `m * 2 ^ q`. -/
def significand (x : Binary64) : Nat :=
  if x.exponentField = 0 then x.fractionField else Nat.pow 2 52 + x.fractionField

/-- The exponent `q` of the size `m * 2 ^ q`. -/
def scale (x : Binary64) : Int :=
  if x.exponentField = 0 then -1074 else (x.exponentField : Int) - 1075

/-- Whether the gap to the next smaller size is half the gap to the next larger one. -/
def isLowerGapHalved (x : Binary64) : Bool := x.fractionField == 0 && x.exponentField > 1

/-- The number a machine float holds. -/
def ofFloat (value : Float) : Binary64 := ⟨value.toBits⟩

/-- The machine float of the same bits. -/
def toFloat (x : Binary64) : Float := Float.ofBits x.bits

end Binary64

end StorageConfig
