/-!
# Binary64 numbers

A `Binary64` is kept as its 64 bits. Order and equality of numbers are read off `position`, the
place of a number on the line counted in representable steps from zero: magnitudes grow with their
bits, so comparing positions is comparing numbers, and the two zeros share a place.

`ofInt` gives the number nearest to an integer; of two equally near the one with the even last bit.
-/

namespace KeyStore

/-- A binary64 number: one bit of sign, eleven of exponent, fifty-two of fraction. -/
structure Binary64 where
  /-- The bit pattern, sign first. -/
  bits : UInt64
deriving DecidableEq, Repr, Inhabited

namespace Binary64

/-- The weight of the sign bit. -/
def signWeight : Nat := 1 <<< 63

/-- The weight of the last bit of the exponent. -/
def exponentWeight : Nat := 1 <<< 52

/-- The bits below the sign, as a number. -/
def magnitude (x : Binary64) : Nat := x.bits.toNat % signWeight

/-- Whether the sign bit is set. -/
def isNegative (x : Binary64) : Bool := signWeight ≤ x.bits.toNat

/-- The magnitude of the infinities: an exponent of ones over an empty fraction. -/
def infiniteMagnitude : Nat := 0x7FF * exponentWeight

/-- Whether the bits stand for no number. -/
def isNaN (x : Binary64) : Bool := infiniteMagnitude < x.magnitude

/-- Whether the bits stand for one of the infinities. -/
def isInfinite (x : Binary64) : Bool := x.magnitude = infiniteMagnitude

/-- The place on the number line, in representable steps from zero. -/
def position (x : Binary64) : Int :=
  if x.isNegative then -(x.magnitude : Int) else x.magnitude

/-- The order of two numbers; `none` if one of them is no number. -/
def compare? (x y : Binary64) : Option Ordering :=
  if x.isNaN || y.isNaN then none else some (compare x.position y.position)

/-! ### The nearest number to an integer -/

/-- The quotient rounded to the nearest integer, a half to the even neighbour. -/
def divRoundEven (num den : Nat) : Nat :=
  let quotient := num / den
  let twice := 2 * (num % den)
  if twice < den then quotient
  else if den < twice then quotient + 1
  else quotient + quotient % 2

/-- The fifty-three leading bits of `n`, rounded; a significand that rounds up has one bit more. -/
def nearestSignificand (n : Nat) : Nat :=
  if n.log2 ≤ 52 then n <<< (52 - n.log2) else divRoundEven n (1 <<< (n.log2 - 52))

/-- The magnitude nearest to `n`. A significand that rounds up to the next power of two carries into
the exponent, which is what the sum does. -/
def nearestMagnitude (n : Nat) : Nat :=
  if n = 0 then 0 else (n.log2 + 1022) * exponentWeight + nearestSignificand n

/-- The integer nearest to `n` among those that a significand of fifty-three bits can give. -/
def nearestNat (n : Nat) : Nat :=
  if n.log2 ≤ 52 then n else nearestSignificand n <<< (n.log2 - 52)

/-- The least integer that does not round to a finite number: half a step above the greatest of
them, fifty-four bits of one before 970 of zero. -/
def overflowBound : Nat := 0x3FFFFFFFFFFFFF <<< 970

/-- The number nearest to a 64-bit integer. -/
def ofInt (n : Int64) : Binary64 :=
  let magnitude := nearestMagnitude n.toInt.natAbs
  ⟨UInt64.ofNat (if n.toInt < 0 then signWeight + magnitude else magnitude)⟩

end Binary64

end KeyStore
