import KeyStore.Binary64

/-!
# The shortest decimal of a binary64 number

A finite magnitude is `significand * 2 ^ exponent`. The reals that round to it form an interval
whose ends belong to it when the significand is even. Among the decimals with one digit, then two,
and so on, the two neighbours of the number are tested against that interval; the first that lies in
it is taken, of two the nearer, and of two equally near the larger.

Nothing here is rounded: numbers are compared as integers after multiplying out the powers.
-/

namespace KeyStore

/-- The number `digits * 10 ^ exponent`. -/
structure Decimal where
  digits : Nat
  exponent : Int
deriving DecidableEq, Repr

namespace Decimal

/-- The power of ten. -/
def ten (n : Nat) : Nat := Nat.pow 10 n

/-- The order of `a * 10 ^ p` and `b * 2 ^ e`. -/
def compareBinary (a : Nat) (p : Int) (b : Nat) (e : Int) : Ordering :=
  compare ((a * ten p.toNat) <<< (-e).toNat) ((b * ten (-p).toNat) <<< e.toNat)

/-- A positive finite magnitude as `significand * 2 ^ exponent`. -/
structure Binary where
  significand : Nat
  exponent : Int
  /-- Whether the next smaller magnitude is only half a step away. -/
  atBinade : Bool

/-- Takes the bits of a magnitude apart. -/
def Binary.ofMagnitude (magnitude : Nat) : Binary :=
  let power : Nat := magnitude / Binary64.exponentWeight
  let fraction : Nat := magnitude % Binary64.exponentWeight
  if power = 0 then ⟨fraction, -1074, false⟩
  else ⟨Binary64.exponentWeight + fraction, (power : Int) - 1075, fraction = 0 && 1 < power⟩

/-- Whether the decimal rounds to the binary number. -/
def readsBack (x : Binary) (d : Decimal) : Bool :=
  let lower := 4 * x.significand - (if x.atBinade then 1 else 2)
  let upper := 4 * x.significand + 2
  let fromBelow := compareBinary d.digits d.exponent lower (x.exponent - 2)
  let fromAbove := compareBinary d.digits d.exponent upper (x.exponent - 2)
  if x.significand % 2 = 0 then fromBelow ≠ .lt && fromAbove ≠ .gt
  else fromBelow = .gt && fromAbove = .lt

/-- The number as a quotient of integers. -/
def Binary.ratio (x : Binary) : Nat × Nat :=
  (x.significand <<< x.exponent.toNat, 1 <<< (-x.exponent).toNat)

/-- The exponent of the leading decimal digit of `num / den`. -/
def leadingExponent (num den : Nat) : Int :=
  if den ≤ num then ((Nat.toDigits 10 (num / den)).length : Int) - 1
  else
    match (List.range 400).find? fun places => den ≤ num * ten places with
    | some places => -(places : Int)
    | none => 0

/-- The decimal without zeros at the end of its digits. -/
def stripZeros (d : Decimal) : Decimal :=
  match (List.range 400).find? fun zeros => d.digits % ten (zeros + 1) ≠ 0 with
  | some zeros => ⟨d.digits / ten zeros, d.exponent + zeros⟩
  | none => d

/-- The better of the two neighbours of `x` among the decimals whose last digit counts
`10 ^ place`, if one of them reads back. -/
def onGrid (x : Binary) (place : Int) : Option Decimal :=
  let (num, den) := x.ratio
  let scaled := num * ten (-place).toNat
  let unit := den * ten place.toNat
  let below : Decimal := ⟨scaled / unit, place⟩
  let above : Decimal := ⟨scaled / unit + 1, place⟩
  match readsBack x below, readsBack x above with
  | true, true => some (if 2 * (scaled % unit) < unit then below else above)
  | true, false => some below
  | false, true => some above
  | false, false => none

/-- The shortest decimal that reads back as the positive finite magnitude. -/
def shortest (magnitude : Nat) : Decimal :=
  let x := Binary.ofMagnitude magnitude
  let (num, den) := x.ratio
  let lead := leadingExponent num den
  match (List.range 17).findSome? fun (more : Nat) => onGrid x (lead - more) with
  | some d => stripZeros d
  | none => stripZeros ⟨num * ten (-x.exponent).toNat / den, -((-x.exponent).toNat : Int)⟩

end Decimal

end KeyStore
