import KeyStore.Binary64

/-!
# JSON documents

A document as it was written: members of an object keep their order and may repeat, and a number
keeps its digits, its point and its exponent. A string literal may hold half of a surrogate pair;
then it stands for no text.
-/

namespace KeyStore

namespace Document

/-- A decimal digit. -/
abbrev Digit := Fin 10

/-- A number as it was written. -/
inductive Number where
  /-- Digits only, after an optional sign. -/
  | integer (negative : Bool) (magnitude : Nat)
  /-- A number with a point or an exponent: what stands before the point, the digits after it, and
  the exponent. -/
  | decimal (negative : Bool) (whole : Nat) (fraction : List Digit) (exponent : Int)
deriving DecidableEq, Repr, Inhabited

/-- The text of a string literal; `none` if it holds half of a surrogate pair. -/
abbrev Literal := Option String

end Document

/-- A JSON document. -/
inductive Document where
  | null
  | bool (b : Bool)
  | number (n : Document.Number)
  | text (s : Document.Literal)
  | array (items : List Document)
  | object (members : List (Document.Literal × Document))
deriving Inhabited

namespace Document

/-! ### Numbers within the range of binary64 -/

/-- The digit that a character stands for. -/
def Digit.ofChar (c : Char) : Digit := Fin.ofNat 10 (c.toNat - '0'.toNat)

/-- The digits of a number, the first one first. -/
def digitsOf (n : Nat) : List Digit := (Nat.toDigits 10 n).map Digit.ofChar

/-- Appends digits to a number as long as 64 bits hold the result, and counts them. -/
def gather (n : Nat) : List Digit → Nat × Nat
  | [] => (n, 0)
  | digit :: rest =>
    if 10 * n + digit.val < UInt64.size then
      let (longer, count) := gather (10 * n + digit.val) rest
      (longer, count + 1)
    else (n, 0)

/-- What is read of digits around a point: the leading ones, as far as 64 bits hold them, and the
exponent of ten that they are scaled by. A digit before the point that is left out still counts as
a place; one after the point does not. -/
def scaled (whole fraction : List Digit) (exponent : Int) : Nat × Int :=
  let (leading, taken) := gather 0 whole
  let (significand, places) := gather leading fraction
  (significand, exponent + ((whole.length - taken : Nat) : Int) - (places : Int))

/-- The significand of a number and its exponent of ten. -/
def Number.scaled : Number → Nat × Int
  | integer _ magnitude => Document.scaled (digitsOf magnitude) [] 0
  | decimal _ whole fraction exponent => Document.scaled (digitsOf whole) fraction exponent

/-- The greatest exponent of a power of ten that is a finite binary64 number. -/
def greatestPower : Int := 308

/-- Whether the number is read as a finite one: its significand and its power of ten are rounded
each by itself, and their product must not overflow. -/
def Number.isFinite (n : Number) : Bool :=
  let (significand, exponent) := n.scaled
  significand = 0 || exponent < 0
    || exponent ≤ greatestPower
      && Binary64.nearestNat significand * Binary64.nearestNat (Nat.pow 10 exponent.toNat)
        < Binary64.overflowBound

mutual

/-- Whether all strings are texts, all numbers are finite, and containers are nested at most `room`
deep. -/
def isSound (room : Nat) : Document → Bool
  | null => true
  | bool _ => true
  | number n => n.isFinite
  | text s => s.isSome
  | array items => 0 < room && itemsAreSound (room - 1) items
  | object members => 0 < room && membersAreSound (room - 1) members

/-- Whether every item is sound. -/
def itemsAreSound (room : Nat) : List Document → Bool
  | [] => true
  | item :: rest => isSound room item && itemsAreSound room rest

/-- Whether every member is sound and named by a text. -/
def membersAreSound (room : Nat) : List (Literal × Document) → Bool
  | [] => true
  | (key, value) :: rest => key.isSome && isSound room value && membersAreSound room rest

end

end Document

end KeyStore
