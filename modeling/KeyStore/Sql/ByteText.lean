/-!
# Byte strings as text

The octal escape form of a byte string, for drivers that bind text only: every byte is a backslash
and three octal digits.
-/

namespace KeyStore.Sql

/-- The octal digit of a number below eight. -/
def octalDigit (n : Nat) : Char := Char.ofNat ('0'.toNat + n % 8)

/-- A byte as a backslash and three octal digits. -/
def byteEscape (b : UInt8) : List Char :=
  ['\\', octalDigit (b.toNat / 64), octalDigit (b.toNat / 8), octalDigit b.toNat]

/-- A byte string in octal escape form. -/
def escapeBytes (bytes : List UInt8) : String := String.ofList (bytes.flatMap byteEscape)

end KeyStore.Sql
