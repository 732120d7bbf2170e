import KeyStore.Decimal.Shortest
import KeyStore.Text.Quoted
import KeyStore.Value

/-!
# Values in error messages

`Value.description` is how an error message shows a value: the name of its kind with the value in
parentheses. Numbers have the fewest digits that read back, are written out between `0.0001` and
`10 ^ 16`, and never look like integers.
-/

namespace KeyStore

/-- How numbers are written out. -/
structure NumberFormat where
  /-- The least exponent of a leading digit that is written without an exponent. -/
  leastPositional : Int
  /-- The greatest exponent of a leading digit that is written without an exponent. -/
  greatestPositional : Int
  infinity : String
  notANumber : String

/-- Numbers in error messages. -/
def NumberFormat.described : NumberFormat where
  leastPositional := -4
  greatestPositional := 15
  infinity := "inf"
  notANumber := "NaN"

namespace NumberFormat

/-- Digits with a point, and at least one digit on either side of it. -/
def positional (d : Decimal) : String :=
  let digits := Nat.toDigits 10 d.digits
  if 0 ≤ d.exponent then
    String.ofList (digits ++ List.replicate d.exponent.toNat '0') ++ ".0"
  else
    let places := (-d.exponent).toNat
    let padded := List.replicate (places + 1 - digits.length) '0' ++ digits
    String.ofList (padded.take (padded.length - places)) ++ "."
      ++ String.ofList (padded.drop (padded.length - places))

/-- Digits with a point after the first, and an exponent. -/
def scientific (d : Decimal) : String :=
  match Nat.toDigits 10 d.digits with
  | [] => "0"
  | first :: rest =>
    let point := if rest.isEmpty then "" else "." ++ String.ofList rest
    String.singleton first ++ point ++ "e" ++ toString (d.exponent + (rest.length : Int))

/-- A binary64 number. -/
def write (format : NumberFormat) (x : Binary64) : String :=
  if x.isNaN then format.notANumber
  else
    let sign := if x.isNegative then "-" else ""
    if x.isInfinite then sign ++ format.infinity
    else if x.magnitude = 0 then sign ++ "0.0"
    else
      let d := Decimal.shortest x.magnitude
      let lead := d.exponent + ((Nat.toDigits 10 d.digits).length : Int) - 1
      if format.leastPositional ≤ lead ∧ lead ≤ format.greatestPositional then
        sign ++ positional d
      else sign ++ scientific d

end NumberFormat

/-- The value as error messages show it. -/
def Value.description : Value → String
  | .null => "Null"
  | .bool b => "Bool(" ++ (if b then "true" else "false") ++ ")"
  | .int n => "I64(" ++ toString n.toInt ++ ")"
  | .real x => "F64(" ++ NumberFormat.described.write x ++ ")"
  | .text s => "Str(" ++ Text.quoted s ++ ")"
  | .bytes bs => "Bytes([" ++ ", ".intercalate (bs.map fun b => toString b.toNat) ++ "])"

end KeyStore
