import KeyStore.Binary64

/-!
# Values

The values that rows hold and statements bind. `Value.compare?` is the comparison of the database:
it says nothing about NULL or about kinds that do not mix, and compares an integer with a binary64
number after rounding the integer to the nearest one.
-/

namespace KeyStore

/-- The storage type of a column. -/
inductive ColumnType where
  | text
  | int
  | real
  | bool
  | bytes
deriving DecidableEq, Repr, Inhabited

/-- A value of a row or of a bound argument. -/
inductive Value where
  | null
  | bool (b : Bool)
  | int (n : Int64)
  | real (x : Binary64)
  | text (s : String)
  | bytes (bs : List UInt8)
deriving DecidableEq, Inhabited

namespace Value

/-- Whether the value is NULL. -/
def isNull : Value → Bool
  | null => true
  | _ => false

/-- The text of a text value. -/
def text? : Value → Option String
  | text s => some s
  | _ => none

/-- The integer of an integer value. -/
def int? : Value → Option Int64
  | int n => some n
  | _ => none

/-- The truth value of a boolean. -/
def bool? : Value → Option Bool
  | bool b => some b
  | _ => none

/-- The bytes of a byte string. -/
def bytes? : Value → Option (List UInt8)
  | bytes bs => some bs
  | _ => none

/-- The column type that holds the value; NULL belongs to none. -/
def columnType? : Value → Option ColumnType
  | null => none
  | bool _ => some .bool
  | int _ => some .int
  | real _ => some .real
  | text _ => some .text
  | bytes _ => some .bytes

/-- The order in which the database sees two values; `none` when one is NULL, when one is no
number, or when their kinds do not mix. -/
def compare? : Value → Value → Option Ordering
  | int a, int b => some (compare a b)
  | real a, real b => a.compare? b
  | int a, real b => (Binary64.ofInt a).compare? b
  | real a, int b => a.compare? (Binary64.ofInt b)
  | text a, text b => some (compare a b)
  | bool a, bool b => some (compare a b)
  | bytes a, bytes b => some (compare a b)
  | _, _ => none

/-- Whether two values are one value. Kinds are kept apart; among binary64 numbers the zeros are
one, and what is no number differs from everything. -/
def same : Value → Value → Bool
  | real a, real b => a.compare? b = some .eq
  | a, b => a = b

end Value

end KeyStore
