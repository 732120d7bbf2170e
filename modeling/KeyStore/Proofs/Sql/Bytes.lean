import Mathlib.Data.List.Forall2
import KeyStore.Document.Reader
import KeyStore.Statement

/-!
# Reading byte strings back

A database takes text for a byte string in two forms. After a backslash and an `x` the bytes are
pairs of hexadecimal digits. In the other form a backslash stands before a second one or before
three octal digits, and every other character is its own bytes.

What `escapeBytes` writes is of the other form and all in octal, so it is read as the bytes that
were written.

Main statement: `Query.escapeBytes_faithful`.
-/

namespace KeyStore

namespace Sql

/-- The value of an octal digit. -/
def octalDigit? (c : Char) : Option Nat :=
  if '0' ≤ c ∧ c ≤ '7' then some (c.toNat - '0'.toNat) else none

/-- The byte that three octal digits stand for. -/
def octalByte? (a b c : Char) : Option UInt8 := do
  let value := 64 * (← octalDigit? a) + 8 * (← octalDigit? b) + (← octalDigit? c)
  if value < 256 then some (UInt8.ofNat value) else none

/-- The bytes of pairs of hexadecimal digits, with gaps between the pairs. -/
def readHexBytes : List Char → Option (List UInt8)
  | [] => some []
  | c :: rest =>
    if Document.isGap c then readHexBytes rest
    else
      match rest with
      | [] => none
      | d :: rest => do
        let byte := UInt8.ofNat (16 * (← Document.hexDigit? c) + (← Document.hexDigit? d))
        (readHexBytes rest).map (byte :: ·)

/-- The bytes of a text in which a backslash stands before octal digits or another backslash. -/
def readEscapedBytes : List Char → Option (List UInt8)
  | [] => some []
  | '\\' :: '\\' :: rest => (readEscapedBytes rest).map ('\\'.toUInt8 :: ·)
  | '\\' :: a :: b :: c :: rest => do
    let byte ← octalByte? a b c
    (readEscapedBytes rest).map (byte :: ·)
  | '\\' :: _ => none
  | c :: rest => (readEscapedBytes rest).map (String.utf8EncodeChar c ++ ·)

/-- The byte string that a text stands for. -/
def readBytes : List Char → Option (List UInt8)
  | '\\' :: 'x' :: digits => readHexBytes digits
  | text => readEscapedBytes text

/-! ### Octal digits -/

theorem octalDigit?_octalDigit (n : Nat) : octalDigit? (octalDigit n) = some (n % 8) := by
  have each : ∀ n < 8, octalDigit? (Char.ofNat ('0'.toNat + n)) = some n := by decide
  exact each (n % 8) (Nat.mod_lt n (by decide))

theorem octalByte?_byteEscape (b : UInt8) :
    octalByte? (octalDigit (b.toNat / 64)) (octalDigit (b.toNat / 8)) (octalDigit b.toNat)
      = some b := by
  have small : b.toNat < 256 := b.toNat_lt
  have value : 64 * (b.toNat / 64 % 8) + 8 * (b.toNat / 8 % 8) + b.toNat % 8 = b.toNat := by omega
  simp only [octalByte?, octalDigit?_octalDigit, Option.bind_eq_bind, Option.bind_some, value,
    if_pos small, UInt8.ofNat_toNat]

/-- What is no octal digit is written for no number. -/
theorem octalDigit_ne {c : Char} (other : octalDigit? c = none) (n : Nat) : octalDigit n ≠ c := by
  rintro rfl
  rw [octalDigit?_octalDigit] at other
  cases other

/-! ### Bytes -/

/-- A byte is read in octal, whatever is behind it. -/
theorem readEscapedBytes_byteEscape (b : UInt8) (rest : List Char) :
    readEscapedBytes (byteEscape b ++ rest) = (readEscapedBytes rest).map (b :: ·) := by
  -- a digit behind the backslash, so the rule for a doubled backslash does not apply
  have unescaped : octalDigit (b.toNat / 64) ≠ '\\' := octalDigit_ne (by decide) _
  rw [byteEscape, List.cons_append, List.cons_append, List.cons_append, List.cons_append,
    List.nil_append, readEscapedBytes, octalByte?_byteEscape]
  · rfl
  · exact fun same => absurd same unescaped

theorem readEscapedBytes_flatMap (bytes : List UInt8) :
    readEscapedBytes (bytes.flatMap byteEscape) = some bytes := by
  induction bytes with
  | nil => rfl
  | cons b bytes ih =>
    rw [List.flatMap_cons, readEscapedBytes_byteEscape, ih]
    rfl

/-- The written form of a byte string has no mark of the hexadecimal form. -/
theorem readBytes_flatMap (bytes : List UInt8) :
    readBytes (bytes.flatMap byteEscape) = readEscapedBytes (bytes.flatMap byteEscape) := by
  cases bytes with
  | nil => rfl
  | cons b bytes =>
    have unmarked : octalDigit (b.toNat / 64) ≠ 'x' := octalDigit_ne (by decide) _
    rw [List.flatMap_cons, byteEscape, List.cons_append, List.cons_append, readBytes]
    exact fun _ same => unmarked (List.cons.inj (List.cons.inj same).2).1

/-- A byte string is read back as it was written. -/
theorem readBytes_escapeBytes (bytes : List UInt8) :
    readBytes (escapeBytes bytes).toList = some bytes := by
  rw [escapeBytes, String.toList_ofList, readBytes_flatMap, readEscapedBytes_flatMap]

end Sql

open Sql

/-! ### Arguments -/

/-- What a value is bound as where only text can be bound: a byte string as a text that stands for
it, every other value as itself. -/
inductive Value.BoundAs : Value → Value → Prop where
  | bytes {bytes : List UInt8} {text : String} (read : readBytes text.toList = some bytes) :
      BoundAs (.bytes bytes) (.text text)
  | itself {value : Value} (other : value.bytes? = none) : BoundAs value value

theorem Value.BoundAs.bytes?_eq_none {value bound : Value} (boundAs : BoundAs value bound) :
    bound.bytes? = none := by
  cases boundAs with
  | bytes read => rfl
  | itself other => exact other

namespace Query

theorem boundAs_escapeValue (value : Value) : value.BoundAs (escapeValue value) := by
  cases value with
  | bytes bytes => exact .bytes (readBytes_escapeBytes bytes)
  | _ => exact .itself rfl

theorem boundAs_escapeBytes (query : Query) :
    List.Forall₂ Value.BoundAs query.args query.escapeBytes.args := by
  rw [escapeBytes, List.forall₂_map_right_iff, List.forall₂_same]
  exact fun value _ => boundAs_escapeValue value

/-- No byte string is left among the arguments. -/
theorem bytes?_of_mem_escapeBytes {query : Query} {value : Value}
    (bound : value ∈ query.escapeBytes.args) : value.bytes? = none := by
  obtain ⟨before, -, rfl⟩ := List.mem_map.1 bound
  exact (boundAs_escapeValue before).bytes?_eq_none

/-- A byte string that is written as text is read back, and writing those among the arguments of a
query leaves its text, the other arguments, and the number and the order of all as they were. -/
theorem escapeBytes_faithful :
    (∀ bytes : List UInt8, readBytes (Sql.escapeBytes bytes).toList = some bytes) ∧
    ∀ query : Query,
      (∀ dialect, query.escapeBytes.sql dialect = query.sql dialect) ∧
      List.Forall₂ Value.BoundAs query.args query.escapeBytes.args ∧
      ∀ value ∈ query.escapeBytes.args, value.bytes? = none :=
  ⟨readBytes_escapeBytes, fun query =>
    ⟨fun _ => rfl, boundAs_escapeBytes query, fun _ => bytes?_of_mem_escapeBytes⟩⟩

/-- A backslash among the bytes is no escape, and a text that looks like bytes is no byte string. -/
theorem escapeBytes_faithful_backslash :
    let query : Query := ⟨.delete "keys" [], [.bytes [0x5C, 0x78, 0xFF], .null, .text "\\x7"]⟩
    query.escapeBytes.args = [.text "\\134\\170\\377", .null, .text "\\x7"] ∧
    readBytes "\\134\\170\\377".toList = some [0x5C, 0x78, 0xFF] ∧
    query.escapeBytes.sql .sqlite = query.sql .sqlite ∧
    List.Forall₂ Value.BoundAs query.args query.escapeBytes.args ∧
    .text "\\134\\170\\377" ∈ query.escapeBytes.args ∧
    (Value.text "\\134\\170\\377").bytes? = none := by
  intro query
  have args : query.escapeBytes.args
      = [.text "\\134\\170\\377", .null, .text "\\x7"] := by decide
  have bound : .text "\\134\\170\\377" ∈ query.escapeBytes.args := by
    rw [args]
    exact List.mem_cons_self
  have kept := escapeBytes_faithful.2 query
  exact ⟨args, escapeBytes_faithful.1 [0x5C, 0x78, 0xFF], kept.1 .sqlite, kept.2.1, bound,
    kept.2.2 _ bound⟩

end Query

end KeyStore
