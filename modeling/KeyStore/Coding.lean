/-!
# Codings of values as texts

A coding turns the parts of a value into something that can be printed, and back. A value is a text,
a truth value, a number or nothing; or it has fields by name; or it is one variant of several, whose
name is told by a field of its own, the tag. How any of this is written is up to the coding.

`Coding.Lawful` says what is relied on: what was printed can be parsed, and each kind of value can
be read from what was made of its parts. A reader of fields passes over those it does not know, and
learns which are missing.
-/

namespace KeyStore

/-- A way of writing values as texts and of reading them. -/
structure Coding where
  /-- What stands between a value and its text. -/
  Encoded : Type
  /-- The text of a value, on several lines. -/
  print : Encoded → Except String String
  /-- What the text stands for. -/
  parse : String → Except String Encoded
  text : String → Encoded
  bool : Bool → Encoded
  number : UInt64 → Encoded
  /-- A part that may be absent, and is. -/
  absent : Encoded
  /-- The fields of a value. -/
  fields : List (String × Encoded) → Encoded
  /-- The name of a variant under a tag, and its fields. -/
  variant : (tag name : String) → List (String × Encoded) → Encoded
  isAbsent : Encoded → Bool
  readText : Encoded → Except String String
  readBool : Encoded → Except String Bool
  readNumber : Encoded → Except String UInt64
  /-- What is said of each of the named fields, if anything is. -/
  readFields : (names : List String) → Encoded → Except String (String → Option Encoded)
  /-- Reads the fields of a variant in the way of the variant. -/
  readVariant : {α : Type} → (tag : String) →
    (variants : List (String × (Encoded → Except String α))) → Encoded → Except String α
  /-- What is wrong where a field is missing. -/
  missing : (field : String) → String

namespace Coding

variable (coding : Coding) {α : Type}

/-- Encodes a part that may be absent. -/
def optional (encode : α → coding.Encoded) : Option α → coding.Encoded
  | some part => encode part
  | none => coding.absent

/-- Reads a field that must be there. -/
def require (read : coding.Encoded → Except String α) (found : String → Option coding.Encoded)
    (field : String) : Except String α :=
  match found field with
  | some part => read part
  | none => .error (coding.missing field)

/-- Reads a field that may be missing, or say that its part is absent. -/
def readOptional (read : coding.Encoded → Except String α)
    (found : String → Option coding.Encoded) (field : String) : Except String (Option α) :=
  match found field with
  | some part => if coding.isAbsent part then .ok none else (read part).map some
  | none => .ok none

/-! ### What is relied on -/

/-- The value is made of parts, with fields within fields at most `depth` times. -/
inductive Built : (depth : Nat) → coding.Encoded → Prop
  | text {depth} (s : String) : Built depth (coding.text s)
  | bool {depth} (b : Bool) : Built depth (coding.bool b)
  | number {depth} (n : UInt64) : Built depth (coding.number n)
  | absent {depth} : Built depth coding.absent
  | fields {depth} {members : List (String × coding.Encoded)}
    (distinct : (members.map (·.1)).Nodup) (each : ∀ member ∈ members, Built depth member.2) :
    Built (depth + 1) (coding.fields members)
  | variant {depth} {tag name : String} {members : List (String × coding.Encoded)}
    (distinct : (tag :: members.map (·.1)).Nodup)
    (each : ∀ member ∈ members, Built depth member.2) :
    Built (depth + 1) (coding.variant tag name members)

/-- How often fields may be within fields in what is parsed. -/
def depthLimit : Nat := 127

/-- How often they may be within the fields of a variant. These are kept until its name is known,
and the variant may be a field itself. -/
def variantLimit : Nat := depthLimit - 2

/-- The coding reads what it has written. -/
structure Lawful : Prop where
  parse_print : ∀ value, coding.Built depthLimit value →
    ∃ text, coding.print value = .ok text ∧ coding.parse text = .ok value
  readText_text : ∀ s, coding.readText (coding.text s) = .ok s
  readBool_bool : ∀ b, coding.readBool (coding.bool b) = .ok b
  readNumber_number : ∀ n, coding.readNumber (coding.number n) = .ok n
  isAbsent_absent : coding.isAbsent coding.absent = true
  isAbsent_text : ∀ s, coding.isAbsent (coding.text s) = false
  isAbsent_bool : ∀ b, coding.isAbsent (coding.bool b) = false
  isAbsent_number : ∀ n, coding.isAbsent (coding.number n) = false
  isAbsent_fields : ∀ members, coding.isAbsent (coding.fields members) = false
  /-- Fields are found by their names, in any order and among others. -/
  readFields_fields : ∀ names members, (members.map (·.1)).Nodup →
    ∃ found, coding.readFields names (coding.fields members) = .ok found ∧
      ∀ name ∈ names, found name = members.lookup name
  /-- The name under the tag decides how the other fields are read. -/
  readVariant_variant : ∀ {α : Type} (tag name : String) (members : List (String × coding.Encoded))
    (variants : List (String × (coding.Encoded → Except String α)))
    (read : coding.Encoded → Except String α),
    (tag :: members.map (·.1)).Nodup →
    (∀ member ∈ members, coding.Built variantLimit member.2) →
    variants.lookup name = some read →
    coding.readVariant tag variants (coding.variant tag name members) = read (coding.fields members)

end Coding

end KeyStore
