import KeyStore.FieldMap
import KeyStore.Value

/-!
# Records

A record is a row as callers see it: a value for each of its fields, in the order of the field
names. A field that is missing reads as NULL.
-/

namespace KeyStore

/-- A row: values by field name. -/
abbrev Record := FieldMap Value

namespace Record

/-- The value of `field`, NULL if it is missing. -/
def value (record : Record) (field : String) : Value := (record.get? field).getD .null

/-- The text of `field`, if it holds text. -/
def text? (record : Record) (field : String) : Option String := (value record field).text?

/-- The integer of `field`, if it holds one. -/
def int? (record : Record) (field : String) : Option Int64 := (value record field).int?

/-- Keeps the listed fields only. -/
def project (record : Record) (keep : List String) : Record :=
  record.filter fun field _ => keep.contains field

end Record

end KeyStore
