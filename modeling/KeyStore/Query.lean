import KeyStore.Conditions
import KeyStore.Relation
import KeyStore.Statement

/-!
# Queries on a relation

The four statements on the rows of one relation. Values are bound in the order of the text: in an
update the new values come first and the conditions continue after them. Only columns are written.
-/

namespace KeyStore

namespace StoreError

/-- There is nothing to insert. -/
def nothingToInsert (relation : String) : StoreError :=
  .validation ("no storable fields to insert into " ++ relation)

/-- There is nothing to update. -/
def nothingToUpdate (relation : String) : StoreError :=
  .validation ("no storable fields to update in " ++ relation)

end StoreError

namespace Query

/-- The fields of a record with what stands for their values, and the arguments after them. -/
def bindFields (args : Sql.Arguments) (record : Record) :
    List (String × Sql.Operand) × Sql.Arguments :=
  let (operands, args) := args.pushAll (record.toList.map (·.2))
  (record.fields.zip operands, args)

/-- A statement on the rows that satisfy `conditions`, whose arguments come after `args`. -/
def onRows (args : Sql.Arguments) (conditions : Conditions)
    (statement : List Sql.Condition → Statement) : Except StoreError Query :=
  match Conditions.bind conditions args with
  | (.error e, _) => .error e
  | (.ok parts, args) => .ok ⟨statement parts, args.values⟩

/-- Reads rows. -/
def select (dialect : Sql.Dialect) (relation : Relation) (projection : Projection)
    (conditions : Conditions) (suffix : Option String) : Except StoreError Query :=
  onRows (.empty dialect) conditions fun parts => .select projection relation.name parts suffix

/-- Adds a row. -/
def insert (dialect : Sql.Dialect) (relation : Relation) (record : Record) :
    Except StoreError Query :=
  let fields := relation.storable record
  if fields.isEmpty then .error (.nothingToInsert relation.name)
  else
    let (row, args) := bindFields (.empty dialect) fields
    .ok ⟨.insert relation.name row, args.values⟩

/-- Changes rows. -/
def update (dialect : Sql.Dialect) (relation : Relation) (record : Record)
    (conditions : Conditions) : Except StoreError Query :=
  let fields := relation.storable record
  if fields.isEmpty then .error (.nothingToUpdate relation.name)
  else
    let (assignments, args) := bindFields (.empty dialect) fields
    onRows args conditions (.update relation.name assignments)

/-- Removes rows. -/
def delete (dialect : Sql.Dialect) (relation : Relation) (conditions : Conditions) :
    Except StoreError Query :=
  onRows (.empty dialect) conditions (.delete relation.name)

end Query

end KeyStore
