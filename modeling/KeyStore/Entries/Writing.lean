import KeyStore.Entries

/-!
# Writing entries

Every write opens a transaction first, which stays open. Conditions that only the process can test
are resolved to primary keys, and each row is then written by a statement of its own. The rows that
statements affect are counted in 64 bits.
-/

namespace KeyStore

/-- The relation is a view. -/
def StoreError.readOnly (relation : String) : StoreError :=
  .validation (relation ++ " is a view and cannot be written")

namespace Entries

/-- Fails for a view. -/
def ensureWritable (relation : Relation) : Except StoreError Unit :=
  if relation.isWritable then .ok () else .error (.readOnly relation.name)

/-- The conditions that only the row with this primary key satisfies. -/
def identify (relation : Relation) (row : Record) : Conditions :=
  .ofList (relation.primaryKey.map fun column => (column, .equals (row.value column)))

/-- The rows that satisfy the conditions, each by its primary key. -/
def targets (dialect : Sql.Dialect) (relation : Relation) (conditions : Conditions) :
    Sequence Store Conditions :=
  (all dialect relation conditions (some relation.primaryKey)).map fun row =>
    .done (identify relation row)

/-- Puts a statement to the database for the rows that satisfy the conditions, and counts what it
affects: one statement for all of them, or one for each if part of the conditions is tested in
process. -/
def writeRows (dialect : Sql.Dialect) (relation : Relation) (conditions : Conditions)
    (statement : Conditions → Except StoreError Query) : Action Store UInt64 := do
  let plan := filterPlan dialect relation conditions
  Store.transact .begin
  if plan.app.isEmpty then
    let query ← statement plan.sql
    Store.execute query
  else
    (targets dialect relation conditions).fold (fun count target => do
      let query ← statement target
      let affected ← Store.execute query
      return count + affected) 0

/-- Adds an entry. -/
def add (dialect : Sql.Dialect) (relation : Relation) (record : Record) : Action Store Unit := do
  ensureWritable relation
  let query ← Query.insert dialect relation record
  Store.transact .begin
  let _ ← Store.execute query

/-- Changes the entries that satisfy the conditions, and counts them. Without a field that is stored
nothing happens. -/
def update (dialect : Sql.Dialect) (relation : Relation) (record : Record)
    (conditions : Conditions) : Action Store UInt64 := do
  ensureWritable relation
  let fields := relation.storable record
  if fields.isEmpty then return 0
  else writeRows dialect relation conditions (Query.update dialect relation fields)

/-- Removes the entries that satisfy the conditions, and counts them. -/
def remove (dialect : Sql.Dialect) (relation : Relation) (conditions : Conditions) :
    Action Store UInt64 := do
  ensureWritable relation
  writeRows dialect relation conditions (Query.delete dialect relation)

end Entries

end KeyStore
