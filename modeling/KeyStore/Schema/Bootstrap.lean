import KeyStore.Keyring
import KeyStore.Schema.Script
import KeyStore.Schema.Structure

/-!
# Creating the structure of a keyring

Objects that are not there are created one by one. Which are there is asked once, before the first
is created; a failure is noted and the rest are created all the same.
-/

namespace KeyStore

namespace Schema

/-- What has become of each object, by name and in order. -/
structure Report where
  created : List String
  skipped : List String
  failed : List (String × StoreError)
deriving DecidableEq, Repr

/-- Whether nothing failed. -/
def Report.isComplete (report : Report) : Bool := report.failed.isEmpty

end Schema

namespace Keyring

/-- The question for the names in the schema. -/
def namesQuery (keyring : Keyring) : Query :=
  { statement := .relationNames keyring.schema
    args :=
      match keyring.dialect with
      | .postgres => [.text keyring.schema]
      | .sqlite => [] }

/-- The names of the tables, views and indexes in the schema, each once and sorted. -/
def relationNames (keyring : Keyring) : Action Store (List String) := do
  let rows ← Store.fetch keyring.namesQuery [⟨"name", .text⟩]
  let names := rows.filterMap fun row => row.text? "name"
  return (FieldMap.ofList (names.map fun name => (name, ()))).fields

/-- Creates the objects whose names are not among `present`, and adds to a report what has become of
each. -/
def createMissing (keyring : Keyring) (present : List String) :
    List Schema.Object → Schema.Report → Action Store Schema.Report
  | [], report => .done report
  | object :: rest, report =>
    if present.contains object.name then
      createMissing keyring present rest { report with skipped := report.skipped ++ [object.name] }
    else do
      match ← (Store.execute ⟨.create keyring.schema object, []⟩).attempt with
      | .ok _ =>
        createMissing keyring present rest
          { report with created := report.created ++ [object.name] }
      | .error error =>
        createMissing keyring present rest
          { report with failed := report.failed ++ [(object.name, error)] }

/-- Creates the objects that are not there. -/
def bootstrap (keyring : Keyring) (objects : List Schema.Object) : Action Store Schema.Report := do
  let present ← keyring.relationNames
  keyring.createMissing present objects ⟨[], [], []⟩

/-- Creates the relations of a keyring that are not there. -/
def initialise (keyring : Keyring) : Action Store Schema.Report := do
  let objects ← Schema.parse Schema.keyringScript
  keyring.bootstrap objects

end Keyring

end KeyStore
