import KeyStore.Entries.Writing
import KeyStore.Keyring.Collection
import KeyStore.Value.Description

/-!
# Keyrings

The operations on a keyring: listing, looking up, adding, changing and removing the entries of its
collections, and ending the transaction that the changes have opened.

An entry on which others hang is not removed; such a refusal leaves the transaction as it was.
-/

namespace KeyStore

namespace StoreError

/-- An id is not a text. -/
def idNotText (relation field : String) (found : Value) : StoreError :=
  .storage ("expected text in " ++ relation ++ "." ++ field ++ ", found " ++ found.description)

/-- There is no key to add a subkey to. -/
def unknownParent (key : String) : StoreError :=
  .validation ("cannot add subkey to unknown key " ++ key)

/-- Others hang on the entry. -/
def stillHas (entry label : String) : StoreError :=
  .dependencyExists (entry ++ " still has " ++ label)

end StoreError

/-- A keyring in a schema of a database. -/
structure Keyring where
  dialect : Sql.Dialect
  schema : String
deriving DecidableEq, Repr, Inhabited

namespace Keyring

/-! ### Reading -/

/-- The texts of an id field. -/
def ids (keyring : Keyring) (relation : Relation) (field : String) (conditions : Conditions) :
    Sequence Store String :=
  (Entries.values keyring.dialect relation field conditions).map fun value =>
    match value with
    | .text id => .done id
    | value => .fail (.idNotText relation.name field value)

/-- The ids of the entries of a collection. -/
def list (keyring : Keyring) (collection : Collection) (conditions : Conditions) :
    Sequence Store String :=
  keyring.ids collection.relation "id" (collection.restrict conditions)

/-- The entries of a collection. -/
def entries (keyring : Keyring) (collection : Collection) (conditions : Conditions)
    (fields : Option (List String)) : Sequence Store Record :=
  Entries.all keyring.dialect collection.relation (collection.restrict conditions) fields

/-- The entries of a collection that their key has signed. -/
def selfSignedEntries (keyring : Keyring) (collection : Collection) (conditions : Conditions)
    (fields : Option (List String)) : Sequence Store Record :=
  Entries.all keyring.dialect collection.selfSigned (collection.restrict conditions) fields

/-- Whether a collection holds an entry. -/
def contains (keyring : Keyring) (collection : Collection) (id : String) : Action Store Bool :=
  Entries.exist keyring.dialect collection.relation (collection.entry id)

/-- An entry of a collection. -/
def find? (keyring : Keyring) (collection : Collection) (id : String)
    (fields : Option (List String)) : Action Store (Option Record) :=
  Entries.first? keyring.dialect collection.relation (collection.entry id) fields

/-- An entry of a collection, if its key has signed it. -/
def findSelfSigned? (keyring : Keyring) (collection : Collection) (id : String)
    (fields : Option (List String)) : Action Store (Option Record) :=
  Entries.first? keyring.dialect collection.selfSigned (collection.entry id) fields

/-- The keys that a subkey is bound to. -/
def parents (keyring : Keyring) (subkey : String) : Sequence Store String :=
  keyring.ids Relation.subkeys "parentkey" (Scope.conditions [("id", subkey)])

/-! ### Writing -/

/-- The first kind of entry that hangs on another. -/
def firstDependent? (keyring : Keyring) :
    List Collection.Dependents → Action Store (Option String)
  | [] => .done none
  | dependents :: rest => do
    if ← Entries.exist keyring.dialect dependents.relation dependents.scope.conditions then
      return some dependents.label
    else firstDependent? keyring rest

/-- Adds an entry to the relation of a collection. What it says about its owners is replaced by what
the collection says. -/
def insert (keyring : Keyring) (collection : Collection) (record : Record) : Action Store Unit :=
  Entries.add keyring.dialect collection.target (collection.stamp.record.overlay record)

/-- Adds an entry; a subkey only to a key that is there. -/
def add (keyring : Keyring) (collection : Collection) (record : Record) : Action Store Unit :=
  match collection with
  | .subkeys key => do
    if ← keyring.contains .keys key then keyring.insert collection record
    else .fail (.unknownParent key)
  | _ => keyring.insert collection record

/-- Changes an entry. -/
def update (keyring : Keyring) (collection : Collection) (id : String) (record : Record) :
    Action Store Unit := do
  let _ ← Entries.update keyring.dialect collection.target record (collection.targetEntry id)

/-- Removes an entry on which none hangs. -/
def remove (keyring : Keyring) (collection : Collection) (id : String) : Action Store Unit := do
  match ← keyring.firstDependent? (collection.dependents id) with
  | some label => .fail (.stillHas (collection.describe id) label)
  | none =>
    let _ ← Entries.remove keyring.dialect collection.target (collection.targetEntry id)

/-! ### Transactions -/

/-- Keeps all changes since the last time. -/
def save : Action Store Unit := Store.transact .commit

/-- Takes back all changes since the last time. -/
def revert : Action Store Unit := Store.transact .rollback

end Keyring

end KeyStore
