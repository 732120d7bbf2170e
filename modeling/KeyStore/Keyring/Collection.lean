import KeyStore.Conditions
import KeyStore.Relation.Catalogue

/-!
# Collections

A keyring is a tree of collections: keys; the subkeys, identities and attributes of a key; the
signatures on each of these. A collection knows the relation it is read from and what singles its
entries out among the rows: the ids of its owners, and for signatures on keys and subkeys the
types of signature.
-/

namespace KeyStore

/-- The types of signature (RFC 4880, 5.2.1) that tell what a signature on a key says. -/
structure SignatureType where
  code : Int64
deriving DecidableEq, Repr

namespace SignatureType

/-- Binds a subkey to its key. -/
def subkeyBinding : SignatureType := ⟨0x18⟩

/-- Binds a signing subkey to its key, made by the subkey. -/
def primaryKeyBinding : SignatureType := ⟨0x19⟩

/-- Says something about a key itself. -/
def directKey : SignatureType := ⟨0x1F⟩

/-- Revokes a key. -/
def keyRevocation : SignatureType := ⟨0x20⟩

/-- Revokes a subkey. -/
def subkeyRevocation : SignatureType := ⟨0x28⟩

/-- The types of signature over a key itself. -/
def onKey : List SignatureType := [directKey, keyRevocation, primaryKeyBinding]

/-- The types of signature that bind a subkey to its key or end that. -/
def onSubkey : List SignatureType := [subkeyBinding, subkeyRevocation]

/-- Asks for one of the types. -/
def oneOf (types : List SignatureType) : Filter := .anyOf (types.map fun type => .int type.code)

end SignatureType

/-- Fields that must have the given texts. -/
abbrev Scope := List (String × String)

namespace Scope

/-- Asks for the texts of the scope. -/
def conditions (scope : Scope) : Conditions :=
  .ofList (scope.map fun (field, text) => (field, .equals (.text text)))

/-- The texts of the scope as a record. -/
def record (scope : Scope) : Record :=
  .ofList (scope.map fun (field, text) => (field, .text text))

end Scope

/-- A collection of a keyring, by the ids of its owners. -/
inductive Collection where
  | keys
  | subkeys (key : String)
  | identities (key : String)
  | attributes (key : String)
  | keySignatures (key : String)
  | subkeySignatures (key subkey : String)
  | identitySignatures (key identity : String)
  | attributeSignatures (key owner : String)
deriving DecidableEq, Repr, Inhabited

namespace Collection

/-- The relation that the entries are read from. -/
def relation : Collection → Relation
  | keys => Relation.keys
  | subkeys _ => Relation.subkeys
  | identities _ => Relation.identities
  | attributes _ => Relation.attributes
  | keySignatures _ => Relation.keySignatures
  | subkeySignatures _ _ => Relation.keySignatures
  | identitySignatures _ _ => Relation.identitySignatures
  | attributeSignatures _ _ => Relation.attributeSignatures

/-- The relation of the entries that their key has signed. A subkey is one by such a signature. -/
def selfSigned : Collection → Relation
  | identities _ => Relation.selfSignedIdentities
  | attributes _ => Relation.selfSignedAttributes
  | collection => collection.relation

/-- What the owners of an entry are. -/
def owners : Collection → Scope
  | keys => []
  | subkeys key => [("parentkey", key)]
  | identities key => [("key", key)]
  | attributes key => [("key", key)]
  | keySignatures key => [("key", key)]
  | subkeySignatures key subkey => [("key", subkey), ("issuer", key)]
  | identitySignatures key identity => [("key", key), ("identity", identity)]
  | attributeSignatures key owner => [("key", key), ("attribute", owner)]

/-- The types of signature that belong to the collection, if it is not open to all. -/
def signatureTypes? : Collection → Option (List SignatureType)
  | keySignatures _ => some SignatureType.onKey
  | subkeySignatures _ _ => some SignatureType.onSubkey
  | _ => none

/-- Narrows conditions to the types of signature that belong to the collection. -/
def ofTypes (collection : Collection) (conditions : Conditions) : Conditions :=
  match collection.signatureTypes? with
  | some types => conditions.restrict "sigtype" (SignatureType.oneOf types)
  | none => conditions

/-- Narrows conditions to the entries of the collection. -/
def restrict (collection : Collection) (conditions : Conditions) : Conditions :=
  collection.ofTypes (conditions.within collection.owners.conditions)

/-- Asks for one entry of the collection. -/
def entry (collection : Collection) (id : String) : Conditions :=
  collection.ofTypes (Scope.conditions (collection.owners ++ [("id", id)]))

/-- The relation that entries are written to: a subkey is written as a key. -/
def target : Collection → Relation
  | subkeys _ => Relation.keys
  | collection => collection.relation

/-- Asks for the row that holds an entry. -/
def targetEntry (collection : Collection) (id : String) : Conditions :=
  match collection with
  | subkeys _ => entry keys id
  | collection => collection.entry id

/-- What a new entry must say about its owners. A subkey says nothing: its signatures do. -/
def stamp : Collection → Scope
  | subkeys _ => []
  | collection => collection.owners

/-- Entries that may hang on another: what they are called, and where they are found. -/
structure Dependents where
  label : String
  relation : Relation
  scope : Scope

/-- What may hang on a key. -/
def ofKey (id : String) : List Dependents :=
  [⟨"identities", Relation.identities, [("key", id)]⟩,
    ⟨"attributes", Relation.attributes, [("key", id)]⟩,
    ⟨"subkeys", Relation.subkeys, [("parentkey", id)]⟩,
    ⟨"signatures", Relation.keySignatures, [("key", id)]⟩]

/-- What may hang on an entry. -/
def dependents (collection : Collection) (id : String) : List Dependents :=
  match collection with
  | keys => ofKey id
  | subkeys _ => ofKey id
  | identities key =>
    [⟨"signatures", Relation.identitySignatures, (identitySignatures key id).owners⟩]
  | attributes key =>
    [⟨"signatures", Relation.attributeSignatures, (attributeSignatures key id).owners⟩]
  | _ => []

/-- What an entry is called when it cannot be removed. -/
def describe (collection : Collection) (id : String) : String :=
  match collection with
  | identities key => "identity " ++ id ++ " of key " ++ key
  | attributes key => "attribute " ++ id ++ " of key " ++ key
  | _ => "key " ++ id

end Collection

end KeyStore
