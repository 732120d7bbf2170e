import KeyStore.Relation

/-!
# The relations of a keyring

Six tables hold keys, identities, attributes and signatures. Three views are computed from them:
keys that are bound to another key, and the identities and attributes that their own key has
signed.
-/

namespace KeyStore.Relation

/-- Keys. -/
def keys : Relation where
  name := "keys"
  form := .table
  kind := .key
  columns :=
    [⟨"id", .text⟩, ⟨"fingerprint", .text⟩, ⟨"binary", .bytes⟩, ⟨"date", .int⟩, ⟨"expires", .int⟩,
      ⟨"revoked", .text⟩, ⟨"security", .int⟩]
  primaryKey := ["id"]
  payload := .stored "binary"

/-- Keys that a binding signature ties to a parent. -/
def subkeys : Relation where
  name := "keys_subkeys"
  form := .view
  kind := .subkey
  columns :=
    [⟨"parentkey", .text⟩, ⟨"id", .text⟩, ⟨"fingerprint", .text⟩, ⟨"binary", .bytes⟩,
      ⟨"security", .int⟩, ⟨"date", .int⟩, ⟨"expires", .int⟩, ⟨"revoked", .text⟩]
  primaryKey := ["parentkey", "id"]
  payload := .stored "binary"

/-- The columns of an identity. -/
def identityColumns : List Column :=
  [⟨"key", .text⟩, ⟨"id", .text⟩, ⟨"name", .text⟩, ⟨"email", .text⟩]

/-- The columns of an attribute. -/
def attributeColumns : List Column := [⟨"key", .text⟩, ⟨"id", .text⟩, ⟨"binary", .bytes⟩]

/-- What a signature over the entry itself says about it. -/
def standingColumns : List Column := [⟨"expires", .int⟩, ⟨"revoked", .text⟩]

/-- The columns of a signature after those that name what is signed. -/
def signatureColumns : List Column :=
  [⟨"id", .text⟩, ⟨"issuer", .text⟩, ⟨"date", .int⟩, ⟨"binary", .bytes⟩, ⟨"verified", .bool⟩,
    ⟨"sigtype", .int⟩, ⟨"expires", .int⟩, ⟨"revoked", .text⟩, ⟨"security", .int⟩]

/-- User ids of keys; the id is the packet. -/
def identities : Relation where
  name := "keys_identities"
  form := .table
  kind := .identity
  columns := identityColumns
  primaryKey := ["key", "id"]
  payload := .derived "id"

/-- User ids that their key has signed. -/
def selfSignedIdentities : Relation where
  name := "keys_identities_selfsigned"
  form := .view
  kind := .identity
  columns := identityColumns ++ standingColumns
  primaryKey := ["key", "id"]
  payload := .derived "id"

/-- User attributes of keys. -/
def attributes : Relation where
  name := "keys_attributes"
  form := .table
  kind := .userAttribute
  columns := attributeColumns
  primaryKey := ["key", "id"]
  payload := .stored "binary"

/-- User attributes that their key has signed. -/
def selfSignedAttributes : Relation where
  name := "keys_attributes_selfsigned"
  form := .view
  kind := .userAttribute
  columns := attributeColumns ++ standingColumns
  primaryKey := ["key", "id"]
  payload := .stored "binary"

/-- Signatures on keys and subkeys. -/
def keySignatures : Relation where
  name := "keys_signatures"
  form := .table
  kind := .signature
  columns := ⟨"key", .text⟩ :: signatureColumns
  primaryKey := ["key", "id"]
  payload := .stored "binary"

/-- Signatures on user ids. -/
def identitySignatures : Relation where
  name := "keys_identities_signatures"
  form := .table
  kind := .signature
  columns := ⟨"key", .text⟩ :: ⟨"identity", .text⟩ :: signatureColumns
  primaryKey := ["key", "identity", "id"]
  payload := .stored "binary"

/-- Signatures on user attributes. -/
def attributeSignatures : Relation where
  name := "keys_attributes_signatures"
  form := .table
  kind := .signature
  columns := ⟨"key", .text⟩ :: ⟨"attribute", .text⟩ :: signatureColumns
  primaryKey := ["key", "attribute", "id"]
  payload := .stored "binary"

/-- All relations. -/
def catalogue : List Relation :=
  [keys, subkeys, identities, selfSignedIdentities, attributes, selfSignedAttributes, keySignatures,
    identitySignatures, attributeSignatures]

end KeyStore.Relation
