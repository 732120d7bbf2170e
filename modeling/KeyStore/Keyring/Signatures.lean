import KeyStore.Keyring

/-!
# Signatures by issuer

All signatures of a kind that one key has made, each by what is signed and its own id.
-/

namespace KeyStore

/-- A field that names an entry holds no text. -/
def StoreError.fieldNotText (relation field : String) : StoreError :=
  .storage (relation ++ "." ++ field ++ " is missing or not text")

/-- What is signed. -/
inductive SignedKind where
  | key
  | subkey
  | identity
  | userAttribute
deriving DecidableEq, Repr, Inhabited

/-- A signature by what is signed and its own id. -/
inductive SignatureRef where
  | onKey (key signature : String)
  | onSubkey (key subkey signature : String)
  | onIdentity (key identity signature : String)
  | onAttribute (key owner signature : String)
deriving DecidableEq, Repr, Inhabited

namespace SignedKind

/-- The relation of the signatures. -/
def relation : SignedKind → Relation
  | key => Relation.keySignatures
  | subkey => Relation.keySignatures
  | identity => Relation.identitySignatures
  | userAttribute => Relation.attributeSignatures

/-- The types of signature that belong to the kind, if not all do. -/
def signatureTypes? : SignedKind → Option (List SignatureType)
  | key => some SignatureType.onKey
  | subkey => some SignatureType.onSubkey
  | _ => none

/-- The fields that name a signature. The key of a subkey is the issuer of the signature. -/
def fields : SignedKind → List String
  | key => ["key", "id"]
  | subkey => ["issuer", "key", "id"]
  | identity => ["key", "identity", "id"]
  | userAttribute => ["key", "attribute", "id"]

end SignedKind

namespace SignatureRef

/-- The text of a field that names an entry. -/
def text (relation : Relation) (row : Record) (field : String) : Except StoreError String :=
  match row.text? field with
  | some text => .ok text
  | none => .error (.fieldNotText relation.name field)

/-- The signature that a row holds. -/
def ofRow (kind : SignedKind) (row : Record) : Except StoreError SignatureRef :=
  let relation := kind.relation
  match kind with
  | .key => return .onKey (← text relation row "key") (← text relation row "id")
  | .subkey =>
    return .onSubkey (← text relation row "issuer") (← text relation row "key")
      (← text relation row "id")
  | .identity =>
    return .onIdentity (← text relation row "key") (← text relation row "identity")
      (← text relation row "id")
  | .userAttribute =>
    return .onAttribute (← text relation row "key") (← text relation row "attribute")
      (← text relation row "id")

end SignatureRef

namespace Keyring

/-- The signatures of a kind that `issuer` has made. -/
def signaturesBy (keyring : Keyring) (kind : SignedKind) (issuer : String)
    (conditions : Conditions) : Sequence Store SignatureRef :=
  let typed :=
    match kind.signatureTypes? with
    | some types => conditions.restrict "sigtype" (SignatureType.oneOf types)
    | none => conditions
  let narrowed := typed.within (Scope.conditions [("issuer", issuer)])
  (Entries.all keyring.dialect kind.relation narrowed (some kind.fields)).map fun row =>
    .ofExcept (SignatureRef.ofRow kind row)

end Keyring

end KeyStore
