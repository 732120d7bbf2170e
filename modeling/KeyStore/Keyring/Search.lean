import KeyStore.Keyring

/-!
# Searching a keyring

Identities are found by a part of their user id, keys by their id or fingerprint. A key is
reported as itself if anything hangs on it, and once for each key that it is bound to as a subkey.
-/

namespace KeyStore

namespace StoreError

/-- A row of the search for identities does not say which key it belongs to. -/
def matchWithoutKey : StoreError := .storage "identity search row without key id"

/-- A row of the search for identities does not say which identity it is. -/
def matchWithoutId : StoreError := .storage "identity search row without identity id"

/-- A row does not say which key it is. -/
def keyWithoutId : StoreError := .storage "key row without id"

end StoreError

/-- An identity as its key has signed it. -/
structure IdentitySummary where
  id : String
  name : Option String
  email : Option String
  expires : Option Int64
  revoked : Option String
deriving DecidableEq, Repr, Inhabited

/-- An identity that was found, with its key. -/
structure IdentityMatch where
  keyId : String
  keyExpires : Option Int64
  keyRevoked : Option String
  identity : IdentitySummary
deriving DecidableEq, Repr, Inhabited

/-- A subkey as the key that it is bound to knows it. -/
structure SubkeyMatch where
  id : String
  expires : Option Int64
  revoked : Option String
deriving DecidableEq, Repr, Inhabited

/-- A key that was found, by itself or by a subkey. -/
structure KeyMatch where
  id : String
  expires : Option Int64
  revoked : Option String
  subkey : Option SubkeyMatch
deriving DecidableEq, Repr, Inhabited

/-- The identity of a row. -/
def IdentityMatch.ofRow (row : Record) : Except StoreError IdentityMatch :=
  match row.text? "keyId", row.text? "id" with
  | none, _ => .error .matchWithoutKey
  | some _, none => .error .matchWithoutId
  | some keyId, some id =>
    .ok
      { keyId
        keyExpires := row.int? "keyExpires"
        keyRevoked := row.text? "keyRevoked"
        identity :=
          { id
            name := row.text? "name"
            email := row.text? "email"
            expires := row.int? "expires"
            revoked := row.text? "revoked" } }

/-- The key of a row. -/
def KeyMatch.ofRow (row : Record) : Except StoreError KeyMatch :=
  match row.text? "id" with
  | none => .error .keyWithoutId
  | some id =>
    .ok { id, expires := row.int? "expires", revoked := row.text? "revoked", subkey := none }

namespace Keyring

/-- What a search reads of a key. -/
def summaryFields : List String := ["id", "expires", "revoked"]

/-- What a search reads of a binding. -/
def bindingFields : List String := ["parentkey", "expires", "revoked"]

/-- The columns of the search for identities. -/
def identityShape : RowShape :=
  [⟨"keyId", .text⟩, ⟨"keyExpires", .int⟩, ⟨"keyRevoked", .text⟩, ⟨"id", .text⟩, ⟨"name", .text⟩,
    ⟨"email", .text⟩, ⟨"expires", .int⟩, ⟨"revoked", .text⟩]

/-- The statement of the search for identities. -/
def identityQuery (dialect : Sql.Dialect) (search : String) : Query :=
  let (pattern, args) := (Sql.Arguments.empty dialect).push (.text (Sql.containsPattern search))
  ⟨.findIdentities pattern, args.values⟩

/-- The self-signed identities whose user id contains a text in some letter case. -/
def searchIdentities (keyring : Keyring) (search : String) : Sequence Store IdentityMatch :=
  (Store.rows (identityQuery keyring.dialect search) identityShape).map fun row =>
    .ofExcept (IdentityMatch.ofRow row)

/-- Adds to what was found the key that a binding leads to. A binding without a parent, or with one
that is not there, leads to none. -/
def followBinding (keyring : Keyring) (found : KeyMatch) (foundMatches : List KeyMatch)
    (binding : Record) : Action Store (List KeyMatch) := do
  match binding.text? "parentkey" with
  | none => return foundMatches
  | some parentId =>
    match ← keyring.find? .keys parentId (some summaryFields) with
    | none => return foundMatches
    | some row =>
      let parent ← KeyMatch.ofRow row
      let subkey : SubkeyMatch :=
        { id := found.id, expires := binding.int? "expires", revoked := binding.text? "revoked" }
      return foundMatches ++ [{ parent with subkey := some subkey }]

/-- What is reported of a key that was found. -/
def expandMatch (keyring : Keyring) (row : Record) : Action Store (List KeyMatch) := do
  let found ← KeyMatch.ofRow row
  let used ← keyring.firstDependent? (Collection.ofKey found.id)
  let bindings := Entries.all keyring.dialect Relation.subkeys
    (Scope.conditions [("id", found.id)]) (some bindingFields)
  bindings.fold (keyring.followBinding found) (if used.isSome then [found] else [])

/-- The keys that satisfy the conditions. -/
def searchKeys (keyring : Keyring) (conditions : Conditions) : Sequence Store KeyMatch :=
  (keyring.entries .keys conditions (some summaryFields)).flatMap keyring.expandMatch

/-- The capitals of a text. -/
def capitals (s : String) : String := String.ofList (Text.upper s.toList)

/-- The keys with a short id. -/
def searchShortId (keyring : Keyring) (shortId : String) : Sequence Store KeyMatch :=
  keyring.searchKeys (.ofList [("id", .shortId shortId)])

/-- The keys with an id. -/
def searchLongId (keyring : Keyring) (id : String) : Sequence Store KeyMatch :=
  keyring.searchKeys (.ofList [("id", .equals (.text (capitals id)))])

/-- The keys with a fingerprint. -/
def searchFingerprint (keyring : Keyring) (fingerprint : String) : Sequence Store KeyMatch :=
  keyring.searchKeys (.ofList [("fingerprint", .equals (.text (capitals fingerprint)))])

end Keyring

end KeyStore
