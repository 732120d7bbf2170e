import KeyStore.Keyring.Signatures
import KeyStore.Proofs.Conditions.Narrowing
import KeyStore.Proofs.Keyring.Faithful

/-!
# Operations keep to their collection

Which rows belong to a collection is said here without conditions (`Collection.Covers`): by the ids
of the owners, and for signatures on keys and subkeys by the type of signature, whose numbers are
those of RFC 4880. Key and subkey signatures share a table, and what is the key of one is the
issuer of the other.

Whatever a caller asks for, also about the fields that tell collections apart, the conditions of a
listing are satisfied by the rows of the collection that satisfy the caller's
(`accepts_restrict_iff`), wherever they are tested (`selects_restrict`).
-/

namespace KeyStore

open Sql

/-- The signature has a type with one of the numbers, as the database compares them. -/
def SignedAs (codes : List Int64) (row : Record) : Prop :=
  ∃ code ∈ codes, (Record.value row "sigtype").compare? (.int code) = some .eq

instance (codes : List Int64) (row : Record) : Decidable (SignedAs codes row) :=
  inferInstanceAs (Decidable (∃ code ∈ codes, _))

theorem signedAs_of_value {codes : List Int64} {code : Int64} {row : Record}
    (known : code ∈ codes) (typed : Record.value row "sigtype" = .int code) :
    SignedAs codes row := by
  refine ⟨code, known, ?_⟩
  rw [typed]
  exact congrArg some Std.ReflCmp.compare_self

/-- The row belongs to the collection. -/
def Collection.Covers : Collection → Record → Prop
  | keys, _ => True
  | subkeys key, row => Record.value row "parentkey" = .text key
  | identities key, row => Record.value row "key" = .text key
  | attributes key, row => Record.value row "key" = .text key
  | keySignatures key, row =>
    Record.value row "key" = .text key ∧ SignedAs [0x1F, 0x20, 0x19] row
  | subkeySignatures key subkey, row =>
    (Record.value row "key" = .text subkey ∧ Record.value row "issuer" = .text key) ∧
      SignedAs [0x18, 0x28] row
  | identitySignatures key identity, row =>
    Record.value row "key" = .text key ∧ Record.value row "identity" = .text identity
  | attributeSignatures key owner, row =>
    Record.value row "key" = .text key ∧ Record.value row "attribute" = .text owner

instance (collection : Collection) (row : Record) : Decidable (collection.Covers row) := by
  cases collection <;> unfold Collection.Covers <;> infer_instance

/-- The row is a signature of the kind, made by the issuer. -/
def SignedKind.Covers (kind : SignedKind) (issuer : String) (row : Record) : Prop :=
  Record.value row "issuer" = .text issuer ∧
    match kind with
    | key => SignedAs [0x1F, 0x20, 0x19] row
    | subkey => SignedAs [0x18, 0x28] row
    | identity | userAttribute => True

instance (kind : SignedKind) (issuer : String) (row : Record) :
    Decidable (kind.Covers issuer row) := by
  cases kind <;> unfold SignedKind.Covers <;> infer_instance

/-! ### What conditions ask for -/

theorem SignatureType.accepts_oneOf_iff (types : List SignatureType) (row : Record) :
    (oneOf types).accepts (Record.value row "sigtype") = true ↔
      SignedAs (types.map (·.code)) row := by
  have tests (code : Int64) (value : Value) : (Filter.equals (.int code)).accepts value = true ↔
      value.compare? (.int code) = some .eq := Filter.accepts_equals_iff rfl value
  rw [oneOf, Filter.anyOf, Filter.accepts_any_iff, SignedAs]
  simp only [List.mem_map, exists_exists_and_eq_and, tests]

namespace Collection

variable {collection : Collection} {conditions : Conditions} {record : Record}

/-- The rows with the texts of the owners, and of one of the types if they matter. -/
theorem covers_iff (collection : Collection) (row : Record) :
    collection.Covers row ↔ (Scope.conditions collection.owners).accepts row = true ∧
      ∀ types ∈ collection.signatureTypes?, SignedAs (types.map (·.code)) row := by
  cases collection <;>
    simp [Covers, owners, signatureTypes?, Scope.accepts_scope, SignatureType.onKey,
      SignatureType.onSubkey, SignatureType.directKey, SignatureType.keyRevocation,
      SignatureType.primaryKeyBinding, SignatureType.subkeyBinding, SignatureType.subkeyRevocation]

theorem accepts_ofTypes_iff (collection : Collection) (conditions : Conditions)
    (record : Record) :
    (collection.ofTypes conditions).accepts record = true ↔ conditions.accepts record = true ∧
      ∀ types ∈ collection.signatureTypes?, SignedAs (types.map (·.code)) record := by
  rw [ofTypes]
  cases collection.signatureTypes? with
  | none => simp
  | some types =>
    simp [Conditions.accepts_restrict, SignatureType.accepts_oneOf_iff]

/-- Narrowed conditions are satisfied in the collection by what satisfied them before. -/
theorem accepts_restrict_iff (collection : Collection) (conditions : Conditions)
    (record : Record) :
    (collection.restrict conditions).accepts record = true ↔
      conditions.accepts record = true ∧ collection.Covers record := by
  rw [restrict, accepts_ofTypes_iff, Conditions.accepts_within, Bool.and_eq_true, covers_iff,
    and_assoc]

/-- An entry is a row of the collection with its id. -/
theorem accepts_entry_iff (collection : Collection) (id : String) (record : Record) :
    (collection.entry id).accepts record = true ↔
      collection.Covers record ∧ Record.value record "id" = .text id := by
  have owned : (Scope.conditions (collection.owners ++ [("id", id)])).accepts record = true ↔
      (Scope.conditions collection.owners).accepts record = true ∧
        Record.value record "id" = .text id := by
    cases collection <;> simp [owners, Scope.accepts_scope, and_assoc]
  rw [entry, accepts_ofTypes_iff, owned, covers_iff, and_right_comm]

/-- The relations that the entries of a collection are read from. -/
def ReadsFrom (collection : Collection) (relation : Relation) : Prop :=
  relation = collection.relation ∨ relation = collection.selfSigned

theorem readsFrom_relation (collection : Collection) :
    collection.ReadsFrom collection.relation := Or.inl rfl

theorem readsFrom_selfSigned (collection : Collection) :
    collection.ReadsFrom collection.selfSigned := Or.inr rfl

theorem ReadsFrom.listed {relation : Relation} (reads : collection.ReadsFrom relation) :
    relation ∈ Relation.catalogue := by
  rcases reads with rfl | rfl <;> cases collection <;> simp only [selfSigned, Collection.relation] <;>
    decide

/-- What is asked for in a collection compares columns with constants. -/
theorem asks_ofTypes {relation : Relation} (reads : collection.ReadsFrom relation)
    {scope : Scope} (owned : (Scope.conditions scope).Asks relation)
    (untyped : "sigtype" ∉ scope.map (·.1)) :
    (collection.ofTypes (Scope.conditions scope)).Asks relation := by
  have fresh := Scope.get?_conditions_eq_none untyped
  rw [ofTypes]
  rcases reads with rfl | rfl <;> cases collection with
  | keySignatures key => exact owned.restrict fresh ⟨_, rfl, Filter.oneOf_compares _⟩
  | subkeySignatures key subkey => exact owned.restrict fresh ⟨_, rfl, Filter.oneOf_compares _⟩
  | _ => exact owned

theorem asks_entry_of_readsFrom {relation : Relation} (reads : collection.ReadsFrom relation)
    (id : String) : (collection.entry id).Asks relation := by
  refine asks_ofTypes reads ?_ (by cases collection <;> simp [owners])
  rcases reads with rfl | rfl <;> cases collection <;>
    exact Scope.asks_scope (by simp [owners])
      (by simp [owners, selfSigned, Collection.relation]; decide)

theorem asks_restrict_empty {relation : Relation} (reads : collection.ReadsFrom relation) :
    (collection.restrict .empty).Asks relation := by
  rw [restrict, Conditions.empty_within]
  refine asks_ofTypes reads ?_ (by cases collection <;> simp [owners])
  rcases reads with rfl | rfl <;> cases collection <;>
    exact Scope.asks_scope (by simp [owners])
      (by simp [owners, selfSigned, Collection.relation] <;> decide)

end Collection

namespace SignedKind

/-- What is asked for when the signatures of a kind by an issuer are listed. -/
def narrow (kind : SignedKind) (issuer : String) (conditions : Conditions) : Conditions :=
  (match kind.signatureTypes? with
    | some types => conditions.restrict "sigtype" (SignatureType.oneOf types)
    | none => conditions).within (Scope.conditions [("issuer", issuer)])

theorem accepts_narrow_iff (kind : SignedKind) (issuer : String) (conditions : Conditions)
    (record : Record) :
    (kind.narrow issuer conditions).accepts record = true ↔
      conditions.accepts record = true ∧ kind.Covers issuer record := by
  rw [narrow, Conditions.accepts_within, Bool.and_eq_true, Scope.accepts_one]
  cases kind <;>
    simp [signatureTypes?, Covers, Conditions.accepts_restrict,
      SignatureType.accepts_oneOf_iff, SignatureType.onKey, SignatureType.onSubkey,
      SignatureType.directKey, SignatureType.keyRevocation, SignatureType.primaryKeyBinding,
      SignatureType.subkeyBinding, SignatureType.subkeyRevocation] <;>
    tauto

end SignedKind

section

variable {codec : Codec} {relation : Relation} {row : StoredRow relation} {whole : Record}
  {conditions : Conditions}

theorem Entries.value_record_of_hasColumn (free : relation.BinaryFree)
    (recorded : Entries.Plain.record codec relation row = .ok whole) (field : String)
    (column : relation.hasColumn field = true) :
    Record.value whole field = Record.value row.cells field := by
  rw [Record.value, Record.value, Entries.get?_record_of_hasColumn codec free recorded column]

/-- What tells collections apart is stored, so no packet can say something else. -/
theorem Collection.covers_record {collection : Collection} (reads : collection.ReadsFrom relation)
    (free : relation.BinaryFree)
    (recorded : Entries.Plain.record codec relation row = .ok whole) :
    collection.Covers whole ↔ collection.Covers row.cells := by
  have same := Entries.value_record_of_hasColumn free recorded
  rcases reads with rfl | rfl <;> cases collection with
  | keys => exact Iff.rfl
  | subkeys key => rw [Covers, Covers, same _ rfl]
  | identities key => rw [Covers, Covers, same _ rfl]
  | attributes key => rw [Covers, Covers, same _ rfl]
  | keySignatures key => rw [Covers, Covers, SignedAs, SignedAs, same "key" rfl, same "sigtype" rfl]
  | subkeySignatures key subkey =>
    rw [Covers, Covers, SignedAs, SignedAs, same "key" rfl, same "issuer" rfl, same "sigtype" rfl]
  | identitySignatures key identity => rw [Covers, Covers, same "key" rfl, same "identity" rfl]
  | attributeSignatures key owner => rw [Covers, Covers, same "key" rfl, same "attribute" rfl]

theorem SignedKind.covers_record {kind : SignedKind} {row : StoredRow kind.relation}
    {issuer : String} (recorded : Entries.Plain.record codec kind.relation row = .ok whole) :
    kind.Covers issuer whole ↔ kind.Covers issuer row.cells := by
  have free : kind.relation.BinaryFree := by
    cases kind <;> exact nofun
  have same := Entries.value_record_of_hasColumn free recorded
  have issued : Record.value whole "issuer" = Record.value row.cells "issuer" :=
    same "issuer" (by cases kind <;> rfl)
  have typed : Record.value whole "sigtype" = Record.value row.cells "sigtype" :=
    same "sigtype" (by cases kind <;> rfl)
  cases kind <;> simp only [Covers, SignedAs, issued, typed]

/-- The whole records that satisfy the narrowed conditions are those of the collection that satisfy
what the caller asked. -/
theorem Collection.selects_restrict {collection : Collection}
    (reads : collection.ReadsFrom relation) (free : relation.BinaryFree) :
    Entries.Plain.selects codec relation (collection.restrict conditions) row
      = (decide (collection.Covers row.cells)
          && Entries.Plain.selects codec relation conditions row) := by
  cases recorded : Entries.Plain.record codec relation row with
  | error error => simp [Entries.Plain.selects, recorded]
  | ok whole =>
    simp only [Entries.Plain.selects, recorded]
    rw [Bool.eq_iff_iff, Bool.and_eq_true, accepts_restrict_iff, decide_eq_true_iff,
      covers_record reads free recorded, and_comm]

theorem SignedKind.selects_narrow {kind : SignedKind} {row : StoredRow kind.relation}
    {issuer : String} :
    Entries.Plain.selects codec kind.relation (kind.narrow issuer conditions) row
      = (decide (kind.Covers issuer row.cells)
          && Entries.Plain.selects codec kind.relation conditions row) := by
  cases recorded : Entries.Plain.record codec kind.relation row with
  | error error => simp [Entries.Plain.selects, recorded]
  | ok whole =>
    simp only [Entries.Plain.selects, recorded]
    rw [Bool.eq_iff_iff, Bool.and_eq_true, accepts_narrow_iff, decide_eq_true_iff,
      covers_record recorded, and_comm]

end

end KeyStore
