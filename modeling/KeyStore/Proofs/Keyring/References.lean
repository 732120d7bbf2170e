import Mathlib.Data.List.Dedup
import KeyStore.Keyring.Collection
import KeyStore.Proofs.Entries.Keys
import KeyStore.Proofs.Entries.Tables

/-!
# References between the tables of a keyring

Identities, attributes and signatures on keys name a key; signatures on identities and attributes
name the identity or attribute. `Tables.Consistent` says that whatever is named is there, as the
database compares the columns.

Subkeys are no table. They are computed from keys and signatures: a key with a binding signature of
another issuer is a subkey of that issuer (`Tables.subkeys`).

Rows can be taken away if none of them is named (`Consistent.without`).
-/

namespace KeyStore

instance {α : Type} [DecidableEq α] : DecidableEq (FieldMap α) := fun left right =>
  decidable_of_iff (left.toList = right.toList)
    ⟨fun same => by cases left; cases right; cases same; rfl, fun same => same ▸ rfl⟩

/-! ### Types of values -/

/-- NULL, or a value of the type. -/
def Value.HasType (value : Value) (type : ColumnType) : Prop :=
  value = .null ∨ value.columnType? = some type

instance (value : Value) (type : ColumnType) : Decidable (value.HasType type) :=
  inferInstanceAs (Decidable (_ ∨ _))

/-- Each column of the row has a value of its type. -/
def Relation.Fits (relation : Relation) (row : Record) : Prop :=
  ∀ column ∈ relation.columns, (Record.value row column.name).HasType column.type

instance (relation : Relation) (row : Record) : Decidable (relation.Fits row) :=
  inferInstanceAs (Decidable (∀ column ∈ relation.columns, _))

/-! ### References -/

/-- The rows of one table name rows of another: a column of the first has the value of a column of
the second. -/
structure Reference where
  source : Relation
  target : Relation
  columns : List (String × String)

namespace Reference

variable (reference : Reference)

/-- The row names the target. -/
def Names (row target : Record) : Prop :=
  ∀ pair ∈ reference.columns,
    (Record.value row pair.1).compare? (Record.value target pair.2) = some .eq

instance (row target : Record) : Decidable (reference.Names row target) :=
  inferInstanceAs (Decidable (∀ pair ∈ reference.columns, _))

/-- What is named is there. -/
def Holds (tables : Tables) : Prop :=
  ∀ row ∈ tables reference.source.name, ∃ target ∈ tables reference.target.name,
    reference.Names row target

instance (tables : Tables) : Decidable (reference.Holds tables) :=
  inferInstanceAs (Decidable (∀ row ∈ tables reference.source.name, _))

/-- The references of a keyring. -/
def all : List Reference :=
  [⟨.identities, .keys, [("key", "id")]⟩, ⟨.attributes, .keys, [("key", "id")]⟩,
    ⟨.keySignatures, .keys, [("key", "id")]⟩,
    ⟨.identitySignatures, .identities, [("key", "key"), ("identity", "id")]⟩,
    ⟨.attributeSignatures, .attributes, [("key", "key"), ("attribute", "id")]⟩]

end Reference

/-! ### Subkeys -/

/-- The signature binds the key to another key, its issuer. -/
def Binds (signature key : Record) : Prop :=
  (Record.value signature "key").compare? (Record.value key "id") = some .eq ∧
  (Record.value signature "sigtype").compare? (.int SignatureType.subkeyBinding.code)
    = some .eq ∧
  ((Record.value signature "issuer").compare? (Record.value key "id")).any (· ≠ .eq) = true

instance (signature key : Record) : Decidable (Binds signature key) :=
  inferInstanceAs (Decidable (_ ∧ _ ∧ _))

theorem Record.value_insert (row : Record) (field : String) (value : Value) (wanted : String) :
    Record.value (row.insert field value) wanted
      = if field = wanted then value else Record.value row wanted := by
  rw [Record.value, FieldMap.get?_insert]
  split <;> rfl

/-- The key as a subkey: it expires and is revoked as its binding is. -/
def subkeyOf (signature key : Record) : Record :=
  .ofList [("parentkey", Record.value signature "issuer"), ("id", Record.value key "id"),
    ("fingerprint", Record.value key "fingerprint"), ("binary", Record.value key "binary"),
    ("security", Record.value key "security"), ("date", Record.value key "date"),
    ("expires", Record.value signature "expires"), ("revoked", Record.value signature "revoked")]

theorem value_subkeyOf_parentkey (signature key : Record) :
    Record.value (subkeyOf signature key) "parentkey" = Record.value signature "issuer" := by
  simp only [subkeyOf, FieldMap.ofList, List.foldl_cons, List.foldl_nil, Record.value_insert,
    String.reduceEq, if_true, if_false]

namespace Tables

variable (tables : Tables)

/-- The distinct subkeys. -/
def subkeys : List Record :=
  ((tables Relation.keys.name).flatMap fun key =>
    ((tables Relation.keySignatures.name).filter fun signature => Binds signature key).map
      fun signature => subkeyOf signature key).dedup

/-- The rows that a reader sees: those of the tables, and the subkeys. -/
def shown : Tables := Function.update tables Relation.subkeys.name tables.subkeys

/-- The values in the columns of the tables have the types of the columns. -/
def Typed : Prop :=
  ∀ relation ∈ Relation.catalogue, relation.isWritable = true →
    ∀ row ∈ tables relation.name, relation.Fits row

instance : Decidable tables.Typed :=
  inferInstanceAs (Decidable (∀ relation ∈ Relation.catalogue, _))

/-- Whatever is named is there. -/
def Consistent : Prop := ∀ reference ∈ Reference.all, reference.Holds tables

instance : Decidable tables.Consistent :=
  inferInstanceAs (Decidable (∀ reference ∈ Reference.all, _))

/-- The tables without some rows of one of them. -/
def without (name : String) (hits : Record → Bool) : Tables :=
  Function.update tables name ((tables name).filter fun row => !hits row)

/-- A key still has an identity, an attribute, a subkey, or a signature on it. -/
def KeyInUse (key : String) : Prop :=
  (∃ row ∈ tables Relation.identities.name, Record.value row "key" = .text key) ∨
  (∃ row ∈ tables Relation.attributes.name, Record.value row "key" = .text key) ∨
  (∃ signature ∈ tables Relation.keySignatures.name, ∃ subkey ∈ tables Relation.keys.name,
    Binds signature subkey ∧ Record.value signature "issuer" = .text key) ∨
  ∃ row ∈ tables Relation.keySignatures.name, Record.value row "key" = .text key

/-- Others hang on the entry of a collection. -/
def InUse : Collection → String → Prop
  | .keys, id | .subkeys _, id => tables.KeyInUse id
  | .identities key, id => ∃ row ∈ tables Relation.identitySignatures.name,
    Record.value row "key" = .text key ∧ Record.value row "identity" = .text id
  | .attributes key, id => ∃ row ∈ tables Relation.attributeSignatures.name,
    Record.value row "key" = .text key ∧ Record.value row "attribute" = .text id
  | _, _ => False

variable {tables} {name : String} {hits : Record → Bool}

theorem mem_without {other : String} {row : Record} :
    row ∈ tables.without name hits other ↔
      row ∈ tables other ∧ (other = name → hits row = false) := by
  by_cases same : other = name
  · subst same
    simp [without]
  · simp [without, same]

theorem without_congr {others : Record → Bool}
    (same : ∀ row ∈ tables name, hits row = others row) :
    tables.without name hits = tables.without name others := by
  rw [without, without, List.filter_congr fun row member => by rw [same row member]]

theorem Typed.without (typed : tables.Typed) (name : String) (hits : Record → Bool) :
    (tables.without name hits).Typed :=
  fun relation listed writable row member =>
    typed relation listed writable row (mem_without.1 member).1

/-- Rows that none names can be taken away. -/
theorem Consistent.without (consistent : tables.Consistent)
    (unnamed : ∀ reference ∈ Reference.all, reference.target.name = name →
      ∀ row ∈ tables reference.source.name, ∀ target, hits target = true →
        ¬ reference.Names row target) :
    (tables.without name hits).Consistent := by
  intro reference listed row member
  obtain ⟨present, _⟩ := mem_without.1 member
  obtain ⟨target, there, named⟩ := consistent reference listed row present
  refine ⟨target, mem_without.2 ⟨there, fun same => ?_⟩, named⟩
  rw [← Bool.not_eq_true]
  exact fun hit => unnamed reference listed same row present target hit named

theorem mem_subkeys {row : Record} :
    row ∈ tables.subkeys ↔ ∃ signature ∈ tables Relation.keySignatures.name,
      ∃ key ∈ tables Relation.keys.name, Binds signature key ∧ subkeyOf signature key = row := by
  simp only [subkeys, List.mem_dedup, List.mem_flatMap, List.mem_map, List.mem_filter,
    decide_eq_true_eq]
  constructor
  · rintro ⟨key, listed, signature, ⟨present, binds⟩, rfl⟩
    exact ⟨signature, present, key, listed, binds, rfl⟩
  · rintro ⟨signature, present, key, listed, binds, rfl⟩
    exact ⟨key, listed, signature, ⟨present, binds⟩, rfl⟩

/-- The keys that are bound to a key. -/
theorem exists_subkey_iff (tables : Tables) (key : String) :
    (∃ row ∈ tables.subkeys, Record.value row "parentkey" = .text key) ↔
      ∃ signature ∈ tables Relation.keySignatures.name, ∃ subkey ∈ tables Relation.keys.name,
        Binds signature subkey ∧ Record.value signature "issuer" = .text key := by
  simp only [mem_subkeys]
  constructor
  · rintro ⟨_, ⟨signature, present, owner, there, binds, rfl⟩, same⟩
    exact ⟨signature, present, owner, there, binds,
      (value_subkeyOf_parentkey signature owner).symm.trans same⟩
  · rintro ⟨signature, present, owner, there, binds, same⟩
    exact ⟨_, ⟨signature, present, owner, there, binds, rfl⟩,
      (value_subkeyOf_parentkey signature owner).trans same⟩

/-- A reader sees the tables as they are. -/
theorem shown_of_ne (other : name ≠ Relation.subkeys.name) : tables.shown name = tables name :=
  Function.update_of_ne other _ _

theorem shown_subkeys : tables.shown Relation.subkeys.name = tables.subkeys :=
  Function.update_self ..

/-- No table has the name of the view of subkeys. -/
theorem name_ne_subkeys {relation : Relation} (listed : relation ∈ Relation.catalogue)
    (writable : relation.isWritable = true) : relation.name ≠ Relation.subkeys.name := by
  have apart : ∀ relation ∈ Relation.catalogue, relation.isWritable = true →
      relation.name ≠ Relation.subkeys.name := by decide
  exact apart relation listed writable

theorem Typed.fits_subkey (typed : tables.Typed) :
    ∀ row ∈ tables.subkeys, Relation.subkeys.Fits row := by
  intro row member
  obtain ⟨signature, present, key, there, _, rfl⟩ := mem_subkeys.1 member
  have binding := typed .keySignatures (by decide) rfl signature present
  have owner := typed .keys (by decide) rfl key there
  simp only [Relation.Fits, Relation.subkeys, List.forall_mem_cons, subkeyOf, FieldMap.ofList,
    List.foldl_cons, List.foldl_nil, Record.value_insert, String.reduceEq, if_true, if_false,
    List.not_mem_nil, false_imp_iff, implies_true, and_true]
  exact ⟨binding ⟨"issuer", .text⟩ (by decide), owner ⟨"id", .text⟩ (by decide),
    owner ⟨"fingerprint", .text⟩ (by decide), owner ⟨"binary", .bytes⟩ (by decide),
    owner ⟨"security", .int⟩ (by decide), owner ⟨"date", .int⟩ (by decide),
    binding ⟨"expires", .int⟩ (by decide), binding ⟨"revoked", .text⟩ (by decide)⟩

/-- What a reader sees has the types of its columns. -/
theorem Typed.fits_shown (typed : tables.Typed) {relation : Relation}
    (listed : relation ∈ Relation.catalogue)
    (form : relation.isWritable = true ∨ relation = Relation.subkeys) :
    ∀ row ∈ tables.shown relation.name, relation.Fits row := by
  rcases form with writable | rfl
  · rw [shown_of_ne (name_ne_subkeys listed writable)]
    exact typed relation listed writable
  · rw [shown_subkeys]
    exact typed.fits_subkey

end Tables

end KeyStore
