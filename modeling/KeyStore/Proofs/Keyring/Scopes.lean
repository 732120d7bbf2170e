import KeyStore.Keyring.Collection
import KeyStore.Proofs.Keyring.References

/-!
# What the collections of a keyring ask for

The conditions on the entries of a collection, and on those that hang on an entry, compare columns
with texts, and with numbers where types of signature matter (`asks_entry`, `asks_dependents`). The
database can test all of them (`filterPlan_of_asks`), and they suit every row whose values have the
types of their columns (`Asks.suit`). A scope is satisfied by the rows with its texts
(`accepts_scope`).
-/

namespace KeyStore

theorem Value.compare?_text {value : Value} {text : String} :
    value.compare? (.text text) = some .eq ↔ value = .text text := by
  cases value <;> simp [Value.compare?]

/-- A value of a type can be compared with a constant of the type; numbers with a fraction are left
out, for some of them compare with nothing. -/
theorem Value.HasType.comparableWith {value constant : Value} {type : ColumnType}
    (typed : value.HasType type) (kind : constant.columnType? = some type)
    (exact : type ≠ .real) : value.ComparableWith constant := by
  rcases typed with rfl | same
  · exact Or.inl rfl
  · refine Or.inr (Or.inr ?_)
    cases value <;> cases same <;> cases constant <;> cases kind <;>
      first | rfl | exact absurd rfl exact

namespace Filter

/-- The filter compares with constants of the type. -/
inductive Compares (type : ColumnType) : Filter → Prop
  | equals {constant : Value} (kind : constant.columnType? = some type) (exact : type ≠ .real) :
    Compares type (.equals constant)
  | any {parts : List Filter} (each : ∀ part ∈ parts, Compares type part) :
    Compares type (.any parts)

variable {type : ColumnType} {filter : Filter}

theorem Compares.suits (compares : filter.Compares type) {value : Value}
    (typed : value.HasType type) : filter.Suits value := by
  induction compares with
  | equals kind exact => exact .equals (typed.comparableWith kind exact)
  | any _ ih => exact .any ih

theorem Compares.plain (compares : filter.Compares type) : filter.holdsCustom = false := by
  induction compares with
  | any _ ih =>
    rw [holdsCustom]
    exact (anyHoldsCustom_eq_false_iff _).2 ih
  | _ => rfl

theorem oneOf_compares (types : List SignatureType) :
    (SignatureType.oneOf types).Compares .int := by
  refine .any fun part member => ?_
  simp only [List.map_map, List.mem_map] at member
  obtain ⟨type, _, rfl⟩ := member
  exact .equals rfl nofun

end Filter

namespace Conditions

/-- The conditions compare columns of the relation with constants of their types. -/
def Asks (relation : Relation) (conditions : Conditions) : Prop :=
  ∀ field filter, conditions.get? field = some filter →
    ∃ column, relation.column? field = some column ∧ filter.Compares column.type

variable {relation : Relation} {conditions : Conditions}

/-- The columns that are asked about have to have values of their types. -/
theorem Asks.suit_of_typed (asks : conditions.Asks relation) {row : Record}
    (typed : ∀ field filter column, conditions.get? field = some filter →
      relation.column? field = some column → (Record.value row field).HasType column.type) :
    conditions.Suit row := by
  rintro ⟨field, filter⟩ listed
  have asked := (conditions.mem_toList_iff ..).1 listed
  obtain ⟨column, found, compares⟩ := asks field filter asked
  exact compares.suits (typed field filter column asked found)

theorem Asks.suit (asks : conditions.Asks relation) {row : Record} (fits : relation.Fits row) :
    conditions.Suit row := by
  refine asks.suit_of_typed fun field filter column _ found => ?_
  rw [Relation.column?] at found
  have typed := fits column (List.mem_of_find?_eq_some found)
  have name := List.find?_some found
  rwa [of_decide_eq_true name] at typed

theorem Asks.plain (asks : conditions.Asks relation) :
    ∀ entry ∈ conditions.toList, entry.2.holdsCustom = false := by
  rintro ⟨field, filter⟩ listed
  obtain ⟨_, _, compares⟩ := asks field filter ((conditions.mem_toList_iff ..).1 listed)
  exact compares.plain

theorem Asks.restrict (asks : conditions.Asks relation) {field : String} {filter : Filter}
    (fresh : conditions.get? field = none)
    (compares : ∃ column, relation.column? field = some column ∧ filter.Compares column.type) :
    (conditions.restrict field filter).Asks relation := by
  intro wanted found asked
  rw [Conditions.restrict, fresh, FieldMap.get?_insert] at asked
  split at asked
  · next same =>
    cases asked
    exact same ▸ compares
  · exact asks wanted found asked

/-- The database tests all conditions if it can answer each of them. -/
theorem filterPlan_of_answerable {dialect : Sql.Dialect}
    (answerable : ∀ field filter, conditions.get? field = some filter →
      isAnswerable dialect relation.hasColumn field filter = true) :
    Entries.filterPlan dialect relation conditions = ⟨conditions, .empty⟩ := by
  have sql : (split conditions dialect relation.hasColumn).1 = conditions := by
    apply FieldMap.ext_get?
    intro field
    rw [get?_split_fst]
    cases asked : conditions.get? field with
    | none => rfl
    | some filter => exact Option.filter_some_pos (answerable field filter asked)
  have app : (split conditions dialect relation.hasColumn).2 = .empty := by
    apply FieldMap.ext_get?
    intro field
    rw [get?_split_snd, FieldMap.get?_empty, Option.filter_eq_none_iff]
    intro filter asked
    simp [answerable field filter asked]
  exact congrArg₂ Entries.FilterPlan.mk sql app

/-- The database can test conditions that compare columns with constants. -/
theorem filterPlan_of_asks (asks : conditions.Asks relation) (dialect : Sql.Dialect) :
    Entries.filterPlan dialect relation conditions = ⟨conditions, .empty⟩ := by
  refine filterPlan_of_answerable fun field filter asked => ?_
  obtain ⟨column, found, compares⟩ := asks field filter asked
  rw [isAnswerable_eq, compares.plain, Relation.hasColumn, found]
  rfl

end Conditions

namespace Scope

theorem get?_conditions {scope : Scope} (distinct : (scope.map (·.1)).Nodup) (field : String)
    (filter : Filter) :
    (Scope.conditions scope).get? field = some filter ↔
      ∃ text, (field, text) ∈ scope ∧ filter = .equals (.text text) := by
  rw [Scope.conditions, FieldMap.get?_ofList_iff]
  · simp [eq_comm]
  · rwa [List.map_map]

theorem get?_conditions_eq_none {scope : Scope} {field : String}
    (absent : field ∉ scope.map (·.1)) : (Scope.conditions scope).get? field = none := by
  have contained := FieldMap.contains_ofList
    (scope.map fun entry => (entry.1, Filter.equals (.text entry.2))) field
  rw [List.any_map, List.any_eq_false.2 fun entry listed => ?_] at contained
  · exact Option.isNone_iff_eq_none.1 (Option.isSome_eq_false_iff.1 contained)
  · exact fun same => absent (List.mem_map.2 ⟨entry, listed, of_decide_eq_true same⟩)

/-- A scope is satisfied by the rows with its texts. -/
theorem accepts_scope {scope : Scope} (distinct : (scope.map (·.1)).Nodup) (row : Record) :
    (Scope.conditions scope).accepts row = true ↔
      ∀ entry ∈ scope, Record.value row entry.1 = .text entry.2 := by
  have tests (field text : String) :
      (Filter.equals (.text text)).accepts (Record.value row field) = true ↔
        Record.value row field = .text text :=
    (Filter.accepts_equals_iff rfl _).trans Value.compare?_text
  rw [Conditions.accepts, List.all_eq_true]
  constructor
  · rintro all ⟨field, text⟩ listed
    exact (tests field text).1 (all (field, _)
      ((FieldMap.mem_toList_iff ..).2 ((get?_conditions distinct ..).2 ⟨text, listed, rfl⟩)))
  · rintro same ⟨field, filter⟩ asked
    obtain ⟨text, listed, rfl⟩ :=
      (get?_conditions distinct ..).1 ((FieldMap.mem_toList_iff ..).1 asked)
    exact (tests field text).2 (same _ listed)

theorem accepts_one (field text : String) (row : Record) :
    (Scope.conditions [(field, text)]).accepts row = true ↔
      Record.value row field = .text text := by
  rw [accepts_scope (by simp), List.forall_mem_singleton]

theorem accepts_two {first second : String} (apart : first ≠ second) (text entry : String)
    (row : Record) :
    (Scope.conditions [(first, text), (second, entry)]).accepts row = true ↔
      Record.value row first = .text text ∧ Record.value row second = .text entry := by
  rw [accepts_scope (by simp [apart]), List.forall_mem_cons, List.forall_mem_singleton]

theorem asks_scope {relation : Relation} {scope : Scope}
    (distinct : (scope.map (·.1)).Nodup)
    (columns : ∀ entry ∈ scope, relation.column? entry.1 = some ⟨entry.1, .text⟩) :
    (Scope.conditions scope).Asks relation := by
  intro field filter asked
  obtain ⟨text, listed, rfl⟩ := (get?_conditions distinct field filter).1 asked
  exact ⟨_, columns _ listed, .equals rfl nofun⟩

end Scope

namespace Collection

/-- The texts that single out an entry are in columns of texts. -/
theorem column_of_owner (collection : Collection) (id : String) :
    ∀ entry ∈ collection.owners ++ [("id", id)],
      collection.relation.column? entry.1 = some ⟨entry.1, .text⟩ := by
  cases collection <;> simp [owners, relation] <;> decide

theorem owners_distinct (collection : Collection) : (collection.owners.map (·.1)).Nodup := by
  cases collection <;> simp [owners]

theorem entry_distinct (collection : Collection) (id : String) :
    ((collection.owners ++ [("id", id)]).map (·.1)).Nodup := by
  cases collection <;> simp [owners]

theorem sigtype_not_owner (collection : Collection) (id : String) :
    "sigtype" ∉ (collection.owners ++ [("id", id)]).map (·.1) := by
  cases collection <;> simp [owners]

theorem asks_entry (collection : Collection) (id : String) :
    (collection.entry id).Asks collection.relation := by
  have owned := Scope.asks_scope (collection.entry_distinct id) (collection.column_of_owner id)
  have untyped := Scope.get?_conditions_eq_none (collection.sigtype_not_owner id)
  rw [entry, ofTypes]
  cases collection with
  | keySignatures key => exact owned.restrict untyped ⟨_, rfl, Filter.oneOf_compares _⟩
  | subkeySignatures key subkey => exact owned.restrict untyped ⟨_, rfl, Filter.oneOf_compares _⟩
  | _ => exact owned

/-- An entry is asked for by the texts that single it out, and by the type of signature where that
matters. -/
theorem asked_entry {collection : Collection} {id field : String} {filter : Filter}
    (asked : (collection.entry id).get? field = some filter) :
    (∃ text, (field, text) ∈ collection.owners ++ [("id", id)]) ∨
      field = "sigtype" ∧ collection.signatureTypes?.isSome := by
  have among (found : (Scope.conditions (collection.owners ++ [("id", id)])).get? field
      = some filter) : ∃ text, (field, text) ∈ collection.owners ++ [("id", id)] := by
    obtain ⟨text, listed, _⟩ :=
      (Scope.get?_conditions (collection.entry_distinct id) field filter).1 found
    exact ⟨text, listed⟩
  rw [entry, ofTypes] at asked
  split at asked
  · next types matters =>
    rw [Conditions.restrict, Scope.get?_conditions_eq_none (collection.sigtype_not_owner id),
      FieldMap.get?_insert] at asked
    split at asked
    · next same => exact Or.inr ⟨same.symm, matters ▸ rfl⟩
    · exact Or.inl (among asked)
  · exact Or.inl (among asked)

theorem asks_targetEntry (collection : Collection) (id : String) :
    (collection.targetEntry id).Asks collection.target := by
  cases collection with
  | subkeys key => exact asks_entry .keys id
  | _ => exact asks_entry _ id

theorem asks_dependents (collection : Collection) (id : String) :
    ∀ dependents ∈ collection.dependents id,
      (Scope.conditions dependents.scope).Asks dependents.relation := by
  have texts : ∀ dependents ∈ collection.dependents id,
      (dependents.scope.map (·.1)).Nodup ∧ ∀ entry ∈ dependents.scope,
        dependents.relation.column? entry.1 = some ⟨entry.1, .text⟩ := by
    cases collection <;>
      simp only [Collection.dependents, ofKey, owners, List.forall_mem_cons, List.not_mem_nil,
        List.map_cons, List.map_nil, false_imp_iff, implies_true, and_true] <;>
      decide
  exact fun dependents listed =>
    Scope.asks_scope (texts dependents listed).1 (texts dependents listed).2

/-- Where entries that hang on others are looked for. -/
theorem dependents_shown (collection : Collection) (id : String) :
    ∀ dependents ∈ collection.dependents id, dependents.relation ∈ Relation.catalogue ∧
      (dependents.relation.isWritable = true ∨ dependents.relation = Relation.subkeys) := by
  cases collection <;>
    simp only [Collection.dependents, ofKey, List.forall_mem_cons, List.not_mem_nil,
      false_imp_iff, implies_true, and_true] <;>
    decide

/-- A subkey is not written to the relation that it is read from. -/
theorem target_subkeys_ne (key : String) : (subkeys key).target ≠ (subkeys key).relation :=
  show Relation.keys ≠ Relation.subkeys by decide

theorem target_written (collection : Collection) :
    collection.target ∈ Relation.catalogue ∧ collection.target.isWritable = true := by
  cases collection <;> simp only [target, relation] <;> decide

end Collection

end KeyStore
