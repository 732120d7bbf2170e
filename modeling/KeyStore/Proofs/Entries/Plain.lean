import KeyStore.Entries
import KeyStore.Relation.Catalogue
import KeyStore.Session

/-!
# Plain evaluation

A read can be said without any plan: fetch every column of every row, read every packet, lay what
is stored over what the packets say, keep the records that satisfy all conditions, and cut them to
the fields that are wanted. `Plain.evaluate` does just that. It shares no step with the reads that
the library makes, which leave out what they can.
-/

namespace KeyStore

/-- What the library relies on in a relation. -/
structure Relation.WellFormed (relation : Relation) : Prop where
  distinct : relation.columnNames.Nodup
  keyColumns : ∀ name ∈ relation.primaryKey, relation.hasColumn name = true
  payloadColumn : ∀ column, Entries.packetColumn? relation = some column →
    relation.hasColumn column = true
  binaryFree : ∀ column, relation.payload = .derived column →
    relation.hasColumn binaryField = false

/-- A packet that is shown as a field has no column below it. -/
def Relation.BinaryFree (relation : Relation) : Prop :=
  ∀ column, relation.payload = .derived column → relation.hasColumn binaryField = false

/-- The relations of a keyring are well formed. -/
theorem Relation.catalogue_wellFormed :
    ∀ relation ∈ Relation.catalogue, relation.WellFormed := by
  intro relation member
  simp only [Relation.catalogue, List.mem_cons, List.not_mem_nil, or_false] at member
  rcases member with rfl | rfl | rfl | rfl | rfl | rfl | rfl | rfl | rfl
  all_goals
    refine ⟨by decide, by decide, fun column found => ?_, fun column derived => ?_⟩
    · cases found
      decide
    · cases derived <;> decide

theorem Relation.hasColumn_of_mem {relation : Relation} {column : Column}
    (listed : column ∈ relation.columns) : relation.hasColumn column.name = true :=
  List.find?_isSome.2 ⟨column, listed, decide_eq_true rfl⟩

/-- No two relations have one name. -/
theorem Relation.find?_catalogue {relation : Relation} (listed : relation ∈ Relation.catalogue) :
    Relation.catalogue.find? (·.name = relation.name) = some relation := by
  have named : ∀ relation ∈ Relation.catalogue,
      Relation.catalogue.find? (·.name = relation.name) = some relation := by decide
  exact named relation listed

/-- What is stored of a record is stored of what is stored of it. -/
theorem Relation.storable_storable (relation : Relation) (record : Record) :
    relation.storable (relation.storable record) = relation.storable record := by
  apply FieldMap.ext_get?
  intro field
  rw [Relation.storable, FieldMap.get?_filter, Relation.storable, FieldMap.get?_filter]
  cases record.get? field with
  | none => rfl
  | some value => by_cases column : relation.hasColumn field <;> simp [column]

/-- A stored row: a value or NULL for every column, and for nothing else. -/
structure StoredRow (relation : Relation) where
  cells : Record
  total : ∀ field, cells.contains field = relation.hasColumn field

namespace StoredRow

variable {relation : Relation} (row : StoredRow relation)

theorem get?_of_hasColumn {field : String} (column : relation.hasColumn field = true) :
    ∃ value, row.cells.get? field = some value :=
  Option.isSome_iff_exists.1 ((row.total field).trans column)

theorem get?_of_not_hasColumn {field : String} (absent : relation.hasColumn field = false) :
    row.cells.get? field = none :=
  Option.isNone_iff_eq_none.1 (Option.isSome_eq_false_iff.1 ((row.total field).trans absent))

/-- The row that gives each column its value. -/
def ofValues (relation : Relation) (value : String → Value) : StoredRow relation where
  cells := .ofList (relation.columnNames.map fun column => (column, value column))
  total field := by
    rw [FieldMap.contains_ofList, List.any_map, Bool.eq_iff_iff, List.any_eq_true]
    simp [Relation.hasColumn, Relation.column?, Relation.columnNames]

end StoredRow

namespace Entries.Plain

/-- The whole record of a stored row: its cells over what its packet says, with the packet as a
field of its own if the relation derives it. -/
def record (codec : Codec) (relation : Relation) (row : StoredRow relation) :
    Except StoreError Record :=
  match relation.payload with
  | .absent => .ok row.cells
  | .stored column =>
    match row.cells.get? column with
    | some (.bytes packet) => (codec relation.kind packet).map row.cells.overlay
    | _ => .ok row.cells
  | .derived column =>
    match row.cells.get? column with
    | some (.text id) =>
      (codec relation.kind id.toUTF8.toList).map fun decoded =>
        row.cells.overlay (decoded.insert binaryField (.bytes id.toUTF8.toList))
    | _ => .ok (row.cells.overlay (FieldMap.empty.insert binaryField .null))

/-- Whether the whole record of a row satisfies conditions. -/
def selects (codec : Codec) (relation : Relation) (conditions : Conditions)
    (row : StoredRow relation) : Bool :=
  match record codec relation row with
  | .ok whole => conditions.accepts whole
  | .error _ => false

/-- The records of some rows that satisfy the conditions, cut to the fields if there are any. -/
def evaluate (codec : Codec) (relation : Relation) (conditions : Conditions)
    (fields : Option (List String)) (rows : List (StoredRow relation)) :
    Except StoreError (List Record) := do
  let records ← rows.mapM (record codec relation)
  let kept := records.filter conditions.accepts
  return match fields with
    | some names => kept.map fun entry => Record.project entry names
    | none => kept

/-- What a database has to answer to a query: the rows that satisfy its conditions, in their order,
cut to the columns. -/
def answer {relation : Relation} (conditions : Conditions) (columns : List String)
    (rows : List (StoredRow relation)) : List Record :=
  (rows.filter fun row => conditions.accepts row.cells).map fun row => row.cells.project columns

/-- The database answers the query of a read as it has to. -/
def Answers {σ : Type} (backend : Backend σ) (database : σ) (relation : Relation)
    (conditions : Conditions) (fields : Option (List String)) (rows : List (StoredRow relation)) :
    Prop :=
  let plan := filterPlan backend.dialect relation conditions
  let columns := (fetchPlan relation fields plan.app).columns
  ∀ query, Query.select backend.dialect relation (.columns columns) plan.sql none = .ok query →
    (backend.stream query (relation.shape columns) database).1
      = .ok ((answer plan.sql columns rows).map .ok)

end Entries.Plain

end KeyStore
