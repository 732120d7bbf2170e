import KeyStore.Entries.Writing
import KeyStore.Proofs.Entries.Plain
import KeyStore.Proofs.Entries.Replacing

/-!
# Primary keys

A row has the key of another if the values of the primary key are equal as the database compares
them; NULL, and what is no number, equal nothing. The conditions that identify a row are satisfied
by the records with its key (`identify_accepts_iff`).

Where the keys tell the rows apart, rows can be replaced one after the other by their keys, each in
its own place, as long as no replacement has another key (`countP_next`, `replace_next`).
-/

namespace KeyStore

theorem Value.compare?_eq_comm (left right : Value) :
    left.compare? right = some .eq ↔ right.compare? left = some .eq := by
  have numbers (x y : Binary64) : x.compare? y = some .eq ↔ y.compare? x = some .eq := by
    unfold Binary64.compare?
    rw [Bool.or_comm]
    split
    · simp
    · rw [Option.some_inj, Option.some_inj, Std.OrientedCmp.eq_comm]
  cases left <;> cases right <;>
    simp only [Value.compare?, Option.some_inj, reduceCtorEq, numbers] <;>
    exact Std.OrientedCmp.eq_comm

theorem Value.isNull_of_compare? {left right : Value} {order : Ordering}
    (compares : left.compare? right = some order) : left.isNull = false ∧ right.isNull = false := by
  cases left <;> cases right <;> first | exact ⟨rfl, rfl⟩ | cases compares

/-- A filter on a value other than NULL takes the values that the database finds equal to it. -/
theorem Filter.accepts_equals_iff {expected : Value} (known : expected.isNull = false)
    (value : Value) :
    (Filter.equals expected).accepts value = true ↔ value.compare? expected = some .eq := by
  rw [Filter.accepts, Filter.evaluate, known, Filter.comparison, known]
  cases missing : value.isNull with
  | true => cases value <;> simp_all [Value.isNull, Value.compare?]
  | false => cases value.compare? expected <;> simp

namespace Relation

/-- The rows have the same primary key. -/
def SameKey (relation : Relation) (row other : Record) : Prop :=
  ∀ column ∈ relation.primaryKey,
    (Record.value row column).compare? (Record.value other column) = some .eq

instance (relation : Relation) (row other : Record) : Decidable (relation.SameKey row other) :=
  inferInstanceAs (Decidable (∀ column ∈ relation.primaryKey, _ = _))

variable {relation : Relation} {row other : Record}

theorem SameKey.symm (same : relation.SameKey row other) : relation.SameKey other row :=
  fun column member => (Value.compare?_eq_comm _ _).1 (same column member)

theorem sameKey_congr {changed : Record}
    (kept : ∀ column ∈ relation.primaryKey, Record.value changed column = Record.value row column)
    (other : Record) :
    relation.SameKey changed other ↔ relation.SameKey row other :=
  forall₂_congr fun column member => by rw [kept column member]

end Relation

namespace Entries

variable {relation : Relation}

theorem get?_identify (relation : Relation) (key : Record) (column : String) :
    (identify relation key).get? column
      = if column ∈ relation.primaryKey then some (.equals (Record.value key column)) else none :=
  FieldMap.get?_ofList_map _ (fun column => Filter.equals (Record.value key column)) column

/-- The conditions on a key are satisfied by the rows with that key. -/
theorem identify_accepts_iff {row key : Record} (known : relation.SameKey key key) :
    (identify relation key).accepts row = true ↔ relation.SameKey row key := by
  have tests (column : String) (member : column ∈ relation.primaryKey) :
      (Filter.equals (Record.value key column)).accepts (Record.value row column) = true ↔
        (Record.value row column).compare? (Record.value key column) = some .eq :=
    Filter.accepts_equals_iff (Value.isNull_of_compare? (known column member)).2 _
  have entries (column : String) (filter : Filter) :
      (column, filter) ∈ (identify relation key).toList ↔
        column ∈ relation.primaryKey ∧ filter = .equals (Record.value key column) := by
    rw [FieldMap.mem_toList_iff, get?_identify]
    by_cases member : column ∈ relation.primaryKey <;> simp [member, eq_comm]
  rw [Conditions.accepts, List.all_eq_true]
  constructor
  · intro all column member
    exact (tests column member).1 (all (column, _) ((entries column _).2 ⟨member, rfl⟩))
  · rintro same ⟨column, filter⟩ listed
    obtain ⟨member, rfl⟩ := (entries column filter).1 listed
    exact (tests column member).2 (same column member)

theorem identify_accepts {key : Record} (known : relation.SameKey key key) :
    (identify relation key).accepts = fun row => decide (relation.SameKey row key) := by
  funext row
  rw [Bool.eq_iff_iff, identify_accepts_iff known, decide_eq_true_iff]

theorem identify_plain (relation : Relation) (key : Record) :
    ∀ entry ∈ (identify relation key).toList, entry.2.holdsCustom = false := by
  rintro ⟨column, filter⟩ listed
  rw [FieldMap.mem_toList_iff, get?_identify] at listed
  split at listed
  · cases listed
    rfl
  · cases listed

/-- The conditions on a key depend on the values of the key only. -/
theorem identify_congr {row other : Record}
    (same : ∀ column ∈ relation.primaryKey, Record.value row column = Record.value other column) :
    identify relation row = identify relation other := by
  apply FieldMap.ext_get?
  intro column
  rw [get?_identify, get?_identify]
  split
  · next member => rw [same column member]
  · rfl

/-- Every row has a known key, and no other row has it. -/
structure Identified (rows : List (StoredRow relation)) : Prop where
  known : ∀ row ∈ rows, relation.SameKey row.cells row.cells
  apart : rows.Pairwise fun row other => ¬ relation.SameKey row.cells other.cells

/-- Of all rows, just one has its key. -/
theorem Identified.filter_sameKey {rows : List (StoredRow relation)} (identified : Identified rows)
    {row : StoredRow relation} (member : row ∈ rows) :
    (rows.filter fun other => relation.SameKey other.cells row.cells) = [row] := by
  obtain ⟨known, apart⟩ := identified
  induction rows with
  | nil => cases member
  | cons head rest ih =>
    obtain ⟨others, apart⟩ := List.pairwise_cons.1 apart
    rcases List.mem_cons.1 member with rfl | member
    · have alone : (rest.filter fun other => relation.SameKey other.cells row.cells) = [] := by
        apply List.filter_eq_nil_iff.2
        intro other listed same
        exact others other listed (of_decide_eq_true same).symm
      simp only [List.filter_cons, known row List.mem_cons_self, decide_true, if_true, alone]
    · have differs : ¬ relation.SameKey head.cells row.cells := others row member
      simp only [List.filter_cons, differs, decide_false, Bool.false_eq_true, if_false]
      exact ih member (fun other listed => known other (List.mem_cons_of_mem _ listed)) apart

theorem Identified.eq_of_sameKey {rows : List (StoredRow relation)} (identified : Identified rows)
    {row other : StoredRow relation} (member : row ∈ rows) (listed : other ∈ rows)
    (same : relation.SameKey row.cells other.cells) : row = other := by
  have alone := identified.filter_sameKey listed
  have chosen : row ∈ rows.filter fun row => relation.SameKey row.cells other.cells :=
    List.mem_filter.2 ⟨member, decide_eq_true same⟩
  rw [alone] at chosen
  exact List.mem_singleton.1 chosen

/-! ### Replacing rows by their keys -/

/-- The record has the key of one of the rows. -/
def hasKeyOf (rows : List (StoredRow relation)) (record : Record) : Bool :=
  rows.any fun row => relation.SameKey record row.cells

section Keys

variable {rows done todo : List (StoredRow relation)} {row : StoredRow relation}
  {edit : Record → List Record}

/-- What rows are replaced by has their keys. -/
def KeepsKeys (rows : List (StoredRow relation)) (edit : Record → List Record) : Prop :=
  ∀ row ∈ rows, ∀ changed ∈ edit row.cells, ∀ column ∈ relation.primaryKey,
    Record.value changed column = Record.value row.cells column

theorem apart_of_concat (apart : (done ++ row :: todo).Pairwise fun row other =>
    ¬ relation.SameKey row.cells other.cells) :
    ∀ earlier ∈ done, ¬ relation.SameKey earlier.cells row.cells := by
  intro earlier member
  exact (List.pairwise_append.1 apart).2.2 earlier member row List.mem_cons_self

/-- The next row still has its own place: nothing that was put for the rows before has its key. -/
theorem spares_next (identified : Identified rows) (keeps : KeepsKeys rows edit)
    (among : ∀ earlier ∈ done, earlier ∈ rows)
    (apart : ∀ earlier ∈ done, ¬ relation.SameKey earlier.cells row.cells) :
    ∀ record ∈ rows.map (·.cells), hasKeyOf done record = true →
      ∀ changed ∈ edit record, decide (relation.SameKey changed row.cells) = false := by
  intro record listed hit changed member
  obtain ⟨stored, present, rfl⟩ := List.mem_map.1 listed
  obtain ⟨earlier, before, same⟩ := List.any_eq_true.1 hit
  have equal := identified.eq_of_sameKey present (among earlier before) (of_decide_eq_true same)
  have kept := Relation.sameKey_congr (keeps stored present changed member) row.cells
  rw [decide_eq_false_iff_not, kept, equal]
  exact apart earlier before

/-- The next row is found once. -/
theorem countP_next (identified : Identified rows) (keeps : KeepsKeys rows edit)
    (among : ∀ earlier ∈ done, earlier ∈ rows) (member : row ∈ rows)
    (apart : ∀ earlier ∈ done, ¬ relation.SameKey earlier.cells row.cells) :
    (replace edit (hasKeyOf done) (rows.map (·.cells))).countP
      (fun record => relation.SameKey record row.cells) = 1 := by
  have unhit : hasKeyOf done row.cells = false := by
    rw [hasKeyOf, List.any_eq_false]
    intro earlier before same
    exact apart earlier before (of_decide_eq_true same).symm
  have counted : (rows.filter fun other => relation.SameKey other.cells row.cells).countP
      (fun other => !hasKeyOf done other.cells) = 1 := by
    rw [identified.filter_sameKey member]
    simp [unhit]
  rw [countP_replace (spares_next identified keeps among apart), List.countP_map]
  exact (List.countP_filter ..).symm.trans counted

/-- Replacing the next row behind those before replaces one row more. -/
theorem replace_next (identified : Identified rows) (keeps : KeepsKeys rows edit)
    (among : ∀ earlier ∈ done, earlier ∈ rows)
    (apart : ∀ earlier ∈ done, ¬ relation.SameKey earlier.cells row.cells) :
    replace edit (fun record => relation.SameKey record row.cells)
        (replace edit (hasKeyOf done) (rows.map (·.cells)))
      = replace edit (hasKeyOf (done ++ [row])) (rows.map (·.cells)) := by
  rw [replace_replace (spares_next identified keeps among apart)]
  apply replace_congr
  intro record _
  simp [hasKeyOf]

/-- Whatever was replaced, every record has the key of a row. -/
theorem exists_key (keeps : KeepsKeys rows edit) {hits : Record → Bool} :
    ∀ record ∈ replace edit hits (rows.map (·.cells)), ∃ other ∈ rows,
      ∀ column ∈ relation.primaryKey,
        Record.value record column = Record.value other.cells column := by
  intro record member
  obtain ⟨before, listed, place⟩ := List.mem_flatMap.1 member
  obtain ⟨stored, present, rfl⟩ := List.mem_map.1 listed
  refine ⟨stored, present, ?_⟩
  split at place
  · exact keeps stored present record place
  · cases List.mem_singleton.1 place
    exact fun _ _ => rfl

/-- Replacing rows of a table, said of its rows. -/
theorem replace_cells {hits : Record → Bool} {chosen : StoredRow relation → Bool}
    (hit : ∀ row ∈ rows, hits row.cells = chosen row) :
    replace edit hits (rows.map (·.cells))
      = rows.flatMap fun row => if chosen row then edit row.cells else [row.cells] := by
  rw [replace, List.flatMap_map]
  exact List.flatMap_congr fun row member => by rw [hit row member]

/-- The keys of some rows are the keys of these rows alone. -/
theorem hasKeyOf_eq (identified : Identified rows) {chosen : StoredRow relation → Bool}
    {picked : List (StoredRow relation)}
    (all : ∀ row, row ∈ picked ↔ row ∈ rows ∧ chosen row = true) :
    ∀ row ∈ rows, hasKeyOf picked row.cells = chosen row := by
  intro row member
  rw [hasKeyOf, Bool.eq_iff_iff, List.any_eq_true]
  constructor
  · rintro ⟨other, listed, same⟩
    obtain ⟨present, selected⟩ := (all other).1 listed
    rw [identified.eq_of_sameKey member present (of_decide_eq_true same)]
    exact selected
  · intro selected
    exact ⟨row, (all row).2 ⟨member, selected⟩, decide_eq_true (identified.known row member)⟩

end Keys

end Entries

end KeyStore
