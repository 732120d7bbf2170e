import KeyStore.Proofs.Entries.Keys
import KeyStore.Proofs.Entries.Reading
import KeyStore.Proofs.Entries.Requests

/-!
# The keys that a write reads

A write whose conditions are partly tested in process reads the keys of the rows first. Those that
come are the keys of the rows whose whole record satisfies the conditions, in the order in which the
database streams them (`keysOf_gives`), and nothing but the query for them reaches the database
(`keysOf_detached`).
-/

namespace KeyStore

open Sql

/-- The request is answered without the database. -/
def StoreRequest.Detached : StoreRequest → Prop
  | .take _ | .decode _ _ => True
  | _ => False

theorem Session.handle_detached {σ : Type} (backend : Backend σ) (codec : Codec)
    {request : StoreRequest} (detached : request.Detached) (session : Session σ) :
    (handle backend codec request session).2.database = session.database := by
  cases request with
  | take number => rfl
  | decode kind packet => rfl
  | _ => exact detached.elim

namespace Entries

variable {relation : Relation} {codec : Codec} {conditions : Conditions}
  {rows : List (StoredRow relation)}

/-- The whole record decides, and the database can test its half on the cells. -/
theorem selects_eq (free : relation.BinaryFree) (dialect : Dialect) {row : StoredRow relation}
    {whole : Record} (recorded : Plain.record codec relation row = .ok whole) :
    Plain.selects codec relation conditions row
      = ((filterPlan dialect relation conditions).sql.accepts row.cells
          && (filterPlan dialect relation conditions).app.accepts whole) := by
  rw [Plain.selects, recorded, accepts_sql_eq codec free dialect conditions recorded]
  exact conditions.accepts_eq_split whole

theorem accepts_of_selects (free : relation.BinaryFree) {dialect : Dialect}
    {row : StoredRow relation} (selected : Plain.selects codec relation conditions row = true) :
    (filterPlan dialect relation conditions).sql.accepts row.cells = true := by
  cases recorded : Plain.record codec relation row with
  | error error =>
    rw [Plain.selects, recorded] at selected
    cases selected
  | ok whole =>
    rw [selects_eq free dialect recorded, Bool.and_eq_true] at selected
    exact selected.1

/-- Where the database tests all conditions, it selects the rows that satisfy them. -/
theorem accepts_eq_selects (free : relation.BinaryFree) {dialect : Dialect}
    (nothing : (filterPlan dialect relation conditions).app.isEmpty = true)
    {row : StoredRow relation}
    (reads : ∀ packet, packet? relation row.cells = some packet →
      ∃ decoded, codec relation.kind packet = .ok decoded) :
    (filterPlan dialect relation conditions).sql.accepts row.cells
      = Plain.selects codec relation conditions row := by
  obtain ⟨whole, recorded⟩ := exists_record free reads
  rw [selects_eq free dialect recorded, accepts_of_isEmpty nothing whole, Bool.and_true]

/-- Of the rows that pass the half of the database, the same satisfy all conditions as of all
rows. -/
theorem filter_selects_perm (codec : Codec) (free : relation.BinaryFree) {dialect : Dialect}
    {order : List (StoredRow relation)}
    (ordered : order.Perm (rows.filter fun row =>
      (filterPlan dialect relation conditions).sql.accepts row.cells)) :
    (order.filter (Plain.selects codec relation conditions)).Perm
      (rows.filter (Plain.selects codec relation conditions)) := by
  have filtered := ordered.filter (Plain.selects codec relation conditions)
  rw [List.filter_filter] at filtered
  rwa [List.filter_congr fun row _ => Bool.and_eq_left_iff_imp.2 (accepts_of_selects free)]
    at filtered

/-- The records that are left when the process has tested its half stand for the rows that satisfy
all conditions, and their keys are the keys of these rows. -/
theorem map_identify_filter {dialect : Dialect} (free : relation.BinaryFree)
    (keyColumns : ∀ column ∈ relation.primaryKey, relation.hasColumn column = true)
    {rows : List (StoredRow relation)} {wholes : List Record}
    (each : List.Forall₂ (fun row whole => Plain.record codec relation row = .ok whole) rows wholes)
    (passed : ∀ row ∈ rows,
      (filterPlan dialect relation conditions).sql.accepts row.cells = true) :
    (cutTo (some relation.primaryKey)
        (wholes.filter (filterPlan dialect relation conditions).app.accepts)).map
        (identify relation)
      = (rows.filter (Plain.selects codec relation conditions)).map
          fun row => identify relation row.cells := by
  induction each with
  | nil => rfl
  | @cons row whole rows wholes recorded _ ih =>
    have rest := ih fun other member => passed other (List.mem_cons_of_mem _ member)
    have selected : Plain.selects codec relation conditions row
        = (filterPlan dialect relation conditions).app.accepts whole := by
      rw [selects_eq free dialect recorded, passed row List.mem_cons_self, Bool.true_and]
    have key : identify relation (Record.project whole relation.primaryKey)
        = identify relation row.cells := by
      apply identify_congr
      intro column member
      rw [Record.value, Record.value, get?_project, if_pos member,
        get?_record_of_hasColumn codec free recorded (keyColumns column member)]
    rw [List.filter_cons, List.filter_cons, selected]
    split
    · rw [List.map_cons, ← rest, cutTo_cons, List.map_append, ← key]
      rfl
    · exact rest

/-- What a write fetches of each row to learn its key. -/
def keyPlan (dialect : Dialect) (relation : Relation) (conditions : Conditions) : FetchPlan :=
  fetchPlan relation (some relation.primaryKey) (filterPlan dialect relation conditions).app

/-- What a write makes of the rows that it reads. -/
def keysOf (dialect : Dialect) (relation : Relation) (conditions : Conditions)
    (rows : Sequence Store Record) : Sequence Store Conditions :=
  (ofRows relation (some relation.primaryKey) (keyPlan dialect relation conditions)
    (filterPlan dialect relation conditions).app rows).map fun row => .done (identify relation row)

variable {dialect : Dialect}

theorem keysOf_ask (request : Store.Request)
    (next : Store.Reply request → Sequence Store Record) :
    keysOf dialect relation conditions (.ask request next)
      = .ask request fun reply => keysOf dialect relation conditions (next reply) := by
  rw [keysOf, ofRows_ask]
  rfl

theorem targets_eq {query : Query}
    (made : Query.select dialect relation (.columns (keyPlan dialect relation conditions).columns)
      (filterPlan dialect relation conditions).sql none = .ok query) :
    targets dialect relation conditions = keysOf dialect relation conditions
      (Store.rows query (relation.shape (keyPlan dialect relation conditions).columns)) := by
  rw [keyPlan] at made ⊢
  rw [targets, all, select]
  simp only [Bool.false_and, Bool.false_eq_true, if_false, made]
  rfl

/-- The requests for keys do not reach the database once the stream is open. -/
theorem keysOf_detached (number : Nat) (items : Rows) :
    (keysOf dialect relation conditions (.ofItems (fun _ => Store.take number) items)).Only
      StoreRequest.Detached := by
  apply Sequence.Only.map
  · apply ofRows_only (fun _ _ => trivial)
    exact Sequence.only_ofItems (fun _ => Store.take_only trivial) items
  · exact fun _ => trivial

/-- The keys that come are those of the rows that satisfy all conditions, in the order in which the
database streams them. -/
theorem keysOf_gives {σ : Type} (backend : Backend σ) (codec : Codec) (conditions : Conditions)
    (free : relation.BinaryFree)
    (keyColumns : ∀ column ∈ relation.primaryKey, relation.hasColumn column = true)
    {rows : List (StoredRow relation)}
    (reads : ∀ row ∈ rows, ∀ packet, packet? relation row.cells = some packet →
      ∃ decoded, codec relation.kind packet = .ok decoded)
    (passed : ∀ row ∈ rows,
      (filterPlan dialect relation conditions).sql.accepts row.cells = true) (number : Nat) :
    Sequence.Gives (Session.handle backend codec)
      (keysOf dialect relation conditions (.ofItems (fun _ => Store.take number)
        ((rows.map fun row =>
          row.cells.project (keyPlan dialect relation conditions).columns).map .ok)))
      ((rows.filter (Plain.selects codec relation conditions)).map
        fun row => identify relation row.cells) := by
  obtain ⟨wholes, each, _⟩ := exists_records free rows reads
  obtain ⟨parts, made, agree⟩ := exists_parts backend codec free (some relation.primaryKey)
    (filterPlan dialect relation conditions).app each
  have taken : ∀ item : Except StoreError Record,
      Action.Gives (Session.handle backend codec) (Store.take number) () :=
    fun _ => .ask fun _ => .done ()
  have given : Sequence.Gives (Session.handle backend codec)
      (ofRows relation (some relation.primaryKey) (keyPlan dialect relation conditions)
        (filterPlan dialect relation conditions).app
        (.ofItems (fun _ => Store.take number) _))
      (cutTo (some relation.primaryKey)
        (parts.filter (filterPlan dialect relation conditions).app.accepts)) :=
    ofRows_gives (.ofItems taken _) made
  rw [collect_agreeing agree] at given
  rw [← map_identify_filter free keyColumns each passed]
  apply given.map
  rw [List.forall₂_map_right_iff, List.forall₂_same]
  exact fun _ _ => .done _

end Entries

end KeyStore
