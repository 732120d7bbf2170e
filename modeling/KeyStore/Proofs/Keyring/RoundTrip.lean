import KeyStore.Proofs.Keyring.Changing

/-!
# What was added is found

An entry that was added to a collection is found there under its id, with what the owners say in the
fields that name them, and with what the record said in all other columns. Whatever the packet of
the entry says, it does not come before that (`added_found`).

Subkeys are left out: what is added to them is a key, which is no subkey until a signature binds it.

What the database has to do is said by `Backend.Enters`: an INSERT that is not refused adds one row,
and what it gives a column is in that row as it was given.
-/

namespace KeyStore

open Sql Entries

variable {σ : Type}

/-- An INSERT is refused, or adds one row, and the columns have the values that it gives. -/
structure Backend.Enters (backend : Backend σ) (seen : σ → Tables) (holds : Test) : Prop
    extends backend.Faithful seen holds where
  enters : ∀ relation ∈ Relation.catalogue, relation.isWritable = true → ∀ given args state,
    (∃ error, (backend.execute ⟨.insert relation.name given, args⟩ state).1 = .error error) ∨
    ∃ count later, ∃ added : StoredRow relation,
      backend.execute ⟨.insert relation.name given, args⟩ state = (.ok count, later) ∧
      (∀ field, relation.hasColumn field = true → ∀ value,
        (assign given args .empty).get? field = some value →
          added.cells.get? field = some value) ∧
      (seen later relation.name).Perm (added.cells :: seen state relation.name)

/-! ### Entries -/

namespace Collection

variable {collection : Collection} {id : String} {row record : Record}

/-- A record can be an entry of the collection: a signature on a key or subkey has a type that
belongs there. -/
def Admits : Collection → Record → Prop
  | keySignatures _, record =>
    ∃ code ∈ ([0x1F, 0x20, 0x19] : List Int64), Record.value record "sigtype" = .int code
  | subkeySignatures _ _, record =>
    ∃ code ∈ ([0x18, 0x28] : List Int64), Record.value record "sigtype" = .int code
  | _, _ => True

theorem Admits.exists_code (admits : collection.Admits record) :
    ∀ types ∈ collection.signatureTypes?,
      ∃ code ∈ types.map (·.code), Record.value record "sigtype" = .int code := by
  rintro types matters
  cases collection with
  | keySignatures key =>
    cases matters
    exact admits
  | subkeySignatures key subkey =>
    cases matters
    exact admits
  | _ => cases matters

/-- The row has the texts that single out the entry. -/
def Singles (collection : Collection) (id : String) (row : Record) : Prop :=
  ∀ entry ∈ collection.owners ++ [("id", id)], Record.value row entry.1 = .text entry.2

theorem singles_iff : collection.Singles id row ↔
    (Scope.conditions collection.owners).accepts row = true ∧
      Record.value row "id" = .text id := by
  rw [Singles, List.forall_mem_append, List.forall_mem_singleton,
    Scope.accepts_scope collection.owners_distinct]

theorem Singles.covers (singles : collection.Singles id row)
    (typed : ∀ types ∈ collection.signatureTypes?, SignedAs (types.map (·.code)) row) :
    collection.Covers row ∧ Record.value row "id" = .text id :=
  ⟨(collection.covers_iff row).2 ⟨(singles_iff.1 singles).1, typed⟩, (singles_iff.1 singles).2⟩

theorem singles_of_covers
    (entry : collection.Covers row ∧ Record.value row "id" = .text id) :
    collection.Singles id row :=
  singles_iff.2 ⟨((collection.covers_iff row).1 entry.1).1, entry.2⟩

/-- Rows with these texts have the same key. -/
theorem Singles.sameKey (own : collection.target = collection.relation)
    (left : collection.Singles id row) (right : collection.Singles id record) :
    collection.relation.SameKey row record := by
  have keyed : ∀ column ∈ collection.relation.primaryKey,
      column ∈ (collection.owners ++ [("id", id)]).map (·.1) := by
    cases collection with
    | subkeys key => exact absurd own (target_subkeys_ne key)
    | subkeySignatures key subkey =>
      exact show ["key", "id"] ⊆ ["key", "issuer", "id"] by decide
    | _ => exact List.Subset.refl _
  intro column member
  obtain ⟨entry, listed, rfl⟩ := List.mem_map.1 (keyed column member)
  rw [left entry listed, right entry listed]
  exact Value.compare?_text.2 rfl

theorem sigtype_column (collection : Collection)
    (matters : collection.signatureTypes?.isSome = true) :
    collection.relation.column? "sigtype" = some ⟨"sigtype", .int⟩ := by
  cases collection with
  | keySignatures key => rfl
  | subkeySignatures key subkey => rfl
  | _ => cases matters

/-- What an entry is asked for by can be compared with what is in a row with these texts. -/
theorem Singles.suit (singles : collection.Singles id row)
    (typed : ∀ types ∈ collection.signatureTypes?, (Record.value row "sigtype").HasType .int) :
    (collection.entry id).Suit row := by
  refine (collection.asks_entry id).suit_of_typed fun field filter column asked found => ?_
  rcases asked_entry asked with ⟨text, listed⟩ | ⟨rfl, matters⟩
  · rw [collection.column_of_owner id _ listed] at found
    cases found
    rw [singles _ listed]
    exact Or.inr rfl
  · rw [collection.sigtype_column matters] at found
    cases found
    obtain ⟨types, some_types⟩ := Option.isSome_iff_exists.1 matters
    exact typed types some_types

/-! ### What was said -/

/-- The row has what the owners say, and in all other columns what the record says. -/
structure Keeps (collection : Collection) (record row : Record) : Prop where
  owned : ∀ entry ∈ collection.owners, row.get? entry.1 = some (.text entry.2)
  said : ∀ field, collection.relation.hasColumn field = true →
    field ∉ collection.owners.map (·.1) →
      ∀ value, record.get? field = some value → row.get? field = some value

theorem keeps_stamped (own : collection.target = collection.relation) (record : Record) :
    collection.Keeps record (collection.stamp.record.overlay record) where
  owned := get?_stamped_of_owner own record
  said _ _ other _ said := (get?_stamped other record).trans said

/-- What is in the columns of one row is in another. -/
theorem Keeps.of_columns {other : Record} (keeps : collection.Keeps record row)
    (columns : ∀ field, collection.relation.hasColumn field = true →
      ∀ value, row.get? field = some value → other.get? field = some value) :
    collection.Keeps record other where
  owned entry listed := by
    refine columns _ ?_ _ (keeps.owned entry listed)
    rw [Relation.hasColumn, collection.column_of_owner "" entry (List.mem_append_left _ listed)]
    rfl
  said field column unowned value said :=
    columns field column value (keeps.said field column unowned value said)

theorem Keeps.value_eq (keeps : collection.Keeps record row) {field : String} {value : Value}
    (column : collection.relation.hasColumn field = true)
    (unowned : field ∉ collection.owners.map (·.1)) (held : Record.value record field = value)
    (known : value ≠ .null) : Record.value row field = value := by
  rw [Record.value, keeps.said field column unowned value (Record.get?_of_value held known)]
  rfl

theorem Keeps.singles (keeps : collection.Keeps record row)
    (named : Record.value record "id" = .text id) : collection.Singles id row := by
  have unowned : "id" ∉ collection.owners.map (·.1) := by cases collection <;> simp [owners]
  have column : collection.relation.hasColumn "id" = true := by
    rw [Relation.hasColumn, collection.id_column]
    rfl
  rw [Singles, List.forall_mem_append, List.forall_mem_singleton]
  refine ⟨fun entry listed => ?_, keeps.value_eq column unowned named (by simp)⟩
  rw [Record.value, keeps.owned entry listed]
  rfl

theorem Keeps.exists_code (keeps : collection.Keeps record row)
    (admits : collection.Admits record) :
    ∀ types ∈ collection.signatureTypes?,
      ∃ code ∈ types.map (·.code), Record.value row "sigtype" = .int code := by
  intro types matters
  obtain ⟨code, known, typed⟩ := admits.exists_code types matters
  have unowned : "sigtype" ∉ collection.owners.map (·.1) := fun owner =>
    collection.sigtype_not_owner "" (by rw [List.map_append]; exact List.mem_append_left _ owner)
  have column := collection.sigtype_column (matters ▸ rfl)
  exact ⟨code, known,
    keeps.value_eq (by rw [Relation.hasColumn, column]; rfl) unowned typed (by simp)⟩

/-- A row that keeps what was said is the entry, -/
theorem Keeps.entry (keeps : collection.Keeps record row)
    (named : Record.value record "id" = .text id) (admits : collection.Admits record) :
    collection.Covers row ∧ Record.value row "id" = .text id :=
  (keeps.singles named).covers fun types matters => by
    obtain ⟨code, known, typed⟩ := keeps.exists_code admits types matters
    exact signedAs_of_value known typed

/-- and can be compared with what the entry is asked for by. -/
theorem Keeps.suit (keeps : collection.Keeps record row)
    (named : Record.value record "id" = .text id) (admits : collection.Admits record) :
    (collection.entry id).Suit row :=
  (keeps.singles named).suit fun types matters => by
    obtain ⟨code, _, typed⟩ := keeps.exists_code admits types matters
    exact typed ▸ Or.inr rfl

end Collection

namespace Keyring

variable {backend : Backend σ} {seen : σ → Tables} {holds : Test} {session later : Session σ}
  {collection : Collection} {id : String} {record : Record} (schema : String)

/-- An addition that succeeds has added one row, in which the columns are what was said. -/
theorem insert_enters (enters : backend.Enters seen holds) (codec : Codec)
    (ended : (insert ⟨backend.dialect, schema⟩ collection record).run
      (Session.handle backend codec) session = (.ok (), later)) :
    ∃ added : StoredRow collection.target,
      (∀ field, collection.target.hasColumn field = true → ∀ value,
        (collection.stamp.record.overlay record).get? field = some value →
          added.cells.get? field = some value) ∧
      (seen later.database collection.target.name).Perm
        (added.cells :: seen session.database collection.target.name) := by
  obtain ⟨listed, writable⟩ := collection.target_written
  rw [insert_eq] at ended
  cases nothing : (collection.target.storable
      (collection.stamp.record.overlay record)).isEmpty with
  | true =>
    rw [Query.insert, if_pos nothing] at ended
    cases ended
  | false =>
    obtain ⟨given, args, made, gives⟩ := exists_insert backend.dialect collection.target nothing
    rw [made] at ended
    simp only [Action.run_bind (f := fun _ => Action.done ())] at ended
    rcases Session.run_written enters.toFaithful codec
        ⟨.insert collection.target.name given, args⟩ session with
      ⟨error, last, ran, _, _⟩ | ⟨begun, same, ran⟩
    · rw [ran] at ended
      cases ended
    · rw [ran] at ended
      rcases enters.enters collection.target listed writable given args begun.database with
        ⟨error, refused⟩ | ⟨count, database, added, executed, holds, perm⟩
      · simp only [Session.execute, Session.record, refused] at ended
        cases ended
      · simp only [Session.execute, Session.record, executed] at ended
        cases ended
        rw [same] at perm
        exact ⟨added, fun field column value said =>
          holds field column value ((gives field column).trans said), perm⟩

/-- The row that was added is the entry, and the only one. -/
theorem filter_added {reader : Codec} {added : StoredRow collection.relation}
    {rows : List (StoredRow collection.relation)}
    (entry : collection.Covers added.cells ∧ Record.value added.cells "id" = .text id)
    (fresh : ∀ row ∈ rows, ¬ collection.Singles id row.cells)
    (recorded : ∀ row, ∃ whole, Plain.record reader collection.relation row = .ok whole) :
    (added :: rows).filter (Plain.selects reader collection.relation (collection.entry id))
      = [added] := by
  have selected (row : StoredRow collection.relation) :
      Plain.selects reader collection.relation (collection.entry id) row = true ↔
        collection.Covers row.cells ∧ Record.value row.cells "id" = .text id := by
    obtain ⟨whole, read⟩ := recorded row
    exact Collection.selects_entry_of_recorded collection.readsFrom_relation read id
  rw [List.filter_cons_of_pos ((selected added).2 entry), List.filter_eq_nil_iff.2]
  exact fun row member found =>
    fresh row member (Collection.singles_of_covers ((selected row).1 found))

/-- If one row alone is the entry, its whole record is found. -/
theorem find_alone (faithful : backend.Faithful seen holds) (reader : Codec)
    {rows : List (StoredRow collection.relation)} {row : StoredRow collection.relation}
    (content : seen session.database collection.relation.name = rows.map (·.cells))
    (compares : ∀ row ∈ rows, (collection.entry id).Suit row.cells)
    (reads : ∀ packet, ∃ decoded, reader collection.relation.kind packet = .ok decoded)
    (alone : (rows.filter
      (Plain.selects reader collection.relation (collection.entry id))).Perm [row]) :
    ∃ found last, (find? ⟨backend.dialect, schema⟩ collection id none).run
        (Session.handle backend reader) session = (.ok (some found), last) ∧
      Plain.record reader collection.relation row = .ok found := by
  have listed := collection.readsFrom_relation.listed
  have understood : ∀ row ∈ rows, (filterPlan backend.dialect collection.relation
      (collection.entry id)).sql.UnderstoodBy holds backend.dialect row.cells := by
    rw [Conditions.filterPlan_of_asks (collection.asks_entry id)]
    exact fun row member => faithful.understands _ _ (compares row member)
  obtain ⟨order, records, items, chosen, each, opens, _, first⟩ := select_shows
    (faithful.streams _ listed (limits backend.dialect collection.relation (collection.entry id)
      true))
    (Relation.catalogue_wellFormed _ listed).binaryFree content
    (fun row _ packet _ => reads packet) understood none
  obtain rfl := List.perm_singleton.1 (chosen.trans alone)
  cases each with
  | @cons _ found _ _ shows others =>
    cases others
    obtain ⟨_, read, rfl⟩ := shows
    obtain ⟨last, ran, _⟩ := opens.run_first
    exact ⟨found, last, ran.trans (by rw [first]; rfl), read⟩

/-- An entry that was added is found, whatever its packet says. -/
theorem added_found (enters : backend.Enters seen holds) (codec reader : Codec)
    (own : collection.target = collection.relation)
    (named : Record.value record "id" = .text id) (admits : collection.Admits record)
    {rows : List (StoredRow collection.relation)}
    (content : seen session.database collection.relation.name = rows.map (·.cells))
    (compares : ∀ row ∈ rows, (collection.entry id).Suit row.cells)
    (fresh : ∀ row ∈ rows,
      ¬ collection.relation.SameKey row.cells (collection.stamp.record.overlay record))
    (reads : ∀ packet, ∃ decoded, reader collection.relation.kind packet = .ok decoded)
    (ended : (add ⟨backend.dialect, schema⟩ collection record).run
      (Session.handle backend codec) session = (.ok (), later)) :
    ∃ found last, (find? ⟨backend.dialect, schema⟩ collection id none).run
        (Session.handle backend reader) later = (.ok (some found), last) ∧
      collection.Keeps record found := by
  have free := (Relation.catalogue_wellFormed _ collection.readsFrom_relation.listed).binaryFree
  have inserted : (insert ⟨backend.dialect, schema⟩ collection record).run
      (Session.handle backend codec) session = (.ok (), later) := by
    cases collection with
    | subkeys key => exact absurd own (Collection.target_subkeys_ne key)
    | _ => exact ended
  obtain ⟨added, given, perm⟩ := own ▸ insert_enters schema enters codec inserted
  rw [content, ← List.map_cons] at perm
  obtain ⟨present, content, ordered⟩ := exists_of_perm_map perm
  have stamped := Collection.keeps_stamped own record
  have keeps : collection.Keeps record added.cells := stamped.of_columns given
  have alone := filter_added (keeps.entry named admits)
    (fun row member found => fresh row member (found.sameKey own (stamped.singles named)))
    fun row => exists_record free fun packet _ => reads packet
  have comparable : ∀ row ∈ present, (collection.entry id).Suit row.cells := by
    intro row member
    rcases List.mem_cons.1 (ordered.mem_iff.1 member) with rfl | before
    · exact keeps.suit named admits
    · exact compares row before
  obtain ⟨found, last, ran, read⟩ := find_alone schema enters.toFaithful reader content comparable
    reads (alone ▸ ordered.filter _)
  refine ⟨found, last, ran, keeps.of_columns fun field column value held => ?_⟩
  rw [get?_record_of_hasColumn reader free read column, held]

end Keyring

/-! ### An engine -/

theorem Sql.Engine.ledger_enters (db : Engine) (dialect : Dialect) :
    (db.ledger dialect).Enters Tables.shown (db.holds dialect) where
  toFaithful := db.ledger_faithful dialect
  enters relation listed writable given args tables := by
    have target := Tables.name_ne_subkeys listed writable
    refine Or.inr ⟨1, tables.extended relation.name (entered relation given args).cells,
      entered relation given args, ?_, fun field column value gives => ?_, ?_⟩
    · simp only [ledger, Relation.find?_catalogue listed]
    · have is_name := (mem_columnNames_iff relation field).2 column
      rw [entered, StoredRow.ofValues, FieldMap.get?_ofList_map, if_pos is_name, gives]
      rfl
    · rw [Tables.shown_of_ne target, Tables.shown_of_ne target, Tables.extended,
        Function.update_self]
      exact List.perm_append_singleton _ _

namespace Keyring

/-- A signature that says it was another key, holds no number where there should be one, and has a
field that is not stored. -/
def strayRecord : Record :=
  .ofList [("id", .text "u"), ("key", .text "B"), ("issuer", .text "C"), ("sigtype", .int 0x1F),
    ("binary", .bytes [2]), ("expires", .text "never"), ("comment", .text "lost")]

/-- Packets that deny what is stored. -/
def denyingCodec : Codec := fun _ _ =>
  .ok (.ofList [("issuer", .text "D"), ("comment", .text "found")])

/-- The signature is found on the key that it was added to, as it was said to be. -/
theorem added_found_stray :
    ∃ later found last,
      (add ⟨.sqlite, "main"⟩ (.keySignatures "A") strayRecord).run
          (Session.handle (Conditions.strictEngine.ledger .sqlite) denyingCodec)
          (.start storedTables) = (.ok (), later) ∧
      (find? ⟨.sqlite, "main"⟩ (.keySignatures "A") "u" none).run
          (Session.handle (Conditions.strictEngine.ledger .sqlite) denyingCodec) later
        = (.ok (some found), last) ∧
      found.get? "key" = some (.text "A") ∧ found.get? "issuer" = some (.text "C") ∧
      found.get? "expires" = some (.text "never") := by
  have listed : Relation.keySignatures ∈ Relation.catalogue := by decide
  have content := bound_stored.content _ listed
  have fresh : ∀ row ∈ boundRows .keySignatures, ¬ Relation.keySignatures.SameKey row.cells
      ((Collection.keySignatures "A").stamp.record.overlay strayRecord) := by decide +kernel
  have ended : ((add ⟨.sqlite, "main"⟩ (.keySignatures "A") strayRecord).run
      (Session.handle (Conditions.strictEngine.ledger .sqlite) denyingCodec)
      (.start storedTables)).1 = .ok () := rfl
  have own : (Collection.keySignatures "A").target = (Collection.keySignatures "A").relation := rfl
  have named : Record.value strayRecord "id" = .text "u" := rfl
  obtain ⟨found, last, ran, owners, columns⟩ := added_found "main"
    (Conditions.strictEngine.ledger_enters .sqlite) denyingCodec denyingCodec own named
    ⟨0x1F, by decide, rfl⟩ content
    (fun row member => (Collection.asks_entry _ _).suit
      (bound_stored.fit _ listed _ (content ▸ List.mem_map_of_mem member)))
    fresh (fun _ => ⟨_, rfl⟩) (Prod.ext ended rfl)
  exact ⟨_, found, last, Prod.ext ended rfl, ran, owners ("key", "A") (by decide),
    columns "issuer" rfl (by decide) _ rfl, columns "expires" rfl (by decide) _ rfl⟩

end Keyring

end KeyStore
