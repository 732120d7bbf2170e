import KeyStore.Proofs.Keyring.Adding

/-!
# What updates change

An update of an entry changes the row that a reader is shown as this entry and no other; where
nobody would find the entry it changes nothing (`updates_found`). Subkeys are the exception. They
are read from a view, by the key they are bound to and their id, but a subkey is written as a key,
by its id alone (`updates_key`): a key that is no subkey of the owner, so that asking for the entry
does not find it, is changed all the same (`unbound_key_changes`).

What the database has to do is said by `Backend.Revises`; `Engine.ledger` does it.
-/

namespace KeyStore

open Sql Entries

variable {σ : Type}

/-- The tables with some rows of one of them changed, each in its place. -/
def Tables.revised (tables : Tables) (name : String) (hits : Record → Bool)
    (edit : Record → Record) : Tables :=
  Function.update tables name ((tables name).map fun row => if hits row then edit row else row)

theorem Tables.revised_congr {tables : Tables} {name : String} {hits others : Record → Bool}
    (same : ∀ row ∈ tables name, hits row = others row) (edit : Record → Record) :
    tables.revised name hits edit = tables.revised name others edit := by
  rw [revised, revised, List.map_congr_left fun row member => by rw [same row member]]

theorem Tables.revised_of_none {tables : Tables} {name : String} {hits : Record → Bool}
    (nowhere : ∀ row ∈ tables name, hits row = false) (edit : Record → Record) :
    tables.revised name hits edit = tables := by
  have unchanged : (tables name).map (fun row => if hits row then edit row else row)
      = tables name := by
    rw [List.map_congr_left (g := id) fun row member => by simp [nowhere row member], List.map_id]
  rw [revised, unchanged, Function.update_eq_self]

/-- An UPDATE is refused, or gives the rows that satisfy its conditions their new values. Subkeys
are seen as the view computes them. -/
structure Backend.Revises (backend : Backend σ) (seen : σ → Tables) (holds : Test) : Prop
    extends backend.Faithful seen holds where
  updates : ∀ relation ∈ Relation.catalogue, relation.isWritable = true →
    ∀ assignments conditions args state,
      (∃ error later,
        backend.execute ⟨.update relation.name assignments conditions, args⟩ state
          = (.error error, later) ∧ seen later = seen state) ∨
      ∃ count later,
        backend.execute ⟨.update relation.name assignments conditions, args⟩ state
          = (.ok count, later) ∧
        ∀ other ∈ Relation.catalogue, other.isWritable = true → seen later other.name
          = (seen state).revised relation.name (holds conditions args) (assign assignments args)
            other.name
  derives : ∀ state row,
    row ∈ seen state Relation.subkeys.name ↔ row ∈ (seen state).subkeys

/-! ### Statements -/

section Statements

variable {backend : Backend σ} {seen : σ → Tables} {holds : Test} {session : Session σ}
  {relation : Relation} {conditions : Conditions}

/-- Changing rows under conditions that the database can test is one statement, put in a
transaction. Without a stored field there is none. -/
theorem update_eq (dialect : Dialect) (writable : relation.isWritable = true)
    (asks : conditions.Asks relation) {record : Record}
    (some_stored : (relation.storable record).isEmpty = false) :
    ∃ assignments before parts bound,
      conditions.bind ⟨dialect, before⟩ = (.ok parts, ⟨dialect, bound⟩) ∧
      (∀ row, assign assignments bound row = (relation.storable record).overlay row) ∧
      Entries.update dialect relation record conditions = (Store.transact .begin).bind fun _ =>
        Store.execute ⟨.update relation.name assignments parts, bound⟩ := by
  obtain ⟨first, pushed, assigned⟩ :=
    Query.assign_bindFields (.empty dialect) (relation.storable record)
  obtain ⟨parts, rest, binds⟩ := Conditions.bindEntries_ok conditions.toList asks.plain
    (Arguments.extend (.empty dialect) first)
  have made : Query.update dialect relation (relation.storable record) conditions
      = .ok ⟨.update relation.name
          (Query.bindFields (.empty dialect) (relation.storable record)).1 parts,
        first ++ rest⟩ := by
    rw [Query.update, relation.storable_storable, some_stored, if_neg Bool.false_ne_true]
    refine (congrArg (Query.onRows · conditions _) pushed).trans ?_
    rw [Query.onRows, Conditions.bind, binds]
    rfl
  refine ⟨_, first, parts, first ++ rest, binds, fun row => assigned rest row, ?_⟩
  rw [Entries.update, ensureWritable, writable]
  simp only [some_stored, writeRows, Conditions.filterPlan_of_asks asks, made]
  rfl

/-- An UPDATE that is refused, or not sent because no transaction is open or there is nothing to
store, changes nothing; if not it lays what is stored of the record over the rows that satisfy the
conditions. -/
theorem update_effects (revises : backend.Revises seen holds) (codec : Codec)
    (fit : (seen session.database).Fit) (listed : relation ∈ Relation.catalogue)
    (writable : relation.isWritable = true) (asks : conditions.Asks relation) (record : Record) :
    seen ((Entries.update backend.dialect relation record conditions).run
        (Session.handle backend codec) session).2.database = seen session.database ∨
      ∀ other ∈ Relation.catalogue, other.isWritable = true →
        seen ((Entries.update backend.dialect relation record conditions).run
          (Session.handle backend codec) session).2.database other.name
          = (seen session.database).revised relation.name conditions.accepts
            (relation.storable record).overlay other.name := by
  cases nothing : (relation.storable record).isEmpty with
  | true =>
    left
    rw [Entries.update, ensureWritable, writable]
    simp only [nothing, if_true]
    rfl
  | false =>
    obtain ⟨assignments, before, parts, bound, binds, assigned, body⟩ :=
      update_eq backend.dialect writable asks nothing
    rw [body]
    rcases Session.run_written revises.toFaithful codec
        ⟨.update relation.name assignments parts, bound⟩ session with
      ⟨error, later, ran, _, same⟩ | ⟨begun, same, ran⟩
    · rw [ran]
      exact Or.inl same
    · rw [ran]
      rcases revises.updates relation listed writable assignments parts bound begun.database with
        ⟨error, later, executed, kept⟩ | ⟨count, later, executed, left⟩
      · rw [Session.execute_database, executed]
        exact Or.inl (kept.trans same)
      · rw [Session.execute_database, executed]
        refine Or.inr fun other there written => ?_
        have tested := Tables.revised_congr
          (fun row member => revises.toFaithful.understood asks (fit relation listed) row member
            before parts _ binds) (relation.storable record).overlay
        rw [left other there written, same, funext assigned, tested]

end Statements

/-! ### Entries -/

/-- The tables hold the same rows. -/
def Tables.Same (before after : Tables) : Prop :=
  ∀ other ∈ Relation.catalogue, other.isWritable = true → after other.name = before other.name

/-- The tables hold the same rows, or those that are meant have the stored fields of the record, and
all others are as they were. -/
def Tables.Changed (before after : Tables) (relation : Relation) (record : Record)
    (meant : Record → Bool) : Prop :=
  before.Same after ∨ ∀ other ∈ Relation.catalogue, other.isWritable = true →
    after other.name
      = before.revised relation.name meant (relation.storable record).overlay other.name

theorem Tables.Changed.same {before after : Tables} {relation : Relation} {record : Record}
    {meant : Record → Bool} (changed : before.Changed after relation record meant)
    (nowhere : ∀ row ∈ before relation.name, meant row = false) : before.Same after := by
  rcases changed with same | revised
  · exact same
  · intro other listed writable
    rw [revised other listed writable, revised_of_none nowhere]

theorem value_subkeyOf_id (signature key : Record) :
    Record.value (subkeyOf signature key) "id" = Record.value key "id" := by
  simp only [subkeyOf, FieldMap.ofList, List.foldl_cons, List.foldl_nil, Record.value_insert,
    String.reduceEq, if_true, if_false]

/-- A signature binds the key to its owner. -/
def Tables.Binding (tables : Tables) (owner : String) (key : Record) : Prop :=
  ∃ signature ∈ tables Relation.keySignatures.name,
    Binds signature key ∧ Record.value signature "issuer" = .text owner

namespace Keyring

variable {backend : Backend σ} {seen : σ → Tables} {holds : Test} {session : Session σ}
  (schema : String) (codec : Codec)

/-- The tables after an update. -/
abbrev updated (backend : Backend σ) (seen : σ → Tables) (codec : Codec) (session : Session σ)
    (keyring : Keyring) (collection : Collection) (id : String) (record : Record) : Tables :=
  seen ((keyring.update collection id record).run (Session.handle backend codec) session).2.database

theorem update_changes (revises : backend.Revises seen holds) (fit : (seen session.database).Fit)
    (collection : Collection) (id : String) (record : Record) :
    (seen session.database).Changed
      (updated backend seen codec session ⟨backend.dialect, schema⟩ collection id record)
      collection.target record (collection.targetEntry id).accepts := by
  obtain ⟨listed, writable⟩ := collection.target_written
  have state := Action.run_bind_done_snd (Session.handle backend codec) (Entries.update
    backend.dialect collection.target record (collection.targetEntry id)) (fun _ => ()) session
  have effects := update_effects revises codec fit listed writable
    (collection.asks_targetEntry id) record
  rw [← state] at effects
  exact effects.imp_left fun kept other _ _ => congrFun kept other.name

theorem contains_answers (faithful : backend.Faithful seen holds)
    (fit : (seen session.database).Fit) (collection : Collection) (id : String) :
    ∃ found,
      outcome backend codec session (contains ⟨backend.dialect, schema⟩ collection id)
        = .ok found ∧
      (found = true ↔ ∃ row ∈ seen session.database collection.relation.name,
        collection.Covers row ∧ Record.value row "id" = .text id) := by
  have listed := collection.readsFrom_relation.listed
  have asks := collection.asks_entry id
  obtain ⟨later, ran, _⟩ := exist_answers codec (faithful.streams _ listed true)
    (faithful.understood asks (fit _ listed)) asks
  refine ⟨_, congrArg Prod.fst ran, ?_⟩
  simp only [List.any_eq_true, Collection.accepts_entry_iff]

/-- Entries of a collection that is read from the relation it is written to: an update changes what
asking for the entry finds, and nothing else. -/
def UpdatesFound (backend : Backend σ) (seen : σ → Tables) (codec : Codec) (session : Session σ)
    (keyring : Keyring) (collection : Collection) (id : String) (record : Record) : Prop :=
  ∃ found,
    outcome backend codec session (keyring.contains collection id) = .ok found ∧
    (found = true ↔ ∃ row ∈ seen session.database collection.relation.name,
      collection.Covers row ∧ Record.value row "id" = .text id) ∧
    (seen session.database).Changed
      (updated backend seen codec session keyring collection id record) collection.relation record
      (fun row => decide (collection.Covers row ∧ Record.value row "id" = .text id)) ∧
    (found = false → (seen session.database).Same
      (updated backend seen codec session keyring collection id record))

/-- Subkeys: asking for one finds the keys with its id that are bound to the owner, and an update
changes keys with its id, bound or not, and nothing else. -/
def UpdatesKey (backend : Backend σ) (seen : σ → Tables) (codec : Codec) (session : Session σ)
    (keyring : Keyring) (owner id : String) (record : Record) : Prop :=
  (∃ found,
    outcome backend codec session (keyring.contains (.subkeys owner) id) = .ok found ∧
    (found = true ↔ ∃ key ∈ seen session.database Relation.keys.name,
      Record.value key "id" = .text id ∧ (seen session.database).Binding owner key)) ∧
  (seen session.database).Changed
    (updated backend seen codec session keyring (.subkeys owner) id record) Relation.keys record
    (fun row => decide (Record.value row "id" = .text id)) ∧
  ((∀ key ∈ seen session.database Relation.keys.name, Record.value key "id" ≠ .text id) →
    (seen session.database).Same
      (updated backend seen codec session keyring (.subkeys owner) id record))

theorem updates_found (revises : backend.Revises seen holds) (fit : (seen session.database).Fit)
    {collection : Collection} (own : collection.target = collection.relation) (id : String)
    (record : Record) :
    UpdatesFound backend seen codec session ⟨backend.dialect, schema⟩ collection id record := by
  obtain ⟨found, answered, found_iff⟩ :=
    contains_answers schema codec revises.toFaithful fit collection id
  have changed := update_changes schema codec revises fit collection id record
  have tests : (collection.targetEntry id).accepts
      = fun row => decide (collection.Covers row ∧ Record.value row "id" = .text id) := by
    funext row
    rw [Collection.targetEntry_eq_entry own, Bool.eq_iff_iff, Collection.accepts_entry_iff,
      decide_eq_true_iff]
  rw [tests, own] at changed
  refine ⟨found, answered, found_iff, changed, fun missing => changed.same fun row member => ?_⟩
  rw [decide_eq_false_iff_not]
  intro entry
  have present := found_iff.2 ⟨row, member, entry⟩
  rw [missing] at present
  cases present

theorem updates_key (revises : backend.Revises seen holds) (fit : (seen session.database).Fit)
    (owner id : String) (record : Record) :
    UpdatesKey backend seen codec session ⟨backend.dialect, schema⟩ owner id record := by
  obtain ⟨found, answered, found_iff⟩ :=
    contains_answers schema codec revises.toFaithful fit (.subkeys owner) id
  have changed := update_changes schema codec revises fit (.subkeys owner) id record
  have tests : ((Collection.subkeys owner).targetEntry id).accepts
      = fun row => decide (Record.value row "id" = .text id) := by
    funext row
    rw [Bool.eq_iff_iff, decide_eq_true_iff]
    exact (Collection.accepts_entry_iff .keys id row).trans (and_iff_right trivial)
  rw [tests] at changed
  have bound : (∃ row ∈ seen session.database Relation.subkeys.name,
        (Collection.subkeys owner).Covers row ∧ Record.value row "id" = .text id) ↔
      ∃ key ∈ seen session.database Relation.keys.name,
        Record.value key "id" = .text id ∧ (seen session.database).Binding owner key := by
    simp only [revises.derives, Tables.mem_subkeys, Collection.Covers]
    constructor
    · rintro ⟨_, ⟨signature, present, key, there, binds, rfl⟩, owned, named⟩
      rw [value_subkeyOf_parentkey] at owned
      rw [value_subkeyOf_id] at named
      exact ⟨key, there, named, signature, present, binds, owned⟩
    · rintro ⟨key, there, named, signature, present, binds, owned⟩
      exact ⟨_, ⟨signature, present, key, there, binds, rfl⟩,
        (value_subkeyOf_parentkey signature key).trans owned,
        (value_subkeyOf_id signature key).trans named⟩
  refine ⟨⟨found, answered, found_iff.trans bound⟩, changed,
    fun absent => changed.same fun row member => ?_⟩
  rw [decide_eq_false_iff_not]
  exact absent row member

/-- Updates change what asking for the entry finds and nothing else, but for subkeys, whose updates
change the keys with their ids. -/
theorem updates_confined (revises : backend.Revises seen holds)
    (fit : (seen session.database).Fit) :
    (∀ collection : Collection, collection.target = collection.relation → ∀ id record,
      UpdatesFound backend seen codec session ⟨backend.dialect, schema⟩ collection id record) ∧
    ∀ owner id record,
      UpdatesKey backend seen codec session ⟨backend.dialect, schema⟩ owner id record :=
  ⟨fun _ own => updates_found schema codec revises fit own,
    fun owner id record => updates_key schema codec revises fit owner id record⟩

end Keyring

/-! ### An engine -/

namespace Sql.Engine

/-- The row of an INSERT: what it gives the columns, and what they hold otherwise. -/
def entered (relation : Relation) (given : List (String × Operand)) (args : List Value) :
    StoredRow relation :=
  .ofValues relation fun column =>
    ((assign given args .empty).get? column).getD (Record.value defaults column)

/-- A database that holds the tables of a keyring and takes all statements on them. -/
def ledger (db : Engine) (dialect : Dialect) : Backend Tables :=
  { db.served dialect fun _ _ => true with
    execute := fun query tables =>
      match query.statement with
      | .insert name given =>
        match Relation.catalogue.find? (·.name = name) with
        | some relation =>
          (.ok 1, tables.extended name (entered relation given query.args).cells)
        | none => (.error (.driver "no such table"), tables)
      | .update name assignments conditions =>
        (.ok (UInt64.ofNat ((tables name).countP (db.holds dialect conditions query.args))),
          tables.revised name (db.holds dialect conditions query.args)
            (assign assignments query.args))
      | .delete name conditions =>
        (.ok (UInt64.ofNat ((tables name).countP (db.holds dialect conditions query.args))),
          tables.without name (db.holds dialect conditions query.args))
      | _ => (.ok 0, tables) }

theorem ledger_faithful (db : Engine) (dialect : Dialect) :
    (db.ledger dialect).Faithful Tables.shown (db.holds dialect) :=
  { db.served_faithful dialect fun _ _ => true with
    begins := fun _ => rfl
    deletes := (db.served_faithful dialect fun _ _ => true).deletes }

theorem ledger_revises (db : Engine) (dialect : Dialect) :
    (db.ledger dialect).Revises Tables.shown (db.holds dialect) where
  toFaithful := db.ledger_faithful dialect
  updates relation listed writable assignments conditions args tables := by
    refine Or.inr ⟨_, _, rfl, fun other there written => ?_⟩
    have stored := Tables.name_ne_subkeys there written
    have target := Tables.name_ne_subkeys listed writable
    rw [Tables.shown_of_ne stored, Tables.revised, Tables.revised, Tables.shown_of_ne target]
    by_cases same : other.name = relation.name
    · rw [same, Function.update_self, Function.update_self]
    · rw [Function.update_of_ne same, Function.update_of_ne same, Tables.shown_of_ne stored]
  derives tables row := by
    have keys : tables.shown Relation.keys.name = tables Relation.keys.name :=
      Tables.shown_of_ne (Tables.name_ne_subkeys (by decide) rfl)
    have signatures : tables.shown Relation.keySignatures.name
        = tables Relation.keySignatures.name :=
      Tables.shown_of_ne (Tables.name_ne_subkeys (by decide) rfl)
    rw [Tables.shown_subkeys, Tables.subkeys, Tables.subkeys, keys, signatures]

end Sql.Engine

namespace Keyring

/-- The key that is a subkey of another is updated as one of the keys, and as a subkey. -/
theorem updates_confined_bound :
    storedTables.shown.Fit ∧
    UpdatesFound (Conditions.strictEngine.ledger .sqlite) Tables.shown (fun _ _ => .ok .empty)
      (.start storedTables) ⟨.sqlite, "main"⟩ (.keySignatures "A") "s"
      (.ofList [("revoked", .text "yes")]) ∧
    UpdatesKey (Conditions.strictEngine.ledger .sqlite) Tables.shown (fun _ _ => .ok .empty)
      (.start storedTables) ⟨.sqlite, "main"⟩ "B" "A" (.ofList [("revoked", .text "yes")]) := by
  have fit : (Tables.shown (Session.start storedTables).database).Fit := bound_stored.fit
  have confined := updates_confined "main" (fun _ _ => .ok .empty)
    (Conditions.strictEngine.ledger_revises .sqlite) fit
  exact ⟨fit, confined.1 (.keySignatures "A") rfl "s" _, confined.2 "B" "A" _⟩

/-- Nobody finds the key `A` among the subkeys of `C`, but to update it there changes it. -/
theorem unbound_key_changes :
    ¬ ∀ {σ : Type} (backend : Backend σ) (seen : σ → Tables) (holds : Test) (codec : Codec)
      (session : Session σ) (schema : String) (collection : Collection) (id : String)
      (record : Record), backend.Revises seen holds → (seen session.database).Fit →
      outcome backend codec session (contains ⟨backend.dialect, schema⟩ collection id)
        = .ok false →
      (seen session.database).Same
        (updated backend seen codec session ⟨backend.dialect, schema⟩ collection id record) := by
  intro confined
  have same := confined (Conditions.strictEngine.ledger .sqlite) Tables.shown
    (Conditions.strictEngine.holds .sqlite) (fun _ _ => .ok .empty) (.start storedTables) "main"
    (.subkeys "C") "A" (.ofList [("revoked", .text "yes")])
    (Conditions.strictEngine.ledger_revises .sqlite) bound_stored.fit rfl
    Relation.keys (by decide) rfl
  exact absurd (congrArg (List.map (Record.value · "revoked")) same) (by decide +kernel)

end Keyring

end KeyStore
