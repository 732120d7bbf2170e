import KeyStore.Proofs.Keyring.Listings

/-!
# What additions do

Adding an entry puts one statement, which a database refuses or which adds one row
(`Backend.Stores`). What the row holds is what the record and the owners say, as far as it has the
types of the columns (`Keyring.add_adds`). What each addition keeps holds after any number of them
(`Keyring.addEach_keeps`). A database need not check types: that rows have those of their columns is
only kept by records that have them (`Collection.Typed`).
-/

namespace KeyStore

open Sql Entries

variable {σ : Type}

/-- Rows have the types of their columns, and those of tables have what they must have. -/
structure Tables.Sound (tables : Tables) : Prop where
  fit : tables.Fit
  complete : ∀ relation ∈ Relation.catalogue, relation.isWritable = true →
    ∀ row ∈ tables relation.name, relation.Complete row

/-- The statement gives columns of the relation no values but those of their types. -/
def Sql.GivesTyped (relation : Relation) (row : List (String × Operand)) (args : List Value) : Prop :=
  ∀ column ∈ relation.columns, ∀ value,
    (assign row args .empty).get? column.name = some value → value.HasType column.type

/-- The database adds the row of an INSERT, with the values that the statement gives where these have
the types of their columns, or refuses it. What it shows stays sound if all of them have: of other
values it may store what it likes. That entries hang on another is for the keyring to say. -/
structure Backend.Stores (backend : Backend σ) (seen : σ → Tables) (holds : Test) : Prop
    extends backend.Faithful seen holds where
  inserts : ∀ relation ∈ Relation.catalogue, relation.isWritable = true → ∀ row args state,
    (∃ error later,
      backend.execute ⟨.insert relation.name row, args⟩ state = (.error error, later) ∧
      seen later = seen state) ∨
    ∃ count later added,
      backend.execute ⟨.insert relation.name row, args⟩ state = (.ok count, later) ∧
      (GivesTyped relation row args → (seen state).Sound → (seen later).Sound) ∧
      (∀ column ∈ relation.columns, ∀ value,
        (assign row args .empty).get? column.name = some value → value.HasType column.type →
          Record.value added column.name = value) ∧
      ∀ other ∈ Relation.catalogue, other.isWritable = true → ∀ present,
        present ∈ seen later other.name ↔
          present ∈ seen state other.name ∨ other.name = relation.name ∧ present = added
  silent : ∀ query state message,
    (backend.execute query state).1 ≠ .error (.dependencyExists message)

theorem Tables.sound_of_empty {tables : Tables}
    (empty : ∀ relation ∈ Relation.catalogue, tables relation.name = []) : tables.Sound where
  fit relation listed _ present :=
    absurd (empty relation listed ▸ present) List.not_mem_nil
  complete relation listed _ _ present :=
    absurd (empty relation listed ▸ present) List.not_mem_nil

/-! ### What is added -/

theorem Record.get?_of_value {record : Record} {field : String} {held : Value}
    (holds : value record field = held) (known : held ≠ .null) :
    record.get? field = some held := by
  cases found : record.get? field with
  | none =>
    rw [value, found] at holds
    exact absurd holds.symm known
  | some present =>
    rw [value, found] at holds
    exact congrArg some holds

namespace Collection

variable {collection : Collection}

/-- What is added says what the owners say, -/
theorem get?_stamped_of_owner (own : collection.target = collection.relation) (record : Record) :
    ∀ entry ∈ collection.owners,
      (collection.stamp.record.overlay record).get? entry.1 = some (.text entry.2) := by
  have stamped : collection.stamp = collection.owners := by
    cases collection with
    | subkeys key => exact absurd own (target_subkeys_ne key)
    | _ => rfl
  intro entry listed
  have said : (Scope.record collection.owners).get? entry.1 = some (.text entry.2) := by
    rw [Scope.record, FieldMap.get?_ofList_iff (by rw [List.map_map]; exact owners_distinct _)]
    exact List.mem_map_of_mem listed
  rw [stamped, FieldMap.get?_overlay, said]
  rfl

/-- and what the record says of everything else. -/
theorem get?_stamped {field : String} (other : field ∉ collection.owners.map (·.1))
    (record : Record) :
    (collection.stamp.record.overlay record).get? field = record.get? field := by
  have silent : (Scope.record collection.stamp).get? field = none := by
    refine Option.isNone_iff_eq_none.1 (Option.isSome_eq_false_iff.1 ?_)
    refine (FieldMap.contains_ofList _ _).trans (List.any_eq_false.2 fun entry listed named => ?_)
    obtain ⟨owner, member, rfl⟩ := List.mem_map.1 listed
    have among : owner ∈ collection.owners := by
      cases collection with
      | subkeys key => cases member
      | _ => exact member
    exact other (List.mem_map.2 ⟨owner, among, of_decide_eq_true named⟩)
  rw [FieldMap.get?_overlay, silent, Option.none_or]

/-- What the record says has the types of the columns of the relation that it is added to. -/
def Typed (collection : Collection) (record : Record) : Prop :=
  ∀ column ∈ collection.target.columns, (Record.value record column.name).HasType column.type

instance (collection : Collection) (record : Record) : Decidable (collection.Typed record) :=
  inferInstanceAs (Decidable (∀ column ∈ _, _))

/-- Owners are texts. -/
theorem type_of_stamped (collection : Collection) : ∀ column ∈ collection.target.columns,
    column.name ∈ collection.stamp.map (·.1) → column.type = .text := by
  cases collection with
  | keys => exact show ∀ column ∈ Relation.keys.columns, column.name ∈ [] → _ by decide
  | subkeys key => exact show ∀ column ∈ Relation.keys.columns, column.name ∈ [] → _ by decide
  | identities key =>
    exact show ∀ column ∈ Relation.identities.columns, column.name ∈ ["key"] → _ by decide
  | attributes key =>
    exact show ∀ column ∈ Relation.attributes.columns, column.name ∈ ["key"] → _ by decide
  | keySignatures key =>
    exact show ∀ column ∈ Relation.keySignatures.columns, column.name ∈ ["key"] → _ by decide
  | subkeySignatures key subkey =>
    exact show ∀ column ∈ Relation.keySignatures.columns, column.name ∈ ["key", "issuer"] → _ by
      decide
  | identitySignatures key identity =>
    exact show ∀ column ∈ Relation.identitySignatures.columns,
      column.name ∈ ["key", "identity"] → _ by decide
  | attributeSignatures key owner =>
    exact show ∀ column ∈ Relation.attributeSignatures.columns,
      column.name ∈ ["key", "attribute"] → _ by decide

/-- With its owners, what is added has the types of the columns if the record has. -/
theorem Typed.stamped {record : Record} (typed : collection.Typed record) :
    ∀ column ∈ collection.target.columns, ∀ value,
      (collection.stamp.record.overlay record).get? column.name = some value →
        value.HasType column.type := by
  intro column member value given
  rw [FieldMap.get?_overlay] at given
  cases said : collection.stamp.record.get? column.name with
  | some owner =>
    have distinct : (collection.stamp.map (·.1)).Nodup := by
      have owners := collection.owners_distinct
      cases collection with
      | subkeys key => exact .nil
      | _ => exact owners
    rw [said, Option.some_or] at given
    cases given
    rw [Scope.record, FieldMap.get?_ofList_iff (by rw [List.map_map]; exact distinct)] at said
    obtain ⟨⟨_, text⟩, listed, same⟩ := List.mem_map.1 said
    cases same
    rw [type_of_stamped collection column member (List.mem_map_of_mem listed)]
    exact Or.inr rfl
  | none =>
    rw [said, Option.none_or] at given
    have held := typed column member
    rw [Record.value, given] at held
    exact held

end Collection

/-! ### What additions do -/

/-- Adding an entry to a collection changes nothing, or adds one row to its relation, which has what
the record and the owners say where it has the types of the columns. -/
def Adds (collection : Collection) (record : Record) (before after : Tables) : Prop :=
  after = before ∨ ∃ added, (collection.Typed record → before.Sound → after.Sound) ∧
    (∀ column ∈ collection.target.columns, ∀ value,
      (collection.stamp.record.overlay record).get? column.name = some value →
        value.HasType column.type → Record.value added column.name = value) ∧
    ∀ other ∈ Relation.catalogue, other.isWritable = true → ∀ present,
      present ∈ after other.name ↔
        present ∈ before other.name ∨ other.name = collection.target.name ∧ present = added

theorem Adds.sound {collection : Collection} {record : Record} {before after : Tables}
    (adds : Adds collection record before after) (typed : collection.Typed record)
    (sound : before.Sound) : after.Sound := by
  rcases adds with rfl | ⟨_, keeps, _⟩
  · exact sound
  · exact keeps typed sound

namespace Keyring

variable {backend : Backend σ} {seen : σ → Tables} {holds : Test} {session : Session σ}
  (schema : String) (codec : Codec)

/-- Adding a row is one statement, put in a transaction. -/
theorem insert_eq (keyring : Keyring) (collection : Collection) (record : Record) :
    keyring.insert collection record
      = match Query.insert keyring.dialect collection.target
          (collection.stamp.record.overlay record) with
        | .error error => .fail error
        | .ok query =>
          ((Store.transact .begin).bind fun _ => Store.execute query).bind fun _ => .done () := by
  rw [insert, Entries.add, ensureWritable, collection.target_written.2]
  cases Query.insert keyring.dialect collection.target (collection.stamp.record.overlay record) with
  | error error => rfl
  | ok query =>
    exact (Action.bind_assoc (Store.transact .begin) (fun _ => Store.execute query)
      fun _ => .done ()).symm

/-- The statement gives the columns what the record says. -/
theorem exists_insert (dialect : Dialect) (relation : Relation) {record : Record}
    (some_stored : (relation.storable record).isEmpty = false) :
    ∃ row args, Query.insert dialect relation record = .ok ⟨.insert relation.name row, args⟩ ∧
      ∀ field, relation.hasColumn field = true →
        (assign row args .empty).get? field = record.get? field := by
  obtain ⟨bound, pushed, assigned⟩ := Query.assign_bindFields (.empty dialect)
    (relation.storable record)
  refine ⟨(Query.bindFields (.empty dialect) (relation.storable record)).1, bound, ?_,
    fun field column => ?_⟩
  · rw [Query.insert, some_stored, if_neg Bool.false_ne_true]
    exact congrArg (fun args : Arguments => Except.ok (Query.mk (.insert relation.name
      (Query.bindFields (.empty dialect) (relation.storable record)).1) args.values)) pushed
  · have all := assigned [] .empty
    rw [List.append_nil] at all
    refine (congrArg (FieldMap.get? · field) all).trans ?_
    rw [FieldMap.get?_overlay, FieldMap.get?_empty, Option.or_none, Relation.storable,
      FieldMap.get?_filter, column]
    cases record.get? field <;> rfl

theorem insert_adds (stores : backend.Stores seen holds) (collection : Collection)
    (record : Record) (session : Session σ) :
    Adds collection record (seen session.database) (seen ((insert ⟨backend.dialect, schema⟩
      collection record).run (Session.handle backend codec) session).2.database) := by
  obtain ⟨listed, writable⟩ := collection.target_written
  rw [insert_eq]
  cases nothing : (collection.target.storable
      (collection.stamp.record.overlay record)).isEmpty with
  | true =>
    rw [Query.insert, if_pos nothing]
    exact Or.inl rfl
  | false =>
    obtain ⟨row, args, made, given⟩ := exists_insert backend.dialect collection.target nothing
    rw [made]
    simp only [Action.run_bind_done_snd]
    rcases Session.run_written stores.toFaithful codec
        ⟨.insert collection.target.name row, args⟩ session with
      ⟨error, later, ran, _, same⟩ | ⟨begun, same, ran⟩
    · rw [ran]
      exact Or.inl same
    · rw [ran, Session.execute_database]
      rcases stores.inserts collection.target listed writable row args begun.database with
        ⟨error, later, executed, kept⟩ | ⟨count, later, added, executed, keeps, holds, members⟩
      · rw [executed]
        exact Or.inl (kept.trans same)
      · rw [executed, ← same]
        have said (column : Column) (member : column ∈ collection.target.columns) :=
          given column.name (Relation.hasColumn_of_mem member)
        refine Or.inr ⟨added, fun typed => keeps fun column member value assigned => ?_,
          fun column member value record_said => holds column member value
            ((said column member).trans record_said), members⟩
        exact typed.stamped column member value ((said column member).symm.trans assigned)

theorem add_adds (stores : backend.Stores seen holds) (collection : Collection)
    (record : Record) (session : Session σ) (sound : (seen session.database).Sound) :
    Adds collection record (seen session.database) (seen ((add ⟨backend.dialect, schema⟩
      collection record).run (Session.handle backend codec) session).2.database) := by
  cases collection with
  | subkeys key =>
    have asks := Collection.asks_entry .keys key
    have listed : Relation.keys ∈ Relation.catalogue := by decide
    obtain ⟨asked, ran, same⟩ := exist_answers codec (stores.streams _ listed true)
      (stores.toFaithful.understood asks (sound.fit _ listed)) asks
    have goes_on : (add ⟨backend.dialect, schema⟩ (.subkeys key) record).run
        (Session.handle backend codec) session = _ := Action.run_bind_of_ok ran
    rw [goes_on]
    split
    · rw [← same]
      exact insert_adds schema codec stores (.subkeys key) record asked
    · exact Or.inl same
  | _ => exact insert_adds schema codec stores _ record session

/-- Adds entries one after the other, whether it succeeds or not. -/
def addEach (keyring : Keyring) (handle : Handler Store (Session σ)) (session : Session σ)
    (entries : List (Collection × Record)) : Session σ :=
  entries.foldl (fun session entry => ((keyring.add entry.1 entry.2).run handle session).2) session

/-- What every addition keeps holds after all of them, and of typed records all rows stay sound. -/
theorem addEach_keeps (stores : backend.Stores seen holds) (kept : Tables → Prop)
    {entries : List (Collection × Record)}
    (typed : ∀ entry ∈ entries, entry.1.Typed entry.2)
    (step : ∀ entry ∈ entries, ∀ before after, Adds entry.1 entry.2 before after →
      kept before → kept after)
    (session : Session σ) (sound : (seen session.database).Sound)
    (start : kept (seen session.database)) :
    (seen (addEach ⟨backend.dialect, schema⟩ (Session.handle backend codec) session
        entries).database).Sound ∧
      kept (seen (addEach ⟨backend.dialect, schema⟩ (Session.handle backend codec) session
        entries).database) := by
  induction entries generalizing session with
  | nil => exact ⟨sound, start⟩
  | cons entry rest ih =>
    have adds := add_adds schema codec stores entry.1 entry.2 session sound
    exact ih (fun other member => typed other (List.mem_cons_of_mem _ member))
      (fun other member => step other (List.mem_cons_of_mem _ member)) _
      (adds.sound (typed entry List.mem_cons_self) sound)
      (step entry List.mem_cons_self _ _ adds start)

end Keyring

/-! ### An engine -/

namespace Tables

variable {tables : Tables} {relation : Relation} {added : Record}

/-- The tables after a row was added. -/
def extended (tables : Tables) (name : String) (added : Record) : Tables :=
  Function.update tables name (tables name ++ [added])

theorem mem_extended {name : String} {present : Record} :
    present ∈ tables.extended relation.name added name ↔
      present ∈ tables name ∨ name = relation.name ∧ present = added := by
  by_cases same : name = relation.name
  · subst same
    simp [extended]
  · simp [extended, same]

/-- A row that fits and is complete keeps what is shown sound. -/
theorem Sound.extended (sound : tables.shown.Sound) (listed : relation ∈ Relation.catalogue)
    (writable : relation.isWritable = true) (fits : relation.Fits added)
    (complete : relation.Complete added) : (tables.extended relation.name added).shown.Sound := by
  have kinds : ∀ other ∈ Relation.catalogue, other.isWritable = true ∨ other = Relation.subkeys ∨
      other.name ≠ Relation.subkeys.name ∧
        ∀ written ∈ Relation.catalogue, written.isWritable = true → other.name ≠ written.name := by
    decide
  have same : ∀ other ∈ Relation.catalogue, other.name = relation.name → other = relation := by
    have apart : ∀ other ∈ Relation.catalogue, ∀ written ∈ Relation.catalogue,
        other.name = written.name → other = written := by decide
    exact fun other there => apart other there relation listed
  have typed : (tables.extended relation.name added).Typed := by
    intro other there written row present
    rcases mem_extended.1 present with old | ⟨named, rfl⟩
    · exact sound.fit other there row (shown_of_ne (name_ne_subkeys there written) ▸ old)
    · exact same other there named ▸ fits
  refine ⟨fun other there row present => ?_, fun other there written row present => ?_⟩
  · rcases kinds other there with written | rfl | ⟨stored, apart⟩
    · exact typed.fits_shown there (Or.inl written) row present
    · exact typed.fits_shown there (Or.inr rfl) row present
    · rw [shown_of_ne stored, mem_extended] at present
      rcases present with old | ⟨named, _⟩
      · exact sound.fit other there row (shown_of_ne stored ▸ old)
      · exact absurd named (apart relation listed writable)
  · rw [shown_of_ne (name_ne_subkeys there written), mem_extended] at present
    rcases present with old | ⟨named, rfl⟩
    · exact sound.complete other there written row
        (shown_of_ne (name_ne_subkeys there written) ▸ old)
    · exact same other there named ▸ complete

end Tables

namespace Sql

/-- What is given to a row over others is what is given to an empty row. -/
theorem get?_assign (given : List (String × Operand)) (args : List Value) (row : Record)
    (field : String) :
    (assign given args row).get? field = ((assign given args .empty).get? field).or
      (row.get? field) := by
  induction given generalizing row with
  | nil => rfl
  | cons entry rest ih =>
    have onto := ih (row.insert entry.1 (entry.2.resolve args))
    have alone := ih (FieldMap.insert .empty entry.1 (entry.2.resolve args))
    rw [assign, List.foldl_cons, assign, List.foldl_cons]
    refine onto.trans ((congrArg _ (FieldMap.get?_insert ..)).trans ?_)
    refine Eq.symm ((congrArg (Option.or · _) (alone.trans
      (congrArg _ (FieldMap.get?_insert ..)))).trans ?_)
    rw [Option.or_assoc]
    by_cases here : entry.1 = field <;> simp [here]

namespace Engine

/-- A row is admitted to a relation if it has the types of the columns and what it must have. -/
def admits (name : String) (row : Record) : Bool :=
  (Relation.catalogue.find? (·.name = name)).all fun relation =>
    relation.Fits row ∧ relation.Complete row

theorem served_stores (db : Engine) (dialect : Dialect) :
    (db.served dialect admits).Stores Tables.shown (db.holds dialect) where
  toFaithful := db.served_faithful dialect admits
  inserts relation listed writable row args tables := by
    cases admitted : admits relation.name (assign row args defaults) with
    | false =>
      exact Or.inl ⟨_, tables, by simp only [served, admitted]; rfl, rfl⟩
    | true =>
      have sound_row := admitted
      rw [admits, Relation.find?_catalogue listed] at sound_row
      obtain ⟨fits, complete⟩ := of_decide_eq_true sound_row
      refine Or.inr ⟨1, tables.extended relation.name (assign row args defaults),
        assign row args defaults, ?_, fun _ sound => sound.extended listed writable fits complete,
        fun column _ value given _ => ?_, fun other there written present => ?_⟩
      · simp only [served, admitted]
        rfl
      · rw [Record.value, get?_assign, given]
        rfl
      · rw [Tables.shown_of_ne (Tables.name_ne_subkeys there written),
          Tables.shown_of_ne (Tables.name_ne_subkeys there written), Tables.mem_extended]
  silent query tables message := by
    intro failed
    simp only [served] at failed
    split at failed
    · split at failed <;> cases failed
    · cases failed
    · cases failed

end Engine

end Sql

end KeyStore
