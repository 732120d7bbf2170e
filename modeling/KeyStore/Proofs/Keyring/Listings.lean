import KeyStore.Proofs.Keyring.Coverage

/-!
# What the operations of a collection see and remove

A listing gives the rows of its collection that satisfy what the caller asks, each once. Asking for
one entry finds it exactly if the listing of the collection has it, and removing an entry removes no
row that belongs to another collection or has another id.

The conditions of a caller may be anything; what the database is sent of them must mean to it what
it means in process (`Understood`). Main statement: `Keyring.operations_covered`.
-/

namespace KeyStore

open Sql Entries

variable {σ α β ρ : Type}

/-- The relations of a keyring hold these rows, and their packets can be read. -/
structure Stored (seen : Tables) (codec : Codec)
    (rows : (relation : Relation) → List (StoredRow relation)) : Prop where
  content : ∀ relation ∈ Relation.catalogue, seen relation.name = (rows relation).map (·.cells)
  fit : seen.Fit
  complete : ∀ relation ∈ Relation.catalogue, ∀ row ∈ rows relation, relation.Complete row.cells
  read : ∀ relation ∈ Relation.catalogue, ∀ row ∈ rows relation, ∀ packet,
    packet? relation row.cells = some packet → ∃ decoded, codec relation.kind packet = .ok decoded

/-- The database understands its half of the conditions on every row. -/
def Understood (backend : Backend σ) (holds : Test) {relation : Relation}
    (rows : List (StoredRow relation)) (conditions : Conditions) : Prop :=
  ∀ row ∈ rows, (filterPlan backend.dialect relation conditions).sql.UnderstoodBy holds
    backend.dialect row.cells

/-- The result lists the chosen rows, each once, in an order of the database. -/
def Lists {relation : Relation} (rows : List (StoredRow relation))
    (chosen : StoredRow relation → Bool) (shows : StoredRow relation → α → Prop)
    (result : Except StoreError (List α)) : Prop :=
  ∃ order items, order.Perm (rows.filter chosen) ∧ List.Forall₂ shows order items ∧
    result = .ok items

theorem exists_images (handle : Handler Store σ) (f : α → Action Store β)
    (shown : ρ → β → Prop) {order : List ρ} {items : List α} {shows : ρ → α → Prop}
    (each : List.Forall₂ shows order items)
    (maps : ∀ row ∈ order, ∀ item, shows row item →
      ∃ image, Action.Gives handle (f item) image ∧ shown row image) :
    ∃ images, List.Forall₂ (fun item image => Action.Gives handle (f item) image) items images ∧
      List.Forall₂ shown order images := by
  induction each with
  | nil => exact ⟨[], .nil, .nil⟩
  | @cons row item order items first _ ih =>
    obtain ⟨image, gives, here⟩ := maps row List.mem_cons_self item first
    obtain ⟨images, given, there⟩ := ih fun other member => maps other (List.mem_cons_of_mem _ member)
    exact ⟨image :: images, .cons gives given, .cons here there⟩

section Reading

variable {backend : Backend σ} {seen : σ → Tables} {holds : Test} {codec : Codec}
  {session : Session σ} {rows : (relation : Relation) → List (StoredRow relation)}
  {relation : Relation} {conditions : Conditions}

theorem all_shows (faithful : backend.Faithful seen holds)
    (stored : Stored (seen session.database) codec rows) (listed : relation ∈ Relation.catalogue)
    (understood : Understood backend holds (rows relation) conditions)
    (fields : Option (List String)) :
    ∃ (order : List (StoredRow relation)) (records : List Record),
      order.Perm ((rows relation).filter (Plain.selects codec relation conditions)) ∧
      List.Forall₂ (Plain.Shows codec relation fields) order records ∧
      Session.Opens backend codec seen session (all backend.dialect relation conditions fields)
        records := by
  obtain ⟨order, records, items, perm, each, opens, same, _⟩ := select_shows
    (faithful.streams relation listed _)
    (Relation.catalogue_wellFormed relation listed).binaryFree
    (stored.content relation listed) (stored.read relation listed) understood fields
  exact ⟨order, records, perm, each, same rfl ▸ opens⟩

/-- What a listing collects when it makes something of each record. -/
theorem map_lists (faithful : backend.Faithful seen holds)
    (stored : Stored (seen session.database) codec rows) (listed : relation ∈ Relation.catalogue)
    (understood : Understood backend holds (rows relation) conditions)
    {fields : Option (List String)} {f : Record → Action Store α}
    {shown : StoredRow relation → α → Prop}
    (maps : ∀ row ∈ rows relation, ∀ record, Plain.Shows codec relation fields row record →
      ∃ image, Action.Gives (Session.handle backend codec) (f record) image ∧ shown row image)
    (detached : ∀ record, (f record).Only StoreRequest.Detached) :
    Lists (rows relation) (Plain.selects codec relation conditions) shown
      (((all backend.dialect relation conditions fields).map f).toList.run
        (Session.handle backend codec) session).1 := by
  obtain ⟨order, records, perm, each, opens⟩ := all_shows faithful stored listed understood fields
  obtain ⟨images, given, shows⟩ := exists_images _ f shown each fun row member =>
    maps row (List.mem_filter.1 (perm.mem_iff.1 member)).1
  obtain ⟨later, ran, _⟩ := (opens.map given detached).run_toList
  exact ⟨order, images, perm, shows, congrArg Prod.fst ran⟩

theorem all_lists (faithful : backend.Faithful seen holds)
    (stored : Stored (seen session.database) codec rows) (listed : relation ∈ Relation.catalogue)
    (understood : Understood backend holds (rows relation) conditions)
    (fields : Option (List String)) :
    Lists (rows relation) (Plain.selects codec relation conditions)
      (Plain.Shows codec relation fields)
      ((all backend.dialect relation conditions fields).toList.run
        (Session.handle backend codec) session).1 := by
  obtain ⟨order, records, perm, each, opens⟩ := all_shows faithful stored listed understood fields
  obtain ⟨later, ran, _⟩ := opens.run_toList
  exact ⟨order, records, perm, each, congrArg Prod.fst ran⟩

/-- A field that is shown of a row and is a column holds what is stored in it. -/
theorem value_shown (listed : relation ∈ Relation.catalogue) {names : List String}
    {row : StoredRow relation} {record : Record}
    (shows : Plain.Shows codec relation (some names) row record) {field : String}
    (wanted : field ∈ names) (column : relation.hasColumn field = true) :
    Record.value record field = Record.value row.cells field := by
  obtain ⟨whole, recorded, rfl⟩ := shows
  have free := (Relation.catalogue_wellFormed relation listed).binaryFree
  rw [← value_record_of_hasColumn free recorded field column, Record.value_project wanted]

theorem values_shown (listed : relation ∈ Relation.catalogue) {names : List String}
    {order : List (StoredRow relation)} {records : List Record}
    (each : List.Forall₂ (Plain.Shows codec relation (some names)) order records) {field : String}
    (wanted : field ∈ names) (column : relation.hasColumn field = true) :
    records.map (Record.value · field) = order.map (Record.value ·.cells field) := by
  rw [← List.forall₂_eq_eq_eq, List.forall₂_map_left_iff, List.forall₂_map_right_iff]
  exact each.flip.imp fun _ _ shows => value_shown listed shows wanted column

/-- The texts of items, each by itself or all together. -/
theorem map_text_iff {items : List ρ} {value : ρ → Value} {ids : List String} :
    items.map value = ids.map Value.text ↔
      List.Forall₂ (fun item id => value item = .text id) items ids := by
  rw [← List.forall₂_eq_eq_eq, List.forall₂_map_left_iff, List.forall₂_map_right_iff]

theorem exists_ids {items : List ρ} {value : ρ → Value}
    (named : ∀ item ∈ items, ∃ id, value item = .text id) :
    ∃ ids : List String, items.map value = ids.map Value.text := by
  induction items with
  | nil => exact ⟨[], rfl⟩
  | cons item items ih =>
    obtain ⟨id, text⟩ := named item List.mem_cons_self
    obtain ⟨ids, texts⟩ := ih fun other member => named other (List.mem_cons_of_mem _ member)
    exact ⟨id :: ids, by rw [List.map_cons, text, texts, List.map_cons]⟩

/-- A listing gives the ids of its records. -/
theorem ids_of_opens {records : List Record} {ids : List String} (schema : String)
    (opens : Session.Opens backend codec seen session
      (all backend.dialect relation conditions (some ["id"])) records)
    (texts : records.map (Record.value · "id") = ids.map Value.text) :
    outcome backend codec session
      (Keyring.ids ⟨backend.dialect, schema⟩ relation "id" conditions).toList = .ok ids := by
  have values : List.Forall₂ (fun entry value => Action.Gives (Session.handle backend codec)
      (.done (Record.value entry "id")) value) records (ids.map Value.text) := by
    rw [← texts, List.forall₂_map_right_iff, List.forall₂_same]
    exact fun _ _ => .done _
  have listed : Session.Opens backend codec seen session
      (Keyring.ids ⟨backend.dialect, schema⟩ relation "id" conditions) ids := by
    refine (opens.map values fun _ => trivial).map ?_ fun value => by cases value <;> trivial
    exact List.forall₂_map_left_iff.2 (List.forall₂_same.2 fun _ _ => .done _)
  obtain ⟨later, ran, _⟩ := listed.run_toList
  exact congrArg Prod.fst ran

/-- The ids of the rows of a relation that satisfy conditions. -/
theorem ids_lists (schema : String) (faithful : backend.Faithful seen holds)
    (stored : Stored (seen session.database) codec rows) (listed : relation ∈ Relation.catalogue)
    (understood : Understood backend holds (rows relation) conditions)
    (column : relation.column? "id" = some ⟨"id", .text⟩) :
    Lists (rows relation) (Plain.selects codec relation conditions)
      (fun row id => Record.value row.cells "id" = .text id)
      (outcome backend codec session
        (Keyring.ids ⟨backend.dialect, schema⟩ relation "id" conditions).toList) := by
  obtain ⟨order, records, perm, each, opens⟩ :=
    all_shows faithful stored listed understood (some ["id"])
  have kept := values_shown listed each List.mem_cons_self
    (show relation.hasColumn "id" = true by rw [Relation.hasColumn, column]; rfl)
  obtain ⟨ids, texts⟩ := exists_ids fun row member => by
    have among := (List.mem_filter.1 (perm.mem_iff.1 member)).1
    exact (stored.complete relation listed row among).exists_text (stored.fit relation listed
      row.cells (stored.content relation listed ▸ List.mem_map_of_mem among)) column (by decide)
  exact ⟨order, ids, perm, map_text_iff.1 texts, ids_of_opens schema opens (kept.trans texts)⟩

end Reading

/-! ### The operations of a collection -/

section Operations

variable (backend : Backend σ) (seen : σ → Tables) (holds : Test) (codec : Codec)
  (session : Session σ) (rows : (relation : Relation) → List (StoredRow relation))

/-- The row is one of the collection and satisfies what the caller asks. -/
def Collection.wanted (collection : Collection) {relation : Relation} (conditions : Conditions)
    (row : StoredRow relation) : Bool :=
  decide (collection.Covers row.cells) && Plain.selects codec relation conditions row

/-- Listings give the rows of the collection that satisfy the caller's conditions. -/
structure ListsCollection (keyring : Keyring) (collection : Collection) (conditions : Conditions) :
    Prop where
  ids : Understood backend holds (rows collection.relation) (collection.restrict conditions) →
    Lists (rows collection.relation) (collection.wanted codec conditions)
      (fun row id => Record.value row.cells "id" = .text id)
      (outcome backend codec session (keyring.list collection conditions).toList)
  entries : Understood backend holds (rows collection.relation) (collection.restrict conditions) →
    ∀ fields, Lists (rows collection.relation) (collection.wanted codec conditions)
      (Plain.Shows codec collection.relation fields)
      (outcome backend codec session (keyring.entries collection conditions fields).toList)
  selfSigned :
    Understood backend holds (rows collection.selfSigned) (collection.restrict conditions) →
    ∀ fields, Lists (rows collection.selfSigned) (collection.wanted codec conditions)
      (Plain.Shows codec collection.selfSigned fields)
      (outcome backend codec session (keyring.selfSignedEntries collection conditions fields).toList)

/-- Whoever asks for one entry sees it exactly if the listing of the collection has it. -/
structure LooksUp (keyring : Keyring) (collection : Collection) (id : String) : Prop where
  contains : ∃ ids found,
    outcome backend codec session (keyring.list collection .empty).toList = .ok ids ∧
    outcome backend codec session (keyring.contains collection id) = .ok found ∧
    (found = true ↔ id ∈ ids)
  find : ∀ fields, ∃ ids found,
    outcome backend codec session (keyring.list collection .empty).toList = .ok ids ∧
    outcome backend codec session (keyring.find? collection id fields) = .ok found ∧
    (found.isSome = true ↔ id ∈ ids) ∧
    ∀ record ∈ found, ∃ row ∈ rows collection.relation, collection.Covers row.cells ∧
      Record.value row.cells "id" = .text id ∧
      Plain.Shows codec collection.relation fields row record
  findSelfSigned : ∀ fields, ∃ listed found,
    outcome backend codec session
      (keyring.selfSignedEntries collection .empty (some ["id"])).toList = .ok listed ∧
    outcome backend codec session (keyring.findSelfSigned? collection id fields) = .ok found ∧
    (found.isSome = true ↔ ∃ record ∈ listed, Record.value record "id" = .text id) ∧
    ∀ record ∈ found, ∃ row ∈ rows collection.selfSigned, collection.Covers row.cells ∧
      Record.value row.cells "id" = .text id ∧
      Plain.Shows codec collection.selfSigned fields row record

/-- Removing an entry leaves the tables as they are, or takes away the rows of the collection with
the id and no others. -/
def RemovesCovered (keyring : Keyring) (collection : Collection) (id : String) : Prop :=
  (∀ other ∈ Relation.catalogue, other.isWritable = true →
    seen ((keyring.remove collection id).run (Session.handle backend codec) session).2.database
      other.name = seen session.database other.name) ∨
  ∀ other ∈ Relation.catalogue, other.isWritable = true →
    seen ((keyring.remove collection id).run (Session.handle backend codec) session).2.database
      other.name = (seen session.database).without collection.relation.name
        (fun row => decide (collection.Covers row ∧ Record.value row "id" = .text id)) other.name

/-- The signatures of a kind by an issuer are those that satisfy the caller's conditions. -/
def ListsIssued (keyring : Keyring) (kind : SignedKind) (issuer : String)
    (conditions : Conditions) : Prop :=
  Understood backend holds (rows kind.relation) (kind.narrow issuer conditions) →
    Lists (rows kind.relation)
      (fun row => decide (kind.Covers issuer row.cells)
        && Plain.selects codec kind.relation conditions row)
      (fun row reference => SignatureRef.ofRow kind row.cells = .ok reference)
      (outcome backend codec session (keyring.signaturesBy kind issuer conditions).toList)

end Operations

section

variable {backend : Backend σ} {seen : σ → Tables} {holds : Test} {codec : Codec}
  {session : Session σ} {rows : (relation : Relation) → List (StoredRow relation)}
  {relation : Relation} {conditions : Conditions} {collection : Collection} (schema : String)

theorem Stored.exists_record (stored : Stored (seen session.database) codec rows)
    (listed : relation ∈ Relation.catalogue) {row : StoredRow relation}
    (member : row ∈ rows relation) : ∃ whole, Plain.record codec relation row = .ok whole :=
  Entries.exists_record (Relation.catalogue_wellFormed relation listed).binaryFree
    (stored.read relation listed row member)

theorem understood_of_asks (faithful : backend.Faithful seen holds)
    (stored : Stored (seen session.database) codec rows) (listed : relation ∈ Relation.catalogue)
    (asks : conditions.Asks relation) : Understood backend holds (rows relation) conditions := by
  have content := stored.content relation listed
  have understood := faithful.understood asks (stored.fit relation listed)
  rw [content] at understood
  rw [Understood, Conditions.filterPlan_of_asks asks]
  exact List.forall_mem_map.1 understood

theorem Collection.selects_restrict_eq (reads : collection.ReadsFrom relation) :
    Plain.selects codec relation (collection.restrict conditions)
      = collection.wanted codec conditions :=
  funext fun _ => selects_restrict reads
    (Relation.catalogue_wellFormed relation reads.listed).binaryFree

/-- The row of an entry. -/
theorem Collection.selects_entry_of_recorded (reads : collection.ReadsFrom relation)
    {row : StoredRow relation} {whole : Record}
    (recorded : Plain.record codec relation row = .ok whole) (id : String) :
    Plain.selects codec relation (collection.entry id) row = true ↔
      collection.Covers row.cells ∧ Record.value row.cells "id" = .text id := by
  have free := (Relation.catalogue_wellFormed relation reads.listed).binaryFree
  have column : relation.hasColumn "id" = true := by
    rcases reads with rfl | rfl <;> cases collection <;> rfl
  rw [Plain.selects, recorded]
  rw [accepts_entry_iff, covers_record reads free recorded,
    value_record_of_hasColumn free recorded "id" column]

theorem Collection.selects_entry (stored : Stored (seen session.database) codec rows)
    (reads : collection.ReadsFrom relation) {row : StoredRow relation}
    (member : row ∈ rows relation) (id : String) :
    Plain.selects codec relation (collection.entry id) row = true ↔
      collection.Covers row.cells ∧ Record.value row.cells "id" = .text id := by
  obtain ⟨whole, recorded⟩ := stored.exists_record reads.listed member
  exact selects_entry_of_recorded reads recorded id

theorem Collection.id_column (collection : Collection) :
    collection.relation.column? "id" = some ⟨"id", .text⟩ := by
  cases collection <;> rfl

theorem lists_collection (faithful : backend.Faithful seen holds)
    (stored : Stored (seen session.database) codec rows) (collection : Collection)
    (conditions : Conditions) :
    ListsCollection backend holds codec session rows ⟨backend.dialect, schema⟩ collection
      conditions where
  ids understood := by
    rw [← collection.selects_restrict_eq collection.readsFrom_relation]
    exact ids_lists schema faithful stored collection.readsFrom_relation.listed understood
      collection.id_column
  entries understood fields := by
    rw [← collection.selects_restrict_eq collection.readsFrom_relation]
    exact all_lists faithful stored collection.readsFrom_relation.listed understood fields
  selfSigned understood fields := by
    rw [← collection.selects_restrict_eq collection.readsFrom_selfSigned]
    exact all_lists faithful stored collection.readsFrom_selfSigned.listed understood fields

/-- Where nothing is asked for, the whole collection is listed. -/
theorem Collection.wanted_empty (stored : Stored (seen session.database) codec rows)
    (listed : relation ∈ Relation.catalogue) {row : StoredRow relation}
    (member : row ∈ rows relation) :
    collection.wanted codec .empty row = decide (collection.Covers row.cells) := by
  obtain ⟨whole, recorded⟩ := stored.exists_record listed member
  rw [wanted, Plain.selects, recorded]
  exact Bool.and_true _

/-- A listing of the whole collection gives the ids of its rows. -/
theorem listed_ids (faithful : backend.Faithful seen holds) (codec : Codec)
    (fit : (seen session.database).Fit) (collection : Collection)
    (named : ∀ row ∈ seen session.database collection.relation.name,
      Record.value row "id" ≠ .null) :
    ∃ ids, outcome backend codec session
        (Keyring.list ⟨backend.dialect, schema⟩ collection .empty).toList = .ok ids ∧
      ∀ id, id ∈ ids ↔ ∃ row ∈ seen session.database collection.relation.name,
        collection.Covers row ∧ Record.value row "id" = .text id := by
  have reads := collection.readsFrom_relation
  have asks := Collection.asks_restrict_empty reads
  obtain ⟨order, ordered, opens⟩ := columns_open codec (faithful.streams _ reads.listed false)
    (Conditions.filterPlan_of_asks asks _) (faithful.understood asks (fit _ reads.listed)) ["id"]
    (List.forall_mem_singleton.2 (by rw [Relation.hasColumn, collection.id_column]; rfl))
  have members : ∀ row, row ∈ order ↔ row ∈ seen session.database collection.relation.name ∧
      collection.Covers row := fun row => by
    rw [ordered.mem_iff, List.mem_filter, Collection.accepts_restrict_iff]
    exact and_congr_right fun _ => and_iff_right rfl
  obtain ⟨ids, texts⟩ := exists_ids fun row member =>
    (fit _ reads.listed row ((members row).1 member).1).exists_text collection.id_column
      (named row ((members row).1 member).1)
  refine ⟨ids, ids_of_opens schema opens ?_, fun id => ?_⟩
  · rw [if_neg Bool.false_ne_true, List.map_map, ← texts]
    exact List.map_congr_left fun row _ => Record.value_project List.mem_cons_self
  · calc id ∈ ids
      _ ↔ Value.text id ∈ ids.map Value.text := by simp
      _ ↔ ∃ row ∈ order, Record.value row "id" = .text id := by rw [← texts, List.mem_map]
      _ ↔ _ := by simp only [members, and_assoc]

theorem exists_listed_ids (faithful : backend.Faithful seen holds)
    (stored : Stored (seen session.database) codec rows) (collection : Collection) :
    ∃ ids, outcome backend codec session
        (Keyring.list ⟨backend.dialect, schema⟩ collection .empty).toList = .ok ids ∧
      ∀ id, id ∈ ids ↔ ∃ row ∈ rows collection.relation, collection.Covers row.cells ∧
        Record.value row.cells "id" = .text id := by
  have content := stored.content _ collection.readsFrom_relation.listed
  have named : ∀ row ∈ seen session.database collection.relation.name,
      Record.value row "id" ≠ .null := by
    rw [content]
    exact List.forall_mem_map.2 fun row member =>
      stored.complete _ collection.readsFrom_relation.listed row member _
        (List.mem_of_find?_eq_some collection.id_column) (by decide)
  obtain ⟨ids, result, listed_iff⟩ := listed_ids schema faithful codec stored.fit collection named
  refine ⟨ids, result, fun id => (listed_iff id).trans ?_⟩
  rw [content]
  simp only [List.mem_map, exists_exists_and_eq_and]

/-- Whoever asks for an entry is shown a row of it, if there is one. -/
theorem first_entry (faithful : backend.Faithful seen holds)
    (stored : Stored (seen session.database) codec rows) (reads : collection.ReadsFrom relation)
    (id : String) (fields : Option (List String)) :
    ∃ found, outcome backend codec session
        (first? backend.dialect relation (collection.entry id) fields) = .ok found ∧
      (found.isSome = true ↔ ∃ row ∈ rows relation, collection.Covers row.cells ∧
        Record.value row.cells "id" = .text id) ∧
      ∀ record ∈ found, ∃ row ∈ rows relation, collection.Covers row.cells ∧
        Record.value row.cells "id" = .text id ∧
        Plain.Shows codec relation fields row record := by
  obtain ⟨order, records, items, perm, each, opens, _, first⟩ := select_shows
    (faithful.streams relation reads.listed _)
    (Relation.catalogue_wellFormed relation reads.listed).binaryFree
    (stored.content relation reads.listed) (stored.read relation reads.listed)
    (understood_of_asks faithful stored reads.listed
      (Collection.asks_entry_of_readsFrom reads id)) fields
  obtain ⟨later, ran, _⟩ := opens.run_first
  have members : ∀ row, row ∈ order ↔ row ∈ rows relation ∧ collection.Covers row.cells ∧
      Record.value row.cells "id" = .text id := fun row => by
    rw [perm.mem_iff, List.mem_filter]
    exact and_congr_right fun member => Collection.selects_entry stored reads member id
  refine ⟨items.head?, congrArg Prod.fst ran, ?_, ?_⟩ <;> rw [first]
  · cases each with
    | nil =>
      simp only [List.head?_nil, Option.isSome_none, Bool.false_eq_true, false_iff]
      rintro ⟨row, entry⟩
      exact List.not_mem_nil ((members row).2 entry)
    | cons shows _ => exact iff_of_true rfl ⟨_, (members _).1 List.mem_cons_self⟩
  · cases each with
    | nil => exact nofun
    | @cons row record _ _ shows _ =>
      rintro _ ⟨⟩
      obtain ⟨present, covered, same⟩ := (members row).1 List.mem_cons_self
      exact ⟨row, present, covered, same, shows⟩

theorem looks_up (faithful : backend.Faithful seen holds)
    (stored : Stored (seen session.database) codec rows) (collection : Collection) (id : String) :
    LooksUp backend codec session rows ⟨backend.dialect, schema⟩ collection id where
  contains := by
    have listed := collection.readsFrom_relation.listed
    obtain ⟨ids, result, listed_iff⟩ := exists_listed_ids schema faithful stored collection
    obtain ⟨later, ran, _⟩ := exist_answers codec (faithful.streams _ listed true)
      (faithful.understood (collection.asks_entry id) (stored.fit _ listed))
      (collection.asks_entry id)
    refine ⟨ids, _, result, congrArg Prod.fst ran, ?_⟩
    rw [listed_iff, stored.content _ listed, List.any_map, List.any_eq_true]
    simp only [Function.comp_apply, Collection.accepts_entry_iff]
  find fields := by
    obtain ⟨ids, result, listed_iff⟩ := exists_listed_ids schema faithful stored collection
    obtain ⟨found, ran, found_iff, shown⟩ :=
      first_entry faithful stored collection.readsFrom_relation id fields
    exact ⟨ids, found, result, ran, found_iff.trans (listed_iff id).symm, shown⟩
  findSelfSigned fields := by
    have reads := collection.readsFrom_selfSigned
    obtain ⟨order, records, perm, each, result⟩ := (lists_collection schema faithful stored
      collection .empty).selfSigned (understood_of_asks faithful stored reads.listed
        (Collection.asks_restrict_empty reads)) (some ["id"])
    obtain ⟨found, ran, found_iff, shown⟩ := first_entry faithful stored reads id fields
    have members : ∀ row, row ∈ order ↔ row ∈ rows collection.selfSigned ∧
        collection.Covers row.cells := fun row => by
      rw [perm.mem_iff, List.mem_filter]
      exact and_congr_right fun member => by
        rw [Collection.wanted_empty stored reads.listed member, decide_eq_true_iff]
    have texts := values_shown reads.listed each List.mem_cons_self
      (show collection.selfSigned.hasColumn "id" = true by cases collection <;> rfl)
    refine ⟨records, found, result, ran, found_iff.trans ?_, shown⟩
    calc (∃ row ∈ rows collection.selfSigned, collection.Covers row.cells ∧
          Record.value row.cells "id" = .text id)
      _ ↔ Value.text id ∈ order.map fun row => Record.value row.cells "id" := by
        simp only [List.mem_map, members, and_assoc]
      _ ↔ ∃ record ∈ records, Record.value record "id" = .text id := by
        rw [← texts, List.mem_map]

/-- Removing rows under conditions that the database can test is one statement, put in a
transaction. -/
theorem remove_eq (dialect : Dialect) (writable : relation.isWritable = true)
    (asks : conditions.Asks relation) :
    ∃ parts bound, conditions.bind (.empty dialect) = (.ok parts, ⟨dialect, bound⟩) ∧
      Entries.remove dialect relation conditions = (Store.transact .begin).bind fun _ =>
        Store.execute ⟨.delete relation.name parts, bound⟩ := by
  obtain ⟨parts, bound, binds⟩ := Conditions.bindEntries_ok conditions.toList asks.plain
    (.empty dialect)
  have made : Query.delete dialect relation conditions
      = .ok ⟨.delete relation.name parts, bound⟩ := by
    rw [Query.delete, Query.onRows, Conditions.bind, binds]
    rfl
  refine ⟨parts, bound, binds, ?_⟩
  rw [Entries.remove, ensureWritable, writable]
  simp only [writeRows, Conditions.filterPlan_of_asks asks, made]
  rfl

/-- A DELETE that is refused, or not sent because no transaction is open, changes nothing; if not it
removes the rows that satisfy the conditions. -/
theorem remove_effects (faithful : backend.Faithful seen holds) (codec : Codec)
    (fit : (seen session.database).Fit) (listed : relation ∈ Relation.catalogue)
    (writable : relation.isWritable = true) (asks : conditions.Asks relation) :
    seen ((Entries.remove backend.dialect relation conditions).run (Session.handle backend codec)
        session).2.database = seen session.database ∨
      ∀ other ∈ Relation.catalogue, other.isWritable = true →
        seen ((Entries.remove backend.dialect relation conditions).run
          (Session.handle backend codec) session).2.database other.name
          = (seen session.database).without relation.name conditions.accepts other.name := by
  obtain ⟨parts, bound, binds, body⟩ := remove_eq backend.dialect writable asks
  rw [body]
  rcases Session.run_written faithful codec ⟨.delete relation.name parts, bound⟩ session with
    ⟨error, later, ran, _, same⟩ | ⟨begun, same, ran⟩
  · rw [ran]
    exact Or.inl same
  · rw [ran]
    rcases faithful.deletes relation listed writable parts bound begun.database with
      ⟨error, later, executed, kept⟩ | ⟨count, later, executed, left⟩
    · rw [Session.execute_database, executed]
      exact Or.inl (kept.trans same)
    · rw [Session.execute_database, executed]
      refine Or.inr fun other there written => ?_
      have tested : (seen session.database).without relation.name (holds parts bound)
          = (seen session.database).without relation.name conditions.accepts :=
        Tables.without_congr fun row member =>
          faithful.understood asks (fit relation listed) row member [] parts _ binds
      rw [left other there written, same, tested]

/-- Where entries are written to the relation that they are read from, the row of an entry is one
of the collection. -/
theorem Collection.targetEntry_eq_entry (own : collection.target = collection.relation)
    (id : String) : collection.targetEntry id = collection.entry id := by
  cases collection with
  | subkeys key => exact absurd own (target_subkeys_ne key)
  | _ => rfl

/-- Removing an entry keeps to its collection. -/
theorem removes_covered (faithful : backend.Faithful seen holds) (codec : Codec)
    (fit : (seen session.database).Fit) (own : collection.target = collection.relation)
    (id : String) :
    RemovesCovered backend seen codec session ⟨backend.dialect, schema⟩ collection id := by
  obtain ⟨asked, ran, same⟩ := Keyring.firstDependent?_answers schema faithful codec fit
    (collection.dependents id) (fun kind member => (collection.dependents_shown id kind member).1)
    (collection.asks_dependents id)
  have goes_on : (Keyring.remove ⟨backend.dialect, schema⟩ collection id).run
      (Session.handle backend codec) session = _ := Action.run_bind_of_ok ran
  rw [RemovesCovered, goes_on]
  split
  · exact Or.inl fun other _ _ => congrFun same other.name
  · have fit_asked : (seen asked.database).Fit := same ▸ fit
    have effects := remove_effects faithful codec fit_asked collection.readsFrom_relation.listed
      (own ▸ collection.target_written.2) (collection.asks_entry id)
    have state := Action.run_bind_done_snd (Session.handle backend codec)
      (Entries.remove backend.dialect collection.relation (collection.entry id)) (fun _ => ()) asked
    have tests : (collection.entry id).accepts
        = fun row => decide (collection.Covers row ∧ Record.value row "id" = .text id) := by
      funext row
      rw [Bool.eq_iff_iff, Collection.accepts_entry_iff, decide_eq_true_iff]
    rw [own, Collection.targetEntry_eq_entry own]
    rw [same, tests, ← state] at effects
    exact effects.imp_left fun kept other _ _ => congrFun kept other.name

theorem SignatureRef.text_eq {field text : String} {row : Record}
    (held : Record.value row field = .text text) (relation : Relation) :
    SignatureRef.text relation row field = .ok text := by
  rw [SignatureRef.text, Record.text?, held]
  rfl

/-- A row whose naming fields hold texts names a signature, and so does whatever has these texts. -/
theorem SignatureRef.exists_ofRow {kind : SignedKind} {row record : Record}
    (texts : ∀ field ∈ kind.fields, ∃ text, Record.value row field = .text text)
    (same : ∀ field ∈ kind.fields, Record.value record field = Record.value row field) :
    ∃ reference, ofRow kind record = .ok reference ∧ ofRow kind row = .ok reference := by
  have held : ∀ field ∈ kind.fields, ∃ text, ∀ relation,
      SignatureRef.text relation record field = .ok text ∧
        SignatureRef.text relation row field = .ok text := fun field member => by
    obtain ⟨text, holds⟩ := texts field member
    exact ⟨text, fun relation => ⟨text_eq ((same field member).trans holds) relation,
      text_eq holds relation⟩⟩
  cases kind <;> simp only [SignedKind.fields, List.forall_mem_cons, List.not_mem_nil,
    false_imp_iff, implies_true, and_true] at held
  case key =>
    obtain ⟨⟨key, onKey⟩, ⟨id, own⟩⟩ := held
    exact ⟨.onKey key id, by simp only [ofRow, onKey, own]; exact ⟨rfl, rfl⟩⟩
  case subkey =>
    obtain ⟨⟨issuer, made⟩, ⟨key, onKey⟩, ⟨id, own⟩⟩ := held
    exact ⟨.onSubkey issuer key id, by simp only [ofRow, made, onKey, own]; exact ⟨rfl, rfl⟩⟩
  case identity =>
    obtain ⟨⟨key, onKey⟩, ⟨identity, signed⟩, ⟨id, own⟩⟩ := held
    exact ⟨.onIdentity key identity id, by simp only [ofRow, onKey, signed, own]; exact ⟨rfl, rfl⟩⟩
  case userAttribute =>
    obtain ⟨⟨key, onKey⟩, ⟨owner, signed⟩, ⟨id, own⟩⟩ := held
    exact ⟨.onAttribute key owner id, by simp only [ofRow, onKey, signed, own]; exact ⟨rfl, rfl⟩⟩

theorem SignedKind.fields_required (kind : SignedKind) : ∀ field ∈ kind.fields,
    kind.relation.column? field = some ⟨field, .text⟩ ∧
      field ∉ ["name", "email", "expires", "revoked"] := by
  cases kind <;> decide

theorem lists_issued (faithful : backend.Faithful seen holds)
    (stored : Stored (seen session.database) codec rows) (kind : SignedKind) (issuer : String)
    (conditions : Conditions) :
    ListsIssued backend holds codec session rows ⟨backend.dialect, schema⟩ kind issuer
      conditions := by
  intro understood
  have listed : kind.relation ∈ Relation.catalogue := by
    cases kind <;> simp only [SignedKind.relation] <;> decide
  have selected : Plain.selects codec kind.relation (kind.narrow issuer conditions)
      = fun row => decide (kind.Covers issuer row.cells)
        && Plain.selects codec kind.relation conditions row :=
    funext fun _ => SignedKind.selects_narrow
  rw [← selected]
  refine map_lists faithful stored listed understood (fun row member record shows => ?_)
    fun _ => Action.only_ofExcept _
  have fits := stored.fit kind.relation listed row.cells
    (stored.content kind.relation listed ▸ List.mem_map_of_mem member)
  obtain ⟨reference, read, named⟩ := SignatureRef.exists_ofRow
    (fun field wanted => (stored.complete kind.relation listed row member).exists_text fits
      (kind.fields_required field wanted).1 (kind.fields_required field wanted).2)
    (fun field wanted => value_shown listed shows wanted (by
      rw [Relation.hasColumn, (kind.fields_required field wanted).1]
      rfl))
  rw [read]
  exact ⟨reference, .done reference, named⟩

namespace Keyring

/-- Whatever a caller asks for, listings give the rows of their collection that satisfy it, looking
up an entry finds what the listing of its collection has, and removing an entry takes no row from
elsewhere. -/
theorem operations_covered (faithful : backend.Faithful seen holds)
    (stored : Stored (seen session.database) codec rows) :
    (∀ collection conditions,
      ListsCollection backend holds codec session rows ⟨backend.dialect, schema⟩ collection
        conditions) ∧
    (∀ kind issuer conditions,
      ListsIssued backend holds codec session rows ⟨backend.dialect, schema⟩ kind issuer
        conditions) ∧
    (∀ collection id,
      LooksUp backend codec session rows ⟨backend.dialect, schema⟩ collection id) ∧
    ∀ collection, collection.target = collection.relation → ∀ id,
      RemovesCovered backend seen codec session ⟨backend.dialect, schema⟩ collection id :=
  ⟨lists_collection schema faithful stored, lists_issued schema faithful stored,
    looks_up schema faithful stored,
    fun _ own id => removes_covered schema faithful codec stored.fit own id⟩

end Keyring

end

/-! A key with a signature of its own and one that binds it to another key. The caller asks about
the field that tells owners apart, in a way that only the process can test. -/

namespace Keyring

/-- A column of the signatures. -/
def signedValue (id issuer : String) (type : SignatureType) : String → Value
  | "key" => .text "A"
  | "id" => .text id
  | "issuer" => .text issuer
  | "binary" => .bytes [0]
  | "verified" => .bool false
  | "sigtype" => .int type.code
  | "date" | "security" => .int 0
  | _ => .null

/-- A column of the key, and of the subkey that it is. -/
def keyValue : String → Value
  | "id" => .text "A"
  | "parentkey" => .text "B"
  | "fingerprint" => .text "F"
  | "binary" => .bytes [1]
  | "date" | "security" => .int 0
  | _ => .null

/-- The rows of the relations. -/
def boundRows (relation : Relation) : List (StoredRow relation) :=
  if relation = .keys ∨ relation = .subkeys then [.ofValues relation keyValue]
  else if relation = .keySignatures then
    [.ofValues relation (signedValue "s" "A" .directKey),
      .ofValues relation (signedValue "t" "B" .subkeyBinding)]
  else []

/-- The tables with these rows. -/
def storedTables : Tables := fun name =>
  (Relation.catalogue.find? fun relation => relation.isWritable && relation.name = name).elim []
    fun relation => (boundRows relation).map (·.cells)

theorem bound_stored : Stored storedTables.shown (fun _ _ => .ok .empty) boundRows where
  content := by decide +kernel
  fit := by decide +kernel
  complete := by decide +kernel
  read _ _ _ _ _ _ := ⟨_, rfl⟩

/-- Whoever owns it. -/
def ownedConditions : Conditions := .ofList [("key", .custom ⟨"owned", fun _ => some true⟩)]

theorem owned_understood :
    Understood (Conditions.strictEngine.served .sqlite fun _ _ => true)
      (Conditions.strictEngine.holds .sqlite) (boundRows .keySignatures)
      ((Collection.keySignatures "A").restrict ownedConditions) := by
  have asked : (filterPlan .sqlite .keySignatures
      ((Collection.keySignatures "A").restrict ownedConditions)).sql.toList
      = [("sigtype", SignatureType.oneOf SignatureType.onKey)] := rfl
  have typed : ∀ row ∈ boundRows .keySignatures,
      (Record.value row.cells "sigtype").HasType .int := by decide +kernel
  intro row member
  refine Engine.understoodBy_of_suit _ _ ?_
  rw [Conditions.Suit]
  exact asked ▸ List.forall_mem_singleton.2
    ((Filter.oneOf_compares _).suits (typed row member))

/-- The caller asks for the signatures of a key, whoever owns them, and gets its own. -/
theorem operations_covered_bound :
    outcome (Conditions.strictEngine.served .sqlite fun _ _ => true) (fun _ _ => .ok .empty)
      (.start storedTables)
      (Keyring.list ⟨.sqlite, "main"⟩ (.keySignatures "A") ownedConditions).toList = .ok ["s"] := by
  have covered := operations_covered "main"
    (Conditions.strictEngine.served_faithful .sqlite fun _ _ => true)
    (show Stored (Session.start storedTables).database.shown _ _ from bound_stored)
  obtain ⟨order, ids, perm, each, result⟩ :=
    (covered.1 (.keySignatures "A") ownedConditions).ids owned_understood
  have wanted : ((boundRows .keySignatures).filter
      ((Collection.keySignatures "A").wanted (fun _ _ => .ok .empty) ownedConditions)).map
        (fun row => Record.value row.cells "id") = [.text "s"] := by decide +kernel
  have named : ids.map Value.text = [.text "s"] :=
    (map_text_iff.2 each).symm.trans (List.perm_singleton.1 ((perm.map _).trans (wanted ▸ .refl _)))
  obtain ⟨id, rfl, same⟩ := List.map_eq_singleton_iff.1 named
  cases same
  exact result

end Keyring

end KeyStore
