import Mathlib.Data.List.Perm.Basic
import KeyStore.Proofs.Entries.Targets
import KeyStore.Proofs.Session.Transact

/-!
# Writes edit the entries that satisfy the conditions

A write puts one statement for all rows if the database can test all conditions. If not, it reads
the keys of the rows that satisfy them, one at a time, and puts a statement for each key while the
stream is still open. Either way the rows that are changed are those whose whole record satisfies
the conditions (`writeRows_exact`, `writes_exact`). The loop over the keys keeps this: the rows
whose keys have come are replaced, and no other row is (`Progress`).

A table must not have a column with the name of the field that shows derived packets: its rows could
be taken for each other (`removes_other_row`).
-/

namespace KeyStore

open Sql

namespace Entries

variable {relation : Relation}

section Writes

variable {σ : Type} {backend : Backend σ} {tables : σ → Tables} {holds : Test} {codec : Codec}
  {conditions : Conditions} {rows : List (StoredRow relation)} {session : Session σ}
  {edit : Record → List Record} {statement : Conditions → Except StoreError Query}

/-- The database understands the key of a row on every record with the key of a row. -/
def UnderstandsKeys (holds : Test) (dialect : Dialect) (rows : List (StoredRow relation)) : Prop :=
  ∀ row ∈ rows, ∀ other ∈ rows, ∀ record,
    (∀ column ∈ relation.primaryKey,
      Record.value record column = Record.value other.cells column) →
    (identify relation row.cells).UnderstoodBy holds dialect record

/-- What a write relies on: the database does what statements say, the primary key identifies the
rows of the table, and the codec reads what they store. The database understands its half of the
conditions on every row, and the keys of the rows. -/
structure Premises (backend : Backend σ) (tables : σ → Tables) (holds : Test) (codec : Codec)
    (conditions : Conditions) (rows : List (StoredRow relation)) : Prop where
  executes : backend.Executes tables holds
  writable : relation.isWritable = true
  keyColumns : ∀ column ∈ relation.primaryKey, relation.hasColumn column = true
  identified : Identified rows
  reads : ∀ row ∈ rows, ∀ packet, packet? relation row.cells = some packet →
    ∃ decoded, codec relation.kind packet = .ok decoded
  half : ∀ row ∈ rows, (filterPlan backend.dialect relation conditions).sql.UnderstoodBy holds
    backend.dialect row.cells
  keys : UnderstandsKeys holds backend.dialect rows

/-- What a write does for one key. -/
def writeOne (statement : Conditions → Except StoreError Query) (count : UInt64)
    (target : Conditions) : Action Store UInt64 :=
  (Action.ofExcept (statement target)).bind fun query =>
    (Store.execute query).bind fun affected => .done (count + affected)

/-- The loop over the keys of `chosen`, when the keys in `rest` are still to come: the rows whose
keys have come are replaced and counted. -/
def Progress (tables : σ → Tables) (before : Tables) (rows chosen : List (StoredRow relation))
    (edit : Record → List Record) (count : UInt64) (rest : List Conditions)
    (session : Session σ) : Prop :=
  ∃ done todo, chosen = done ++ todo ∧
    rest = todo.map (fun row => identify relation row.cells) ∧
    count = UInt64.ofNat done.length ∧
    tables session.database = Function.update before relation.name
      (replace edit (hasKeyOf done) (rows.map (·.cells)))

/-- A round puts the statement for the next key, which hits one row. -/
theorem Progress.round (codec : Codec) {before : Tables} {chosen : List (StoredRow relation)}
    (replaces : Replaces backend tables holds relation edit statement)
    (identified : Identified rows) (keeps : KeepsKeys rows edit)
    (keys : UnderstandsKeys holds backend.dialect rows)
    (among : ∀ row ∈ chosen, row ∈ rows)
    (apart : chosen.Pairwise fun row other => ¬ relation.SameKey row.cells other.cells)
    (count : UInt64) (target : Conditions) (rest : List Conditions) (session : Session σ)
    (progress : Progress tables before rows chosen edit count (target :: rest) session) :
    ∃ next later,
      (writeOne statement count target).run (Session.handle backend codec) session
        = (.ok next, later) ∧
      Progress tables before rows chosen edit next rest later := by
  obtain ⟨done, todo, split, targets, counted, held⟩ := progress
  cases todo with
  | nil => cases targets
  | cons row todo =>
    obtain ⟨rfl, rfl⟩ := List.cons.inj targets
    subst split
    have member : row ∈ rows := among row (by simp)
    have differ := apart_of_concat apart
    have among_done : ∀ earlier ∈ done, earlier ∈ rows := fun earlier listed =>
      among earlier (List.mem_append_left _ listed)
    have content : tables session.database relation.name
        = replace edit (hasKeyOf done) (rows.map (·.cells)) := by
      rw [held, Function.update_self]
    have tests := identify_accepts (identified.known row member)
    have understood : ∀ record ∈ tables session.database relation.name,
        (identify relation row.cells).UnderstoodBy holds backend.dialect record := by
      intro record listed
      rw [content] at listed
      obtain ⟨other, present, same⟩ := exists_key keeps record listed
      exact keys row member other present record same
    obtain ⟨query, made, effects⟩ :=
      replaces (identify relation row.cells) (identify_plain relation row.cells)
    obtain ⟨database, executed, left⟩ := effects session.database understood
    rw [content, tests, countP_next identified keeps among_done member differ] at executed
    rw [content, tests, replace_next identified keeps among_done differ, held,
      Function.update_idem] at left
    have ended : (Store.execute query).run (Session.handle backend codec) session
        = (.ok 1, { session.record (.executed query) with database }) :=
      Session.run_execute_of_ok codec executed
    refine ⟨count + 1, { session.record (.executed query) with database }, ?_,
      done ++ [row], todo, by simp, rfl, ?_, left⟩
    · rw [writeOne, made]
      exact Action.run_bind_of_ok ended
    · rw [counted, List.length_append, List.length_singleton, UInt64.ofNat_add]
      rfl

/-- The table after the rows that satisfy the conditions have been replaced. -/
def rewritten (codec : Codec) (conditions : Conditions) (edit : Record → List Record)
    (rows : List (StoredRow relation)) : List Record :=
  rows.flatMap fun row =>
    if Plain.selects codec relation conditions row then edit row.cells else [row.cells]

/-- When all keys have come, all rows that satisfy the conditions are replaced and counted. -/
theorem Progress.finish {before : Tables} {chosen : List (StoredRow relation)} {count : UInt64}
    (identified : Identified rows)
    (perm : chosen.Perm (rows.filter (Plain.selects codec relation conditions)))
    (progress : Progress tables before rows chosen edit count [] session) :
    count = UInt64.ofNat (rows.countP (Plain.selects codec relation conditions)) ∧
    tables session.database
      = Function.update before relation.name (rewritten codec conditions edit rows) := by
  obtain ⟨done, todo, split, targets, counted, held⟩ := progress
  have none_left : todo = [] := List.map_eq_nil_iff.1 targets.symm
  rw [none_left, List.append_nil] at split
  subst split
  have all : ∀ row, row ∈ chosen ↔
      row ∈ rows ∧ Plain.selects codec relation conditions row = true :=
    fun row => perm.mem_iff.trans List.mem_filter
  constructor
  · rw [counted, perm.length_eq, List.countP_eq_length_filter]
  · rw [held, replace_cells (hasKeyOf_eq identified all)]
    rfl

theorem exists_of_perm_map {α β : Type} {f : α → β} {items : List α} {images : List β}
    (perm : images.Perm (items.map f)) :
    ∃ order : List α, images = order.map f ∧ order.Perm items :=
  (iff_of_eq (congrFun (congrFun (List.eq_map_comp_perm f) images) items)).2 perm

/-- The rows that the database streams to a write are those that pass its half of the conditions. -/
theorem exists_streamed (executes : backend.Executes tables holds)
    (content : tables session.database relation.name = rows.map (·.cells))
    (half : ∀ row ∈ rows, (filterPlan backend.dialect relation conditions).sql.UnderstoodBy holds
      backend.dialect row.cells) (columns : List String) :
    ∃ (query : Query) (order : List (StoredRow relation)) (database : σ),
      Query.select backend.dialect relation (.columns columns)
        (filterPlan backend.dialect relation conditions).sql none = .ok query ∧
      order.Perm (rows.filter fun row =>
        (filterPlan backend.dialect relation conditions).sql.accepts row.cells) ∧
      backend.stream query (relation.shape columns) session.database
        = (.ok ((order.map fun row => row.cells.project columns).map .ok), database) ∧
      tables database = tables session.database := by
  obtain ⟨parts, bound, binds⟩ := conditions.bind_split_fst backend.dialect relation.hasColumn
    (.empty backend.dialect)
  obtain ⟨streamed, database, replied, same, perm⟩ := executes.streams columns relation.name parts
    (Arguments.extend (.empty backend.dialect) bound).values (relation.shape columns)
    session.database
  have tested : (rows.map (·.cells)).filter
        (holds parts (Arguments.extend (.empty backend.dialect) bound).values)
      = (rows.filter fun row =>
          (filterPlan backend.dialect relation conditions).sql.accepts row.cells).map
          (·.cells) := by
    rw [List.filter_map]
    exact congrArg (List.map _) (List.filter_congr fun row member =>
      half row member [] parts _ binds)
  rw [content, tested, List.map_map] at perm
  obtain ⟨order, rfl, ordered⟩ := exists_of_perm_map perm
  refine ⟨_, order, database, ?_, ordered, replied, same⟩
  rw [Query.select, Query.onRows, filterPlan, binds]

/-- Rows that are put in another order, or left out, still have different keys. -/
theorem apart_of_perm {chosen : List (StoredRow relation)} {chooses : StoredRow relation → Bool}
    (identified : Identified rows) (perm : chosen.Perm (rows.filter chooses)) :
    chosen.Pairwise fun row other => ¬ relation.SameKey row.cells other.cells := by
  have apart := identified.apart.filter chooses
  exact perm.symm.pairwise apart fun differ same => differ same.symm

/-- Once the stream is open, the loop goes on from the rows that it gives. -/
theorem run_fold_targets (codec : Codec) {query : Query} {items : Rows} {database : σ} {β : Type}
    (made : Query.select backend.dialect relation
      (.columns (keyPlan backend.dialect relation conditions).columns)
      (filterPlan backend.dialect relation conditions).sql none = .ok query)
    (replied : backend.stream query
      (relation.shape (keyPlan backend.dialect relation conditions).columns) session.database
      = (.ok items, database)) (round : β → Conditions → Action Store β) (start : β) :
    ∃ later : Session σ, later.database = database ∧
      ((targets backend.dialect relation conditions).fold round start).run
          (Session.handle backend codec) session
        = ((keysOf backend.dialect relation conditions
            (.ofItems (fun _ => Store.take session.streams) items)).fold round start).run
          (Session.handle backend codec) later := by
  refine ⟨{ session.record (.streamed query (relation.shape
      (keyPlan backend.dialect relation conditions).columns)) with
    database, streams := session.streams + 1 }, rfl, ?_⟩
  rw [targets_eq made, Store.rows]
  refine (congrArg (fun keys => Action.run _ (Sequence.fold round keys start) session)
    (keysOf_ask _ _)).trans ?_
  simp only [Sequence.fold, Action.run, Session.handle]
  rw [Session.stream_of_ok replied]

/-- The loop over the keys of a write replaces the rows that satisfy the conditions, and counts
them. -/
theorem fold_targets_exact (premises : Premises backend tables holds codec conditions rows)
    (free : relation.BinaryFree)
    (replaces : Replaces backend tables holds relation edit statement)
    (keeps : KeepsKeys rows edit)
    (content : tables session.database relation.name = rows.map (·.cells)) :
    ∃ later,
      ((targets backend.dialect relation conditions).fold (writeOne statement) 0).run
        (Session.handle backend codec) session
        = (.ok (UInt64.ofNat (rows.countP (Plain.selects codec relation conditions))), later) ∧
      tables later.database = Function.update (tables session.database) relation.name
        (rewritten codec conditions edit rows) := by
  obtain ⟨query, order, database, made, ordered, replied, same⟩ := exists_streamed
    premises.executes content premises.half (keyPlan backend.dialect relation conditions).columns
  obtain ⟨opened, here, goes_on⟩ := run_fold_targets codec made replied (writeOne statement) 0
  rw [goes_on]
  have passed : ∀ row ∈ order, row ∈ rows ∧
      (filterPlan backend.dialect relation conditions).sql.accepts row.cells = true :=
    fun row member => List.mem_filter.1 (ordered.mem_iff.1 member)
  have given := keysOf_gives backend codec conditions free
    premises.keyColumns (fun row member => premises.reads row (passed row member).1)
    (fun row member => (passed row member).2) session.streams
  have perm := filter_selects_perm codec free ordered
  have among : ∀ row ∈ order.filter (Plain.selects codec relation conditions), row ∈ rows :=
    fun row member => (List.mem_filter.1 (perm.mem_iff.1 member)).1
  have start : Progress tables (tables session.database) rows
      (order.filter (Plain.selects codec relation conditions)) edit 0
      ((order.filter (Plain.selects codec relation conditions)).map
        fun row => identify relation row.cells) opened := by
    have untouched : replace edit (hasKeyOf ([] : List (StoredRow relation)))
        (rows.map (·.cells)) = rows.map (·.cells) := replace_of_missed edit fun _ _ => rfl
    refine ⟨[], _, rfl, rfl, rfl, ?_⟩
    rw [untouched, ← content, Function.update_eq_self, here, same]
  obtain ⟨count, later, folded, finished⟩ := given.run_fold
    (Progress tables (tables session.database) rows
      (order.filter (Plain.selects codec relation conditions)) edit)
    (fun request detached count rest session progress => by
      rw [Progress, Session.handle_detached backend codec detached]
      exact progress)
    (Progress.round codec replaces premises.identified keeps premises.keys among
      (apart_of_perm premises.identified perm))
    (keysOf_detached session.streams _) start
  obtain ⟨counted, left⟩ := finished.finish premises.identified perm
  exact ⟨later, by rw [folded, counted], left⟩

/-- Whatever its statement makes of a row, a write makes it of the rows that satisfy the conditions,
and counts them. -/
theorem writeRows_exact (premises : Premises backend tables holds codec conditions rows)
    (free : relation.BinaryFree) (rests : session.Rests)
    (content : tables session.database relation.name = rows.map (·.cells))
    (replaces : Replaces backend tables holds relation edit statement)
    (keeps : KeepsKeys rows edit) :
    ∃ later,
      (writeRows backend.dialect relation conditions statement).run
        (Session.handle backend codec) session
        = (.ok (UInt64.ofNat (rows.countP (Plain.selects codec relation conditions))), later) ∧
      tables later.database = Function.update (tables session.database) relation.name
        (rewritten codec conditions edit rows) := by
  obtain ⟨begun, transacted, same, _⟩ := rests.begin premises.executes.begins
  have began := (Session.run_transact backend codec .begin session).trans transacted
  rw [← same] at content ⊢
  cases nothing : (filterPlan backend.dialect relation conditions).app.isEmpty with
  | false =>
    obtain ⟨later, folded, left⟩ := fold_targets_exact premises free replaces keeps content
    refine ⟨later, ?_, left⟩
    rw [writeRows]
    simp only [nothing, Bool.false_eq_true, if_false]
    exact (Action.run_bind_of_ok began).trans folded
  | true =>
    have hits : ∀ row ∈ rows,
        (filterPlan backend.dialect relation conditions).sql.accepts row.cells
          = Plain.selects codec relation conditions row :=
      fun row member => accepts_eq_selects free nothing (premises.reads row member)
    obtain ⟨query, made, effects⟩ := replaces (filterPlan backend.dialect relation conditions).sql
      (conditions.plain_split_fst backend.dialect relation.hasColumn)
    obtain ⟨database, executed, left⟩ := effects begun.database (by
      intro record listed
      rw [content] at listed
      obtain ⟨row, member, rfl⟩ := List.mem_map.1 listed
      exact premises.half row member)
    rw [content, List.countP_map, List.countP_congr fun row member => by
      rw [Function.comp_apply, hits row member]] at executed
    rw [content, replace_cells hits] at left
    refine ⟨{ begun.record (.executed query) with database }, ?_, left⟩
    rw [writeRows]
    simp only [nothing, if_true, made]
    exact (Action.run_bind_of_ok began).trans (Session.run_execute_of_ok codec executed)

/-- Removing ends with the number of the rows that satisfy the conditions. These rows are gone, and
all else is as it was. -/
def RemovesExactly (backend : Backend σ) (tables : σ → Tables) (codec : Codec)
    (conditions : Conditions) (rows : List (StoredRow relation)) (session : Session σ) : Prop :=
  ∃ later, (remove backend.dialect relation conditions).run (Session.handle backend codec) session
      = (.ok (UInt64.ofNat (rows.countP (Plain.selects codec relation conditions))), later) ∧
    tables later.database = Function.update (tables session.database) relation.name
      ((rows.filter fun row => !Plain.selects codec relation conditions row).map (·.cells))

/-- Updating ends with the number of the rows that satisfy the conditions. These rows have the
stored fields of the record over what they had, and all else is as it was. -/
def UpdatesExactly (backend : Backend σ) (tables : σ → Tables) (codec : Codec)
    (conditions : Conditions) (rows : List (StoredRow relation)) (session : Session σ)
    (record : Record) : Prop :=
  ∃ later, (update backend.dialect relation record conditions).run (Session.handle backend codec)
      session
      = (.ok (UInt64.ofNat (rows.countP (Plain.selects codec relation conditions))), later) ∧
    tables later.database = Function.update (tables session.database) relation.name
      (rows.map fun row =>
        if Plain.selects codec relation conditions row
        then (relation.storable record).overlay row.cells else row.cells)

theorem rewritten_none (codec : Codec) (conditions : Conditions)
    (rows : List (StoredRow relation)) :
    rewritten codec conditions (fun _ => []) rows
      = (rows.filter fun row => !Plain.selects codec relation conditions row).map (·.cells) := by
  induction rows with
  | nil => rfl
  | cons row rest ih =>
    rw [rewritten, List.flatMap_cons, List.filter_cons]
    cases Plain.selects codec relation conditions row with
    | true => exact ih
    | false => exact congrArg (row.cells :: ·) ih

theorem rewritten_one (codec : Codec) (conditions : Conditions) (edit : Record → Record)
    (rows : List (StoredRow relation)) :
    rewritten codec conditions (fun row => [edit row]) rows
      = rows.map fun row =>
          if Plain.selects codec relation conditions row then edit row.cells else row.cells := by
  induction rows with
  | nil => rfl
  | cons row rest ih =>
    rw [rewritten, List.flatMap_cons, List.map_cons]
    cases Plain.selects codec relation conditions row with
    | true => exact congrArg (edit row.cells :: ·) ih
    | false => exact congrArg (row.cells :: ·) ih

/-- An update that writes no column of the primary key leaves the keys as they are. -/
theorem overlay_keeps {record : Record}
    (keyFree : ∀ column ∈ relation.primaryKey, record.contains column = false) :
    KeepsKeys rows fun row => [(relation.storable record).overlay row] := by
  intro row _ changed member column key
  cases List.mem_singleton.1 member
  have absent : record.get? column = none :=
    Option.isNone_iff_eq_none.1 (Option.isSome_eq_false_iff.1 (keyFree column key))
  rw [Record.value, Record.value, FieldMap.get?_overlay, Relation.storable, FieldMap.get?_filter,
    absent]
  rfl

/-- If the database does what statements say and the primary key identifies the rows of a table,
removing and updating change exactly the rows whose whole record satisfies the conditions, however
these are divided between the database and the process. -/
theorem writes_exact (premises : Premises backend tables holds codec conditions rows)
    (free : relation.BinaryFree) (rests : session.Rests)
    (content : tables session.database relation.name = rows.map (·.cells)) :
    RemovesExactly backend tables codec conditions rows session ∧
    ∀ record, (relation.storable record).isEmpty = false →
      (∀ column ∈ relation.primaryKey, record.contains column = false) →
      UpdatesExactly backend tables codec conditions rows session record := by
  have writable : ensureWritable relation = .ok () := by
    rw [ensureWritable, premises.writable]
    rfl
  constructor
  · obtain ⟨later, ended, left⟩ := writeRows_exact premises free rests content
      (delete_replaces premises.executes relation) (fun _ _ _ member => by cases member)
    rw [rewritten_none] at left
    refine ⟨later, ?_, left⟩
    rw [remove, writable]
    exact ended
  · intro record stored keyFree
    have replaces := update_replaces premises.executes relation
      ((congrArg _ (relation.storable_storable record)).trans stored)
    rw [Relation.storable_storable] at replaces
    obtain ⟨later, ended, left⟩ := writeRows_exact premises free rests content replaces
      (overlay_keeps keyFree)
    rw [rewritten_one] at left
    refine ⟨later, ?_, left⟩
    rw [update, writable]
    simp only [stored]
    exact ended

end Writes

/-! ### An engine with tables -/

/-- An engine understands keys if those of a column are of one kind. -/
theorem understandsKeys_of_kinds (db : Engine) (dialect : Dialect)
    {rows : List (StoredRow relation)}
    (kinds : ∀ row ∈ rows, ∀ other ∈ rows, ∀ column ∈ relation.primaryKey,
      ((Record.value other.cells column).compare? (Record.value row.cells column)).isSome = true) :
    UnderstandsKeys (db.holds dialect) dialect rows := by
  intro row member other listed record same
  apply db.understoodBy_of_suit
  rintro ⟨column, filter⟩ tested
  rw [FieldMap.mem_toList_iff, get?_identify] at tested
  split at tested
  · next key =>
    cases tested
    rw [same column key]
    exact .equals (Or.inr (Or.inr (kinds row member other listed column key)))
  · cases tested

/-- The tables of a keyring with the sample rows. -/
def sampleTables : Tables :=
  Function.update (fun _ => []) Relation.identities.name (sampleRows.map (·.cells))

theorem sample_premises : Premises (Conditions.strictEngine.backend .postgres) id
    (Conditions.strictEngine.holds .postgres) sampleCodec sampleConditions sampleRows where
  executes := Engine.backend_executes ..
  writable := rfl
  keyColumns := by decide
  identified := by
    constructor
    · decide +kernel
    · decide +kernel
  reads _ _ _ _ := ⟨_, rfl⟩
  half row _ := by
    have asked : (filterPlan .postgres .identities sampleConditions).sql.toList
        = [("email", .not (.equals .null))] := rfl
    have suit : (filterPlan .postgres .identities sampleConditions).sql.Suit row.cells := by
      rw [Conditions.Suit, asked, List.forall_mem_singleton]
      exact .not (.equals (Or.inr (Or.inl rfl)))
    exact Engine.understoodBy_of_suit _ _ suit
  keys := by
    apply understandsKeys_of_kinds
    decide +kernel

theorem writes_exact_sample :
    sampleRows.countP (Plain.selects sampleCodec .identities sampleConditions) = 1 ∧
    RemovesExactly (Conditions.strictEngine.backend .postgres) id sampleCodec sampleConditions
      sampleRows (.start sampleTables) ∧
    UpdatesExactly (Conditions.strictEngine.backend .postgres) id sampleCodec sampleConditions
      sampleRows (.start sampleTables) (.ofList [("name", .null), ("userid", .text "lost")]) := by
  have outcome := writes_exact sample_premises
    (Relation.catalogue_wellFormed _ (by simp [Relation.catalogue])).binaryFree
    (Session.start_rests sampleTables) rfl
  exact ⟨by decide +kernel, outcome.1, outcome.2 _ (by decide +kernel) (by decide +kernel)⟩

/-! A table that derives packets and has a column named as the field that shows them. If that column
is the key, a write that decodes takes the packet of a row for its key. -/

/-- A table whose key is hidden by the packet that records show. -/
def shadowed : Relation where
  name := "t"
  form := .table
  kind := .identity
  columns := [⟨"id", .text⟩, ⟨"binary", .bytes⟩]
  primaryKey := ["binary"]
  payload := .derived "id"

/-- Two rows, each with the packet of the other as its key. -/
def shadowedRows : List (StoredRow shadowed) :=
  [.ofValues shadowed fun column => if column = "id" then .text "a" else .bytes [0x62],
    .ofValues shadowed fun column => if column = "id" then .text "b" else .bytes [0x61]]

/-- Every packet says of what kind it is. -/
def kindCodec : Codec := fun kind _ => .ok (.ofList [("kind", .text kind.name)])

/-- The identity `a`. -/
def shadowedConditions : Conditions :=
  .ofList [("id", .equals (.text "a")), ("kind", .equals (.text "identity"))]

/-- The tables of a database with these rows. -/
def shadowedTables : Tables := Function.update (fun _ => []) "t" (shadowedRows.map (·.cells))

theorem shadowed_premises : Premises (Conditions.strictEngine.backend .sqlite) id
    (Conditions.strictEngine.holds .sqlite) kindCodec shadowedConditions shadowedRows where
  executes := Engine.backend_executes ..
  writable := rfl
  keyColumns := by decide
  identified := by
    constructor
    · decide +kernel
    · decide +kernel
  reads _ _ _ _ := ⟨_, rfl⟩
  half row member := by
    have asked : (filterPlan .sqlite shadowed shadowedConditions).sql.toList
        = [("id", .equals (.text "a"))] := rfl
    have texts : ∀ row ∈ shadowedRows,
        ((Record.value row.cells "id").compare? (.text "a")).isSome = true := by decide +kernel
    have suit : (filterPlan .sqlite shadowed shadowedConditions).sql.Suit row.cells := by
      rw [Conditions.Suit, asked, List.forall_mem_singleton]
      exact .equals (Or.inr (Or.inr (texts row member)))
    exact Engine.understoodBy_of_suit _ _ suit
  keys := by
    apply understandsKeys_of_kinds
    decide +kernel

/-- The other row is removed, because the key of the first is taken from its packet. -/
theorem removes_other_row :
    ¬ ∀ {σ : Type} (backend : Backend σ) (tables : σ → Tables) (holds : Test) (codec : Codec)
      (relation : Relation) (conditions : Conditions) (rows : List (StoredRow relation))
      (session : Session σ), Premises backend tables holds codec conditions rows →
      session.Rests → tables session.database relation.name = rows.map (·.cells) →
      RemovesExactly backend tables codec conditions rows session := by
  intro exactly
  obtain ⟨later, ended, left⟩ := exactly (Conditions.strictEngine.backend .sqlite) id
    (Conditions.strictEngine.holds .sqlite) kindCodec shadowed shadowedConditions shadowedRows
    (.start shadowedTables) shadowed_premises (Session.start_rests _) rfl
  have claimed : later.database "t"
      = (shadowedRows.filter fun row =>
          !Plain.selects kindCodec shadowed shadowedConditions row).map (·.cells) :=
    (congrFun left "t").trans (Function.update_self ..)
  have second_left : ((shadowedRows.filter fun row =>
        !Plain.selects kindCodec shadowed shadowedConditions row).map (·.cells)).map (·.toList)
      = [[("binary", .bytes [0x61]), ("id", .text "b")]] := by decide +kernel
  have first_left : (((remove .sqlite shadowed shadowedConditions).run
      (Session.handle (Conditions.strictEngine.backend .sqlite) kindCodec)
      (.start shadowedTables)).2.database "t").map (·.toList)
      = [[("binary", .bytes [0x62]), ("id", .text "a")]] := by decide +kernel
  have reached := congrArg (fun outcome => (outcome.2.database "t").map FieldMap.toList) ended
  have same := first_left.symm.trans (reached.trans ((congrArg _ claimed).trans second_left))
  exact absurd same (by decide)

end Entries

end KeyStore
