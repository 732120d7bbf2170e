import KeyStore.Proofs.Entries.Targets
import KeyStore.Proofs.Keyring.Calls
import KeyStore.Proofs.Keyring.Scopes
import KeyStore.Proofs.Session.Transact

/-!
# Removing entries keeps references

An entry is removed if a reader finds nothing that hangs on it. What hangs on an entry is what names
its row (`dependent_of_names`), and for keys the subkeys besides, so no removal takes away a row
that another names (`removals_keep_references`). A refused removal has run no statement and leaves
the transaction as it was.

The database answers whether there is a row, and deletes rows where that breaks no reference
(`Backend.Serves`); it may refuse what does.
-/

namespace KeyStore

open Sql

namespace Collection

/-- A reader finds entries of the kind. -/
def Dependents.FoundIn (dependents : Dependents) (tables : Tables) : Prop :=
  ∃ row ∈ tables.shown dependents.relation.name,
    (Scope.conditions dependents.scope).accepts row = true

theorem keyInUse_iff (tables : Tables) (key : String) :
    tables.KeyInUse key ↔ ∃ dependents ∈ ofKey key, dependents.FoundIn tables := by
  simp only [ofKey, List.mem_cons, List.not_mem_nil, or_false, exists_eq_or_imp, exists_eq_left,
    Dependents.FoundIn, Scope.accepts_one]
  rw [Tables.shown_subkeys, tables.exists_subkey_iff, Tables.shown_of_ne (by decide),
    Tables.shown_of_ne (by decide), Tables.shown_of_ne (by decide)]
  exact Iff.rfl

/-- An entry is in use if a reader finds entries of a kind that may hang on it. -/
theorem inUse_iff (tables : Tables) (collection : Collection) (id : String) :
    tables.InUse collection id ↔
      ∃ dependents ∈ collection.dependents id, dependents.FoundIn tables := by
  cases collection with
  | keys => exact keyInUse_iff tables id
  | subkeys => exact keyInUse_iff tables id
  | identities key =>
    simp only [Collection.dependents, owners, List.mem_singleton, exists_eq_left,
      Dependents.FoundIn, Scope.accepts_two (show "key" ≠ "identity" by decide)]
    rw [Tables.shown_of_ne (by decide)]
    exact Iff.rfl
  | attributes key =>
    simp only [Collection.dependents, owners, List.mem_singleton, exists_eq_left,
      Dependents.FoundIn, Scope.accepts_two (show "key" ≠ "attribute" by decide)]
    rw [Tables.shown_of_ne (by decide)]
    exact Iff.rfl
  | _ => simp [Tables.InUse, Collection.dependents]

/-- The references to keys. -/
theorem names_key {reference : Reference} (listed : reference ∈ Reference.all)
    (targets : reference.target.name = Relation.keys.name) :
    reference.columns = [("key", "id")] ∧
      (reference.source = .identities ∨ reference.source = .attributes ∨
        reference.source = .keySignatures) := by
  have known : ∀ reference ∈ Reference.all, reference.target.name = Relation.keys.name →
      reference.columns = [("key", "id")] ∧
        (reference.source = .identities ∨ reference.source = .attributes ∨
          reference.source = .keySignatures) := by decide
  exact known reference listed targets

theorem dependent_of_names_key {reference : Reference} (listed : reference ∈ Reference.all)
    (targets : reference.target.name = Relation.keys.name) {id : String} {row entry : Record}
    (hit : (Collection.entry keys id).accepts entry = true) (named : reference.Names row entry) :
    ∃ dependents ∈ ofKey id, dependents.relation = reference.source ∧
      (Scope.conditions dependents.scope).accepts row = true := by
  obtain ⟨columns, source⟩ := names_key listed targets
  rw [Reference.Names, columns, List.forall_mem_singleton,
    (Scope.accepts_one "id" id entry).1 hit, Value.compare?_text] at named
  have accepted := (Scope.accepts_one "key" id row).2 named
  rcases source with source | source | source <;> rw [source]
  · exact ⟨_, .head _, rfl, accepted⟩
  · exact ⟨_, .tail _ (.head _), rfl, accepted⟩
  · exact ⟨_, .tail _ (.tail _ (.tail _ (.head _))), rfl, accepted⟩

/-- A row that names the row of an entry hangs on the entry. -/
theorem dependent_of_names {reference : Reference} (listed : reference ∈ Reference.all)
    {collection : Collection} (targets : reference.target.name = collection.target.name)
    {id : String} {row entry : Record} (hit : (collection.targetEntry id).accepts entry = true)
    (named : reference.Names row entry) :
    ∃ dependents ∈ collection.dependents id, dependents.relation = reference.source ∧
      (Scope.conditions dependents.scope).accepts row = true := by
  have identities : ∀ reference ∈ Reference.all,
      reference.target.name = Relation.identities.name → reference.source = .identitySignatures ∧
        reference.columns = [("key", "key"), ("identity", "id")] := by decide
  have attributes : ∀ reference ∈ Reference.all,
      reference.target.name = Relation.attributes.name → reference.source = .attributeSignatures ∧
        reference.columns = [("key", "key"), ("attribute", "id")] := by decide
  have unnamed : ∀ reference ∈ Reference.all, ∀ relation ∈ [Relation.keySignatures,
      .identitySignatures, .attributeSignatures], reference.target.name ≠ relation.name := by decide
  cases collection with
  | keys => exact dependent_of_names_key listed targets hit named
  | subkeys key => exact dependent_of_names_key listed targets hit named
  | identities key =>
    obtain ⟨source, columns⟩ := identities reference listed targets
    obtain ⟨owner, id⟩ := (Scope.accepts_two (by decide) ..).1 hit
    rw [Reference.Names, columns, List.forall_mem_cons, List.forall_mem_singleton, owner, id,
      Value.compare?_text, Value.compare?_text] at named
    exact ⟨_, .head _, source.symm, (Scope.accepts_two (by decide) ..).2 named⟩
  | attributes key =>
    obtain ⟨source, columns⟩ := attributes reference listed targets
    obtain ⟨owner, id⟩ := (Scope.accepts_two (by decide) ..).1 hit
    rw [Reference.Names, columns, List.forall_mem_cons, List.forall_mem_singleton, owner, id,
      Value.compare?_text, Value.compare?_text] at named
    exact ⟨_, .head _, source.symm, (Scope.accepts_two (by decide) ..).2 named⟩
  | _ => exact absurd targets (unnamed reference listed _ (by simp [target, relation]))

/-- An entry that is not in use can be removed. -/
theorem consistent_without {tables : Tables} (consistent : tables.Consistent)
    {collection : Collection} {id : String} (unused : ¬ tables.InUse collection id) :
    (tables.without collection.target.name (collection.targetEntry id).accepts).Consistent := by
  refine consistent.without fun reference listed targets row member entry hit named => unused ?_
  obtain ⟨dependents, possible, source, accepted⟩ := dependent_of_names listed targets hit named
  have stored : reference.source.name ≠ Relation.subkeys.name := by
    have known : ∀ reference ∈ Reference.all,
      reference.source.name ≠ Relation.subkeys.name := by decide
    exact known reference listed
  refine (inUse_iff ..).2 ⟨dependents, possible, row, ?_, accepted⟩
  rw [source, Tables.shown_of_ne stored]
  exact member

end Collection


/-! ### A database with references -/

/-- The database tells whether it shows a row, and removes rows from its tables where this breaks no
reference. What else its state holds is left open. -/
structure Backend.Serves {σ : Type} (backend : Backend σ) (tables : σ → Tables) (holds : Test) :
    Prop where
  begins : ∀ state, ∃ count later,
    backend.execute ⟨.control .begin, []⟩ state = (.ok count, later) ∧ tables later = tables state
  deletes : ∀ relation ∈ Relation.catalogue, relation.isWritable = true →
    ∀ conditions args state,
      ((tables state).without relation.name (holds conditions args)).Consistent →
      ∃ count later,
        backend.execute ⟨.delete relation.name conditions, args⟩ state = (.ok count, later) ∧
        tables later = (tables state).without relation.name (holds conditions args)
  probes : ∀ relation ∈ Relation.catalogue,
    relation.isWritable = true ∨ relation = Relation.subkeys →
    ∀ columns conditions args shape state, ∃ (rows : List Record) (later : σ),
      backend.stream ⟨.select (.columns columns) relation.name conditions (some "LIMIT 1"), args⟩
        shape state = (.ok ((rows.take 1).map .ok), later) ∧
      tables later = tables state ∧
      rows.Perm ((((tables state).shown relation.name).filter (holds conditions args)).map
        (·.project columns))
  understands : ∀ (conditions : Conditions) (record : Record), conditions.Suit record →
    conditions.UnderstoodBy holds backend.dialect record

variable {σ : Type} {backend : Backend σ} {tables : σ → Tables} {holds : Test} {session : Session σ}

namespace Session

/-- No statement was run in between, and nothing was asked about the transaction. -/
def Untouched (before after : Session σ) : Prop :=
  after.coordinator = before.coordinator ∧
    ∃ events, after.journal = before.journal ++ events ∧ ∀ query, .executed query ∉ events

theorem untouched_self (session : Session σ) : session.Untouched session :=
  ⟨rfl, [], (List.append_nil _).symm, fun _ => List.not_mem_nil⟩

theorem Untouched.record {before after : Session σ} (untouched : before.Untouched after)
    {event : Event} (reads : ∀ query, event ≠ .executed query) :
    before.Untouched (after.record event) := by
  obtain ⟨same, events, journal, others⟩ := untouched
  refine ⟨same, events ++ [event], ?_, fun query => ?_⟩
  · rw [Session.record, journal, List.append_assoc]
  · simp [others query, (reads query).symm]

/-- A request that reads runs no statement. -/
theorem Untouched.handle (codec : Codec) {before after : Session σ}
    (untouched : before.Untouched after) {request : StoreRequest} (reads : request.Reads) :
    before.Untouched (Session.handle backend codec request after).2 := by
  cases request with
  | execute query => exact reads.elim
  | transact command => exact reads.elim
  | fetch query shape => exact untouched.record (by simp)
  | stream query shape =>
    have recorded : before.Untouched (after.record (.streamed query shape)) :=
      untouched.record (by simp)
    change before.Untouched (after.stream backend query shape).2
    simp only [stream]
    split <;> exact recorded
  | take number => exact untouched.record (by simp)
  | decode kind packet => exact untouched.record (by simp)

theorem Untouched.of_reads (backend : Backend σ) (codec : Codec) {α : Type}
    {action : Action Store α} (only : action.Only StoreRequest.Reads) (session : Session σ) :
    session.Untouched (action.run (Session.handle backend codec) session).2 :=
  only.run_keeps session.Untouched (fun _ reads _ untouched => untouched.handle codec reads)
    session.untouched_self

end Session

theorem Query.onRows_of_bind {args bound : Arguments} {conditions : Conditions}
    {parts : List Condition} (binds : conditions.bind args = (.ok parts, bound))
    {statement : List Condition → Statement} :
    Query.onRows args conditions statement = .ok ⟨statement parts, bound.values⟩ := by
  rw [onRows, binds]

namespace Entries

/-- What asking for an entry makes of the rows that are streamed: no column is fetched, and no
packet is read. -/
def probe (relation : Relation) (rows : Sequence Store Record) : Sequence Store Record :=
  ofRows relation (some []) ⟨[], false⟩ .empty rows

variable {relation : Relation} {conditions : Conditions}

theorem exist_eq (asks : conditions.Asks relation) (dialect : Dialect) {query : Query}
    (made : Query.select dialect relation (.columns []) conditions (some "LIMIT 1") = .ok query) :
    exist dialect relation conditions = (probe relation (Store.rows query [])).isNonempty := by
  have unneeded : fetchPlan relation (some []) .empty = ⟨[], false⟩ :=
    congrArg (FetchPlan.mk · false) (List.filter_eq_nil_iff.2 fun _ _ => Bool.false_ne_true)
  have single : (true && (FieldMap.empty : Conditions).isEmpty) = true := rfl
  have asked : select dialect relation conditions (some []) true
      = probe relation (Store.rows query []) := by
    rw [select, Conditions.filterPlan_of_asks asks]
    simp only [unneeded, single, if_true, made]
    rfl
  rw [exist, asked]

/-- Once the stream is open, asking goes on from the rows that it gives. -/
theorem run_exist_of_ok (codec : Codec) (asks : conditions.Asks relation) {query : Query}
    (made : Query.select backend.dialect relation (.columns []) conditions (some "LIMIT 1")
      = .ok query) {items : Rows} {database : σ}
    (replied : backend.stream query [] session.database = (.ok items, database)) :
    ∃ opened : Session σ, opened.database = database ∧
      (exist backend.dialect relation conditions).run (Session.handle backend codec) session
        = (probe relation
            (.ofItems (fun _ => Store.take session.streams) items)).isNonempty.run
            (Session.handle backend codec) opened := by
  refine ⟨{ session.record (.streamed query []) with
    database, streams := session.streams + 1 }, rfl, ?_⟩
  rw [exist_eq asks backend.dialect made, Store.rows]
  refine (congrArg (fun items => Action.run _ (Sequence.isNonempty items) session)
    (ofRows_ask _ _ _)).trans ?_
  simp only [Sequence.isNonempty, Sequence.first, Action.bind, Action.run, Session.handle]
  rw [Session.stream_of_ok replied]
  rfl

/-- Asking finds an entry if a row is streamed, and leaves the database as it is. -/
theorem run_probe (backend : Backend σ) (codec : Codec) (relation : Relation) (number : Nat)
    (rows : List Record) (session : Session σ) :
    ∃ later, (probe relation (.ofItems (fun _ => Store.take number)
        (rows.map .ok))).isNonempty.run (Session.handle backend codec) session
        = (.ok rows.head?.isSome, later) ∧
      later.database = session.database := by
  have taken : ∀ item : Except StoreError Record,
      Action.Gives (Session.handle backend codec) (Store.take number) () :=
    fun _ => .ask fun _ => .done ()
  have given : Sequence.Gives (Session.handle backend codec)
      (probe relation (.ofItems (fun _ => Store.take number) (rows.map .ok)))
      (cutTo (some []) (rows.filter (Conditions.accepts .empty))) :=
    ofRows_gives (.ofItems taken rows) (List.forall₂_same.2 fun _ _ => rfl)
  rw [filter_accepts_of_isEmpty rfl] at given
  have only : (probe relation (.ofItems (fun _ => Store.take number)
      (rows.map .ok))).Only StoreRequest.Detached :=
    ofRows_only (fun _ _ => trivial) relation _ _ _
      (Sequence.only_ofItems (fun _ => Store.take_only trivial) _)
  have kept : ((probe relation (.ofItems (fun _ => Store.take number)
      (rows.map .ok))).isNonempty.run (Session.handle backend codec) session).2.database
        = session.database :=
    only.isNonempty.run_keeps (fun later : Session σ => later.database = session.database)
      (fun _ detached state held =>
        (Session.handle_detached backend codec detached state).trans held) rfl
  have answer : (cutTo (some []) rows).head?.isSome = rows.head?.isSome := by
    rw [cutTo, List.head?_map, Option.isSome_map]
  refine ⟨_, Prod.ext ?_ rfl, kept⟩
  rw [given.isNonempty.run_fst session, answer]

/-- The database streams a row if it shows one that satisfies the conditions. -/
theorem exists_probed (serves : backend.Serves tables holds)
    (listed : relation ∈ Relation.catalogue)
    (form : relation.isWritable = true ∨ relation = Relation.subkeys)
    (asks : conditions.Asks relation) (state : σ)
    (fits : ∀ row ∈ (tables state).shown relation.name, relation.Fits row) :
    ∃ (query : Query) (rows : List Record) (later : σ),
      Query.select backend.dialect relation (.columns []) conditions (some "LIMIT 1") = .ok query ∧
      backend.stream query [] state = (.ok (rows.map .ok), later) ∧
      tables later = tables state ∧
      rows.head?.isSome = ((tables state).shown relation.name).any conditions.accepts := by
  obtain ⟨parts, bound, binds⟩ := Conditions.bindEntries_ok conditions.toList asks.plain
    (.empty backend.dialect)
  obtain ⟨rows, later, replied, same, perm⟩ :=
    serves.probes relation listed form [] parts bound [] state
  have tested : ∀ row ∈ (tables state).shown relation.name,
      holds parts bound row = conditions.accepts row := fun row member =>
    serves.understands conditions row (asks.suit (fits row member)) [] parts _ binds
  refine ⟨_, rows.take 1, later, Query.onRows_of_bind binds, replied, same, ?_⟩
  have counted : rows.length
      = ((tables state).shown relation.name).countP conditions.accepts := by
    rw [perm.length_eq, List.filter_congr tested, List.length_map, List.countP_eq_length_filter]
  rw [Bool.eq_iff_iff, List.any_eq_true, ← List.countP_pos_iff, ← counted]
  cases rows <;> simp

/-- Asking whether there is an entry gives the answer of the database, and changes nothing. -/
theorem run_exist (serves : backend.Serves tables holds) (codec : Codec)
    (listed : relation ∈ Relation.catalogue)
    (form : relation.isWritable = true ∨ relation = Relation.subkeys)
    (asks : conditions.Asks relation)
    (fits : ∀ row ∈ (tables session.database).shown relation.name, relation.Fits row) :
    ∃ later, (exist backend.dialect relation conditions).run (Session.handle backend codec) session
        = (.ok (((tables session.database).shown relation.name).any conditions.accepts), later) ∧
      tables later.database = tables session.database := by
  obtain ⟨query, rows, database, made, replied, same, answer⟩ :=
    exists_probed serves listed form asks session.database fits
  obtain ⟨opened, here, goes_on⟩ := run_exist_of_ok codec asks made replied
  obtain ⟨later, ended, kept⟩ :=
    run_probe backend codec relation session.streams rows opened
  exact ⟨later, by rw [goes_on, ended, answer], by rw [kept, here, same]⟩

/-- Removing the rows that satisfy conditions. -/
theorem run_remove (serves : backend.Serves tables holds) (codec : Codec)
    (listed : relation ∈ Relation.catalogue) (writable : relation.isWritable = true)
    (asks : conditions.Asks relation)
    (fits : ∀ row ∈ tables session.database relation.name, relation.Fits row)
    (rests : session.Rests)
    (spares : ((tables session.database).without relation.name conditions.accepts).Consistent) :
    ∃ count later, (remove backend.dialect relation conditions).run
        (Session.handle backend codec) session = (.ok count, later) ∧
      tables later.database
        = (tables session.database).without relation.name conditions.accepts ∧
      later.Rests := by
  obtain ⟨parts, bound, binds⟩ := Conditions.bindEntries_ok conditions.toList asks.plain
    (.empty backend.dialect)
  have made : Query.delete backend.dialect relation conditions
      = .ok ⟨.delete relation.name parts, bound⟩ := Query.onRows_of_bind binds
  obtain ⟨begun, transacted, same, rested⟩ := rests.begin serves.begins
  have tested : (tables begun.database).without relation.name (holds parts bound)
      = (tables session.database).without relation.name conditions.accepts := by
    rw [same]
    exact Tables.without_congr fun row member =>
      serves.understands conditions row (asks.suit (fits row member)) [] parts _ binds
  obtain ⟨count, database, executed, left⟩ :=
    serves.deletes relation listed writable parts bound begun.database (tested ▸ spares)
  refine ⟨count, { begun.record (.executed ⟨.delete relation.name parts, bound⟩) with database },
    ?_, left.trans tested, rested.congr rfl⟩
  rw [remove, ensureWritable, writable]
  simp only [writeRows, Conditions.filterPlan_of_asks asks, made]
  exact (Action.run_bind_of_ok ((Session.run_transact ..).trans transacted)).trans
    (Session.run_execute_of_ok codec executed)

end Entries

namespace Keyring

variable (schema : String)

/-- Of the kinds of entry that may hang on another, one is named if one is found. -/
theorem run_firstDependent? (serves : backend.Serves tables holds) (codec : Codec)
    (dependents : List Collection.Dependents)
    (shown : ∀ kind ∈ dependents, kind.relation ∈ Relation.catalogue ∧
      (kind.relation.isWritable = true ∨ kind.relation = Relation.subkeys))
    (asks : ∀ kind ∈ dependents, (Scope.conditions kind.scope).Asks kind.relation)
    (typed : (tables session.database).Typed) :
    ∃ found later, (firstDependent? ⟨backend.dialect, schema⟩ dependents).run
        (Session.handle backend codec) session = (.ok found, later) ∧
      tables later.database = tables session.database ∧
      (found.isSome = true ↔ ∃ kind ∈ dependents, kind.FoundIn (tables session.database)) := by
  induction dependents generalizing session with
  | nil => exact ⟨none, session, rfl, rfl, by simp⟩
  | cons kind rest ih =>
    obtain ⟨shown_first, shown_rest⟩ := List.forall_mem_cons.1 shown
    obtain ⟨asks_first, asks_rest⟩ := List.forall_mem_cons.1 asks
    obtain ⟨asked, exists_run, same⟩ := Entries.run_exist serves codec shown_first.1 shown_first.2
      asks_first (typed.fits_shown shown_first.1 shown_first.2)
    have first_iff : kind.FoundIn (tables session.database) ↔
        ((tables session.database).shown kind.relation.name).any
          (Scope.conditions kind.scope).accepts = true := List.any_eq_true.symm
    cases answer : ((tables session.database).shown kind.relation.name).any
        (Scope.conditions kind.scope).accepts with
    | true =>
      rw [answer] at exists_run first_iff
      exact ⟨some kind.label, asked, Action.run_bind_of_ok exists_run, same,
        by simp [first_iff]⟩
    | false =>
      rw [answer] at exists_run first_iff
      have typed_asked : (tables asked.database).Typed := same ▸ typed
      obtain ⟨found, later, ran, kept, found_iff⟩ := ih shown_rest asks_rest typed_asked
      refine ⟨found, later, (Action.run_bind_of_ok exists_run).trans ran, kept.trans same, ?_⟩
      rw [found_iff, same]
      simp [first_iff]

/-- What removing an entry does. -/
structure Removes (tables : σ → Tables) (collection : Collection) (id : String)
    (before : Session σ) (outcome : Except StoreError Unit × Session σ) : Prop where
  /-- It is refused if others hang on the entry. -/
  refused_iff : (∃ message, outcome.1 = .error (.dependencyExists message)) ↔
    (tables before.database).InUse collection id
  /-- A refusal has changed nothing, in the database or in the transaction. -/
  untouched : (tables before.database).InUse collection id →
    before.Untouched outcome.2 ∧ tables outcome.2.database = tables before.database
  /-- If not, it takes the row of the entry away. -/
  removed : ¬ (tables before.database).InUse collection id →
    outcome.1 = .ok () ∧ tables outcome.2.database = (tables before.database).without
      collection.target.name (collection.targetEntry id).accepts

/-- A session at rest, over tables with typed columns in which whatever is named is there. -/
structure Orderly (tables : σ → Tables) (session : Session σ) : Prop where
  rests : session.Rests
  typed : (tables session.database).Typed
  consistent : (tables session.database).Consistent

/-- Removing an entry keeps the order. -/
theorem remove_removes (serves : backend.Serves tables holds) (codec : Codec)
    (orderly : Orderly tables session) (collection : Collection) (id : String) :
    Removes tables collection id session
        ((remove ⟨backend.dialect, schema⟩ collection id).run (Session.handle backend codec)
          session) ∧
      Orderly tables ((remove ⟨backend.dialect, schema⟩ collection id).run
        (Session.handle backend codec) session).2 := by
  obtain ⟨found, asked, ran, same, found_iff⟩ := run_firstDependent? schema serves codec
    (collection.dependents id) (collection.dependents_shown id) (collection.asks_dependents id)
    orderly.typed
  rw [← Collection.inUse_iff] at found_iff
  have untouched := Session.Untouched.of_reads backend codec
    (firstDependent?_reads ⟨backend.dialect, schema⟩ (collection.dependents id)) session
  rw [ran] at untouched
  have rests := orderly.rests.congr untouched.1
  cases found with
  | some label =>
    have used := found_iff.1 rfl
    have refused : (remove ⟨backend.dialect, schema⟩ collection id).run
        (Session.handle backend codec) session
        = (.error (.stillHas (collection.describe id) label), asked) :=
      Action.run_bind_of_ok ran
    rw [refused]
    exact ⟨⟨iff_of_true ⟨_, rfl⟩ used, fun _ => ⟨untouched, same⟩,
      fun unused => absurd used unused⟩, rests, same ▸ orderly.typed, same ▸ orderly.consistent⟩
  | none =>
    have unused : ¬ (tables session.database).InUse collection id := fun used =>
      Bool.false_ne_true (found_iff.2 used)
    have spares := Collection.consistent_without orderly.consistent unused
    obtain ⟨listed, writable⟩ := collection.target_written
    have fits := orderly.typed collection.target listed writable
    rw [← same] at spares fits
    obtain ⟨count, later, removed, left, rested⟩ := Entries.run_remove serves codec listed writable
      (collection.asks_targetEntry id) fits rests spares
    have done : (remove ⟨backend.dialect, schema⟩ collection id).run
        (Session.handle backend codec) session = (.ok (), later) :=
      (Action.run_bind_of_ok ran).trans (Action.run_bind_of_ok removed)
    rw [done]
    rw [same] at left
    refine ⟨⟨iff_of_false nofun unused, fun used => absurd used unused, fun _ => ⟨rfl, left⟩⟩,
      rested, ?_, ?_⟩
    · rw [left]
      exact orderly.typed.without _ _
    · rw [left, ← same]
      exact spares

/-- Removes entries one after the other, whether it succeeds or not. -/
def removeEach (keyring : Keyring) (handle : Handler Store (Session σ))
    (session : Session σ) (calls : List (Collection × String)) : Session σ :=
  calls.foldl (fun session call => ((keyring.remove call.1 call.2).run handle session).2) session

/-- Whatever was removed, what is named is there; and the next removal is refused exactly if others
hang on the entry, in which case it has run no statement and leaves the transaction as it was. -/
theorem removals_keep_references (serves : backend.Serves tables holds) (codec : Codec)
    (orderly : Orderly tables session) (calls : List (Collection × String)) :
    (tables (removeEach ⟨backend.dialect, schema⟩ (Session.handle backend codec) session
      calls).database).Consistent ∧
    ∀ collection id, Removes tables collection id
      (removeEach ⟨backend.dialect, schema⟩ (Session.handle backend codec) session calls)
      ((remove ⟨backend.dialect, schema⟩ collection id).run (Session.handle backend codec)
        (removeEach ⟨backend.dialect, schema⟩ (Session.handle backend codec) session calls)) := by
  have reached : Orderly tables
      (removeEach ⟨backend.dialect, schema⟩ (Session.handle backend codec) session calls) := by
    induction calls generalizing session with
    | nil => exact orderly
    | cons call rest ih =>
      exact ih (remove_removes schema serves codec orderly call.1 call.2).2
  exact ⟨reached.consistent, fun collection id =>
    (remove_removes schema serves codec reached collection id).1⟩

end Keyring

/-! ### An engine with references -/

/-- A database that reads the text of conditions, shows subkeys, and refuses to break references. -/
def Sql.Engine.guarded (db : Engine) (dialect : Dialect) : Backend Tables where
  dialect := dialect
  execute query tables :=
    match query.statement with
    | .delete name conditions =>
      let left := tables.without name (db.holds dialect conditions query.args)
      if left.Consistent then
        (.ok (UInt64.ofNat ((tables name).length - (left name).length)), left)
      else (.error (.driver "FOREIGN KEY constraint failed"), tables)
    | _ => (.ok 0, tables)
  fetch _ _ tables := (.ok [], tables)
  stream query _ tables :=
    match query.statement with
    | .select (.columns columns) name conditions _ =>
      (.ok (((((tables.shown name).filter (db.holds dialect conditions query.args)).map
        (·.project columns)).take 1).map .ok), tables)
    | _ => (.ok [], tables)

theorem Sql.Engine.guarded_serves (db : Engine) (dialect : Dialect) :
    (db.guarded dialect).Serves id (db.holds dialect) where
  begins tables := ⟨0, tables, rfl, rfl⟩
  deletes relation _ _ conditions args tables keeps :=
    ⟨_, tables.without relation.name (db.holds dialect conditions args), if_pos keeps, rfl⟩
  probes _ _ _ _ _ _ _ tables := ⟨_, tables, rfl, rfl, .refl _⟩
  understands _ _ suit := db.understoodBy_of_suit dialect suit

namespace Keyring

/-- A key with an identity and a subkey. -/
def boundTables : Tables :=
  Function.update (Function.update (Function.update (fun _ => [])
    "keys" [.ofList [("id", .text "A")], .ofList [("id", .text "B")]])
    "keys_identities" [.ofList [("key", .text "A"), ("id", .text "alice")]])
    "keys_signatures" [.ofList [("key", .text "B"), ("id", .text "s"), ("issuer", .text "A"),
      ("sigtype", .int SignatureType.subkeyBinding.code)]]

theorem bound_orderly : Orderly id (Session.start boundTables) where
  rests := Session.start_rests boundTables
  typed := by decide +kernel
  consistent := by decide +kernel

/-- The subkey can be removed once it is not bound, and the key not before its identity. -/
theorem removals_keep_references_bound :
    (Conditions.strictEngine.guarded .sqlite).Serves id (Conditions.strictEngine.holds .sqlite) ∧
    Orderly id (Session.start boundTables) ∧
    ((removeEach ⟨.sqlite, "main"⟩
      (Session.handle (Conditions.strictEngine.guarded .sqlite) fun _ _ => .ok .empty)
      (.start boundTables)
      [(.keys, "B"), (.subkeySignatures "A" "B", "s"), (.subkeys "A", "B")]).database
        Relation.keys.name).length = 1 ∧
    ∃ message, ((remove ⟨.sqlite, "main"⟩ .keys "A").run
      (Session.handle (Conditions.strictEngine.guarded .sqlite) fun _ _ => .ok .empty)
      (removeEach ⟨.sqlite, "main"⟩
        (Session.handle (Conditions.strictEngine.guarded .sqlite) fun _ _ => .ok .empty)
        (.start boundTables)
        [(.keys, "B"), (.subkeySignatures "A" "B", "s"), (.subkeys "A", "B")])).1
      = .error (.dependencyExists message) := by
  have serves := Conditions.strictEngine.guarded_serves .sqlite
  have kept := removals_keep_references "main" serves (fun _ _ => .ok .empty) bound_orderly
    [(.keys, "B"), (.subkeySignatures "A" "B", "s"), (.subkeys "A", "B")]
  refine ⟨serves, bound_orderly, by decide +kernel, (kept.2 .keys "A").refused_iff.2 (Or.inl ?_)⟩
  decide +kernel

end Keyring

end KeyStore
