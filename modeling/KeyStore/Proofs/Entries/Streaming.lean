import KeyStore.Proofs.Entries.Exact

/-!
# Reads of a database that streams in an order of its own

A read puts one query. From then on it asks nothing of the database, and what it gives is decided by
the rows that were streamed (`Session.Opens`). Whatever consumes it ends with these items and leaves
what a reader sees as it was (`Opens.run_toList`, `run_first`, `run_isNonempty`, `run_fold`,
`OpensBy.run_flatMap`).

Main statements: `select_opens`, of any rows; `select_shows`, of stored rows, which come as their
whole records; `columns_open`, where columns are all that is wanted. `select_streams` and
`columns_stream` also say which rows the database has streamed to the query, and in which order.
-/

namespace KeyStore

open Sql

variable {σ τ α β : Type}

/-- A SELECT on the relation streams the rows that satisfy its conditions, in an order of the
database, and changes nothing that a reader sees. One that is limited streams the first of them. -/
def Backend.Streams (backend : Backend σ) (seen : σ → Tables) (holds : Test)
    (relation : Relation) (limited : Bool) : Prop :=
  ∀ columns conditions args shape state, ∃ (rows : List Record) (later : σ),
    backend.stream ⟨.select (.columns columns) relation.name conditions
        (if limited then some "LIMIT 1" else none), args⟩ shape state
      = (.ok ((if limited then rows.take 1 else rows).map .ok), later) ∧
    seen later = seen state ∧
    rows.Perm (((seen state relation.name).filter (holds conditions args)).map
      (·.project columns))

/-- The request asks for columns of the rows that satisfy conditions, and to it the database streams
these rows in this order. -/
def Backend.StreamsTo (backend : Backend σ) (relation : Relation) (conditions : Conditions)
    (columns : List String) (suffix : Option String) (request : StoreRequest) (state : σ)
    (rows : List Record) : Prop :=
  ∃ query later,
    Query.select backend.dialect relation (.columns columns) conditions suffix = .ok query ∧
    request = .stream query (relation.shape columns) ∧
    backend.stream query (relation.shape columns) state = (.ok (rows.map .ok), later)

namespace Session

/-- The sequence puts the request, which changes nothing that is seen, and gives the items without
asking the database again. -/
def OpensBy (backend : Backend σ) (codec : Codec) (seen : σ → τ) (session : Session σ)
    (request : StoreRequest) (source : Sequence Store α) (items : List α) : Prop :=
  ∃ next : StoreReply request → Sequence Store α,
    source = .ask (I := Store) request next ∧
    seen (handle backend codec request session).2.database = seen session.database ∧
    Sequence.Gives (handle backend codec) (next (handle backend codec request session).1) items ∧
    (next (handle backend codec request session).1).Only StoreRequest.Detached

/-- The sequence puts one request, which changes nothing that is seen, and gives the items without
asking the database again. -/
def Opens (backend : Backend σ) (codec : Codec) (seen : σ → τ) (session : Session σ)
    (source : Sequence Store α) (items : List α) : Prop :=
  ∃ request, OpensBy backend codec seen session request source items

namespace Opens

variable {backend : Backend σ} {codec : Codec} {seen : σ → τ} {session : Session σ}
  {source : Sequence Store α} {items : List α}

theorem map {f : α → Action Store β} {images : List β}
    (opens : Opens backend codec seen session source items)
    (each : List.Forall₂ (fun item image => Action.Gives (handle backend codec) (f item) image)
      items images)
    (detached : ∀ item, (f item).Only StoreRequest.Detached) :
    Opens backend codec seen session (source.map f) images := by
  obtain ⟨request, next, rfl, same, given, only⟩ := opens
  exact ⟨request, fun reply => (next reply).map f, rfl, same, given.map each, only.map detached⟩

/-- Requests that do not reach the database keep what is seen. -/
theorem keeps {action : Action Store β} (only : action.Only StoreRequest.Detached)
    (session : Session σ) :
    seen (action.run (handle backend codec) session).2.database = seen session.database :=
  only.run_keeps (fun later : Session σ => seen later.database = seen session.database)
    (fun _ detached state held =>
      (congrArg seen (handle_detached backend codec detached state)).trans held) rfl

theorem run_first (opens : Opens backend codec seen session source items) :
    ∃ later, source.first.run (handle backend codec) session = (.ok items.head?, later) ∧
      seen later.database = seen session.database := by
  obtain ⟨request, next, rfl, same, given, only⟩ := opens
  exact ⟨_, Prod.ext (given.first.run_fst _) rfl, (keeps only.first _).trans same⟩

theorem run_isNonempty (opens : Opens backend codec seen session source items) :
    ∃ later, source.isNonempty.run (handle backend codec) session
        = (.ok items.head?.isSome, later) ∧
      seen later.database = seen session.database := by
  obtain ⟨later, ran, same⟩ := opens.run_first
  exact ⟨later, Action.run_bind_of_ok ran, same⟩

theorem run_toList (opens : Opens backend codec seen session source items) :
    ∃ later, source.toList.run (handle backend codec) session = (.ok items, later) ∧
      seen later.database = seen session.database := by
  obtain ⟨request, next, rfl, same, given, only⟩ := opens
  exact ⟨_, Prod.ext (given.toList.run_fst _) rfl, (keeps only.toList _).trans same⟩

/-- A loop over the items keeps what each round keeps. `inv value rest seen` says what is known when
the items of `rest` are still to come. -/
theorem run_fold {f : β → α → Action Store β} (inv : β → List α → τ → Prop)
    (opens : Opens backend codec seen session source items)
    (round : ∀ value item rest state, inv value (item :: rest) (seen state.database) →
      ∃ next later, (f value item).run (handle backend codec) state = (.ok next, later) ∧
        inv next rest (seen later.database))
    {start : β} (holds : inv start items (seen session.database)) :
    ∃ final later, (source.fold f start).run (handle backend codec) session = (.ok final, later) ∧
      inv final [] (seen later.database) := by
  obtain ⟨request, next, rfl, same, given, only⟩ := opens
  refine given.run_fold (fun value rest (state : Session σ) => inv value rest (seen state.database))
    (fun request detached value rest state held => ?_) round only (same ▸ holds)
  rw [handle_detached backend codec detached]
  exact held

end Opens

namespace OpensBy

variable {backend : Backend σ} {codec : Codec} {seen : σ → τ} {session : Session σ}
  {request : StoreRequest} {source : Sequence Store α} {items : List α}

/-- The request is the first one of a loop over the items. -/
theorem asked_fold (opens : OpensBy backend codec seen session request source items)
    (f : β → α → Action Store β) (start : β) :
    (request, session) ∈ (source.fold f start).asked (handle backend codec) session := by
  obtain ⟨next, rfl, _⟩ := opens
  exact List.mem_cons_self

/-- What is collected when each item gives a group. The request comes first; what is said of an item
and its group may tell of the requests that are put for it. -/
theorem run_flatMap {f : α → Action Store (List β)}
    (group : List (StoreRequest × Session σ) → α → List β → Prop)
    (opens : OpensBy backend codec seen session request source items)
    (each : ∀ item ∈ items, ∀ state : Session σ, seen state.database = seen session.database →
      ∃ images later, (f item).run (handle backend codec) state = (.ok images, later) ∧
        seen later.database = seen session.database ∧
        ∀ moments, (f item).asked (handle backend codec) state ⊆ moments →
          group moments item images) :
    ∃ groups later,
      (source.flatMap f).toList.run (handle backend codec) session = (.ok groups.flatten, later) ∧
      seen later.database = seen session.database ∧
      ((source.flatMap f).toList.asked (handle backend codec) session).head?
        = some (request, session) ∧
      List.Forall₂ (group ((source.flatMap f).toList.asked (handle backend codec) session))
        items groups := by
  obtain ⟨next, rfl, same, given, only⟩ := opens
  obtain ⟨groups, later, collected, kept, grouped⟩ := given.run_flatMap
    (fun state : Session σ => seen state.database = seen session.database)
    group (fun request detached state held =>
      (congrArg seen (handle_detached backend codec detached state)).trans held) only each same
  exact ⟨groups, later, collected, kept, rfl,
    grouped _ fun moment member => List.mem_cons_of_mem _ member⟩

end OpensBy

end Session

/-- What is kept of a row is as it was. -/
theorem Record.value_project {row : Record} {names : List String} {field : String}
    (wanted : field ∈ names) : value (row.project names) field = value row field := by
  rw [value, value, Entries.get?_project, if_pos wanted]

namespace Entries

variable {backend : Backend σ} {codec : Codec} {seen : σ → Tables} {holds : Test}
  {session : Session σ} {relation : Relation} {conditions : Conditions}
  {fields : Option (List String)} {single : Bool}

/-- What is fetched of each row. -/
abbrev fetched (dialect : Dialect) (relation : Relation) (conditions : Conditions)
    (fields : Option (List String)) : FetchPlan :=
  fetchPlan relation fields (filterPlan dialect relation conditions).app

/-- Whether the database is asked for one row. -/
def limits (dialect : Dialect) (relation : Relation) (conditions : Conditions) (single : Bool) :
    Bool :=
  single && (filterPlan dialect relation conditions).app.isEmpty

/-- The rows that the database streams to a read. -/
def streamed (dialect : Dialect) (relation : Relation) (conditions : Conditions) (single : Bool)
    (order : List α) : List α :=
  if limits dialect relation conditions single then order.take 1 else order

theorem map_streamed (f : α → β) (dialect : Dialect) (order : List α) :
    streamed dialect relation conditions single (order.map f)
      = (streamed dialect relation conditions single order).map f := by
  unfold streamed
  split
  · exact List.map_take.symm
  · rfl

/-- The database streams the rows that pass its half of the conditions. -/
theorem exists_reply
    (streams : backend.Streams seen holds relation
      (limits backend.dialect relation conditions single))
    (understood : ∀ row ∈ seen session.database relation.name,
      (filterPlan backend.dialect relation conditions).sql.UnderstoodBy holds backend.dialect row)
    (columns : List String) :
    ∃ (query : Query) (order : List Record) (database : σ),
      Query.select backend.dialect relation (.columns columns)
        (filterPlan backend.dialect relation conditions).sql
        (if limits backend.dialect relation conditions single then some "LIMIT 1" else none)
        = .ok query ∧
      order.Perm ((seen session.database relation.name).filter
        (filterPlan backend.dialect relation conditions).sql.accepts) ∧
      backend.stream query (relation.shape columns) session.database
        = (.ok (((streamed backend.dialect relation conditions single order).map
            (·.project columns)).map .ok), database) ∧
      seen database = seen session.database := by
  obtain ⟨parts, bound, binds⟩ := conditions.bind_split_fst backend.dialect relation.hasColumn
    (.empty backend.dialect)
  obtain ⟨rows, database, replied, same, perm⟩ := streams columns parts
    (Arguments.extend (.empty backend.dialect) bound).values (relation.shape columns)
    session.database
  have tested : (seen session.database relation.name).filter
        (holds parts (Arguments.extend (.empty backend.dialect) bound).values)
      = (seen session.database relation.name).filter
        (filterPlan backend.dialect relation conditions).sql.accepts :=
    List.filter_congr fun row member => understood row member [] parts _ binds
  rw [tested] at perm
  obtain ⟨order, rfl, ordered⟩ := exists_of_perm_map perm
  have made (suffix : Option String) : Query.select backend.dialect relation (.columns columns)
        (filterPlan backend.dialect relation conditions).sql suffix
      = .ok ⟨.select (.columns columns) relation.name parts suffix,
        (Arguments.extend (.empty backend.dialect) bound).values⟩ := by
    rw [Query.select, Query.onRows, filterPlan, binds]
  refine ⟨_, order, database, made _, ordered, ?_, same⟩
  rw [← map_streamed]
  exact replied

theorem select_eq {query : Query}
    (made : Query.select backend.dialect relation
      (.columns (fetched backend.dialect relation conditions fields).columns)
      (filterPlan backend.dialect relation conditions).sql
      (if limits backend.dialect relation conditions single then some "LIMIT 1" else none)
      = .ok query) :
    select backend.dialect relation conditions fields single
      = ofRows relation fields (fetched backend.dialect relation conditions fields)
          (filterPlan backend.dialect relation conditions).app (Store.rows query
            (relation.shape (fetched backend.dialect relation conditions fields).columns)) := by
  rw [limits] at made
  simp only [select, made]

/-- The rows that are streamed to a read, in their order, are put together from the request on. -/
theorem select_streams (codec : Codec)
    (streams : backend.Streams seen holds relation
      (limits backend.dialect relation conditions single))
    (understood : ∀ row ∈ seen session.database relation.name,
      (filterPlan backend.dialect relation conditions).sql.UnderstoodBy holds backend.dialect row)
    (fields : Option (List String)) :
    ∃ (order : List Record) (request : StoreRequest),
      order.Perm ((seen session.database relation.name).filter
        (filterPlan backend.dialect relation conditions).sql.accepts) ∧
      backend.StreamsTo relation (filterPlan backend.dialect relation conditions).sql
        (fetched backend.dialect relation conditions fields).columns
        (if limits backend.dialect relation conditions single then some "LIMIT 1" else none)
        request session.database
        ((streamed backend.dialect relation conditions single order).map
          (·.project (fetched backend.dialect relation conditions fields).columns)) ∧
      ∀ parts,
        List.Forall₂ (Makes (Session.handle backend codec) relation
            (fetched backend.dialect relation conditions fields))
          ((streamed backend.dialect relation conditions single order).map
            (·.project (fetched backend.dialect relation conditions fields).columns)) parts →
        Session.OpensBy backend codec seen session request
          (select backend.dialect relation conditions fields single)
          (cutTo fields
            (parts.filter (filterPlan backend.dialect relation conditions).app.accepts)) := by
  obtain ⟨query, order, database, made, ordered, replied, same⟩ := exists_reply streams understood
    (fetched backend.dialect relation conditions fields).columns
  refine ⟨order, _, ordered, ⟨query, database, made, rfl, replied⟩, fun parts each =>
    ⟨_, (select_eq made).trans (ofRows_ask _ _ _), ?_⟩⟩
  simp only [Session.handle, Session.stream_of_ok replied]
  exact ⟨same, ofRows_gives (.ofItems (fun _ => .ask fun _ => .done ()) _) each,
    ofRows_only (fun _ _ => trivial) _ _ _ _
      (Sequence.only_ofItems (fun _ => Store.take_only trivial) _)⟩

/-- A read gives what is made of the rows that are streamed to it. -/
theorem select_opens (codec : Codec)
    (streams : backend.Streams seen holds relation
      (limits backend.dialect relation conditions single))
    (understood : ∀ row ∈ seen session.database relation.name,
      (filterPlan backend.dialect relation conditions).sql.UnderstoodBy holds backend.dialect row)
    (fields : Option (List String)) :
    ∃ order : List Record,
      order.Perm ((seen session.database relation.name).filter
        (filterPlan backend.dialect relation conditions).sql.accepts) ∧
      ∀ parts,
        List.Forall₂ (Makes (Session.handle backend codec) relation
            (fetched backend.dialect relation conditions fields))
          ((streamed backend.dialect relation conditions single order).map
            (·.project (fetched backend.dialect relation conditions fields).columns)) parts →
        Session.Opens backend codec seen session
          (select backend.dialect relation conditions fields single)
          (cutTo fields
            (parts.filter (filterPlan backend.dialect relation conditions).app.accepts)) := by
  obtain ⟨order, request, ordered, _, opens⟩ := select_streams codec streams understood fields
  exact ⟨order, ordered, fun parts each => ⟨request, opens parts each⟩⟩

/-! ### Columns -/

theorem limits_of_plan {dialect : Dialect}
    (plan : filterPlan dialect relation conditions = ⟨conditions, .empty⟩) (single : Bool) :
    limits dialect relation conditions single = single := by
  rw [limits, plan]
  exact Bool.and_true single

section

variable {names : List String}

/-- Where columns are wanted and the database tests all conditions, no packet is read. -/
theorem fetched_undecoded {dialect : Dialect}
    (plan : filterPlan dialect relation conditions = ⟨conditions, .empty⟩)
    (columns : ∀ name ∈ names, relation.hasColumn name = true) :
    (fetched dialect relation conditions (some names)).decode = false := by
  have unwanted : names.any (fun field => !relation.hasColumn field) = false :=
    List.any_eq_false.2 fun name member => by simp [columns name member]
  rw [fetched, plan]
  simp only [fetchPlan, wantsPacket, unwanted]
  rfl

/-- The columns that are wanted are among those that are fetched. -/
theorem project_fetched (dialect : Dialect)
    (columns : ∀ name ∈ names, relation.hasColumn name = true) (row : Record) :
    (row.project (fetched dialect relation conditions (some names)).columns).project names
      = row.project names := by
  refine FieldMap.ext_get? fun field => ?_
  rw [get?_project, get?_project, get?_project]
  split
  · next wanted =>
    exact if_pos (mem_columns_of_wanted field
      (Or.inl fun _ same => Option.some.inj same ▸ wanted) (columns field wanted))
  · rfl

end

/-- Where columns are wanted and the database tests all conditions, every row that is streamed is cut
to the columns. -/
theorem columns_stream (codec : Codec) (streams : backend.Streams seen holds relation single)
    (plan : filterPlan backend.dialect relation conditions = ⟨conditions, .empty⟩)
    (understood : ∀ row ∈ seen session.database relation.name,
      conditions.UnderstoodBy holds backend.dialect row)
    (names : List String) (columns : ∀ name ∈ names, relation.hasColumn name = true) :
    ∃ (order : List Record) (request : StoreRequest),
      order.Perm ((seen session.database relation.name).filter conditions.accepts) ∧
      backend.StreamsTo relation conditions (fetchPlan relation (some names) .empty).columns
        (if single then some "LIMIT 1" else none) request session.database
        ((if single then order.take 1 else order).map
          (·.project (fetchPlan relation (some names) .empty).columns)) ∧
      Session.OpensBy backend codec seen session request
        (select backend.dialect relation conditions (some names) single)
        ((if single then order.take 1 else order).map (·.project names)) := by
  have asked : ∀ row ∈ seen session.database relation.name,
      (filterPlan backend.dialect relation conditions).sql.UnderstoodBy holds backend.dialect
        row := by
    rw [plan]
    exact understood
  obtain ⟨order, request, ordered, streamed_to, opens⟩ := select_streams codec
    ((limits_of_plan plan single).symm ▸ streams) asked (some names)
  have given := opens _ (List.forall₂_same.2 fun row _ => by
    rw [Makes, fetched_undecoded plan columns]
    exact rfl)
  rw [streamed, limits_of_plan plan] at given streamed_to
  rw [plan] at ordered given streamed_to
  rw [filter_accepts_of_isEmpty rfl, cutTo, List.map_map] at given
  refine ⟨order, request, ordered, ?_, ?_⟩
  · rw [fetched, plan] at streamed_to
    exact streamed_to
  · convert given using 3
    exact (project_fetched _ columns _).symm

/-- Where columns are wanted and the database tests all conditions, every row is cut to the
columns. -/
theorem columns_open (codec : Codec) (streams : backend.Streams seen holds relation single)
    (plan : filterPlan backend.dialect relation conditions = ⟨conditions, .empty⟩)
    (understood : ∀ row ∈ seen session.database relation.name,
      conditions.UnderstoodBy holds backend.dialect row)
    (names : List String) (columns : ∀ name ∈ names, relation.hasColumn name = true) :
    ∃ order : List Record,
      order.Perm ((seen session.database relation.name).filter conditions.accepts) ∧
      Session.Opens backend codec seen session
        (select backend.dialect relation conditions (some names) single)
        ((if single then order.take 1 else order).map (·.project names)) := by
  obtain ⟨order, request, ordered, _, opens⟩ :=
    columns_stream codec streams plan understood names columns
  exact ⟨order, ordered, request, opens⟩

/-! ### Whole records -/

/-- What a reader is shown of a stored row: its whole record, cut to the fields. -/
def Plain.Shows (codec : Codec) (relation : Relation) (fields : Option (List String))
    (row : StoredRow relation) (shown : Record) : Prop :=
  ∃ whole, Plain.record codec relation row = .ok whole ∧
    shown = match fields with
      | some names => whole.project names
      | none => whole

theorem shows_cutTo {rows : List (StoredRow relation)} {wholes : List Record}
    (each : List.Forall₂ (fun row whole => Plain.record codec relation row = .ok whole)
      rows wholes) :
    List.Forall₂ (Plain.Shows codec relation fields) rows (cutTo fields wholes) := by
  cases fields with
  | none => exact each.imp fun row whole recorded => ⟨whole, recorded, rfl⟩
  | some names =>
    rw [cutTo, List.forall₂_map_right_iff]
    exact each.imp fun row whole recorded => ⟨whole, recorded, rfl⟩

/-- Of the rows that pass the half of the database, the process keeps those whose whole record
satisfies all conditions. -/
theorem filter_selects {dialect : Dialect} (free : relation.BinaryFree)
    {order : List (StoredRow relation)} {wholes : List Record}
    (each : List.Forall₂ (fun row whole => Plain.record codec relation row = .ok whole)
      order wholes)
    (passed : ∀ row ∈ order,
      (filterPlan dialect relation conditions).sql.accepts row.cells = true) :
    List.Forall₂ (fun row whole => Plain.record codec relation row = .ok whole)
      (order.filter (Plain.selects codec relation conditions))
      (wholes.filter (filterPlan dialect relation conditions).app.accepts) := by
  induction each with
  | nil => exact .nil
  | @cons row whole order wholes recorded _ ih =>
    have rest := ih fun other member => passed other (List.mem_cons_of_mem _ member)
    have selected : Plain.selects codec relation conditions row
        = (filterPlan dialect relation conditions).app.accepts whole := by
      rw [selects_eq free dialect recorded, passed row List.mem_cons_self, Bool.true_and]
    rw [List.filter_cons, List.filter_cons, selected]
    split
    · exact .cons recorded rest
    · exact rest

/-- A read of stored rows gives those whose whole record satisfies the conditions, each once, in an
order of the database. If one is wanted, it is the first of them. -/
theorem select_shows
    (streams : backend.Streams seen holds relation
      (limits backend.dialect relation conditions single))
    (free : relation.BinaryFree) {rows : List (StoredRow relation)}
    (content : seen session.database relation.name = rows.map (·.cells))
    (reads : ∀ row ∈ rows, ∀ packet, packet? relation row.cells = some packet →
      ∃ decoded, codec relation.kind packet = .ok decoded)
    (understood : ∀ row ∈ rows,
      (filterPlan backend.dialect relation conditions).sql.UnderstoodBy holds backend.dialect
        row.cells)
    (fields : Option (List String)) :
    ∃ (order : List (StoredRow relation)) (records items : List Record),
      order.Perm (rows.filter (Plain.selects codec relation conditions)) ∧
      List.Forall₂ (Plain.Shows codec relation fields) order records ∧
      Session.Opens backend codec seen session
        (select backend.dialect relation conditions fields single) items ∧
      (single = false → items = records) ∧ items.head? = records.head? := by
  have asked : ∀ row ∈ seen session.database relation.name,
      (filterPlan backend.dialect relation conditions).sql.UnderstoodBy holds backend.dialect
        row := by
    rw [content]
    exact List.forall_mem_map.2 understood
  obtain ⟨cells, ordered, opens⟩ := select_opens codec streams asked fields
  rw [content, List.filter_map] at ordered
  obtain ⟨order, rfl, perm⟩ := exists_of_perm_map ordered
  have passed : ∀ row ∈ order, row ∈ rows ∧
      (filterPlan backend.dialect relation conditions).sql.accepts row.cells = true :=
    fun row member => List.mem_filter.1 (perm.mem_iff.1 member)
  obtain ⟨wholes, each, _⟩ := exists_records free order fun row member =>
    reads row (passed row member).1
  have fetched_each : List.Forall₂ (fun row whole => Plain.record codec relation row = .ok whole)
      (streamed backend.dialect relation conditions single order)
      (streamed backend.dialect relation conditions single wholes) := by
    unfold streamed
    split
    · exact List.forall₂_take 1 each
    · exact each
  obtain ⟨parts, made, agree⟩ := exists_parts backend codec free fields
    (filterPlan backend.dialect relation conditions).app fetched_each
  rw [map_streamed, List.map_map] at opens
  have given := opens parts made
  rw [collect_agreeing agree] at given
  refine ⟨_, cutTo fields
    (wholes.filter (filterPlan backend.dialect relation conditions).app.accepts), _,
    filter_selects_perm codec free perm,
    shows_cutTo (filter_selects free each fun row member => (passed row member).2), given, ?_, ?_⟩
  · rintro rfl
    rfl
  · unfold streamed
    split
    · next limited =>
      have nothing := (Bool.and_eq_true_iff.1 limited).2
      rw [filter_accepts_of_isEmpty nothing, filter_accepts_of_isEmpty nothing]
      cases fields <;> cases wholes <;> rfl
    · rfl

end Entries

end KeyStore
