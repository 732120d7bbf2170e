import KeyStore.Proofs.Entries.Requests
import KeyStore.Proofs.Session.Transact

/-!
# Transactional databases

A database with ordinary transactions: BEGIN keeps the content as it is, ROLLBACK restores what was
kept, COMMIT gives it up, and a statement that is refused has no effect. What statements do to the
content, which rows are read, and which statements are refused is left open.

`Settled kept`: if everything that was not committed were taken back, the content would be `kept`.
Requests that do not end the transaction keep this, as long as rows are changed inside a transaction
only.
-/

namespace KeyStore

open Transaction

/-- What a store does with its content. Statements are numbered in the order in which they are
put. -/
structure Engine (γ : Type) where
  dialect : Sql.Dialect
  /-- Refuses a statement, with an error. -/
  refuses : Nat → Query → Option StoreError
  /-- Changes rows and counts them. -/
  write : Nat → Query → γ → UInt64 × γ
  fetch : Nat → Query → RowShape → γ → List Record
  stream : Nat → Query → RowShape → γ → Rows

/-- The state of a storage with transactions. -/
structure Storage (γ : Type) where
  content : γ
  /-- The content when the transaction was opened that is open. -/
  saved : Option γ
  /-- How many statements were put. -/
  count : Nat
  /-- The statements that were refused. -/
  refused : List Query

namespace Storage

variable {γ : Type}

/-- A storage without a transaction that was not asked anything. -/
def start (content : γ) : Storage γ := ⟨content, none, 0, []⟩

/-- What a rollback would leave. -/
def committed (storage : Storage γ) : γ := storage.saved.getD storage.content

/-- The database after a statement that has left it as it was. -/
def counted (storage : Storage γ) : Storage γ := { storage with count := storage.count + 1 }

/-- The database after a statement that it refused. -/
def refuse (storage : Storage γ) (query : Query) : Storage γ :=
  { storage.counted with refused := storage.refused ++ [query] }

/-- Runs a transaction command. A BEGIN in an open transaction does not open another one. -/
def control (storage : Storage γ) : Command → Storage γ
  | .begin => { storage with saved := some storage.committed }
  | .commit => { storage with saved := none }
  | .rollback => { storage with content := storage.committed, saved := none }

/-- Runs a statement. -/
def execute (storage : Storage γ) (engine : Engine γ) (query : Query) :
    Except StoreError UInt64 × Storage γ :=
  match engine.refuses storage.count query with
  | some error => (.error error, storage.refuse query)
  | none =>
    match query.statement with
    | .control command => (.ok 0, storage.counted.control command)
    | .insert _ _ | .update _ _ _ | .delete _ _ =>
      let (affected, content) := engine.write storage.count query storage.content
      (.ok affected, { storage.counted with content })
    | _ => (.ok 0, storage.counted)

/-- Puts a question, which leaves everything as it is. -/
def read {α : Type} (storage : Storage γ) (engine : Engine γ) (query : Query)
    (answer : Nat → γ → α) : Except StoreError α × Storage γ :=
  match engine.refuses storage.count query with
  | some error => (.error error, storage.refuse query)
  | none => (.ok (answer storage.count storage.content), storage.counted)

/-- The transaction has not moved, and nothing that was refused is forgotten. -/
structure Leaves (storage later : Storage γ) : Prop where
  saved : later.saved = storage.saved
  refused : ∀ query ∈ storage.refused, query ∈ later.refused

theorem leaves_self (storage : Storage γ) : Leaves storage storage := ⟨rfl, fun _ member => member⟩

theorem leaves_refuse (storage : Storage γ) (query : Query) :
    Leaves storage (storage.refuse query) :=
  ⟨rfl, fun _ member => List.mem_append_left _ member⟩

/-- A statement that is no transaction command leaves the transaction, and changes the content only
if it is one that changes rows. -/
theorem execute_leaves (engine : Engine γ) {query : Query}
    (stays : query.statement.controls = false) (storage : Storage γ) :
    Leaves storage (storage.execute engine query).2 ∧
      (query.statement.changesRows = false →
        (storage.execute engine query).2.content = storage.content) := by
  unfold execute
  split
  · exact ⟨storage.leaves_refuse query, fun _ => rfl⟩
  · cases statement : query.statement with
    | control command =>
      rw [statement] at stays
      cases stays
    | insert relation row => exact ⟨⟨rfl, fun _ member => member⟩, nofun⟩
    | update relation assignments conditions => exact ⟨⟨rfl, fun _ member => member⟩, nofun⟩
    | delete relation conditions => exact ⟨⟨rfl, fun _ member => member⟩, nofun⟩
    | _ => exact ⟨⟨rfl, fun _ member => member⟩, fun _ => rfl⟩

theorem read_leaves {α : Type} (engine : Engine γ) (query : Query) (answer : Nat → γ → α)
    (storage : Storage γ) :
    Leaves storage (storage.read engine query answer).2 ∧
      (storage.read engine query answer).2.content = storage.content := by
  unfold read
  split
  · exact ⟨storage.leaves_refuse query, rfl⟩
  · exact ⟨⟨rfl, fun _ member => member⟩, rfl⟩

end Storage

/-- The database of an engine. -/
def Engine.backend {γ : Type} (engine : Engine γ) : Backend (Storage γ) where
  dialect := engine.dialect
  execute query storage := storage.execute engine query
  fetch query shape storage :=
    storage.read engine query fun number => engine.fetch number query shape
  stream query shape storage :=
    storage.read engine query fun number => engine.stream number query shape

namespace Session

variable {γ : Type} {session : Session (Storage γ)}

/-- The statement ends a transaction. -/
def Ends (query : Query) : Prop :=
  query.statement = .control .commit ∨ query.statement = .control .rollback

/-- The session counts as idle while the transaction of the database is still open. -/
def Stranded (session : Session (Storage γ)) : Prop :=
  session.transaction = .idle ∧ session.database.saved.isSome = true

/-- What is kept between the requests of calls. -/
structure Settled (kept : γ) (session : Session (Storage γ)) : Prop where
  rests : Rests session
  /-- A session that counts as open is open. -/
  opened : session.transaction = .inside → session.database.saved.isSome = true
  committed : session.database.committed = kept
  /-- The database can only be left behind by a statement that it has refused. -/
  stranded : Stranded session → ∃ query ∈ session.database.refused, Ends query

/-! ### Requests that leave the transaction as it is -/

theorem Settled.leave {kept : γ} (settled : Settled kept session) {later : Session (Storage γ)}
    (coordinator : later.coordinator = session.coordinator)
    (leaves : session.database.Leaves later.database)
    (committed : later.database.committed = kept) :
    Settled kept later := by
  have same : later.transaction = session.transaction := by
    rw [transaction, coordinator, transaction]
  refine ⟨settled.rests.congr coordinator, fun inside => ?_, committed, fun left => ?_⟩
  · rw [leaves.saved]
    exact settled.opened (same ▸ inside)
  · obtain ⟨query, member, ends⟩ := settled.stranded ⟨same ▸ left.1, leaves.saved ▸ left.2⟩
    exact ⟨query, leaves.refused query member, ends⟩

/-- A request that does not concern the transaction leaves it, and changes the content only if it
changes rows. -/
theorem handle_leaves (engine : Engine γ) (codec : Codec) {request : StoreRequest}
    (stays : request.Stays) (session : Session (Storage γ)) :
    (handle engine.backend codec request session).2.coordinator = session.coordinator ∧
    session.database.Leaves (handle engine.backend codec request session).2.database ∧
    (¬ request.Writes → (handle engine.backend codec request session).2.database.content
      = session.database.content) := by
  cases request with
  | execute query =>
    obtain ⟨leaves, same⟩ := session.database.execute_leaves engine stays
    exact ⟨rfl, leaves, fun spares => same (Bool.eq_false_iff.2 spares)⟩
  | fetch query shape =>
    obtain ⟨leaves, same⟩ := session.database.read_leaves engine query
      fun number => engine.fetch number query shape
    exact ⟨rfl, leaves, fun _ => same⟩
  | stream query shape =>
    obtain ⟨leaves, same⟩ := session.database.read_leaves engine query
      fun number => engine.stream number query shape
    obtain ⟨coordinator, database⟩ := session.stream_effects engine.backend query shape
    refine ⟨coordinator, ?_, fun _ => ?_⟩
    · rw [handle, database]
      exact leaves
    · rw [handle, database]
      exact same
  | take number => exact ⟨rfl, session.database.leaves_self, fun _ => rfl⟩
  | decode kind packet => exact ⟨rfl, session.database.leaves_self, fun _ => rfl⟩
  | transact command => exact stays.elim

theorem Settled.spare {kept : γ} (engine : Engine γ) (codec : Codec) {request : StoreRequest}
    (spares : request.Spares) {session : Session (Storage γ)} (settled : Settled kept session) :
    Settled kept (handle engine.backend codec request session).2 := by
  obtain ⟨coordinator, leaves, content⟩ := handle_leaves engine codec spares.1 session
  refine settled.leave coordinator leaves ?_
  rw [Storage.committed, leaves.saved, content spares.2]
  exact settled.committed

/-- Inside a transaction rows may change. -/
theorem Settled.stay {kept : γ} (engine : Engine γ) (codec : Codec) {request : StoreRequest}
    (stays : request.Stays) {session : Session (Storage γ)}
    (settled : Settled kept session ∧ session.database.saved.isSome = true) :
    Settled kept (handle engine.backend codec request session).2 ∧
      (handle engine.backend codec request session).2.database.saved.isSome = true := by
  obtain ⟨settled, inside⟩ := settled
  obtain ⟨coordinator, leaves, _⟩ := handle_leaves engine codec stays session
  obtain ⟨saved, open_with⟩ := Option.isSome_iff_exists.1 inside
  refine ⟨settled.leave coordinator leaves ?_, by rw [leaves.saved]; exact inside⟩
  rw [← settled.committed, Storage.committed, leaves.saved, Storage.committed, open_with]
  rfl

/-! ### Transaction requests -/

theorem idle_of_not_inside (rests : Rests session) (outside : session.transaction ≠ .inside) :
    session.transaction = .idle := by
  cases state : session.transaction with
  | idle => rfl
  | transitioning => exact absurd state rests.still
  | inside => exact absurd state outside

/-- What the coordinator has seen only does not matter to the database. -/
theorem Settled.withCoordinator {kept : γ} (settled : Settled kept session)
    {coordinator : Coordinator} (rests : Rests { session with coordinator })
    (same : coordinator.state = session.transaction) :
    Settled kept { session with coordinator } :=
  ⟨rests, fun inside => settled.opened (same ▸ inside), settled.committed,
    fun left => settled.stranded ⟨same ▸ left.1, left.2⟩⟩

/-- After a BEGIN that has succeeded a transaction is open. -/
theorem Settled.begin {kept : γ} (engine : Engine γ) (settled : Settled kept session) :
    Settled kept (session.transact engine.backend .begin).2 ∧
      ((session.transact engine.backend .begin).1 = .ok () →
        (session.transact engine.backend .begin).2.database.saved.isSome = true) := by
  cases satisfied : Command.begin.isSatisfiedIn session.transaction with
  | true =>
    obtain ⟨coordinator, transacted, rests, same⟩ :=
      transact_of_satisfied engine.backend settled.rests satisfied
    rw [transacted]
    exact ⟨settled.withCoordinator rests same,
      fun _ => settled.opened (of_decide_eq_true satisfied)⟩
  | false =>
    have idle := idle_of_not_inside settled.rests (of_decide_eq_false satisfied)
    obtain ⟨coordinator, journal, transacted, sound, state⟩ :=
      transact_of_needed engine.backend settled.rests satisfied
    rw [transacted]
    simp only [Engine.backend, Storage.execute] at state ⊢
    cases refuses : engine.refuses session.database.count ⟨.control .begin, []⟩ with
    | some error =>
      simp only [refuses] at state ⊢
      refine ⟨⟨⟨sound, ?_⟩, fun inside => ?_, settled.committed, fun left => ?_⟩,
        fun done => by cases done⟩
      · simp [transaction, state]
      · rw [transaction, state] at inside
        cases inside
      · obtain ⟨query, member, ends⟩ := settled.stranded ⟨idle, left.2⟩
        exact ⟨query, List.mem_append_left _ member, ends⟩
    | none =>
      simp only [refuses] at state ⊢
      refine ⟨⟨⟨sound, ?_⟩, fun _ => rfl, settled.committed, fun left => ?_⟩, fun _ => rfl⟩
      · simp [transaction, state, Command.target]
      · have idle := left.1
        rw [transaction, state] at idle
        cases idle

/-- With no transaction open, all is committed. -/
theorem Settled.of_closed (rests : Rests session) (idle : session.transaction = .idle)
    (closed : session.database.saved = none) : Settled session.database.content session := by
  refine ⟨rests, fun inside => ?_, by rw [Storage.committed, closed]; rfl, fun left => ?_⟩
  · rw [idle] at inside
    cases inside
  · have still := left.2
    rw [closed] at still
    cases still

/-- A COMMIT or ROLLBACK finds the session idle and puts nothing, or is refused, or closes the
transaction. -/
theorem Settled.end_cases {kept : γ} (engine : Engine γ) (settled : Settled kept session)
    {command : Command} (ends : command ≠ .begin) :
    (session.transaction = .idle ∧ (session.transact engine.backend command).1 = .ok () ∧
      (session.transact engine.backend command).2.database = session.database ∧
      Settled kept (session.transact engine.backend command).2) ∨
    (∃ error, (session.transact engine.backend command).1 = .error error ∧
      Settled kept (session.transact engine.backend command).2) ∨
    (session.transaction = .inside ∧ (session.transact engine.backend command).1 = .ok () ∧
      (session.transact engine.backend command).2.database
        = session.database.counted.control command ∧
      Rests (session.transact engine.backend command).2 ∧
      (session.transact engine.backend command).2.transaction = .idle) := by
  have target : command.target = .idle := by cases command <;> first | rfl | exact absurd rfl ends
  cases satisfied : command.isSatisfiedIn session.transaction with
  | true =>
    obtain ⟨coordinator, transacted, rests, same⟩ :=
      transact_of_satisfied engine.backend settled.rests satisfied
    have idle : session.transaction = .idle := target ▸ of_decide_eq_true satisfied
    rw [transacted]
    exact Or.inl ⟨idle, rfl, rfl, settled.withCoordinator rests same⟩
  | false =>
    have inside : session.transaction = .inside := by
      by_contra outside
      exact of_decide_eq_false satisfied
        ((idle_of_not_inside settled.rests outside).trans target.symm)
    obtain ⟨coordinator, journal, transacted, sound, state⟩ :=
      transact_of_needed engine.backend settled.rests satisfied
    rw [transacted]
    simp only [Engine.backend, Storage.execute] at state ⊢
    have ending : Ends ⟨.control command, []⟩ := by
      cases command with
      | begin => exact absurd rfl ends
      | commit => exact Or.inl rfl
      | rollback => exact Or.inr rfl
    cases refuses : engine.refuses session.database.count ⟨.control command, []⟩ with
    | some error =>
      simp only [refuses] at state ⊢
      refine Or.inr (Or.inl ⟨error, rfl, ⟨sound, ?_⟩, fun still => ?_, settled.committed,
        fun _ => ⟨_, List.mem_append_right _ (List.mem_singleton_self _), ending⟩⟩)
      · simp [transaction, state]
      · rw [transaction, state] at still
        cases still
    | none =>
      simp only [refuses, target] at state ⊢
      refine Or.inr (Or.inr ⟨inside, rfl, trivial, ⟨sound, ?_⟩, state⟩)
      simp [transaction, state]

/-! ### Calls -/

/-- A call that opens a transaction for its writes takes nothing back that was committed, and
commits nothing. -/
theorem Settled.run_opens {α : Type} {kept : γ} (engine : Engine γ) (codec : Codec)
    {action : Action Store α} (opens : action.Opens) (settled : Settled kept session) :
    Settled kept (action.run (handle engine.backend codec) session).2 := by
  induction action generalizing session with
  | done result => exact settled
  | fail error => exact settled
  | ask request next ih =>
    rcases opens.ask_cases with ⟨reads, others⟩ | rfl
    · exact ih _ (others _) (settled.spare engine codec reads.spares)
    · obtain ⟨begun, inside⟩ := settled.begin engine
      change Settled kept ((next (session.transact engine.backend .begin).1).run
        (handle engine.backend codec) (session.transact engine.backend .begin).2).2
      cases outcome : (session.transact engine.backend .begin).1 with
      | ok done =>
        have kept_inside := opens.1.run_keeps
          (fun later => Settled kept later ∧ later.database.saved.isSome = true)
          (fun _ stays _ => Settled.stay engine codec stays) ⟨begun, inside outcome⟩
        exact kept_inside.1
      | error error =>
        exact (opens.2 error).run_keeps (Settled kept)
          (fun _ reads _ => Settled.spare engine codec (StoreRequest.Reads.spares reads)) begun

end Session

end KeyStore
