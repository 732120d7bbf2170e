import KeyStore.Keyring
import KeyStore.Proofs.Entries.Streaming
import KeyStore.Proofs.Keyring.Scopes
import KeyStore.Proofs.Sequence.Stages

/-!
# A database that serves a keyring

What a keyring needs of its database: SELECT streams what a reader sees, in an order of the
database, DELETE removes the rows that satisfy its conditions or is refused, and the conditions of a
statement mean to the database what they mean in process (`Backend.Faithful`). Views are seen like
tables; how they are computed is left open.

Such a database answers whether there is a row (`exist_answers`), and so which entries hang on
another (`firstDependent?_answers`). `Engine.served` is one.
-/

namespace KeyStore

open Sql

variable {σ : Type}

/-- The rows that a reader sees have the types of their columns. -/
def Tables.Fit (tables : Tables) : Prop :=
  ∀ relation ∈ Relation.catalogue, ∀ row ∈ tables relation.name, relation.Fits row

instance (tables : Tables) : Decidable tables.Fit :=
  inferInstanceAs (Decidable (∀ relation ∈ Relation.catalogue, _))

/-- No column of the row is NULL but those that may be. -/
def Relation.Complete (relation : Relation) (row : Record) : Prop :=
  ∀ column ∈ relation.columns, column.name ∉ ["name", "email", "expires", "revoked"] →
    Record.value row column.name ≠ .null

instance (relation : Relation) (row : Record) : Decidable (relation.Complete row) :=
  inferInstanceAs (Decidable (∀ column ∈ relation.columns, _))

/-- A column of texts that is not NULL holds a text. -/
theorem Relation.Fits.exists_text {relation : Relation} {row : Record} (fits : relation.Fits row)
    {field : String} (column : relation.column? field = some ⟨field, .text⟩)
    (known : Record.value row field ≠ .null) : ∃ text, Record.value row field = .text text := by
  rcases fits _ (List.mem_of_find?_eq_some column) with missing | typed
  · exact absurd missing known
  · cases held : Record.value row field with
    | text s => exact ⟨s, rfl⟩
    | _ =>
      rw [held] at typed
      cases typed

/-- A column of texts that may not be NULL holds a text. -/
theorem Relation.Complete.exists_text {relation : Relation} {row : Record}
    (complete : relation.Complete row) (fits : relation.Fits row) {field : String}
    (column : relation.column? field = some ⟨field, .text⟩)
    (required : field ∉ ["name", "email", "expires", "revoked"]) :
    ∃ text, Record.value row field = .text text :=
  fits.exists_text column (complete _ (List.mem_of_find?_eq_some column) required)

/-- The database does what the statements of a keyring say. What else its state holds is left
open. -/
structure Backend.Faithful (backend : Backend σ) (seen : σ → Tables) (holds : Test) : Prop where
  streams : ∀ relation ∈ Relation.catalogue, ∀ limited, backend.Streams seen holds relation limited
  understands : ∀ (conditions : Conditions) (record : Record), conditions.Suit record →
    conditions.UnderstoodBy holds backend.dialect record
  begins : ∀ state, seen (backend.execute ⟨.control .begin, []⟩ state).2 = seen state
  /-- A DELETE is refused, or removes the rows that satisfy its conditions. -/
  deletes : ∀ relation ∈ Relation.catalogue, relation.isWritable = true →
    ∀ conditions args state,
      (∃ error later,
        backend.execute ⟨.delete relation.name conditions, args⟩ state = (.error error, later) ∧
        seen later = seen state) ∨
      ∃ count later,
        backend.execute ⟨.delete relation.name conditions, args⟩ state = (.ok count, later) ∧
        ∀ other ∈ Relation.catalogue, other.isWritable = true → seen later other.name
          = (seen state).without relation.name (holds conditions args) other.name

/-- What an operation of a keyring ends with. -/
abbrev outcome {α : Type} (backend : Backend σ) (codec : Codec) (session : Session σ)
    (action : Action Store α) : Except StoreError α :=
  (action.run (Session.handle backend codec) session).1

variable {backend : Backend σ} {seen : σ → Tables} {holds : Test} {session : Session σ}
  {relation : Relation} {conditions : Conditions}

/-- Conditions that compare columns with constants of their types are understood. -/
theorem Backend.Faithful.understood (faithful : backend.Faithful seen holds)
    (asks : conditions.Asks relation) {rows : List Record}
    (fits : ∀ row ∈ rows, relation.Fits row) :
    ∀ row ∈ rows, conditions.UnderstoodBy holds backend.dialect row :=
  fun row member => faithful.understands conditions row (asks.suit (fits row member))

namespace Entries

/-- Asking whether there is an entry gives the answer of the database, and changes nothing. -/
theorem exist_answers (codec : Codec) (streams : backend.Streams seen holds relation true)
    (understood : ∀ row ∈ seen session.database relation.name,
      conditions.UnderstoodBy holds backend.dialect row)
    (asks : conditions.Asks relation) :
    ∃ later, (exist backend.dialect relation conditions).run (Session.handle backend codec) session
        = (.ok ((seen session.database relation.name).any conditions.accepts), later) ∧
      seen later.database = seen session.database := by
  obtain ⟨order, ordered, opens⟩ := columns_open codec streams
    (Conditions.filterPlan_of_asks asks backend.dialect) understood [] nofun
  obtain ⟨later, ran, same⟩ := opens.run_isNonempty
  have answer : (((if true then order.take 1 else order).map (·.project [])).head?).isSome
      = (seen session.database relation.name).any conditions.accepts := by
    rw [if_pos rfl, Bool.eq_iff_iff, List.any_eq_true, ← List.countP_pos_iff,
      List.countP_eq_length_filter, ← ordered.length_eq]
    cases order <;> simp
  exact ⟨later, by rw [exist, ran, answer], same⟩

end Entries

/-! ### Statements that write -/

/-- What is made of the result at the end leaves the state as it is. -/
theorem Action.run_bind_done_snd {α β : Type} (handle : Handler Store σ) (action : Action Store α)
    (f : α → β) (state : σ) :
    ((action.bind fun result => .done (f result)).run handle state).2
      = (action.run handle state).2 := by
  rw [Action.run_bind]
  rcases action.run handle state with ⟨_ | _, _⟩ <;> rfl

namespace Session

theorem execute_database (query : Query) (session : Session σ) :
    (session.execute backend query).2.database
      = (backend.execute query session.database).2 := rfl

theorem seen_transact_begin (faithful : backend.Faithful seen holds) (session : Session σ) :
    seen (session.transact backend .begin).2.database = seen session.database := by
  simp only [transact]
  split
  · rfl
  · exact faithful.begins session.database
  · rfl

/-- A statement that opens a transaction first is not put if none can be opened. If it is put, what
is seen is as before. -/
theorem run_written (faithful : backend.Faithful seen holds) (codec : Codec) (query : Query)
    (session : Session σ) :
    (∃ error later,
      ((Store.transact .begin).bind fun _ => Store.execute query).run (handle backend codec) session
        = (.error error, later) ∧
      (session.transact backend .begin).1 = .error error ∧
      seen later.database = seen session.database) ∨
    ∃ begun : Session σ, seen begun.database = seen session.database ∧
      ((Store.transact .begin).bind fun _ => Store.execute query).run (handle backend codec) session
        = begun.execute backend query := by
  have same := seen_transact_begin faithful session
  rw [Action.run_bind, run_transact]
  revert same
  rcases session.transact backend .begin with ⟨error | done, begun⟩ <;> intro same
  · exact Or.inl ⟨error, begun, rfl, rfl, same⟩
  · exact Or.inr ⟨begun, same, run_execute backend codec query begun⟩

end Session

namespace Keyring

variable (schema : String)

/-- The kind of entry that is found first among those that may hang on another. -/
theorem firstDependent?_answers (faithful : backend.Faithful seen holds) (codec : Codec)
    (fit : (seen session.database).Fit) (dependents : List Collection.Dependents)
    (listed : ∀ kind ∈ dependents, kind.relation ∈ Relation.catalogue)
    (asks : ∀ kind ∈ dependents, (Scope.conditions kind.scope).Asks kind.relation) :
    ∃ later, (firstDependent? ⟨backend.dialect, schema⟩ dependents).run
        (Session.handle backend codec) session
        = (.ok ((dependents.find? fun kind => (seen session.database kind.relation.name).any
            (Scope.conditions kind.scope).accepts).map (·.label)), later) ∧
      seen later.database = seen session.database := by
  induction dependents generalizing session with
  | nil => exact ⟨session, rfl, rfl⟩
  | cons kind rest ih =>
    obtain ⟨here, there⟩ := List.forall_mem_cons.1 listed
    obtain ⟨asks_first, asks_rest⟩ := List.forall_mem_cons.1 asks
    obtain ⟨asked, ran, same⟩ := Entries.exist_answers codec
      (faithful.streams kind.relation here true)
      (faithful.understood asks_first (fit kind.relation here)) asks_first
    cases answer : (seen session.database kind.relation.name).any
        (Scope.conditions kind.scope).accepts with
    | true =>
      rw [answer] at ran
      refine ⟨asked, ?_, same⟩
      simp only [List.find?_cons, answer]
      exact Action.run_bind_of_ok ran
    | false =>
      rw [answer] at ran
      obtain ⟨later, went, kept⟩ := ih (same ▸ fit) there asks_rest
      refine ⟨later, ?_, kept.trans same⟩
      rw [same] at went
      simp only [List.find?_cons, answer]
      exact (Action.run_bind_of_ok ran).trans went

end Keyring

/-! ### An engine -/

namespace Sql.Engine

/-- What columns hold that a new row says nothing about. -/
def defaults : Record := .ofList [("security", .int 0), ("verified", .bool false)]

/-- A database that holds tables and reads the text of conditions. It shows subkeys as the view
computes them. -/
def served (db : Engine) (dialect : Dialect) (accepts : String → Record → Bool) :
    Backend Tables where
  dialect := dialect
  execute query tables :=
    match query.statement with
    | .insert name row =>
      if accepts name (assign row query.args defaults) then
        (.ok 1, Function.update tables name (tables name ++ [assign row query.args defaults]))
      else (.error (.driver "constraint failed"), tables)
    | .delete name conditions =>
      (.ok (UInt64.ofNat ((tables name).countP (db.holds dialect conditions query.args))),
        tables.without name (db.holds dialect conditions query.args))
    | _ => (.ok 0, tables)
  fetch _ _ tables := (.ok [], tables)
  stream query _ tables :=
    match query.statement with
    | .select (.columns columns) name conditions suffix =>
      let rows := ((tables.shown name).filter (db.holds dialect conditions query.args)).map
        (·.project columns)
      (.ok ((if suffix.isSome then rows.take 1 else rows).map .ok), tables)
    | _ => (.ok [], tables)

theorem served_faithful (db : Engine) (dialect : Dialect) (accepts : String → Record → Bool) :
    (db.served dialect accepts).Faithful Tables.shown (db.holds dialect) where
  streams relation _ limited columns conditions args shape tables := by
    refine ⟨_, tables, ?_, rfl, .refl _⟩
    cases limited <;> rfl
  understands _ _ suit := db.understoodBy_of_suit dialect suit
  begins _ := rfl
  deletes relation listed writable conditions args tables := by
    refine Or.inr ⟨_, tables.without relation.name (db.holds dialect conditions args), rfl,
      fun other there written => ?_⟩
    have stored := Tables.name_ne_subkeys there written
    have target := Tables.name_ne_subkeys listed writable
    rw [Tables.shown_of_ne stored, Tables.without, Tables.without, Tables.shown_of_ne target]
    by_cases same : other.name = relation.name
    · rw [same, Function.update_self, Function.update_self]
    · rw [Function.update_of_ne same, Function.update_of_ne same, Tables.shown_of_ne stored]

end Sql.Engine

end KeyStore
