import KeyStore.Proofs.Entries.Keys
import KeyStore.Proofs.Entries.Reading
import KeyStore.Proofs.Sequence.Relays
import KeyStore.Proofs.Transaction.Invariant
import KeyStore.Session

/-!
# Whose errors reads and writes show

A read makes its query of what the database can answer, so that it fails with nothing but the errors
that the database and the codec bring (`select_relays`). A write has two errors of its own, for a
view and for a record without stored fields; its statements can always be made, whether for the half
of the database or for the key of a row (`update_relays`, `remove_relays`).

Hence no read or write says that a filter cannot be rendered, unless the database or the codec has
said so (`unrenderable_is_relayed`).
-/

namespace KeyStore

variable {error : StoreError}

/-- The reply brings the error; so do rows among which it is. -/
def Store.Brings (error : StoreError) : (request : Store.Request) → Store.Reply request → Prop
  | .execute _, reply => reply = .error error
  | .fetch _ _, reply => reply = .error error
  | .stream _ _, .error failure => failure = error
  | .stream _ _, .ok (_, rows) => .error error ∈ rows
  | .take _, _ => False
  | .decode _ _, reply => reply = .error error
  | .transact _, reply => reply = .error error

namespace Store

theorem execute_relays (query : Query) :
    (execute query).Relays (Store.Brings error) error :=
  Action.relays_requestOrFail fun _ brought => brought

theorem decode_relays (kind : PacketKind) (packet : List UInt8) :
    (decode kind packet).Relays (Store.Brings error) error :=
  Action.relays_requestOrFail fun _ brought => brought

theorem transact_relays (command : Transaction.Command) :
    (transact command).Relays (Store.Brings error) error :=
  Action.relays_requestOrFail fun _ brought => brought

theorem take_relays (stream : Nat) :
    (take stream).Relays (Store.Brings error) error :=
  fun _ => Or.inr trivial

theorem rows_relays (query : Query) (shape : RowShape) :
    (rows query shape).Relays (Store.Brings error) error := by
  intro reply
  cases reply with
  | error failure =>
    by_cases same : failure = error
    · exact Or.inl same
    · exact Or.inr same
  | ok opened =>
    by_cases among : .error error ∈ opened.2
    · exact Or.inl among
    · exact Or.inr (Sequence.relays_ofItems (fun _ => take_relays _) among)

end Store

namespace Entries

/-! ### Reads -/

theorem reconstruct_relays (relation : Relation) (row : Record) :
    (reconstruct relation row).Relays (Store.Brings error) error := by
  unfold reconstruct
  split
  · trivial
  · exact (Store.decode_relays _ _).bind fun _ => trivial

theorem ofRows_relays (relation : Relation) (fields : Option (List String)) (plan : FetchPlan)
    (app : Conditions) {rows : Sequence Store Record}
    (relays : rows.Relays (Store.Brings error) error) :
    (ofRows relation fields plan app rows).Relays (Store.Brings error) error := by
  have decoded : (if plan.decode then rows.map (reconstruct relation) else rows).Relays
      (Store.Brings error) error := by
    split
    · exact relays.map (reconstruct_relays relation)
    · exact relays
  have kept : (if app.isEmpty then if plan.decode then rows.map (reconstruct relation) else rows
      else (if plan.decode then rows.map (reconstruct relation) else rows).filter
        app.accepts).Relays (Store.Brings error) error := by
    split
    · exact decoded
    · exact decoded.filter app.accepts
  unfold ofRows
  cases fields with
  | none => exact kept
  | some fields => exact kept.map fun _ => trivial

/-- A read fails only with what the database and the codec bring. -/
theorem select_relays (dialect : Sql.Dialect) (relation : Relation) (conditions : Conditions)
    (fields : Option (List String)) (single : Bool) :
    (select dialect relation conditions fields single).Relays (Store.Brings error)
      error := by
  obtain ⟨query, made⟩ := exists_select dialect relation conditions
    (.columns (fetchPlan relation fields (filterPlan dialect relation conditions).app).columns)
    (if single && (filterPlan dialect relation conditions).app.isEmpty then some "LIMIT 1"
      else none)
  unfold select
  simp only [made]
  exact ofRows_relays relation fields _ _ (Store.rows_relays _ _)

theorem values_relays (dialect : Sql.Dialect) (relation : Relation) (field : String)
    (conditions : Conditions) :
    (values dialect relation field conditions).Relays (Store.Brings error) error :=
  (select_relays dialect relation conditions (some [field]) false).map fun _ => trivial

theorem first?_relays (dialect : Sql.Dialect) (relation : Relation) (conditions : Conditions)
    (fields : Option (List String)) :
    (first? dialect relation conditions fields).Relays (Store.Brings error) error :=
  (select_relays dialect relation conditions fields true).first

theorem exist_relays (dialect : Sql.Dialect) (relation : Relation) (conditions : Conditions) :
    (exist dialect relation conditions).Relays (Store.Brings error) error :=
  (select_relays dialect relation conditions (some []) true).isNonempty

/-! ### Writes -/

/-- A statement can be made for all conditions without a predicate of the caller. -/
def MakesAll (statement : Conditions → Except StoreError Query) : Prop :=
  ∀ target : Conditions, (∀ entry ∈ target.toList, entry.2.holdsCustom = false) →
    ∃ query, statement target = .ok query

theorem onRows_makes (args : Sql.Arguments) (statement : List Sql.Condition → Statement) :
    MakesAll (Query.onRows args · statement) := by
  intro target plain
  obtain ⟨parts, bound, binds⟩ := Conditions.bindEntries_ok target.toList plain args
  exact ⟨⟨statement parts, (args.extend bound).values⟩,
    by simp only [Query.onRows, Conditions.bind, binds]⟩

theorem delete_makes (dialect : Sql.Dialect) (relation : Relation) :
    MakesAll (Query.delete dialect relation) :=
  onRows_makes _ _

theorem update_makes (dialect : Sql.Dialect) (relation : Relation) {record : Record}
    (some_stored : (relation.storable record).isEmpty = false) :
    MakesAll (Query.update dialect relation record) := by
  intro target plain
  rw [Query.update, some_stored, if_neg Bool.false_ne_true]
  exact onRows_makes _ _ target plain

theorem writeOne_relays {statement : Conditions → Except StoreError Query}
    (makes : MakesAll statement) (relation : Relation) (count : UInt64) (row : Record) :
    Action.Relays (Store.Brings error) error
      ((Action.ofExcept (statement (identify relation row))).bind fun query =>
        (Store.execute query).bind fun affected => .done (count + affected)) := by
  obtain ⟨query, made⟩ := makes _ (identify_plain relation row)
  rw [made]
  exact (Store.execute_relays query).bind fun _ => trivial

/-- A write whose statement can be made fails only with what the database and the codec bring. -/
theorem writeRows_relays (dialect : Sql.Dialect) (relation : Relation) (conditions : Conditions)
    {statement : Conditions → Except StoreError Query} (makes : MakesAll statement) :
    (writeRows dialect relation conditions statement).Relays
      (Store.Brings error) error := by
  refine (Store.transact_relays .begin).bind fun _ => ?_
  split
  · obtain ⟨query, made⟩ := makes (filterPlan dialect relation conditions).sql
      (conditions.plain_split_fst dialect relation.hasColumn)
    rw [made]
    exact Store.execute_relays query
  · rw [targets, Sequence.fold_map_done]
    exact (select_relays dialect relation conditions (some relation.primaryKey) false).fold
      (writeOne_relays makes relation) 0

theorem ensureWritable_bind_relays {α : Type} {relation : Relation} {rest : Action Store α}
    (other : error ≠ .readOnly relation.name)
    (relays : rest.Relays (Store.Brings error) error) :
    ((Action.ofExcept (ensureWritable relation)).bind fun _ => rest).Relays
      (Store.Brings error) error := by
  refine Action.relays_ofExcept_bind ?_ fun _ _ => relays
  unfold ensureWritable
  split
  · exact nofun
  · exact fun same => other (Except.error.inj same).symm

/-- Besides what the database and the codec bring, updating fails for views only. -/
theorem update_relays (dialect : Sql.Dialect) (relation : Relation) (record : Record)
    (conditions : Conditions) (other : error ≠ .readOnly relation.name) :
    (update dialect relation record conditions).Relays (Store.Brings error)
      error := by
  refine ensureWritable_bind_relays other ?_
  dsimp only
  split
  · trivial
  · next some_stored =>
    refine writeRows_relays dialect relation conditions (update_makes dialect relation ?_)
    rw [Relation.storable_storable]
    exact Bool.eq_false_iff.2 some_stored

/-- Besides what the database and the codec bring, removing fails for views only. -/
theorem remove_relays (dialect : Sql.Dialect) (relation : Relation) (conditions : Conditions)
    (other : error ≠ .readOnly relation.name) :
    (remove dialect relation conditions).Relays (Store.Brings error) error :=
  ensureWritable_bind_relays other
    (writeRows_relays dialect relation conditions (delete_makes dialect relation))

end Entries

/-! ### In a session -/

namespace Session

variable {σ : Type} {backend : Backend σ} {codec : Codec}

/-- Put to the session, the request makes the database or the codec say the error. For a
transaction request that means that its statement is put. -/
def Blames (backend : Backend σ) (codec : Codec) (error : StoreError) :
    StoreRequest → Session σ → Prop
  | .execute query, session => (backend.execute query session.database).1 = .error error
  | .fetch query shape, session => (backend.fetch query shape session.database).1 = .error error
  | .stream query shape, session =>
    match (backend.stream query shape session.database).1 with
    | .error failure => failure = error
    | .ok rows => .error error ∈ rows
  | .take _, _ => False
  | .decode kind packet, _ => codec kind packet = .error error
  | .transact command, session =>
    command.isSatisfiedIn session.transaction = false ∧
      (backend.execute ⟨.control command, []⟩ session.database).1 = .error error

/-- An error in the reply to a transaction request is the coordinator's own, or was said to its
statement. -/
theorem transact_error (command : Transaction.Command) {session : Session σ}
    (failed : (session.transact backend command).1 = .error error)
    (other : error ≠ .abandonedRequest) :
    command.isSatisfiedIn session.transaction = false ∧
      (backend.execute ⟨.control command, []⟩ session.database).1 = .error error := by
  rcases Transaction.Coordinator.arrive_cases session.coordinator command with
    ⟨queue, _, arrived⟩ | ⟨_, _, arrived⟩ | ⟨_, needs, arrived⟩
  · have waits : (session.coordinator.arrive command).standing?
        session.coordinator.requests.length = some .queued := by
      rw [arrived, Transaction.Coordinator.standing?_concat, if_pos rfl]
    simp only [transact, waits] at failed
    exact absurd (Except.error.inj failed).symm other
  · have told : (session.coordinator.arrive command).standing?
        session.coordinator.requests.length = some (.finished (.ok ())) := by
      rw [arrived, Transaction.Coordinator.standing?_concat, if_pos rfl]
    simp only [transact, told] at failed
    cases failed
  · have issuing : (session.coordinator.arrive command).standing?
        session.coordinator.requests.length = some .issuing := by
      rw [arrived, Transaction.Coordinator.standing?_concat, if_pos rfl]
    refine ⟨needs, ?_⟩
    simp only [transact, issuing, execute, record] at failed
    cases answer : (backend.execute ⟨.control command, []⟩ session.database).1 with
    | ok count =>
      rw [answer] at failed
      cases failed
    | error failure =>
      rw [answer] at failed
      cases failed
      rfl

/-- What the reply to any other request brings was said by the database or the codec. -/
theorem blames_of_brings_of_ne {request : StoreRequest} {session : Session σ}
    (brought : Store.Brings error request (handle backend codec request session).1)
    (other : ∀ command, request ≠ .transact command) :
    Blames backend codec error request session := by
  cases request with
  | execute query => exact brought
  | fetch query shape => exact brought
  | stream query shape =>
    rcases opened : backend.stream query shape session.database with ⟨reply, database⟩
    simp only [handle, stream, record, opened] at brought
    simp only [Blames, opened]
    cases reply with
    | error failure => exact brought
    | ok rows => exact brought
  | take number => exact brought
  | decode kind packet => exact brought
  | transact command => exact absurd rfl (other command)

/-- What a reply brings was said by the database or the codec, if it is not the coordinator's own
error. -/
theorem blames_of_brings {request : StoreRequest} {session : Session σ}
    (brought : Store.Brings error request (handle backend codec request session).1)
    (other : error ≠ .abandonedRequest) : Blames backend codec error request session := by
  cases request with
  | transact command => exact transact_error command brought other
  | _ => exact blames_of_brings_of_ne brought nofun

/-- The action fails with the error only if the database or the codec says it during the run. -/
def OnlyPasses (backend : Backend σ) (codec : Codec) (error : StoreError) {α : Type}
    (action : Action Store α) : Prop :=
  ∀ session, (action.run (handle backend codec) session).1 = .error error →
    ∃ moment ∈ action.asked (handle backend codec) session,
      Blames backend codec error moment.1 moment.2

/-- However far it is pulled, the sequence fails with the error only if the database or the codec
says it meanwhile. -/
def OnlyPassesOn (backend : Backend σ) (codec : Codec) (error : StoreError) {α : Type}
    (source : Sequence Store α) : Prop :=
  ∀ wanted session,
    (source.pull (handle backend codec) wanted session).1.ending = .failed error →
    ∃ moment ∈ source.asked (handle backend codec) wanted session,
      Blames backend codec error moment.1 moment.2

theorem onlyPasses_of_relays {α : Type} {action : Action Store α}
    (relays : action.Relays (Store.Brings error) error) (other : error ≠ .abandonedRequest) :
    OnlyPasses backend codec error action := by
  intro session failed
  obtain ⟨moment, member, brought⟩ := relays.run failed
  exact ⟨moment, member, blames_of_brings brought other⟩

theorem onlyPassesOn_of_relays {α : Type} {source : Sequence Store α}
    (relays : source.Relays (Store.Brings error) error) (other : error ≠ .abandonedRequest) :
    OnlyPassesOn backend codec error source := by
  intro wanted session failed
  obtain ⟨moment, member, brought⟩ := relays.pull failed
  exact ⟨moment, member, blames_of_brings brought other⟩

end Session

namespace Entries

/-- Conditions are divided into a half for the database, which can always be rendered, and the rest.
So no read or write of entries says that a filter cannot be rendered, unless the database or the
codec has said so. -/
theorem unrenderable_is_relayed (conditions : Conditions) :
    (∀ dialect isColumn, conditions.Divides isColumn
      (Conditions.split conditions dialect isColumn).1
      (Conditions.split conditions dialect isColumn).2) ∧
    ∀ {σ : Type} (backend : Backend σ) (codec : Codec) (dialect : Sql.Dialect)
      (relation : Relation) (fields : Option (List String)) (field : String) (record : Record)
      (unrendered : String),
      Session.OnlyPassesOn backend codec (.filterUnrenderable unrendered)
        (all dialect relation conditions fields) ∧
      Session.OnlyPassesOn backend codec (.filterUnrenderable unrendered)
        (values dialect relation field conditions) ∧
      Session.OnlyPasses backend codec (.filterUnrenderable unrendered)
        (first? dialect relation conditions fields) ∧
      Session.OnlyPasses backend codec (.filterUnrenderable unrendered)
        (exist dialect relation conditions) ∧
      Session.OnlyPasses backend codec (.filterUnrenderable unrendered)
        (update dialect relation record conditions) ∧
      Session.OnlyPasses backend codec (.filterUnrenderable unrendered)
        (remove dialect relation conditions) := by
  refine ⟨conditions.split_divides, ?_⟩
  intro σ backend codec dialect relation fields field record unrendered
  have other : StoreError.filterUnrenderable unrendered ≠ .abandonedRequest := nofun
  refine ⟨?_, ?_, ?_, ?_, ?_, ?_⟩
  · exact Session.onlyPassesOn_of_relays (select_relays ..) other
  · exact Session.onlyPassesOn_of_relays (values_relays ..) other
  · exact Session.onlyPasses_of_relays (first?_relays ..) other
  · exact Session.onlyPasses_of_relays (exist_relays ..) other
  · exact Session.onlyPasses_of_relays (update_relays _ _ _ _ nofun) other
  · exact Session.onlyPasses_of_relays (remove_relays _ _ _ nofun) other

end Entries

end KeyStore
