import KeyStore.Proofs.Keyring.Discipline
import KeyStore.Proofs.Sequence.Halts

/-!
# Calls fail with the first error

Whatever a call but the creation of the relations is told: the first error of a statement, a row or
a packet is the error of the call, and nothing is asked for after it (`Call.fails_at_first`). A
sequence that was pulled gives the error again whenever it is pulled later. The creation goes on
after an error, which it reports.

Each operation is shown to stop by itself (`Latches`), from the operations that it is made of.
-/

namespace KeyStore

/-! ### What each operation does -/

namespace Entries

theorem reconstruct_latches (relation : Relation) (row : Record) :
    (reconstruct relation row).Latches := by
  unfold reconstruct
  split
  · exact Action.latches_done _
  · exact (Store.decode_latches _ _).bind fun _ => Action.latches_done _

theorem ofRows_latches (relation : Relation) (fields : Option (List String)) (plan : FetchPlan)
    (app : Conditions) {rows : Sequence Store Record} (latches : rows.Latches) :
    (ofRows relation fields plan app rows).Latches := by
  have decoded : (if plan.decode then rows.map (reconstruct relation) else rows).Latches := by
    split
    · exact latches.map (reconstruct_latches relation)
    · exact latches
  have kept : (if app.isEmpty then if plan.decode then rows.map (reconstruct relation) else rows
      else (if plan.decode then rows.map (reconstruct relation) else rows).filter
        app.accepts).Latches := by
    split
    · exact decoded
    · exact decoded.filter app.accepts
  unfold ofRows
  cases fields with
  | none => exact kept
  | some fields => exact kept.map fun _ => Action.latches_done _

theorem select_latches (dialect : Sql.Dialect) (relation : Relation) (conditions : Conditions)
    (fields : Option (List String)) (single : Bool) :
    (select dialect relation conditions fields single).Latches := by
  unfold select
  dsimp only
  split
  · exact fun _ => trivial
  · exact ofRows_latches relation fields _ _ (Store.rows_latches _ _)

theorem values_latches (dialect : Sql.Dialect) (relation : Relation) (field : String)
    (conditions : Conditions) : (values dialect relation field conditions).Latches :=
  (select_latches dialect relation conditions (some [field]) false).map fun _ =>
    Action.latches_done _

theorem first?_latches (dialect : Sql.Dialect) (relation : Relation) (conditions : Conditions)
    (fields : Option (List String)) : (first? dialect relation conditions fields).Latches :=
  (select_latches dialect relation conditions fields true).first

theorem exist_latches (dialect : Sql.Dialect) (relation : Relation) (conditions : Conditions) :
    (exist dialect relation conditions).Latches :=
  (select_latches dialect relation conditions (some []) true).isNonempty

theorem writeRows_latches (dialect : Sql.Dialect) (relation : Relation) (conditions : Conditions)
    (statement : Conditions → Except StoreError Query) :
    (writeRows dialect relation conditions statement).Latches := by
  have executed (target : Conditions) (count : UInt64) :
      ((Action.ofExcept (statement target)).bind fun query =>
        (Store.execute query).bind fun affected => .done (count + affected)).Latches :=
    (Action.latches_ofExcept _).bind fun query => (Store.execute_latches query).bind fun _ =>
      Action.latches_done _
  refine (Store.transact_latches .begin).bind fun _ => ?_
  split
  · exact (Action.latches_ofExcept _).bind Store.execute_latches
  · exact ((select_latches dialect relation conditions _ false).map fun _ =>
      Action.latches_done _).fold (fun count target => executed target count) 0

theorem add_latches (dialect : Sql.Dialect) (relation : Relation) (record : Record) :
    (add dialect relation record).Latches :=
  (Action.latches_ofExcept _).bind fun _ => (Action.latches_ofExcept _).bind fun query =>
    (Store.transact_latches .begin).bind fun _ => (Store.execute_latches query).bind fun _ =>
      Action.latches_done _

theorem update_latches (dialect : Sql.Dialect) (relation : Relation) (record : Record)
    (conditions : Conditions) : (update dialect relation record conditions).Latches := by
  refine (Action.latches_ofExcept _).bind fun _ => ?_
  dsimp only
  split
  · exact Action.latches_done _
  · exact writeRows_latches _ _ _ _

theorem remove_latches (dialect : Sql.Dialect) (relation : Relation) (conditions : Conditions) :
    (remove dialect relation conditions).Latches :=
  (Action.latches_ofExcept _).bind fun _ => writeRows_latches _ _ _ _

end Entries

namespace Keyring

theorem ids_latches (keyring : Keyring) (relation : Relation) (field : String)
    (conditions : Conditions) : (keyring.ids relation field conditions).Latches := by
  refine (Entries.values_latches _ _ _ _).map fun value => ?_
  cases value <;> exact fun _ => trivial

theorem firstDependent?_latches (keyring : Keyring) (dependents : List Collection.Dependents) :
    (keyring.firstDependent? dependents).Latches := by
  induction dependents with
  | nil => exact Action.latches_done none
  | cons first rest ih =>
    refine (Entries.exist_latches _ _ _).bind fun found => ?_
    cases found with
    | true => exact Action.latches_done _
    | false => exact ih

theorem searchIdentities_latches (keyring : Keyring) (search : String) :
    (keyring.searchIdentities search).Latches :=
  (Store.rows_latches _ _).map fun _ => Action.latches_ofExcept _

theorem followBinding_latches (keyring : Keyring) (found : KeyMatch) (others : List KeyMatch)
    (binding : Record) : (keyring.followBinding found others binding).Latches := by
  unfold followBinding
  split
  · exact Action.latches_done _
  · refine (Entries.first?_latches _ _ _ _).bind fun row => ?_
    cases row with
    | none => exact Action.latches_done _
    | some row => exact (Action.latches_ofExcept _).bind fun _ => Action.latches_done _

theorem expandMatch_latches (keyring : Keyring) (row : Record) :
    (keyring.expandMatch row).Latches :=
  (Action.latches_ofExcept _).bind fun found => (keyring.firstDependent?_latches _).bind fun _ =>
    (Entries.select_latches _ _ _ _ _).fold (keyring.followBinding_latches found) _

theorem searchKeys_latches (keyring : Keyring) (conditions : Conditions) :
    (keyring.searchKeys conditions).Latches :=
  (Entries.select_latches _ _ _ _ _).flatMap keyring.expandMatch_latches

theorem signaturesBy_latches (keyring : Keyring) (kind : SignedKind) (issuer : String)
    (conditions : Conditions) : (keyring.signaturesBy kind issuer conditions).Latches :=
  (Entries.select_latches _ _ _ _ _).map fun _ => Action.latches_ofExcept _

theorem relationNames_latches (keyring : Keyring) : keyring.relationNames.Latches :=
  (Store.fetch_latches _ _).bind fun _ => Action.latches_done _

theorem insert_latches (keyring : Keyring) (collection : Collection) (record : Record) :
    (keyring.insert collection record).Latches :=
  Entries.add_latches _ _ _

theorem add_latches (keyring : Keyring) (collection : Collection) (record : Record) :
    (keyring.add collection record).Latches := by
  unfold add
  split
  · refine (Entries.exist_latches _ _ _).bind fun known => ?_
    cases known with
    | true => exact keyring.insert_latches _ record
    | false => exact Action.latches_fail _
  · exact keyring.insert_latches collection record

theorem update_latches (keyring : Keyring) (collection : Collection) (id : String)
    (record : Record) : (keyring.update collection id record).Latches :=
  (Entries.update_latches _ _ _ _).bind fun _ => Action.latches_done _

theorem remove_latches (keyring : Keyring) (collection : Collection) (id : String) :
    (keyring.remove collection id).Latches := by
  refine (keyring.firstDependent?_latches _).bind fun found => ?_
  cases found with
  | some label => exact Action.latches_fail _
  | none => exact (Entries.remove_latches _ _ _).bind fun _ => Action.latches_done _

end Keyring

/-! ### In a session -/

namespace Session

variable {σ α : Type} {backend : Backend σ} {codec : Codec} {session : Session σ}
  {left : List Rows} {error : StoreError}

/-- Put to the session, the request makes the database or the codec say the error, or takes a row in
whose place it stands. -/
def Tells (backend : Backend σ) (codec : Codec) (left : List Rows) (error : StoreError) :
    StoreRequest → Session σ → Prop
  | .execute query, session => (backend.execute query session.database).1 = .error error
  | .fetch query shape, session => (backend.fetch query shape session.database).1 = .error error
  | .stream query shape, session => (backend.stream query shape session.database).1 = .error error
  | .take number, _ => left[number]?.bind List.head? = some (.error error)
  | .decode kind packet, _ => codec kind packet = .error error
  | .transact command, session =>
    command.isSatisfiedIn session.transaction = false ∧
      (backend.execute ⟨.control command, []⟩ session.database).1 = .error error

/-- The rows that are left in each stream after some requests. What is left in the streams that were
open before is not known. -/
def rowsLeft (backend : Backend σ) (codec : Codec) (session : Session σ)
    (moments : List (StoreRequest × Session σ)) : List Rows :=
  moments.foldl (fun left moment =>
    Store.leave left moment.1 (handle backend codec moment.1 moment.2).1)
    (List.replicate session.streams [])

/-- What is told comes with the reply. -/
theorem error?_of_tells (rests : session.Rests) {request : StoreRequest}
    (tells : Tells backend codec left error request session) :
    Store.error? left request (handle backend codec request session).1 = some error := by
  cases request with
  | execute query =>
    have reply : (session.execute backend query).1 = .error error := tells
    simp only [handle, reply, Store.error?]
  | fetch query shape =>
    have reply : (session.fetch backend query shape).1 = .error error := tells
    simp only [handle, reply, Store.error?]
  | stream query shape =>
    rcases opened : backend.stream query shape session.database with ⟨reply, database⟩
    simp only [Tells, opened] at tells
    subst tells
    simp only [handle, stream, record, opened, Store.error?]
  | take number =>
    have row : left[number]?.bind List.head? = some (.error error) := tells
    simp only [Store.error?, row]
  | decode kind packet =>
    have reply : codec kind packet = .error error := tells
    simp only [handle, reply, Store.error?]
  | transact command =>
    obtain ⟨_, _, transacted, _⟩ := transact_of_needed backend rests tells.1
    rw [tells.2] at transacted
    simp only [handle, transacted, Except.map, Store.error?]

/-- A session numbers its streams in their order. -/
theorem numbers_handle (backend : Backend σ) (codec : Codec) (request : StoreRequest)
    (long : left.length = session.streams) :
    Store.Numbers left request (handle backend codec request session).1 ∧
      (Store.leave left request (handle backend codec request session).1).length
        = (handle backend codec request session).2.streams := by
  cases request with
  | stream query shape =>
    rcases opened : backend.stream query shape session.database with ⟨reply, database⟩
    cases reply with
    | error failure => simp [handle, stream, record, opened, Store.Numbers, Store.leave, long]
    | ok rows => simp [handle, stream, record, opened, Store.Numbers, Store.leave, long]
  | take number => exact ⟨trivial, (List.length_modify ..).trans long⟩
  | transact command =>
    refine ⟨trivial, ?_⟩
    simp only [handle, transact, execute, record, Store.leave]
    split <;> exact long
  | _ => exact ⟨trivial, long⟩

/-- An action that stops at the first error ends with it, and has asked for nothing after it. -/
theorem ends_at_error {base : Nat} {action : Action Store α} (halts : action.Halts base left)
    (long : left.length = session.streams) (rests : session.Rests)
    {before rest : List (StoreRequest × Session σ)} {moment : StoreRequest × Session σ}
    (split : action.asked (handle backend codec) session = before ++ moment :: rest)
    (tells : Tells backend codec
      (before.foldl (fun left moment =>
        Store.leave left moment.1 (handle backend codec moment.1 moment.2).1) left)
      error moment.1 moment.2) :
    rest = [] ∧ (action.run (handle backend codec) session).1 = .error error := by
  induction action generalizing session left before with
  | done result => cases before <;> cases split
  | fail failure => cases before <;> cases split
  | ask request next ih =>
    obtain ⟨numbers, longer⟩ := numbers_handle backend codec request long
    obtain ⟨fails, goesOn⟩ := halts.2 _ numbers
    have later := handle_rests backend codec request session rests
    rw [Action.asked_ask] at split
    cases before with
    | nil =>
      obtain ⟨rfl, others⟩ := List.cons.inj split
      have failed := fails error (error?_of_tells rests tells)
      rw [failed] at others
      exact ⟨others.symm, by simp only [Action.run, failed]⟩
    | cons first before =>
      obtain ⟨rfl, others⟩ := List.cons.inj split
      cases brought : Store.error? left request (handle backend codec request session).1 with
      | some other =>
        rw [fails other brought] at others
        cases before <;> cases others
      | none => exact ih _ (goesOn brought) longer later others tells

end Session

/-! ### Calls -/

namespace Sequence

variable {I : Interface} {α : Type} {σ : Type}

/-- Pulled at any time, the sequence fails with the error, asks for nothing and stays as it is. -/
def StaysFailed (handle : Handler I σ) (error : StoreError) (source : Sequence I α) : Prop :=
  ∀ state, source.next handle state = ((.error error, source), state)

theorem Halts.drain {base : Nat} {left : List Rows} {source : Sequence Store α}
    (halts : source.Halts base left) (wanted : Option Nat) :
    (source.drain wanted).Halts base left := by
  induction source generalizing left wanted with
  | nil => trivial
  | fail error =>
    rw [Sequence.drain]
    split <;> trivial
  | cons item rest ih =>
    rw [Sequence.drain]
    split
    · trivial
    · exact ih (List.append_nil left ▸ halts []) _
  | ask request next ih =>
    rw [Sequence.drain]
    split
    · trivial
    · next more =>
      exact halts.ask_consumer (f := fun items => items.drain wanted) (fun _ => if_neg more)
        fun reply later => ih reply later wanted

end Sequence

namespace Call

/-- The call creates the relations of a keyring. -/
def creates : Call → Bool
  | bootstrap _ | initialise => true
  | _ => false

theorem Body.latches_act {α : Type} {action : Action Store α} (latches : action.Latches) :
    (Body.act action).action.Latches :=
  latches.bind fun _ => Action.latches_done ()

theorem latches (keyring : Keyring) {call : Call} (plain : call.creates = false) :
    (call.body keyring).action.Latches := by
  have drawn {α : Type} {items : Sequence Store α} (latches : items.Latches)
      (wanted : Option Nat) : (Body.draw items wanted).action.Latches :=
    fun left => (latches left).drain wanted
  unfold body
  cases call with
  | list collection conditions wanted => exact drawn (keyring.ids_latches _ _ _) wanted
  | entries collection conditions fields wanted =>
    exact drawn (Entries.select_latches _ _ _ _ _) wanted
  | selfSignedEntries collection conditions fields wanted =>
    exact drawn (Entries.select_latches _ _ _ _ _) wanted
  | parents subkey wanted => exact drawn (keyring.ids_latches _ _ _) wanted
  | signaturesBy kind issuer conditions wanted =>
    exact drawn (keyring.signaturesBy_latches _ _ _) wanted
  | searchIdentities search wanted => exact drawn (keyring.searchIdentities_latches _) wanted
  | searchShortId shortId wanted => exact drawn (keyring.searchKeys_latches _) wanted
  | searchLongId id wanted => exact drawn (keyring.searchKeys_latches _) wanted
  | searchFingerprint fingerprint wanted => exact drawn (keyring.searchKeys_latches _) wanted
  | contains collection id => exact Body.latches_act (Entries.exist_latches _ _ _)
  | find collection id fields => exact Body.latches_act (Entries.first?_latches _ _ _ _)
  | findSelfSigned collection id fields => exact Body.latches_act (Entries.first?_latches _ _ _ _)
  | relationNames => exact Body.latches_act keyring.relationNames_latches
  | bootstrap objects => cases plain
  | initialise => cases plain
  | add collection record => exact Body.latches_act (keyring.add_latches _ _)
  | update collection id record => exact Body.latches_act (keyring.update_latches _ _ _)
  | remove collection id => exact Body.latches_act (keyring.remove_latches _ _)
  | save => exact Body.latches_act (Store.transact_latches _)
  | revert => exact Body.latches_act (Store.transact_latches _)

variable {σ : Type}

/-- Whatever sequence the call has pulled fails with the error from now on. -/
def Body.LeavesFailed (handle : Handler Store σ) (error : StoreError) (state : σ) : Body → Prop
  | act _ => True
  | draw items wanted => (items.pull handle wanted state).1.rest.StaysFailed handle error

theorem leavesFailed_of_run {handle : Handler Store σ} {error : StoreError} {state : σ}
    {body : Body} (failed : (body.action.run handle state).1 = .error error) :
    body.LeavesFailed handle error state := by
  cases body with
  | act action => trivial
  | draw items wanted =>
    rw [Body.action, Sequence.run_drain] at failed
    have ended : (items.pull handle wanted state).1.ending = .failed error := by
      generalize (items.pull handle wanted state).1.ending = ending at failed
      cases ending <;> cases failed
      rfl
    rw [Body.LeavesFailed, Sequence.rest_of_failed ended]
    exact fun _ => rfl

/-- If the database or the codec says an error while a call runs that creates nothing, the call
fails with it, asks for nothing more, and whatever sequence it has pulled fails with it from then
on. -/
theorem fails_at_first (keyring : Keyring) (backend : Backend σ) (codec : Codec) {call : Call}
    (plain : call.creates = false) {session : Session σ} (rests : session.Rests)
    {before rest : List (StoreRequest × Session σ)} {moment : StoreRequest × Session σ}
    (split : call.asked keyring (Session.handle backend codec) session = before ++ moment :: rest)
    {error : StoreError}
    (tells : Session.Tells backend codec (session.rowsLeft backend codec before) error moment.1
      moment.2) :
    rest = [] ∧
      (call.run keyring (Session.handle backend codec) session).1 = .error error ∧
      (call.body keyring).LeavesFailed (Session.handle backend codec) error session := by
  have long : (List.replicate session.streams ([] : Rows)).length = session.streams :=
    List.length_replicate ..
  obtain ⟨last, failed⟩ := Session.ends_at_error
    (latches keyring plain (List.replicate session.streams [])) long rests split tells
  exact ⟨last, by rw [run_eq, failed], leavesFailed_of_run failed⟩

/-- A database that loses the connection after the first row. -/
def cutBackend : Backend Unit where
  dialect := .sqlite
  execute _ _ := (.ok 0, ())
  fetch _ _ _ := (.ok [], ())
  stream _ _ _ := (.ok [.ok (.insert .empty "id" (.text "A")), .error (.driver "lost")], ())

/-- The second key that is listed, and each one after it, is the error. -/
theorem fails_at_lost :
    ((list .keys .empty none).run Use.mainKeyring (Session.handle cutBackend Use.silentCodec)
        (.start ())).1 = .error (.driver "lost") ∧
      (Body.draw (Use.mainKeyring.list .keys .empty) none).LeavesFailed
        (Session.handle cutBackend Use.silentCodec) (.driver "lost") (.start ()) := by
  -- The stream is opened, the first row is taken, and the second is the error.
  have split : (list .keys .empty none).asked Use.mainKeyring
      (Session.handle cutBackend Use.silentCodec) (.start ()) = [_, _] ++ _ :: [] := rfl
  exact (fails_at_first Use.mainKeyring cutBackend Use.silentCodec rfl (Session.start_rests ())
    split rfl).2

end Call

end KeyStore
