import KeyStore.Proofs.Entries.Reading
import KeyStore.Proofs.Entries.Requests

/-!
# Reads and writes that leave packets unread

Where the fields that are asked for, and those that are tested in process, are columns, no packet
is read. A packet that cannot be read then does no harm, and two sessions with different codecs
cannot be told apart: they give the same results and keep the same journal. Neither is the column
of the packet fetched, unless it is one of those fields itself.

Main statement: `columns_ignore_codec`, of all reads, and of the writes that read keys first. A
sequence is said to ignore the codec if this is true of whatever is left of it as well, so that it
does not matter in which session it is pulled next.
-/

namespace KeyStore

open Sql

variable {σ α : Type}

/-- What the journal says of a request. One about the transaction is there if it leads to a
statement. -/
def StoreRequest.event : StoreRequest → Session.Event
  | .execute query => .executed query
  | .fetch query shape => .fetched query shape
  | .stream query shape => .streamed query shape
  | .take number => .taken number
  | .decode kind packet => .decoded kind packet
  | .transact command => .executed ⟨.control command, []⟩

namespace Session

/-- A request is written into the journal, or it is not. -/
theorem journal_handle (backend : Backend σ) (codec : Codec) (request : StoreRequest)
    (session : Session σ) :
    (handle backend codec request session).2.journal = session.journal ∨
    (handle backend codec request session).2.journal = session.journal ++ [request.event] := by
  cases request with
  | execute query => exact Or.inr rfl
  | fetch query shape => exact Or.inr rfl
  | stream query shape =>
    right
    change (session.stream backend query shape).2.journal = _
    simp only [stream]
    split <;> rfl
  | take number => exact Or.inr rfl
  | decode kind packet => exact Or.inr rfl
  | transact command =>
    change (session.transact backend command).2.journal = _ ∨
      (session.transact backend command).2.journal = _
    unfold transact
    dsimp only
    split
    · exact Or.inl rfl
    · exact Or.inr rfl
    · exact Or.inl rfl

/-- The journal has grown by events of which all satisfy `fine`. -/
def Logs (fine : Event → Prop) (before after : Session σ) : Prop :=
  ∃ events, after.journal = before.journal ++ events ∧ ∀ event ∈ events, fine event

theorem logs_self (fine : Event → Prop) (session : Session σ) : Logs fine session session :=
  ⟨[], (List.append_nil _).symm, fun _ listed => by cases listed⟩

theorem Logs.handle {fine : Event → Prop} {before after : Session σ} (logs : Logs fine before after)
    (backend : Backend σ) (codec : Codec) {request : StoreRequest} (allowed : fine request.event) :
    Logs fine before (Session.handle backend codec request after).2 := by
  obtain ⟨events, journal, all⟩ := logs
  rcases journal_handle backend codec request after with same | grown
  · exact ⟨events, same.trans journal, all⟩
  · refine ⟨events ++ [request.event], ?_, ?_⟩
    · rw [grown, journal, List.append_assoc]
    · intro event listed
      rcases List.mem_append.1 listed with earlier | last
      · exact all event earlier
      · rwa [List.mem_singleton.1 last]

/-- Only requests for packets are answered by the codec. -/
theorem handle_codec (backend : Backend σ) {request : StoreRequest}
    (other : ∀ kind packet, request ≠ .decode kind packet) (left right : Codec)
    (session : Session σ) :
    handle backend left request session = handle backend right request session := by
  cases request with
  | decode kind packet => exact absurd rfl (other kind packet)
  | _ => rfl

end Session

/-- Under any two codecs the action runs to the same result and leaves the same session, and what
it adds to the journal satisfies `fine`. -/
def Action.IgnoresCodec (backend : Backend σ) (fine : Session.Event → Prop)
    (action : Action Store α) : Prop :=
  ∀ (left right : Codec) (session : Session σ),
    action.run (Session.handle backend left) session
      = action.run (Session.handle backend right) session ∧
    session.Logs fine (action.run (Session.handle backend left) session).2

/-- Whatever is left of the sequence, under any two codecs its items and its end are the same, and
what pulling them adds to the journal satisfies `fine`. -/
def Sequence.IgnoresCodec (backend : Backend σ) (fine : Session.Event → Prop)
    (source : Sequence Store α) : Prop :=
  ∀ rest, source.Leaves rest → ∀ (left right : Codec) (wanted : Option Nat) (session : Session σ),
    rest.pull (Session.handle backend left) wanted session
      = rest.pull (Session.handle backend right) wanted session ∧
    session.Logs fine (rest.pull (Session.handle backend left) wanted session).2

/-- What is left of it after it was pulled in any session ignores the codec as well. -/
theorem Sequence.IgnoresCodec.rest {backend : Backend σ} {fine : Session.Event → Prop}
    {source : Sequence Store α} (ignores : source.IgnoresCodec backend fine) (codec : Codec)
    (wanted : Option Nat) (session : Session σ) :
    (source.pull (Session.handle backend codec) wanted session).1.rest.IgnoresCodec backend fine :=
  fun left leaves => ignores left ((leaves_pull _ source wanted session).trans leaves)

section Undecoded

variable {fine : Session.Event → Prop} (undecoded : ∀ kind packet, ¬ fine (.decoded kind packet))
include undecoded

theorem StoreRequest.ne_decode {request : StoreRequest} (allowed : fine request.event) :
    ∀ kind packet, request ≠ .decode kind packet := by
  rintro kind packet rfl
  exact undecoded kind packet allowed

theorem Action.Only.ignoresCodec (backend : Backend σ) {action : Action Store α}
    (only : action.Only fun request => fine (StoreRequest.event request)) :
    action.IgnoresCodec backend fine := by
  intro left right session
  constructor
  · exact only.run_congr (fun _ allowed =>
      Session.handle_codec backend (StoreRequest.ne_decode undecoded allowed) left right) session
  · exact only.run_keeps (session.Logs fine) (fun _ allowed _ logs =>
      logs.handle backend left allowed) (session.logs_self fine)

theorem Sequence.Only.ignoresCodec (backend : Backend σ) {source : Sequence Store α}
    (only : source.Only fun request => fine (StoreRequest.event request)) :
    source.IgnoresCodec backend fine := by
  intro rest leaves left right wanted session
  have others := only.of_leaves leaves
  constructor
  · exact others.pull_congr (fun _ allowed =>
      Session.handle_codec backend (StoreRequest.ne_decode undecoded allowed) left right) wanted
      session
  · exact others.pull_keeps (session.Logs fine) (fun _ allowed _ logs =>
      logs.handle backend left allowed) wanted (session.logs_self fine)

end Undecoded

namespace Entries

/-- No packet is read, and if rows are fetched they are those of the relation, and the column of
the packet is among their columns only if it is wanted. -/
def LeavesPacket (relation : Relation) (wanted : String → Prop) : Session.Event → Prop
  | .streamed query shape => ∃ columns conditions suffix,
    query.statement = .select (.columns columns) relation.name conditions suffix ∧
    shape = relation.shape columns ∧
    ∀ column ∈ columns, packetColumn? relation = some column → wanted column
  | .executed _ => True
  | .taken _ => True
  | .fetched _ _ => False
  | .decoded _ _ => False

section Columns

variable (dialect : Dialect) (relation : Relation) (conditions : Conditions)

/-- The packet is left alone by a read of these fields under these conditions. -/
abbrev LeavesUnasked (names : List String) : Session.Event → Prop :=
  LeavesPacket relation (Wanted (some names) (filterPlan dialect relation conditions).app)

/-- All that is tested in process are columns. -/
def TestsColumns : Prop :=
  ∀ field ∈ (filterPlan dialect relation conditions).app.fields, relation.hasColumn field = true

variable {dialect relation conditions}

theorem not_wantsPacket {names : List String}
    (columns : ∀ name ∈ names, relation.hasColumn name = true)
    (tested : TestsColumns dialect relation conditions) :
    wantsPacket relation (some names) (filterPlan dialect relation conditions).app = false := by
  rw [wantsPacket, Bool.or_eq_false_iff]
  exact ⟨List.any_eq_false.2 fun name asked => by simp [columns name asked],
    List.any_eq_false.2 fun field asked => by simp [tested field asked]⟩

/-- Where no packet is wanted, its column is not fetched for its sake. -/
theorem wanted_of_mem_columns {fields : Option (List String)} {app : Conditions}
    (unwanted : wantsPacket relation fields app = false) {column : String}
    (fetched : column ∈ (fetchPlan relation fields app).columns) : Wanted fields app column := by
  have needed := (List.mem_filter.1 fetched).2
  simp only [unwanted, Bool.false_and, Bool.or_false, Bool.or_eq_true] at needed
  rcases needed with asked | tested
  · left
    rintro names rfl
    simpa using asked
  · exact Or.inr tested

theorem select_leaves {names : List String}
    (columns : ∀ name ∈ names, relation.hasColumn name = true)
    (tested : TestsColumns dialect relation conditions) (single : Bool) :
    (select dialect relation conditions (some names) single).Only fun request =>
      LeavesUnasked dialect relation conditions names (StoreRequest.event request) := by
  have unwanted := not_wantsPacket columns tested
  unfold select
  dsimp only
  split
  · trivial
  · next query made =>
    obtain ⟨parts, statement⟩ := Query.statement_of_select made
    refine ofRows_only_of_not_decode (congrArg (· && _) unwanted) ?_ _ _
    refine ⟨⟨_, parts, _, statement, rfl, fun column fetched _ =>
      wanted_of_mem_columns unwanted fetched⟩, fun reply => ?_⟩
    cases reply with
    | error error => trivial
    | ok opened => exact Sequence.only_ofItems (fun _ => Store.take_only trivial) opened.2

theorem values_leaves {field : String} (column : relation.hasColumn field = true)
    (tested : TestsColumns dialect relation conditions) :
    (values dialect relation field conditions).Only fun request =>
      LeavesUnasked dialect relation conditions [field] (StoreRequest.event request) :=
  (select_leaves (List.forall_mem_singleton.2 column) tested false).map fun _ => trivial

theorem targets_leaves (keys : ∀ column ∈ relation.primaryKey, relation.hasColumn column = true)
    (tested : TestsColumns dialect relation conditions) :
    (targets dialect relation conditions).Only fun request =>
      LeavesUnasked dialect relation conditions relation.primaryKey
        (StoreRequest.event request) :=
  (select_leaves keys tested false).map fun _ => trivial

/-- A write that reads no packets reads keys, and runs its statements. -/
theorem writeRows_leaves
    (keys : ∀ column ∈ relation.primaryKey, relation.hasColumn column = true)
    (tested : TestsColumns dialect relation conditions)
    (statement : Conditions → Except StoreError Query) :
    (writeRows dialect relation conditions statement).Only fun request =>
      LeavesUnasked dialect relation conditions relation.primaryKey
        (StoreRequest.event request) := by
  have executes (query : Query) : (Store.execute query).Only fun request =>
      LeavesUnasked dialect relation conditions relation.primaryKey
        (StoreRequest.event request) :=
    ⟨trivial, fun _ => Action.only_ofExcept _⟩
  refine Action.Only.bind ⟨trivial, fun _ => Action.only_ofExcept _⟩ fun _ => ?_
  split
  · exact Action.only_ofExcept_bind fun query _ => executes query
  · refine (targets_leaves keys tested).fold (fun _ _ => ?_) 0
    exact Action.only_ofExcept_bind fun query _ => (executes query).bind fun _ => trivial

theorem update_leaves (keys : ∀ column ∈ relation.primaryKey, relation.hasColumn column = true)
    (tested : TestsColumns dialect relation conditions) (record : Record) :
    (update dialect relation record conditions).Only fun request =>
      LeavesUnasked dialect relation conditions relation.primaryKey
        (StoreRequest.event request) := by
  refine Action.only_ofExcept_bind fun _ _ => ?_
  dsimp only
  split
  · trivial
  · exact writeRows_leaves keys tested _

theorem remove_leaves (keys : ∀ column ∈ relation.primaryKey, relation.hasColumn column = true)
    (tested : TestsColumns dialect relation conditions) :
    (remove dialect relation conditions).Only fun request =>
      LeavesUnasked dialect relation conditions relation.primaryKey
        (StoreRequest.event request) :=
  Action.only_ofExcept_bind fun _ _ => writeRows_leaves keys tested _

/-- Where columns are all that is asked for and tested in process, reads and writes do not depend on
the codec: they read no packet, put the same statements and give the same results under any two, and
the column of the packet is fetched only if it is asked for or tested in process itself. -/
theorem columns_ignore_codec (backend : Backend σ)
    (tested : TestsColumns dialect relation conditions) :
    (∀ names, (∀ name ∈ names, relation.hasColumn name = true) →
      (all dialect relation conditions (some names)).IgnoresCodec backend
          (LeavesUnasked dialect relation conditions names) ∧
        (first? dialect relation conditions (some names)).IgnoresCodec backend
          (LeavesUnasked dialect relation conditions names)) ∧
    (∀ field, relation.hasColumn field = true →
      (values dialect relation field conditions).IgnoresCodec backend
        (LeavesUnasked dialect relation conditions [field])) ∧
    (exist dialect relation conditions).IgnoresCodec backend
      (LeavesUnasked dialect relation conditions []) ∧
    ((∀ column ∈ relation.primaryKey, relation.hasColumn column = true) →
      (∀ record, (update dialect relation record conditions).IgnoresCodec backend
          (LeavesUnasked dialect relation conditions relation.primaryKey)) ∧
        (remove dialect relation conditions).IgnoresCodec backend
          (LeavesUnasked dialect relation conditions relation.primaryKey)) := by
  have undecoded (names : List String) (kind : PacketKind) (packet : List UInt8) :
      ¬ LeavesUnasked dialect relation conditions names (.decoded kind packet) := id
  refine ⟨fun names columns => ⟨?_, ?_⟩, fun field column => ?_, ?_, fun keys => ⟨fun record => ?_,
    ?_⟩⟩
  · exact (select_leaves columns tested false).ignoresCodec (undecoded names) backend
  · exact (select_leaves columns tested true).first.ignoresCodec (undecoded names) backend
  · exact (values_leaves column tested).ignoresCodec (undecoded [field]) backend
  · have columns : ∀ name ∈ ([] : List String), relation.hasColumn name = true := by simp
    exact (select_leaves columns tested true).isNonempty.ignoresCodec (undecoded []) backend
  · exact (update_leaves keys tested record).ignoresCodec (undecoded _) backend
  · exact (remove_leaves keys tested).ignoresCodec (undecoded _) backend

end Columns

/-- Identities of a key whose address only the caller can judge. -/
def judgedConditions : Conditions :=
  .ofList [("email", .custom ⟨"judged", fun value => some !value.isNull⟩),
    ("key", .equals (.text "key"))]

/-- A codec that reads nothing and one that makes something up are the same to whoever asks for the
names of these identities, or removes them. -/
theorem columns_ignore_codec_identities :
    (filterPlan .postgres .identities judgedConditions).app.fields = ["email"] ∧
    ((values .postgres .identities "name" judgedConditions).pull
        (Session.handle sampleBackend fun _ _ => .error (.storage "unreadable")) none
        (.start sampleRows)).1.items
      = ((values .postgres .identities "name" judgedConditions).pull
        (Session.handle sampleBackend sampleCodec) none (.start sampleRows)).1.items ∧
    (remove .postgres .identities judgedConditions).run
        (Session.handle sampleBackend fun _ _ => .error (.storage "unreadable")) (.start sampleRows)
      = (remove .postgres .identities judgedConditions).run
        (Session.handle sampleBackend sampleCodec) (.start sampleRows) := by
  have asked : (filterPlan .postgres .identities judgedConditions).app.fields = ["email"] := rfl
  have tested : TestsColumns .postgres .identities judgedConditions := by
    rw [TestsColumns, asked]
    decide
  obtain ⟨_, names, _, writes⟩ := columns_ignore_codec sampleBackend tested
  refine ⟨asked, ?_, ?_⟩
  · exact congrArg (·.1.items) (names "name" rfl _ (.whole _) _ _ none _).1
  · exact ((writes (by decide)).2 _ _ _).1

end Entries

end KeyStore
