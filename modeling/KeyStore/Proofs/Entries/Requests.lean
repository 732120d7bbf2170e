import KeyStore.Entries.Writing
import KeyStore.Proofs.Sequence.Only

/-!
# The requests of reads and writes

A read puts no request that runs a statement or that concerns the transaction. A write reads until
it asks for BEGIN. If that fails it runs no statement; if it succeeds it goes on to the end without
another transaction request. `add_opens`, `update_opens` and `remove_opens` hold whatever is
replied.

Hence a write is careful: it runs the statements that change rows only after a BEGIN that it has
asked for itself, and that has succeeded.
-/

namespace KeyStore

/-- The statement adds, changes or removes rows. -/
def Statement.changesRows : Statement → Bool
  | .insert _ _ | .update _ _ _ | .delete _ _ => true
  | _ => false

/-- The statement is a transaction command. -/
def Statement.controls : Statement → Bool
  | .control _ => true
  | _ => false

namespace StoreRequest

/-- The request runs no statement and does not concern the transaction. -/
def Reads : StoreRequest → Prop
  | .execute _ | .transact _ => False
  | _ => True

/-- The request runs a statement that changes rows. -/
def Writes : StoreRequest → Prop
  | .execute query => query.statement.changesRows = true
  | _ => False

/-- The request does not concern the transaction. -/
def Stays : StoreRequest → Prop
  | .transact _ => False
  | .execute query => query.statement.controls = false
  | _ => True

/-- The request does not concern the transaction and changes no rows. -/
def Spares (request : StoreRequest) : Prop := request.Stays ∧ ¬ request.Writes

theorem Reads.stays {request : StoreRequest} (reads : request.Reads) : request.Stays := by
  cases request with
  | execute query => exact reads.elim
  | transact command => exact reads
  | _ => trivial

theorem Stays.ne_transact {request : StoreRequest} (stays : request.Stays)
    (command : Transaction.Command) : request ≠ .transact command := by
  rintro rfl
  exact stays

theorem Reads.not_writes {request : StoreRequest} (reads : request.Reads) : ¬ request.Writes := by
  cases request with
  | execute query => exact reads.elim
  | _ => exact id

theorem Reads.spares {request : StoreRequest} (reads : request.Reads) : request.Spares :=
  ⟨reads.stays, reads.not_writes⟩

/-- Whether a transaction is open for whoever has put the request and was given the reply. -/
def opens (opened : Bool) : (request : StoreRequest) → StoreReply request → Bool
  | .transact .begin, .ok () => true
  | .transact _, _ => false
  | _, _ => opened

/-- Whether a transaction was open does not matter to what a transaction request leads to. -/
theorem opens_transact (opened : Bool) (command : Transaction.Command)
    (reply : Except StoreError Unit) :
    opens opened (.transact command) reply = opens false (.transact command) reply := by
  cases command <;> cases reply <;> rfl

theorem opens_eq {request : StoreRequest} (other : ∀ command, request ≠ .transact command)
    (opened : Bool) (reply : StoreReply request) : opens opened request reply = opened := by
  cases request with
  | transact command => exact absurd rfl (other command)
  | _ => rfl

end StoreRequest

namespace Action

variable {α β : Type}

/-- The action changes rows only while a transaction is open that it has asked for, where `opened`
says whether one is open at its start. -/
def Careful : Bool → Action Store α → Prop
  | _, .done _ => True
  | _, .fail _ => True
  | opened, .ask request next =>
    (StoreRequest.Writes request → opened = true) ∧
      ∀ reply, Careful (StoreRequest.opens opened request reply) (next reply)

/-- The action only reads until it asks for BEGIN. If that succeeds it asks for nothing more about
the transaction; if not it only reads. -/
def Opens : Action Store α → Prop
  | .done _ => True
  | .fail _ => True
  | .ask (.transact .begin) next =>
    (next (.ok ())).Only StoreRequest.Stays ∧
      ∀ error, (next (.error error)).Only StoreRequest.Reads
  | .ask request next => StoreRequest.Reads request ∧ ∀ reply, Opens (next reply)

/-- With the transaction open, an action that leaves it open may do anything else. -/
theorem Only.careful {action : Action Store α} (only : action.Only StoreRequest.Stays) :
    action.Careful true := by
  induction action with
  | done result => trivial
  | fail error => trivial
  | ask request next ih =>
    refine ⟨fun _ => rfl, fun reply => ?_⟩
    rw [StoreRequest.opens_eq (StoreRequest.Stays.ne_transact only.1)]
    exact ih reply (only.2 reply)

theorem Only.careful_of_spares {action : Action Store α} (only : action.Only StoreRequest.Spares)
    (opened : Bool) : action.Careful opened := by
  induction action with
  | done result => trivial
  | fail error => trivial
  | ask request next ih =>
    refine ⟨fun writes => absurd writes only.1.2, fun reply => ?_⟩
    rw [StoreRequest.opens_eq (StoreRequest.Stays.ne_transact only.1.1)]
    exact ih reply (only.2 reply)

theorem Only.careful_of_reads {action : Action Store α} (only : action.Only StoreRequest.Reads)
    (opened : Bool) : action.Careful opened :=
  (only.mono fun _ => StoreRequest.Reads.spares).careful_of_spares opened

theorem opens_ask {request : Store.Request} {next : Store.Reply request → Action Store α}
    (reads : StoreRequest.Reads request) (others : ∀ reply, (next reply).Opens) :
    Opens (.ask request next) := by
  cases request with
  | execute query => exact reads.elim
  | transact command => exact reads.elim
  | _ => exact ⟨reads, others⟩

/-- An action that opens a transaction reads first, or asks for BEGIN. -/
theorem Opens.ask_cases {request : Store.Request} {next : Store.Reply request → Action Store α}
    (opens : Opens (.ask request next)) :
    (StoreRequest.Reads request ∧ ∀ reply, (next reply).Opens) ∨ request = .transact .begin := by
  cases request with
  | transact command =>
    cases command with
    | begin => exact Or.inr rfl
    | _ => exact opens.1.elim
  | _ => exact Or.inl opens

theorem Opens.careful {action : Action Store α} (opens : action.Opens) (opened : Bool) :
    action.Careful opened := by
  induction action with
  | done result => trivial
  | fail error => trivial
  | ask request next ih =>
    rcases opens.ask_cases with ⟨reads, others⟩ | rfl
    · refine ⟨fun writes => absurd writes reads.not_writes, fun reply => ?_⟩
      rw [StoreRequest.opens_eq reads.stays.ne_transact]
      exact ih reply (others reply)
    · refine ⟨fun writes => writes.elim, fun reply => ?_⟩
      cases reply with
      | ok done => exact Only.careful opens.1
      | error error => exact (opens.2 error).careful_of_reads _

/-- Reading first changes nothing. -/
theorem Opens.bind_of_reads {action : Action Store α} {f : α → Action Store β}
    (first : action.Only StoreRequest.Reads) (second : ∀ result, (f result).Opens) :
    (action.bind f).Opens := by
  induction action with
  | done result => exact second result
  | fail error => trivial
  | ask request next ih => exact opens_ask first.1 fun reply => ih reply (first.2 reply)

/-- What is made of the result at the end changes nothing. -/
theorem Opens.bind_done {action : Action Store α} (opens : action.Opens) {f : α → β} :
    (action.bind fun result => .done (f result)).Opens := by
  induction action with
  | done result => trivial
  | fail error => trivial
  | ask request next ih =>
    rcases opens.ask_cases with ⟨reads, others⟩ | rfl
    · exact opens_ask reads fun reply => ih reply (others reply)
    · exact ⟨opens.1.bind fun _ => trivial, fun error => (opens.2 error).bind fun _ => trivial⟩

theorem opens_ofExcept_bind {result : Except StoreError α} {f : α → Action Store β}
    (second : ∀ value, result = .ok value → (f value).Opens) :
    ((ofExcept result).bind f).Opens := by
  cases result with
  | ok value => exact second value rfl
  | error error => trivial

theorem opens_begin_bind {f : Unit → Action Store α} (second : (f ()).Only StoreRequest.Stays) :
    ((Store.transact .begin).bind f).Opens :=
  ⟨second, fun _ => trivial⟩

/-- A transaction request alone. -/
theorem careful_transact (command : Transaction.Command) (opened : Bool) :
    (Store.transact command).Careful opened := by
  refine ⟨fun writes => writes.elim, fun reply => ?_⟩
  cases reply <;> trivial

end Action

/-! ### Reads -/

namespace Store

theorem take_only {allowed : StoreRequest → Prop} {stream : Nat} (takes : allowed (.take stream)) :
    (take stream).Only allowed :=
  ⟨takes, fun _ => trivial⟩

theorem decode_only {allowed : StoreRequest → Prop} {kind : PacketKind} {packet : List UInt8}
    (decodes : allowed (.decode kind packet)) : (decode kind packet).Only allowed :=
  ⟨decodes, fun _ => Action.only_ofExcept _⟩

theorem execute_stays {query : Query} (changes : query.statement.changesRows = true) :
    (execute query).Only StoreRequest.Stays := by
  refine ⟨?_, fun _ => Action.only_ofExcept _⟩
  cases statement : query.statement <;> simp_all [Statement.changesRows, StoreRequest.Stays,
    Statement.controls]

theorem rows_reads (query : Query) (shape : RowShape) :
    (rows query shape).Only StoreRequest.Reads := by
  refine ⟨trivial, fun reply => ?_⟩
  cases reply with
  | error error => trivial
  | ok opened => exact Sequence.only_ofItems (fun _ => take_only trivial) opened.2

end Store

/-- A query for rows is what it was made as. -/
theorem Query.statement_of_select {dialect : Sql.Dialect} {relation : Relation}
    {projection : Projection} {conditions : Conditions} {suffix : Option String} {query : Query}
    (made : select dialect relation projection conditions suffix = .ok query) :
    ∃ parts, query.statement = .select projection relation.name parts suffix := by
  unfold select onRows at made
  split at made
  · cases made
  · cases made
    exact ⟨_, rfl⟩

namespace Entries

/-- What is tested and cut in process puts no requests of its own. -/
theorem ofRows_only_of_decoded {allowed : StoreRequest → Prop} {relation : Relation}
    {plan : FetchPlan} {rows : Sequence Store Record}
    (decoded : (if plan.decode then rows.map (reconstruct relation) else rows).Only allowed)
    (fields : Option (List String)) (app : Conditions) :
    (ofRows relation fields plan app rows).Only allowed := by
  have kept : (if app.isEmpty then if plan.decode then rows.map (reconstruct relation) else rows
      else (if plan.decode then rows.map (reconstruct relation) else rows).filter
        app.accepts).Only allowed := by
    split
    · exact decoded
    · exact decoded.filter app.accepts
  unfold ofRows
  cases fields with
  | none => exact kept
  | some fields => exact kept.map fun _ => trivial

/-- Besides the requests for its rows, a read asks for packets to be read. -/
theorem ofRows_only {allowed : StoreRequest → Prop}
    (decodes : ∀ kind packet, allowed (.decode kind packet)) (relation : Relation)
    (fields : Option (List String)) (plan : FetchPlan) (app : Conditions)
    {rows : Sequence Store Record} (only : rows.Only allowed) :
    (ofRows relation fields plan app rows).Only allowed := by
  have reconstructs (row : Record) : (reconstruct relation row).Only allowed := by
    unfold reconstruct
    split
    · trivial
    · exact (Store.decode_only (decodes _ _)).bind fun _ => trivial
  apply ofRows_only_of_decoded
  split
  · exact only.map reconstructs
  · exact only

/-- Where packets are left unread, a read puts the requests for its rows alone. -/
theorem ofRows_only_of_not_decode {allowed : StoreRequest → Prop} {plan : FetchPlan}
    (unread : plan.decode = false) {relation : Relation} {rows : Sequence Store Record}
    (only : rows.Only allowed) (fields : Option (List String)) (app : Conditions) :
    (ofRows relation fields plan app rows).Only allowed := by
  apply ofRows_only_of_decoded
  rw [unread]
  exact only

theorem select_reads (dialect : Sql.Dialect) (relation : Relation) (conditions : Conditions)
    (fields : Option (List String)) (single : Bool) :
    (select dialect relation conditions fields single).Only StoreRequest.Reads := by
  unfold select
  dsimp only
  split
  · trivial
  · exact ofRows_only (fun _ _ => trivial) relation fields _ _ (Store.rows_reads _ _)

theorem values_reads (dialect : Sql.Dialect) (relation : Relation) (field : String)
    (conditions : Conditions) :
    (values dialect relation field conditions).Only StoreRequest.Reads :=
  (select_reads dialect relation conditions (some [field]) false).map fun _ => trivial

theorem first?_reads (dialect : Sql.Dialect) (relation : Relation) (conditions : Conditions)
    (fields : Option (List String)) :
    (first? dialect relation conditions fields).Only StoreRequest.Reads :=
  (select_reads dialect relation conditions fields true).first

theorem exist_reads (dialect : Sql.Dialect) (relation : Relation) (conditions : Conditions) :
    (exist dialect relation conditions).Only StoreRequest.Reads :=
  (select_reads dialect relation conditions (some []) true).isNonempty

theorem targets_reads (dialect : Sql.Dialect) (relation : Relation) (conditions : Conditions) :
    (targets dialect relation conditions).Only StoreRequest.Reads :=
  (select_reads dialect relation conditions (some relation.primaryKey) false).map fun _ => trivial

/-! ### Writes -/

/-- A statement on rows is what it was made as. -/
theorem changesRows_of_onRows {args : Sql.Arguments} {conditions : Conditions}
    {statement : List Sql.Condition → Statement} {query : Query}
    (made : Query.onRows args conditions statement = .ok query)
    (changes : ∀ parts, (statement parts).changesRows = true) :
    query.statement.changesRows = true := by
  unfold Query.onRows at made
  split at made
  · cases made
  · cases made
    exact changes _

theorem changesRows_of_insert {dialect : Sql.Dialect} {relation : Relation} {record : Record}
    {query : Query} (made : Query.insert dialect relation record = .ok query) :
    query.statement.changesRows = true := by
  unfold Query.insert at made
  dsimp only at made
  split at made
  · cases made
  · cases made
    rfl

theorem changesRows_of_update {dialect : Sql.Dialect} {relation : Relation} {record : Record}
    {conditions : Conditions} {query : Query}
    (made : Query.update dialect relation record conditions = .ok query) :
    query.statement.changesRows = true := by
  unfold Query.update at made
  dsimp only at made
  split at made
  · cases made
  · exact changesRows_of_onRows made fun _ => rfl

theorem changesRows_of_delete {dialect : Sql.Dialect} {relation : Relation}
    {conditions : Conditions} {query : Query}
    (made : Query.delete dialect relation conditions = .ok query) :
    query.statement.changesRows = true :=
  changesRows_of_onRows made fun _ => rfl

theorem writeRows_opens (dialect : Sql.Dialect) (relation : Relation) (conditions : Conditions)
    {statement : Conditions → Except StoreError Query}
    (changes : ∀ target query, statement target = .ok query → query.statement.changesRows = true) :
    (writeRows dialect relation conditions statement).Opens := by
  refine Action.opens_begin_bind ?_
  have written (target : Conditions) (count : UInt64) :
      Action.Only StoreRequest.Stays ((Action.ofExcept (statement target)).bind fun query =>
        (Store.execute query).bind fun affected => .done (count + affected)) :=
    Action.only_ofExcept_bind fun query made =>
      (Store.execute_stays (changes target query made)).bind fun _ => trivial
  split
  · exact Action.only_ofExcept_bind fun query made => Store.execute_stays (changes _ query made)
  · exact ((targets_reads dialect relation conditions).mono fun _ => StoreRequest.Reads.stays).fold
      (fun count target => written target count) 0

theorem add_opens (dialect : Sql.Dialect) (relation : Relation) (record : Record) :
    (add dialect relation record).Opens := by
  refine Action.Opens.bind_of_reads (Action.only_ofExcept _) fun _ => ?_
  refine Action.opens_ofExcept_bind fun query made => Action.opens_begin_bind ?_
  exact (Store.execute_stays (changesRows_of_insert made)).bind fun _ => trivial

theorem update_opens (dialect : Sql.Dialect) (relation : Relation) (record : Record)
    (conditions : Conditions) : (update dialect relation record conditions).Opens := by
  refine Action.Opens.bind_of_reads (Action.only_ofExcept _) fun _ => ?_
  dsimp only
  split
  · trivial
  · exact writeRows_opens dialect relation conditions fun _ _ => changesRows_of_update

theorem remove_opens (dialect : Sql.Dialect) (relation : Relation) (conditions : Conditions) :
    (remove dialect relation conditions).Opens :=
  Action.Opens.bind_of_reads (Action.only_ofExcept _) fun _ =>
    writeRows_opens dialect relation conditions fun _ _ => changesRows_of_delete

end Entries

end KeyStore
