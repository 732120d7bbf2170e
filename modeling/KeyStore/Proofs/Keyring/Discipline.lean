import KeyStore.Proofs.Entries.Faults
import KeyStore.Proofs.Keyring.Bodies
import KeyStore.Proofs.Keyring.Removal
import KeyStore.Proofs.Keyring.Revert

/-!
# Calls and the transaction

Calls are made one at a time, and each starts at rest, in a transaction or outside. A call that
finds nothing to write leaves the transaction alone (`Call.FindsNothing`). One that writes asks for
BEGIN first, and its statements can be made by then, so from there on it fails only with what the
database or the codec says (`Action.Backed`).

`disciplined` says this of every call, and that the next call starts at rest again.
-/

namespace KeyStore

open Transaction

/-! ### What holds whenever a request is put -/

namespace Action

variable {I : Interface} {α : Type} {σ : Type} {handle : Handler I σ}

/-- What the handler keeps holds whenever a request is put. -/
theorem asked_keeps (inv : σ → Prop)
    (keeps : ∀ request state, inv state → inv (handle request state).2) {action : Action I α}
    {state : σ} (holds : inv state) : ∀ moment ∈ action.asked handle state, inv moment.2 := by
  induction action generalizing state with
  | done result => exact fun _ member => absurd member List.not_mem_nil
  | fail error => exact fun _ member => absurd member List.not_mem_nil
  | ask request next ih =>
    rw [asked, List.forall_mem_cons]
    exact ⟨holds, ih _ (keeps request state holds)⟩

/-- What the handler keeps holds at the end. -/
theorem run_keeps (inv : σ → Prop)
    (keeps : ∀ request state, inv state → inv (handle request state).2) {action : Action I α}
    {state : σ} (holds : inv state) : inv (action.run handle state).2 := by
  induction action generalizing state with
  | done result => exact holds
  | fail error => exact holds
  | ask request next ih => exact ih _ (keeps request state holds)

theorem Only.asked {allowed : I.Request → Prop} {action : Action I α}
    (only : action.Only allowed) (handle : Handler I σ) (state : σ) :
    ∀ moment ∈ action.asked handle state, allowed moment.1 := by
  induction action generalizing state with
  | done result => exact fun _ member => absurd member List.not_mem_nil
  | fail error => exact fun _ member => absurd member List.not_mem_nil
  | ask request next ih =>
    rw [Action.asked, List.forall_mem_cons]
    exact ⟨only.1, ih _ (only.2 _) _⟩

end Action

namespace Session

variable {σ : Type} {backend : Backend σ} {codec : Codec} {session : Session σ}

/-- Only transaction requests concern the coordinator. -/
theorem coordinator_handle {request : StoreRequest}
    (other : ∀ command, request ≠ .transact command) :
    (handle backend codec request session).2.coordinator = session.coordinator := by
  cases request with
  | stream query shape => exact (stream_effects backend query shape session).1
  | transact command => exact absurd rfl (other command)
  | _ => rfl

theorem transact_rests (backend : Backend σ) (command : Command) (rests : session.Rests) :
    (session.transact backend command).2.Rests := by
  cases satisfied : command.isSatisfiedIn session.transaction with
  | true =>
    obtain ⟨_, transacted, rested, _⟩ := transact_of_satisfied backend rests satisfied
    rw [transacted]
    exact rested
  | false =>
    obtain ⟨coordinator, journal, transacted, sound, decided⟩ :=
      transact_of_needed backend rests satisfied
    rw [transacted]
    refine ⟨sound, ?_⟩
    rw [transaction, decided]
    intro transitioning
    split at transitioning
    · cases command <;> cases transitioning
    · cases transitioning

theorem handle_rests (backend : Backend σ) (codec : Codec) (request : StoreRequest)
    (session : Session σ) (rests : session.Rests) :
    (handle backend codec request session).2.Rests := by
  cases request with
  | transact command => exact transact_rests backend command rests
  | _ => exact rests.congr (coordinator_handle nofun)

/-- After a BEGIN that has succeeded a transaction is open. -/
theorem inside_of_begin (rests : session.Rests)
    (begun : (session.transact backend .begin).1 = .ok ()) :
    (session.transact backend .begin).2.transaction = .inside := by
  cases satisfied : Command.begin.isSatisfiedIn session.transaction with
  | true =>
    obtain ⟨_, transacted, _, same⟩ := transact_of_satisfied backend rests satisfied
    rw [transacted]
    exact same.trans (of_decide_eq_true satisfied)
  | false =>
    obtain ⟨coordinator, journal, transacted, _, decided⟩ :=
      transact_of_needed backend rests satisfied
    rw [transacted] at begun ⊢
    refine decided.trans ?_
    cases answer : (backend.execute ⟨.control .begin, []⟩ session.database).1 with
    | ok count => rfl
    | error error =>
      rw [answer] at begun
      cases begun

/-- What is open for the one that asks is open in the session. -/
theorem inside_of_opens {opened : Bool} (known : opened = true → session.transaction = .inside)
    (rests : session.Rests) {request : StoreRequest}
    (opens : StoreRequest.opens opened request (handle backend codec request session).1 = true) :
    (handle backend codec request session).2.transaction = .inside := by
  cases request with
  | transact command =>
    cases command with
    | begin =>
      have begun : (session.transact backend .begin).1 = .ok () := by
        change StoreRequest.opens opened (.transact .begin)
          (session.transact backend .begin).1 = true at opens
        generalize (session.transact backend .begin).1 = reply at opens ⊢
        cases reply with
        | ok done => rfl
        | error error => cases opens
      exact inside_of_begin rests begun
    | commit => cases opens
    | rollback => cases opens
  | _ =>
    refine (congrArg Coordinator.state (coordinator_handle ?_)).trans (known opens)
    exact nofun

/-- A careful action changes rows only while a transaction is open. -/
theorem inside_of_careful {α : Type} {action : Action Store α} {opened : Bool}
    (careful : action.Careful opened) (rests : session.Rests)
    (known : opened = true → session.transaction = .inside) :
    ∀ moment ∈ action.asked (handle backend codec) session,
      StoreRequest.Writes moment.1 → moment.2.transaction = .inside := by
  induction action generalizing session opened with
  | done result => exact fun _ member => absurd member List.not_mem_nil
  | fail error => exact fun _ member => absurd member List.not_mem_nil
  | ask request next ih =>
    rw [Action.asked, List.forall_mem_cons]
    exact ⟨fun writes => known (careful.1 writes), ih _ (careful.2 _)
      (handle_rests backend codec request session rests) (inside_of_opens known rests)⟩

/-- An action that is refused for what it has read has only read. -/
theorem Untouched.of_refused {α β : Type} {action : Action Store α} {f : α → Action Store β}
    {value : α} {error : StoreError} (reads : action.Only StoreRequest.Reads)
    (read : (action.run (Session.handle backend codec) session).1 = .ok value)
    (refused : f value = .fail error) :
    session.Untouched ((action.bind f).run (Session.handle backend codec) session).2 := by
  have asked := Untouched.of_reads backend codec reads session
  rw [Action.run_bind]
  generalize action.run (Session.handle backend codec) session = outcome at read asked
  obtain ⟨result, later⟩ := outcome
  cases read
  change session.Untouched ((f value).run (Session.handle backend codec) later).2
  rw [refused]
  exact asked

/-- What a reply brings at rest was said by the database or the codec. -/
theorem blames_at_rest {error : StoreError} {request : StoreRequest} (rests : session.Rests)
    (brought : Store.Brings error request (handle backend codec request session).1) :
    Blames backend codec error request session := by
  cases request with
  | transact command =>
    have failed : (session.transact backend command).1 = .error error := brought
    cases satisfied : command.isSatisfiedIn session.transaction with
    | true =>
      obtain ⟨_, transacted, _, _⟩ := transact_of_satisfied backend rests satisfied
      rw [transacted] at failed
      cases failed
    | false =>
      obtain ⟨_, _, transacted, _, _⟩ := transact_of_needed backend rests satisfied
      rw [transacted] at failed
      refine ⟨satisfied, ?_⟩
      cases answer : (backend.execute ⟨.control command, []⟩ session.database).1 with
      | ok count =>
        rw [answer] at failed
        cases failed
      | error failure =>
        rw [answer] at failed
        cases failed
        rfl
  | _ => exact blames_of_brings_of_ne brought nofun

end Session

/-! ### From BEGIN on -/

namespace Action

variable {α β : Type} {error : StoreError}

/-- From its BEGIN on the action fails with the error only after a reply that brings it. -/
def Backed (error : StoreError) : Action Store α → Prop
  | .done _ => True
  | .fail _ => True
  | .ask (.transact .begin) next =>
    Relays (Store.Brings error) error (.ask (I := Store) (.transact .begin) next)
  | .ask _ next => ∀ reply, Backed error (next reply)

theorem backed_ask {request : Store.Request} {next : Store.Reply request → Action Store α}
    (reads : StoreRequest.Reads request) (others : ∀ reply, (next reply).Backed error) :
    Backed error (.ask request next) := by
  cases request with
  | execute query => exact reads.elim
  | transact command => exact reads.elim
  | _ => exact others

/-- Without a BEGIN there is nothing to say. -/
theorem Only.backed {action : Action Store α}
    (only : action.Only fun request : StoreRequest => request ≠ .transact .begin) :
    action.Backed error := by
  induction action with
  | done result => trivial
  | fail error => trivial
  | ask request next ih =>
    have others := fun reply => ih reply (only.2 reply)
    cases request with
    | transact command =>
      cases command with
      | begin => exact absurd rfl only.1
      | _ => exact others
    | _ => exact others

theorem Backed.bind_of_reads {action : Action Store α} {f : α → Action Store β}
    (first : action.Only StoreRequest.Reads) (second : ∀ result, (f result).Backed error) :
    (action.bind f).Backed error := by
  induction action with
  | done result => exact second result
  | fail error => trivial
  | ask request next ih => exact backed_ask first.1 fun reply => ih reply (first.2 reply)

theorem backed_ofExcept_bind {result : Except StoreError α} {f : α → Action Store β}
    (second : ∀ value, result = .ok value → (f value).Backed error) :
    ((ofExcept result).bind f).Backed error := by
  cases result with
  | ok value => exact second value rfl
  | error error => trivial

theorem Backed.of_reads {request : Store.Request} {next : Store.Reply request → Action Store α}
    (backed : Backed error (.ask request next)) (reads : StoreRequest.Reads request) :
    ∀ reply, (next reply).Backed error := by
  cases request with
  | transact command => exact reads.elim
  | _ => exact backed

/-- What is made of the result at the end changes nothing. -/
theorem Backed.bind_done {action : Action Store α} (backed : action.Backed error) {f : α → β} :
    (action.bind fun result => .done (f result)).Backed error := by
  induction action with
  | done result => trivial
  | fail error => trivial
  | ask request next ih =>
    cases request with
    | transact command =>
      cases command with
      | begin => exact Relays.bind backed fun _ => trivial
      | _ => exact fun reply => ih reply (backed reply)
    | _ => exact fun reply => ih reply (backed reply)

/-- An action that asks for BEGIN once, and then fails, was brought the error from there on. -/
theorem Opens.blamed {σ : Type} {backend : Backend σ} {codec : Codec} {session : Session σ}
    {action : Action Store α} (opens : action.Opens) (backed : action.Backed error)
    (rests : session.Rests)
    (failed : (action.run (Session.handle backend codec) session).1 = .error error)
    {before rest : List (StoreRequest × Session σ)} {begun : Session σ}
    (split : action.asked (Session.handle backend codec) session
      = before ++ (.transact .begin, begun) :: rest) :
    ∃ moment ∈ (.transact .begin, begun) :: rest,
      Session.Blames backend codec error moment.1 moment.2 := by
  induction action generalizing session before with
  | done result => cases before <;> cases split
  | fail failure => cases before <;> cases split
  | ask request next ih =>
    have whole := split
    rw [asked_ask] at split
    have rests_later := Session.handle_rests backend codec request session rests
    rcases opens.ask_cases with ⟨reads, others⟩ | rfl
    · cases before with
      | nil =>
        cases (List.cons.inj split).1
        exact reads.elim
      | cons first before =>
        exact ih _ (others _) (backed.of_reads reads _) rests_later failed (List.cons.inj split).2
    · cases before with
      | nil =>
        obtain ⟨moment, member, brought⟩ := Relays.run backed failed
        have known : Session.Rests moment.2 := asked_keeps Session.Rests
          (Session.handle_rests backend codec) rests moment member
        rw [whole] at member
        exact ⟨moment, member, Session.blames_at_rest known brought⟩
      | cons first before =>
        -- After a BEGIN no other is asked for.
        have stays : (next (Session.handle backend codec (.transact .begin) session).1).Only
            StoreRequest.Stays := by
          generalize (Session.handle backend codec (.transact .begin) session).1 = reply
          cases reply with
          | ok done => exact opens.1
          | error error => exact (opens.2 error).mono fun _ => StoreRequest.Reads.stays
        have kept := stays.asked (Session.handle backend codec)
          (Session.handle backend codec (.transact .begin) session).2 (.transact .begin, begun)
        rw [(List.cons.inj split).2] at kept
        exact (kept (List.mem_append_right _ List.mem_cons_self)).elim

end Action

namespace Entries

variable {error : StoreError}

theorem add_backed (dialect : Sql.Dialect) (relation : Relation) (record : Record) :
    (add dialect relation record).Backed error := by
  refine Action.Backed.bind_of_reads (Action.only_ofExcept _) fun _ => ?_
  refine Action.backed_ofExcept_bind fun query _ => ?_
  exact (Store.transact_relays .begin).bind fun _ => (Store.execute_relays query).bind fun _ =>
    trivial

theorem writeRows_backed (dialect : Sql.Dialect) (relation : Relation) (conditions : Conditions)
    {statement : Conditions → Except StoreError Query} (makes : MakesAll statement) :
    (writeRows dialect relation conditions statement).Backed error :=
  writeRows_relays dialect relation conditions makes

theorem update_backed (dialect : Sql.Dialect) (relation : Relation) (record : Record)
    (conditions : Conditions) : (update dialect relation record conditions).Backed error := by
  refine Action.Backed.bind_of_reads (Action.only_ofExcept _) fun _ => ?_
  dsimp only
  split
  · trivial
  · next stored =>
    refine writeRows_backed dialect relation conditions (update_makes dialect relation ?_)
    rw [Relation.storable_storable]
    exact Bool.eq_false_iff.2 stored

theorem remove_backed (dialect : Sql.Dialect) (relation : Relation) (conditions : Conditions) :
    (remove dialect relation conditions).Backed error :=
  Action.Backed.bind_of_reads (Action.only_ofExcept _) fun _ =>
    writeRows_backed dialect relation conditions (delete_makes dialect relation)

/-- There is nothing to insert. -/
theorem add_reads_of_bare (dialect : Sql.Dialect) {relation : Relation} {record : Record}
    (bare : (relation.storable record).isEmpty = true) :
    (add dialect relation record).Only StoreRequest.Reads := by
  refine (Action.only_ofExcept _).bind fun _ => Action.only_ofExcept_bind fun query made => ?_
  rw [Query.insert, if_pos bare] at made
  cases made

/-- There is nothing to update. -/
theorem update_reads_of_bare (dialect : Sql.Dialect) {relation : Relation} {record : Record}
    (conditions : Conditions) (bare : (relation.storable record).isEmpty = true) :
    (update dialect relation record conditions).Only StoreRequest.Reads := by
  refine (Action.only_ofExcept _).bind fun _ => ?_
  dsimp only
  rw [if_pos bare]
  trivial

end Entries

namespace Keyring

variable {error : StoreError}

theorem add_backed (keyring : Keyring) (collection : Collection) (record : Record) :
    (keyring.add collection record).Backed error := by
  unfold add
  split
  · refine Action.Backed.bind_of_reads (Entries.exist_reads _ _ _) fun known => ?_
    cases known with
    | true => exact Entries.add_backed _ _ _
    | false => trivial
  · exact Entries.add_backed _ _ _

theorem update_backed (keyring : Keyring) (collection : Collection) (id : String)
    (record : Record) : (keyring.update collection id record).Backed error :=
  (Entries.update_backed _ _ _ _).bind_done

theorem remove_backed (keyring : Keyring) (collection : Collection) (id : String) :
    (keyring.remove collection id).Backed error := by
  refine Action.Backed.bind_of_reads (keyring.firstDependent?_reads _) fun found => ?_
  cases found with
  | some label => trivial
  | none => exact (Entries.remove_backed _ _ _).bind_done

theorem add_reads_of_bare (keyring : Keyring) (collection : Collection) {record : Record}
    (bare : (collection.target.storable (collection.stamp.record.overlay record)).isEmpty = true) :
    (keyring.add collection record).Only StoreRequest.Reads := by
  unfold add
  split
  · refine (Entries.exist_reads _ _ _).bind fun known => ?_
    cases known with
    | true => exact Entries.add_reads_of_bare _ bare
    | false => trivial
  · exact Entries.add_reads_of_bare _ bare

end Keyring

/-! ### Calls -/

namespace Call

/-- The call neither writes nor creates nor ends the transaction. -/
def isRead : Call → Bool
  | bootstrap _ | initialise | add _ _ | update _ _ _ | remove _ _ | save | revert => false
  | _ => true

theorem reads_of_isRead (keyring : Keyring) {call : Call} (read : call.isRead = true) :
    (call.body keyring).action.Only StoreRequest.Reads := by
  unfold body
  cases call with
  | list collection conditions wanted => exact Body.only_draw (keyring.ids_reads _ _ _) wanted
  | entries collection conditions fields wanted =>
    exact Body.only_draw (Entries.select_reads _ _ _ _ _) wanted
  | selfSignedEntries collection conditions fields wanted =>
    exact Body.only_draw (Entries.select_reads _ _ _ _ _) wanted
  | parents subkey wanted => exact Body.only_draw (keyring.ids_reads _ _ _) wanted
  | signaturesBy kind issuer conditions wanted =>
    exact Body.only_draw (keyring.signaturesBy_reads _ _ _) wanted
  | searchIdentities search wanted =>
    exact Body.only_draw (keyring.searchIdentities_reads _) wanted
  | searchShortId shortId wanted => exact Body.only_draw (keyring.searchKeys_reads _) wanted
  | searchLongId id wanted => exact Body.only_draw (keyring.searchKeys_reads _) wanted
  | searchFingerprint fingerprint wanted => exact Body.only_draw (keyring.searchKeys_reads _) wanted
  | contains collection id => exact Body.only_act (Entries.exist_reads _ _ _)
  | find collection id fields => exact Body.only_act (Entries.first?_reads _ _ _ _)
  | findSelfSigned collection id fields => exact Body.only_act (Entries.first?_reads _ _ _ _)
  | relationNames => exact Body.only_act keyring.relationNames_reads
  | _ => cases read

/-- What a call can do besides reading: it creates, opens a transaction to write, or ends one. -/
inductive Role (action : Action Store Unit) : Prop where
  | sparing (only : action.Only StoreRequest.Spares)
  | opening (opens : action.Opens) (backed : ∀ error, action.Backed error)
  | ending (command : Command) (other : command ≠ .begin)
      (alone : action = (Body.act (Store.transact command)).action)

theorem role (keyring : Keyring) (call : Call) : Role (call.body keyring).action := by
  cases read : call.isRead with
  | true => exact .sparing ((reads_of_isRead keyring read).mono fun _ => StoreRequest.Reads.spares)
  | false =>
    cases call with
    | bootstrap objects => exact .sparing (Body.only_act (keyring.bootstrap_spares objects))
    | initialise =>
      -- The script is long, and what it says does not matter here.
      unfold body Keyring.initialise
      generalize Schema.parse Schema.keyringScript = parsed
      exact .sparing (Body.only_act (keyring.bootstrap_parsed_spares parsed))
    | add collection record =>
      exact .opening (keyring.add_opens _ _).bind_done
        fun _ => (keyring.add_backed _ _).bind_done
    | update collection id record =>
      exact .opening (keyring.update_opens _ _ _).bind_done
        fun _ => (keyring.update_backed _ _ _).bind_done
    | remove collection id =>
      exact .opening (keyring.remove_opens _ _).bind_done
        fun _ => (keyring.remove_backed _ _).bind_done
    | save => exact .ending .commit nofun rfl
    | revert => exact .ending .rollback nofun rfl
    | _ => cases read

theorem ending_only {command : Command} (other : command ≠ .begin) :
    (Body.act (Store.transact command)).action.Only
      fun request : StoreRequest => request ≠ .transact .begin := by
  refine ⟨fun same => other (StoreRequest.transact.inj same), fun reply => ?_⟩
  cases reply <;> trivial

theorem Role.careful {action : Action Store Unit} (role : Role action) : action.Careful false := by
  cases role with
  | sparing only => exact only.careful_of_spares false
  | opening opens => exact opens.careful false
  | ending command other alone =>
    subst alone
    refine ⟨fun writes => writes.elim, fun reply => ?_⟩
    cases reply <;> trivial

theorem Role.backed {action : Action Store Unit} (role : Role action) (error : StoreError) :
    action.Backed error := by
  cases role with
  | sparing only => exact (only.mono fun _ spares => spares.1.ne_transact .begin).backed
  | opening _ backed => exact backed error
  | ending command other alone =>
    subst alone
    exact (ending_only other).backed

theorem Role.blamed {σ : Type} {backend : Backend σ} {codec : Codec} {session : Session σ}
    {action : Action Store Unit} (role : Role action) {error : StoreError} (rests : session.Rests)
    (failed : (action.run (Session.handle backend codec) session).1 = .error error)
    {before rest : List (StoreRequest × Session σ)} {begun : Session σ}
    (split : action.asked (Session.handle backend codec) session
      = before ++ (.transact .begin, begun) :: rest) :
    ∃ moment ∈ (.transact .begin, begun) :: rest,
      Session.Blames backend codec error moment.1 moment.2 := by
  have member : (.transact .begin, begun)
      ∈ action.asked (Session.handle backend codec) session := by
    rw [split]
    exact List.mem_append_right _ List.mem_cons_self
  cases role with
  | sparing only => exact absurd (only.asked _ session _ member).1 id
  | opening opens backed => exact opens.blamed (backed error) rests failed split
  | ending command other alone =>
    subst alone
    exact absurd rfl ((ending_only other).asked _ session _ member)

variable {σ : Type}

/-- There is nothing to write for the call: it reads, or its record has no field that is stored, or
it adds a subkey to a key that is not found, or others are found to hang on what it removes. -/
def FindsNothing (keyring : Keyring) (handle : Handler Store σ) (state : σ) : Call → Prop
  | add collection record =>
    (collection.target.storable (collection.stamp.record.overlay record)).isEmpty = true ∨
      ∃ key, collection = .subkeys key ∧
        ((keyring.contains .keys key).run handle state).1 = .ok false
  | update collection _ record => (collection.target.storable record).isEmpty = true
  | remove collection id => ∃ label,
      ((keyring.firstDependent? (collection.dependents id)).run handle state).1 = .ok (some label)
  | call => call.isRead = true

/-- A call that finds nothing to write runs no statement, and does not touch the transaction. -/
theorem untouched_of_findsNothing (keyring : Keyring) (backend : Backend σ) (codec : Codec)
    {call : Call} {session : Session σ}
    (nothing : call.FindsNothing keyring (Session.handle backend codec) session) :
    session.Untouched (call.run keyring (Session.handle backend codec) session).2 := by
  have reading (read : call.isRead = true) :
      session.Untouched (call.run keyring (Session.handle backend codec) session).2 := by
    rw [run_eq]
    exact Session.Untouched.of_reads backend codec (reads_of_isRead keyring read) session
  cases call with
  | add collection record =>
    rcases nothing with bare | ⟨key, rfl, absent⟩
    · exact Session.Untouched.of_reads backend codec (keyring.add_reads_of_bare _ bare) session
    · rw [run, act_snd]
      exact Session.Untouched.of_refused (Entries.exist_reads _ _ _) absent rfl
  | update collection id record =>
    have reads : (keyring.update collection id record).Only StoreRequest.Reads :=
      (Entries.update_reads_of_bare keyring.dialect _ nothing).bind fun _ => trivial
    exact Session.Untouched.of_reads backend codec reads session
  | remove collection id =>
    obtain ⟨label, found⟩ := nothing
    rw [run, act_snd]
    exact Session.Untouched.of_refused (keyring.firstDependent?_reads _) found rfl
  | _ => exact reading nothing

/-- What a call does about the transaction. -/
structure Disciplined (keyring : Keyring) (backend : Backend σ) (codec : Codec) (call : Call)
    (session : Session σ) : Prop where
  /-- Rows are changed only while a transaction is open. -/
  inside : ∀ moment ∈ call.asked keyring (Session.handle backend codec) session,
    moment.1.Writes → moment.2.transaction = .inside
  /-- A call that finds nothing to write runs no statement and leaves the transaction as it was. -/
  untouched : call.FindsNothing keyring (Session.handle backend codec) session →
    session.Untouched (call.run keyring (Session.handle backend codec) session).2
  /-- Once it has asked for BEGIN, whether that was put or a transaction was open, the call fails
  only with what the database or the codec says from there on. -/
  blamed : ∀ before begun rest error,
    call.asked keyring (Session.handle backend codec) session
      = before ++ (.transact .begin, begun) :: rest →
    (call.run keyring (Session.handle backend codec) session).1 = .error error →
    ∃ moment ∈ (.transact .begin, begun) :: rest,
      Session.Blames backend codec error moment.1 moment.2
  /-- The next call starts at rest. -/
  rests : (call.run keyring (Session.handle backend codec) session).2.Rests

/-- Every call that starts at rest, in a transaction or outside, whatever the database and the codec
say. -/
theorem disciplined (keyring : Keyring) (backend : Backend σ) (codec : Codec) (call : Call)
    {session : Session σ} (rests : session.Rests) :
    call.Disciplined keyring backend codec session where
  inside := Session.inside_of_careful (call.role keyring).careful rests nofun
  untouched := untouched_of_findsNothing keyring backend codec
  blamed before begun rest error split failed := by
    rw [run_eq] at failed
    exact (call.role keyring).blamed rests failed split
  rests := by
    rw [run_eq]
    exact Action.run_keeps Session.Rests (Session.handle_rests backend codec) rests

/-- A key has been added; an update without a stored field leaves the open transaction. -/
theorem disciplined_after_add :
    ((Use.addsKey "A").run Use.mainKeyring (Session.handle (Use.countingEngine true).backend
        Use.silentCodec) (.start (.start 0))).2.transaction = .inside ∧
      ((Use.addsKey "A").run Use.mainKeyring (Session.handle (Use.countingEngine true).backend
          Use.silentCodec) (.start (.start 0))).2.Untouched
        ((Call.update .keys "A" .empty).run Use.mainKeyring
          (Session.handle (Use.countingEngine true).backend Use.silentCodec)
          ((Use.addsKey "A").run Use.mainKeyring (Session.handle (Use.countingEngine true).backend
            Use.silentCodec) (.start (.start 0))).2).2 := by
  have added := disciplined Use.mainKeyring (Use.countingEngine true).backend Use.silentCodec
    (Use.addsKey "A") (Session.start_rests (Storage.start 0))
  have updated := disciplined Use.mainKeyring (Use.countingEngine true).backend Use.silentCodec
    (.update .keys "A" .empty) added.rests
  exact ⟨rfl, updated.untouched rfl⟩

end Call

end KeyStore
