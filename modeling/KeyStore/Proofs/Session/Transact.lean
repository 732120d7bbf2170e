import KeyStore.Proofs.Sequence.Gives
import KeyStore.Proofs.Transaction.Invariant
import KeyStore.Session

/-!
# Transaction requests, one at a time

While calls are made one at a time, a transaction request finds the session at rest and leaves it at
rest. Either it has what it asks for and nothing is put to the database, or its statement is put and
the answer decides the new state.
-/

namespace KeyStore

open Transaction

namespace Transaction.Coordinator

variable {c : Coordinator}

/-- The answer to a statement that was put at rest decides the state. -/
theorem state_acknowledge_arrive (sound : Sound c) {command : Command}
    (rests : c.state ≠ .transitioning) (needs : command.isSatisfiedIn c.state = false)
    (result : Except StoreError Unit) :
    ((c.arrive command).acknowledge result).state
      = match result with
        | .ok _ => command.target
        | .error _ => .idle := by
  rcases arrive_cases c command with
    ⟨queue, phase, _⟩ | ⟨_, satisfied, _⟩ | ⟨_, _, arrived⟩
  · exact absurd (by rw [state, phase]; rfl) rests
  · rw [needs] at satisfied
    cases satisfied
  · have issuing : (c.arrive command).requests[c.requests.length]? = some ⟨command, .issuing⟩ := by
      simp [arrived]
    have alone : (c.arrive command).inFlight? = some c.requests.length := by
      cases flies : (c.arrive command).inFlight? with
      | none =>
        have idle := inFlight?_eq_none_iff.1 flies c.requests.length
        exact absurd (by simp [standing?, issuing]) idle
      | some number =>
        obtain ⟨_, other⟩ := inFlight?_eq_some flies
        rw [(arrive_sound sound command).unique number c.requests.length
          (Or.inr (by simp [standing?, other])) (Or.inr (by simp [standing?, issuing]))]
    have empty : (c.arrive command).phase = .transitioning [] := by rw [arrived]
    simp only [acknowledge, alone, issuing]
    cases result with
    | error error => rfl
    | ok done =>
      simp only [settle, queue, empty, serve]
      cases command <;> rfl

end Transaction.Coordinator

namespace Session

variable {σ : Type} {session : Session σ}

/-- No transaction statement is awaited. -/
structure Rests (session : Session σ) : Prop where
  sound : session.coordinator.Sound
  still : session.transaction ≠ .transitioning

theorem run_execute (backend : Backend σ) (codec : Codec) (query : Query) (session : Session σ) :
    (Store.execute query).run (handle backend codec) session = session.execute backend query :=
  Action.run_requestOrFail (I := Store) (.execute query) id session

/-- A statement that succeeds. -/
theorem run_execute_of_ok {backend : Backend σ} (codec : Codec) {query : Query} {count : UInt64}
    {database : σ} (executed : backend.execute query session.database = (.ok count, database)) :
    (Store.execute query).run (handle backend codec) session
      = (.ok count, { session.record (.executed query) with database }) := by
  rw [run_execute, execute, record, executed]

theorem run_transact (backend : Backend σ) (codec : Codec) (command : Command)
    (session : Session σ) :
    (Store.transact command).run (handle backend codec) session
      = session.transact backend command :=
  Action.run_requestOrFail (I := Store) (.transact command) id session

/-- Opening a stream does to the database what the backend does, whether it opens or not. -/
theorem stream_effects (backend : Backend σ) (query : Query) (shape : RowShape)
    (session : Session σ) :
    (session.stream backend query shape).2.coordinator = session.coordinator ∧
      (session.stream backend query shape).2.database
        = (backend.stream query shape session.database).2 := by
  simp only [stream, record]
  split <;> next opened => exact ⟨rfl, by rw [opened]⟩

/-- A stream that opens is numbered. -/
theorem stream_of_ok {backend : Backend σ} {query : Query} {shape : RowShape} {rows : Rows}
    {database : σ} (replied : backend.stream query shape session.database = (.ok rows, database)) :
    session.stream backend query shape = (.ok (session.streams, rows),
      { session.record (.streamed query shape) with
        database, streams := session.streams + 1 }) := by
  simp only [stream, record, replied]

theorem start_rests (database : σ) : Rests (start database) :=
  ⟨Coordinator.initial_sound, nofun⟩

theorem Rests.congr (rests : Rests session) {later : Session σ}
    (same : later.coordinator = session.coordinator) : Rests later :=
  ⟨same ▸ rests.sound, by rw [transaction, same]; exact rests.still⟩

/-- A request for what is there already. -/
theorem transact_of_satisfied (backend : Backend σ) {command : Command} (rests : Rests session)
    (satisfied : command.isSatisfiedIn session.transaction = true) :
    ∃ coordinator, session.transact backend command = (.ok (), { session with coordinator }) ∧
      Rests { session with coordinator } ∧ coordinator.state = session.transaction := by
  have sound := Coordinator.arrive_sound rests.sound command
  rcases Coordinator.arrive_cases session.coordinator command with
    ⟨queue, phase, _⟩ | ⟨_, _, arrived⟩ | ⟨_, needs, _⟩
  · exact absurd (by rw [transaction, Coordinator.state, phase]; rfl) rests.still
  · refine ⟨session.coordinator.arrive command, ?_, ⟨sound, ?_⟩, ?_⟩
    · rw [transact, arrived]
      simp [Coordinator.standing?]
    · rw [transaction, arrived]
      exact rests.still
    · rw [arrived]
      rfl
  · rw [transaction, needs] at satisfied
    cases satisfied

/-- A request that has to put its statement. -/
theorem transact_of_needed (backend : Backend σ) {command : Command} (rests : Rests session)
    (needs : command.isSatisfiedIn session.transaction = false) :
    ∃ coordinator journal, session.transact backend command
        = ((backend.execute ⟨.control command, []⟩ session.database).1.map fun _ => (),
          { session with
            coordinator
            database := (backend.execute ⟨.control command, []⟩ session.database).2
            journal }) ∧
      coordinator.Sound ∧
      coordinator.state
        = match (backend.execute ⟨.control command, []⟩ session.database).1 with
          | .ok _ => command.target
          | .error _ => .idle := by
  have sound := Coordinator.arrive_sound rests.sound command
  have decided := Coordinator.state_acknowledge_arrive rests.sound rests.still needs
    ((backend.execute ⟨.control command, []⟩ session.database).1.map fun _ => ())
  have issuing : (session.coordinator.arrive command).standing?
      session.coordinator.requests.length = some .issuing := by
    rcases Coordinator.arrive_cases session.coordinator command with
      ⟨queue, phase, _⟩ | ⟨_, satisfied, _⟩ | ⟨_, _, arrived⟩
    · exact absurd (by rw [transaction, Coordinator.state, phase]; rfl) rests.still
    · rw [transaction] at needs
      rw [needs] at satisfied
      cases satisfied
    · rw [arrived, Coordinator.standing?_concat, if_pos rfl]
  refine ⟨(session.coordinator.arrive command).acknowledge
      ((backend.execute ⟨.control command, []⟩ session.database).1.map fun _ => ()),
    session.journal ++ [.executed ⟨.control command, []⟩], ?_,
    Coordinator.acknowledge_sound sound _, ?_⟩
  · simp only [transact, issuing, execute, record]
  · rw [decided]
    cases (backend.execute ⟨.control command, []⟩ session.database).1 <;> rfl

/-- Where BEGIN is answered, it succeeds at rest, and what it leaves of the database is left. -/
theorem Rests.begin {τ : Type} {backend : Backend σ} {view : σ → τ} (rests : Rests session)
    (begins : ∀ state, ∃ count later,
      backend.execute ⟨.control .begin, []⟩ state = (.ok count, later) ∧ view later = view state) :
    ∃ later, session.transact backend .begin = (.ok (), later) ∧
      view later.database = view session.database ∧ Rests later := by
  cases satisfied : Command.begin.isSatisfiedIn session.transaction with
  | true =>
    obtain ⟨_, transacted, rested, _⟩ := transact_of_satisfied backend rests satisfied
    exact ⟨_, transacted, rfl, rested⟩
  | false =>
    obtain ⟨coordinator, journal, transacted, sound, decided⟩ :=
      transact_of_needed backend rests satisfied
    obtain ⟨count, database, executed, same⟩ := begins session.database
    rw [executed] at transacted decided
    refine ⟨_, transacted, same, sound, ?_⟩
    rw [transaction, decided]
    exact nofun

end Session

end KeyStore
