import KeyStore.Proofs.Transaction.History
import KeyStore.Proofs.Transaction.Stranding

/-!
# Open transactions

A statement that changes rows should come after a BEGIN that has succeeded and before the next
COMMIT or ROLLBACK. `inside_iff_opened`: the coordinator knows when this is so, as long as nobody is
cancelled between being chosen and putting its statement.
-/

namespace KeyStore.Transaction

/-- The last statement so far is a BEGIN that has succeeded. -/
def Inside (log : List Exchange) : Prop :=
  ∃ number, log.getLast? = some ⟨number, .begin, .answered (.ok ())⟩

/-- A COMMIT or ROLLBACK is permitted inside a transaction only. -/
theorem inside_of_permits {log : List Exchange} {command : Command}
    (permitted : Permits log.getLast? command) (closes : command ≠ .begin) : Inside log := by
  cases last : log.getLast? with
  | none =>
    rw [last] at permitted
    exact absurd permitted closes
  | some exchange =>
    obtain ⟨number, asked, fate⟩ := exchange
    rw [last] at permitted
    cases command with
    | begin => exact absurd rfl closes
    | commit =>
      obtain ⟨rfl, rfl⟩ := permitted
      exact ⟨number, last⟩
    | rollback =>
      obtain ⟨rfl, rfl⟩ := permitted
      exact ⟨number, last⟩

/-- Inside a transaction no BEGIN is permitted. -/
theorem not_permits_begin {log : List Exchange} (inside : Inside log) :
    ¬ Permits log.getLast? .begin := by
  obtain ⟨number, last⟩ := inside
  rw [last]
  simp [Permits, Fate.Fell]

namespace Coordinator

variable {c : Coordinator} {log : List Exchange}

/-- The session rests in a transaction, or a request was chosen that will close one. -/
def Opened (c : Coordinator) : Prop :=
  c.state = .inside ∨ ∃ (number : Nat) (command : Command),
    c.requests[number]? = some ⟨command, .chosen⟩ ∧ command ≠ .begin

/-- At rest nobody is chosen. -/
theorem opened_iff_of_rests (sound : Sound c) (rests : c.state ≠ .transitioning) :
    Opened c ↔ c.state = .inside := by
  refine ⟨fun opened => opened.resolve_right ?_, Or.inl⟩
  rintro ⟨number, command, chosen, _⟩
  exact rests (sound.held number (Or.inl (by simp [standing?, chosen])))

/-- A transaction is open to those who look at the statements exactly when it is to the
coordinator. -/
theorem inside_iff_opened (recorded : Recorded c log) (guarded : Guarded c) :
    Inside log ↔ Opened c := by
  constructor
  · intro inside
    cases state : c.state with
    | inside => exact Or.inl state
    | idle =>
      have permitted := recorded.ready.atRest (by simp [state]) .begin (by rw [state]; rfl)
      exact absurd permitted (not_permits_begin inside)
    | transitioning =>
      obtain ⟨number, chosen | issuing⟩ := guarded state
      · obtain ⟨⟨command, standing⟩, found, rfl⟩ := Option.map_eq_some_iff.1 chosen
        refine Or.inr ⟨number, command, found, ?_⟩
        rintro rfl
        exact not_permits_begin inside (recorded.ready.chosen number .begin found)
      · obtain ⟨⟨command, standing⟩, found, rfl⟩ := Option.map_eq_some_iff.1 issuing
        obtain ⟨before, last⟩ := recorded.tracks.last_of_issuing recorded.orderly found
        obtain ⟨other, at_end⟩ := inside
        rw [last, List.getLast?_concat] at at_end
        cases at_end
  · rintro (state | ⟨number, command, found, closes⟩)
    · have permitted := recorded.ready.atRest (by simp [state]) .commit (by rw [state]; rfl)
      exact inside_of_permits permitted (by simp)
    · exact inside_of_permits (recorded.ready.chosen number command found) closes

/-- When a BEGIN has succeeded the transaction is open, whoever was chosen meanwhile. -/
theorem inside_of_acknowledge (recorded : Recorded c log) {number : Nat}
    (flies : c.inFlight? = some number)
    (begins : c.requests[number]? = some ⟨.begin, .issuing⟩) :
    Inside (c.note log (.acknowledge (.ok ()))) := by
  obtain ⟨before, last⟩ := recorded.tracks.last_of_issuing recorded.orderly begins
  have closed := recorded.tracks.close_eq last (.answered (.ok ()))
  refine ⟨number, ?_⟩
  simp only [note, flies]
  rw [closed, List.getLast?_concat]

/-- A request that is finished as soon as it is made has found what it asks for. -/
theorem arrive_finished {command : Command} {result : Except StoreError Unit}
    (finished : (c.arrive command).standing? c.requests.length = some (.finished result)) :
    c.state ≠ .transitioning ∧ command.isSatisfiedIn c.state = true ∧
      (c.arrive command).state = c.state := by
  rcases arrive_cases c command with
    ⟨_, _, arrived⟩ | ⟨rests, satisfied, arrived⟩ | ⟨_, _, arrived⟩
  · rw [arrived, standing?_concat, if_pos rfl] at finished
    cases finished
  · exact ⟨rests, satisfied, by rw [arrived]; rfl⟩
  · rw [arrived, standing?_concat, if_pos rfl] at finished
    cases finished

/-- A request that is finished when it has gone on was not chosen. -/
theorem resume_finished {number : Nat} {result : Except StoreError Unit}
    (finished : (c.resume number).standing? number = some (.finished result)) :
    c.note log (.resume number) = log := by
  rw [note]
  split
  · next command chosen =>
    rw [resume, chosen] at finished
    simp [standing?, getElem?_setStanding, chosen] at finished
  · rfl

/-! ### Commands -/

/-- The command of a request. -/
def command? (c : Coordinator) (number : Nat) : Option Command :=
  c.requests[number]?.map (·.command)

theorem command?_setStanding (c : Coordinator) (phase : Phase) (number other : Nat)
    (standing : Standing) (statements : List Command) :
    command? ⟨phase, setStanding c.requests number standing, statements⟩ other
      = c.command? other := by
  rw [command?, getElem?_setStanding, command?]
  split <;> simp [Function.comp_def]

theorem command?_tell (c : Coordinator) (phase : Phase) (result : Except StoreError Unit)
    (numbers : List Nat) (statements : List Command) (number : Nat) :
    command? ⟨phase, tell result numbers c.requests, statements⟩ number = c.command? number := by
  rw [command?, getElem?_tell, command?, Option.map_map]
  congr 1
  funext request
  simp only [Function.comp_apply]
  split <;> rfl

theorem command?_settle (c : Coordinator) (command : Command) (result : Except StoreError Unit)
    (number : Nat) : (c.settle command result).command? number = c.command? number := by
  cases result with
  | error error =>
    rw [settle, tellAll_eq]
    exact command?_tell ..
  | ok done =>
    rw [settle]
    rcases serve_cases command.target c.requests c.queue with
      ⟨_, served⟩ | ⟨passed, next, rest, asked, _, _, _, _, _, served⟩
    · rw [served]
      exact command?_tell ..
    · rw [served]
      exact (command?_setStanding
        { c with requests := tell (.ok ()) passed c.requests } ..).trans
        (command?_tell c c.phase (.ok ()) passed c.statements number)

theorem command?_arrive (c : Coordinator) (command : Command) :
    (c.arrive command).command? c.requests.length = some command := by
  rcases arrive_cases c command with ⟨_, _, arrived⟩ | ⟨_, _, arrived⟩ | ⟨_, _, arrived⟩ <;>
    rw [arrived] <;> simp [command?]

/-- A request never changes its command. -/
theorem command?_perform {number : Nat} {command : Command}
    (asked : c.command? number = some command) (step : Step) :
    (c.perform step).command? number = some command := by
  cases step with
  | arrive other =>
    have inside : number < c.requests.length := by
      obtain ⟨request, found, _⟩ := Option.map_eq_some_iff.1 asked
      exact (List.getElem?_eq_some_iff.1 found).1
    rw [perform]
    rcases arrive_cases c other with ⟨_, _, arrived⟩ | ⟨_, _, arrived⟩ | ⟨_, _, arrived⟩ <;>
      rw [arrived, command?, List.getElem?_append_left inside] <;> exact asked
  | resume other =>
    rw [perform, resume]
    split
    · exact (command?_setStanding ..).trans asked
    · exact (command?_setStanding ..).trans asked
    · exact asked
  | acknowledge result =>
    rw [perform, acknowledge]
    split
    · exact asked
    · split
      · exact asked
      · exact (command?_settle ..).trans ((command?_setStanding ..).trans asked)
  | cancel other =>
    rw [perform, cancel]
    split
    · exact asked
    · exact asked
    · exact asked
    · exact (command?_settle ..).trans ((command?_setStanding ..).trans asked)
    · exact (command?_setStanding ..).trans asked

end Coordinator

end KeyStore.Transaction
