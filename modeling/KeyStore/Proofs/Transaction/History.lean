import KeyStore.Proofs.Transaction.Invariant

/-!
# The history of statements

The history of a run lists the statements that were put, in order, each with the request that put it
and with what has become of it: it is in flight, it was answered, or its request was cancelled.

`history_orderly`: whatever steps are made, only the last statement can be in flight, a BEGIN is put
only where no transaction can be open, and a COMMIT or ROLLBACK only right after a BEGIN that
succeeded.
-/

namespace KeyStore.Transaction

/-- What has become of a statement. -/
inductive Fate where
  | inFlight
  | answered (result : Except StoreError Unit)
  /-- Its request was cancelled before the answer came. -/
  | cancelled

/-- The statement did not succeed, or nobody knows whether it did. -/
def Fate.Fell (fate : Fate) : Prop := fate = .cancelled ∨ ∃ error, fate = .answered (.error error)

/-- A statement that was put to the database. -/
structure Exchange where
  /-- The request that put it. -/
  number : Nat
  command : Command
  fate : Fate

/-- Whether a command may be put after the last statement so far. -/
def Permits : Option Exchange → Command → Prop
  | none, command => command = .begin
  | some last, .begin => last.command ≠ .begin ∨ last.fate.Fell
  | some last, _ => last.command = .begin ∧ last.fate = .answered (.ok ())

/-- Every statement was put when the one before it had come to an end, and when it was permitted
after that one. -/
def Orderly (log : List Exchange) : Prop :=
  ∀ before exchange rest, log = before ++ exchange :: rest →
    (∀ earlier ∈ before, earlier.fate ≠ .inFlight) ∧ Permits before.getLast? exchange.command

namespace Coordinator

/-- The statement of a request has come to its end. -/
def close (number : Nat) (fate : Fate) (log : List Exchange) : List Exchange :=
  log.map fun exchange => if exchange.number = number then { exchange with fate } else exchange

/-- The history after a step that is made from `c`. -/
def note (c : Coordinator) (log : List Exchange) : Step → List Exchange
  | .arrive command =>
    match (c.arrive command).standing? c.requests.length with
    | some .issuing => log ++ [⟨c.requests.length, command, .inFlight⟩]
    | _ => log
  | .resume number =>
    match c.requests[number]? with
    | some ⟨command, .chosen⟩ => log ++ [⟨number, command, .inFlight⟩]
    | _ => log
  | .acknowledge result =>
    match c.inFlight? with
    | some number => close number (.answered result) log
    | none => log
  | .cancel number =>
    match c.standing? number with
    | some .issuing => close number .cancelled log
    | _ => log

/-- The history from a coordinator on, behind what is known already. -/
def noteAll : Coordinator → List Exchange → List Step → List Exchange
  | _, log, [] => log
  | c, log, step :: steps => noteAll (c.perform step) (c.note log step) steps

/-- The history of a list of steps from the start. -/
def history (steps : List Step) : List Exchange := noteAll initial [] steps

theorem noteAll_concat (c : Coordinator) (log : List Exchange) (steps : List Step) (step : Step) :
    noteAll c log (steps ++ [step])
      = note (steps.foldl perform c) (noteAll c log steps) step := by
  induction steps generalizing c log with
  | nil => rfl
  | cons first steps ih => exact ih (c.perform first) (c.note log first)

theorem history_concat (steps : List Step) (step : Step) :
    history (steps ++ [step]) = (after steps).note (history steps) step :=
  noteAll_concat initial [] steps step

end Coordinator

/-! ### Orderly lists -/

namespace Orderly

variable {log : List Exchange}

theorem nil : Orderly [] := by
  intro before exchange rest split
  simp at split

/-- A permitted statement may be put when none is in flight. -/
theorem put (orderly : Orderly log) (grounded : ∀ earlier ∈ log, earlier.fate ≠ .inFlight)
    {exchange : Exchange} (permitted : Permits log.getLast? exchange.command) :
    Orderly (log ++ [exchange]) := by
  intro before middle rest split
  rcases List.eq_nil_or_concat rest with rfl | ⟨rest, last, rfl⟩
  · obtain ⟨rfl, rfl⟩ := List.append_singleton_inj.1 split
    exact ⟨grounded, permitted⟩
  · rw [List.concat_eq_append, ← List.cons_append, ← List.append_assoc] at split
    obtain ⟨rfl, rfl⟩ := List.append_singleton_inj.1 split
    exact orderly before middle rest rfl

/-- What has become of the last statement does not matter to those before it. -/
theorem close_last {before : List Exchange} {last : Exchange} (orderly : Orderly (before ++ [last]))
    (fate : Fate) : Orderly (before ++ [{ last with fate }]) := by
  have earlier : Orderly before := by
    intro first middle rest split
    refine orderly first middle (rest ++ [last]) ?_
    rw [split, List.append_assoc, List.cons_append]
  obtain ⟨grounded, permitted⟩ := orderly before last [] rfl
  exact earlier.put grounded permitted

/-- Only the last statement can be in flight. -/
theorem last_of_inFlight (orderly : Orderly log) {exchange : Exchange} (member : exchange ∈ log)
    (flies : exchange.fate = .inFlight) : ∃ before, log = before ++ [exchange] := by
  obtain ⟨before, rest, split⟩ := List.append_of_mem member
  rcases List.eq_nil_or_concat rest with rfl | ⟨middle, last, rfl⟩
  · exact ⟨before, split⟩
  · have grounded := (orderly (before ++ exchange :: middle) last [] (by simp [split])).1
    exact absurd flies (grounded exchange (by simp))

end Orderly

/-- After a statement that succeeded, whatever changes the state is permitted. -/
theorem permits_of_answered_ok (number : Nat) {last command : Command}
    (needs : command.isSatisfiedIn last.target = false) :
    Permits (some ⟨number, last, .answered (.ok ())⟩) command := by
  cases last <;> cases command <;> simp_all [Permits, Command.isSatisfiedIn, Command.target]

/-- After a statement that did not succeed, a BEGIN is permitted. -/
theorem permits_of_fell {last : Exchange} (fell : last.fate.Fell) {command : Command}
    (needs : command.isSatisfiedIn .idle = false) : Permits (some last) command := by
  cases command with
  | begin => exact Or.inr fell
  | commit => cases needs
  | rollback => cases needs

namespace Coordinator

variable {c : Coordinator} {log : List Exchange}

/-! ### Requests that have gone on for good -/

/-- The request has put its statement, or will not put one any more. -/
def Departed (standing : Standing) : Prop :=
  standing = .issuing ∨ standing = .cancelled ∨ ∃ result, standing = .finished result

/-- From `c` to `later` no statement was put, and no request that had departed has moved. -/
structure Keeps (c later : Coordinator) : Prop where
  statements : later.statements = c.statements
  departed : ∀ (number : Nat) (request : Request), Departed request.standing →
    c.requests[number]? = some request → later.requests[number]? = some request
  unissued : ∀ number, later.standing? number = some .issuing → c.standing? number = some .issuing

theorem keeps_concat (c : Coordinator) (phase : Phase) {request : Request}
    (idle : request.standing ≠ .issuing) :
    Keeps c ⟨phase, c.requests ++ [request], c.statements⟩ := by
  refine ⟨rfl, fun number other _ found => ?_, fun number issues => ?_⟩
  · have inside : number < c.requests.length := (List.getElem?_eq_some_iff.1 found).1
    exact (List.getElem?_append_left inside).trans found
  · rw [standing?_concat] at issues
    split at issues
    · exact absurd (Option.some.inj issues) idle
    · exact issues

theorem keeps_setStanding (c : Coordinator) (phase : Phase) {number : Nat} {request : Request}
    (found : c.requests[number]? = some request) (waits : ¬ Departed request.standing)
    {standing : Standing} (idle : standing ≠ .issuing) :
    Keeps c { c with phase, requests := setStanding c.requests number standing } := by
  refine ⟨rfl, fun other departing departed at_other => ?_, fun other issues => ?_⟩
  · have differs : number ≠ other := by
      rintro rfl
      rw [found] at at_other
      cases at_other
      exact waits departed
    exact (getElem?_setStanding ..).trans ((if_neg differs).trans at_other)
  · rcases standing?_setStanding_cases issues with ⟨_, place⟩ | ⟨_, stood⟩
    · exact absurd place.symm idle
    · exact stood

theorem keeps_tell (c : Coordinator) (phase : Phase) (result : Except StoreError Unit)
    (numbers : List Nat) :
    Keeps c { c with phase, requests := tell result numbers c.requests } := by
  refine ⟨rfl, fun number request departed found => ?_, fun number issues => ?_⟩
  · have deaf : hear result request.standing = request.standing := by
      rcases departed with place | place | ⟨_, place⟩ <;> rw [place] <;> rfl
    rw [getElem?_tell, found, Option.map_some, deaf]
    split <;> rfl
  · rw [standing?_tell] at issues
    obtain ⟨standing, stood, heard⟩ := Option.map_eq_some_iff.1 issues
    rw [stood]
    split at heard
    · cases standing <;> simp_all [hear]
    · rw [heard]

theorem settle_keeps (c : Coordinator) (command : Command) (result : Except StoreError Unit) :
    Keeps c (c.settle command result) := by
  cases result with
  | error error =>
    rw [settle, tellAll_eq]
    exact keeps_tell c .idle (.error error) c.queue
  | ok done =>
    rw [settle]
    rcases serve_cases command.target c.requests c.queue with
      ⟨_, served⟩ | ⟨passed, number, rest, asked, _, fresh, _, waits, _, served⟩
    · rw [served]
      exact keeps_tell c _ (.ok ()) c.queue
    · rw [served]
      have told := keeps_tell c (.transitioning rest) (.ok ()) passed
      have waits_still : (tell (.ok ()) passed c.requests)[number]? = some ⟨asked, .queued⟩ := by
        simp [getElem?_tell, waits, fresh]
      have idle : Standing.chosen ≠ .issuing := by simp
      have chosen := keeps_setStanding
        { c with phase := .transitioning rest, requests := tell (.ok ()) passed c.requests }
        (.transitioning rest) waits_still (by simp [Departed]) idle
      exact ⟨rfl, fun other request departed found =>
        chosen.departed other request departed (told.departed other request departed found),
        fun other issues => told.unissued other (chosen.unissued other issues)⟩

/-! ### What the history says of the coordinator -/

/-- The history lists the statements of the coordinator, each with what has become of it. -/
structure Tracks (c : Coordinator) (log : List Exchange) : Prop where
  commands : log.map (·.command) = c.statements
  numbers : (log.map (·.number)).Nodup
  requests : ∀ exchange ∈ log, ∃ standing,
    c.requests[exchange.number]? = some ⟨exchange.command, standing⟩ ∧ Departed standing ∧
      (standing = .issuing ↔ exchange.fate = .inFlight)
  issued : ∀ number, c.standing? number = some .issuing → ∃ exchange ∈ log, exchange.number = number

/-- Whoever may put the next statement has a command that is permitted after the last one. -/
structure Ready (c : Coordinator) (log : List Exchange) : Prop where
  atRest : c.state ≠ .transitioning → ∀ command, command.isSatisfiedIn c.state = false →
    Permits log.getLast? command
  chosen : ∀ (number : Nat) (command : Command), c.requests[number]? = some ⟨command, .chosen⟩ →
    Permits log.getLast? command

namespace Tracks

theorem keep (tracks : Tracks c log) {later : Coordinator} (keeps : Keeps c later) :
    Tracks later log := by
  refine ⟨tracks.commands.trans keeps.statements.symm, tracks.numbers, fun exchange member => ?_,
    fun number issues => tracks.issued number (keeps.unissued number issues)⟩
  obtain ⟨standing, found, departed, flies⟩ := tracks.requests exchange member
  exact ⟨standing, keeps.departed _ _ departed found, departed, flies⟩

/-- While no request has its statement in flight, no exchange of the history is in flight. -/
theorem grounded (tracks : Tracks c log) (idle : ∀ number, c.standing? number ≠ some .issuing) :
    ∀ exchange ∈ log, exchange.fate ≠ .inFlight := by
  intro exchange member flies
  obtain ⟨standing, found, _, issues⟩ := tracks.requests exchange member
  refine idle exchange.number ?_
  rw [standing?, found, Option.map_some, issues.2 flies]

/-- A request that had not departed puts its statement. -/
theorem put (tracks : Tracks c log) {later : Coordinator} {number : Nat} {command : Command}
    (fresh : ∀ request, c.requests[number]? = some request → ¬ Departed request.standing)
    (issuing : later.requests[number]? = some ⟨command, .issuing⟩)
    (others : ∀ other, number ≠ other → later.requests[other]? = c.requests[other]?)
    (statements : later.statements = c.statements ++ [command]) :
    Tracks later (log ++ [⟨number, command, .inFlight⟩]) := by
  have apart : ∀ exchange ∈ log, number ≠ exchange.number := by
    rintro exchange member rfl
    obtain ⟨standing, found, departed, _⟩ := tracks.requests exchange member
    exact fresh _ found departed
  refine ⟨?_, ?_, fun exchange member => ?_, fun other issues => ?_⟩
  · rw [List.map_append, tracks.commands, statements]
    rfl
  · rw [List.map_append, List.nodup_append]
    refine ⟨tracks.numbers, by simp, ?_⟩
    rintro other inside last member rfl
    obtain ⟨exchange, logged, rfl⟩ := List.mem_map.1 inside
    exact apart exchange logged (List.mem_singleton.1 member).symm
  · rcases List.mem_append.1 member with logged | last
    · obtain ⟨standing, found, departed, flies⟩ := tracks.requests exchange logged
      exact ⟨standing, (others _ (apart exchange logged)).trans found, departed, flies⟩
    · rw [List.mem_singleton.1 last]
      exact ⟨.issuing, issuing, Or.inl rfl, by simp⟩
  · by_cases here : number = other
    · exact ⟨_, List.mem_append_right _ (List.mem_singleton_self _), here⟩
    · rw [standing?, others other here] at issues
      obtain ⟨exchange, logged, same⟩ := tracks.issued other issues
      exact ⟨exchange, List.mem_append_left _ logged, same⟩

/-- The statement in flight is the last of the history. -/
theorem last_of_issuing (tracks : Tracks c log) (orderly : Orderly log) {number : Nat}
    {command : Command} (issuing : c.requests[number]? = some ⟨command, .issuing⟩) :
    ∃ before, log = before ++ [⟨number, command, .inFlight⟩] := by
  obtain ⟨⟨other, asked, fate⟩, member, same⟩ :=
    tracks.issued number (by simp [standing?, issuing])
  obtain ⟨standing, found, _, flies⟩ := tracks.requests _ member
  cases same
  rw [issuing] at found
  cases found
  obtain rfl : fate = .inFlight := flies.1 rfl
  exact orderly.last_of_inFlight member rfl

/-- No two statements of the history are those of one request. -/
theorem apart (tracks : Tracks c log) {before : List Exchange} {last : Exchange}
    (at_end : log = before ++ [last]) : ∀ exchange ∈ before, exchange.number ≠ last.number := by
  have nodup := tracks.numbers
  rw [at_end, List.map_append, List.nodup_append] at nodup
  exact fun exchange member => nodup.2.2 _ (List.mem_map_of_mem member) _ (by simp)

/-- Closing a statement concerns the last of the history, and no other. -/
theorem close_eq (tracks : Tracks c log) {before : List Exchange} {number : Nat} {command : Command}
    (last : log = before ++ [⟨number, command, .inFlight⟩]) (fate : Fate) :
    Coordinator.close number fate log = before ++ [⟨number, command, fate⟩] := by
  rw [Coordinator.close, last, List.map_append]
  refine congr (congrArg _ ?_) (by simp)
  exact (List.map_congr_left fun exchange member =>
    if_neg (tracks.apart last exchange member)).trans (List.map_id _)

/-- The statement in flight comes to its end, and its request leaves. -/
theorem close (tracks : Tracks c log) {before : List Exchange} {number : Nat} {command : Command}
    (last : log = before ++ [⟨number, command, .inFlight⟩]) {fate : Fate}
    (ended : fate ≠ .inFlight) {standing : Standing} (departed : Departed standing)
    (idle : standing ≠ .issuing) :
    Tracks { c with requests := setStanding c.requests number standing }
      (Coordinator.close number fate log) := by
  have closed := tracks.close_eq last fate
  refine ⟨?_, ?_, fun exchange member => ?_, fun other issues => ?_⟩
  · rw [← tracks.commands, closed, last, List.map_append, List.map_append]
    rfl
  · have same := tracks.numbers
    rw [last, List.map_append] at same
    rw [closed, List.map_append]
    exact same
  · rw [closed] at member
    rcases List.mem_append.1 member with earlier | last_one
    · obtain ⟨stood, found, gone, flies⟩ :=
        tracks.requests exchange (last ▸ List.mem_append_left _ earlier)
      have differs : number ≠ exchange.number := (tracks.apart last exchange earlier).symm
      exact ⟨stood, by rw [getElem?_setStanding, if_neg differs, found], gone, flies⟩
    · obtain ⟨stood, found, _, _⟩ :=
        tracks.requests ⟨number, command, .inFlight⟩ (last ▸ by simp)
      rw [List.mem_singleton.1 last_one]
      refine ⟨standing, ?_, departed, by simp [idle, ended]⟩
      rw [getElem?_setStanding, if_pos rfl, found]
      rfl
  · rcases standing?_setStanding_cases issues with ⟨_, place⟩ | ⟨differs, stood⟩
    · exact absurd place.symm idle
    · obtain ⟨exchange, member, same⟩ := tracks.issued other stood
      rw [last] at member
      rcases List.mem_append.1 member with earlier | last_one
      · exact ⟨exchange, closed ▸ List.mem_append_left _ earlier, same⟩
      · rw [List.mem_singleton.1 last_one] at same
        exact absurd same differs

end Tracks

/-! ### One step -/

/-- What is kept between steps. -/
structure Recorded (c : Coordinator) (log : List Exchange) : Prop where
  sound : Sound c
  tracks : Tracks c log
  orderly : Orderly log
  ready : Ready c log

theorem initial_recorded : Recorded initial [] where
  sound := initial_sound
  tracks := ⟨rfl, List.nodup_nil, fun _ member => absurd member List.not_mem_nil,
    fun number issues => by simp [standing?, initial] at issues⟩
  orderly := .nil
  ready := by
    refine ⟨fun _ command needs => ?_, fun number command found => by simp [initial] at found⟩
    cases command with
    | begin => rfl
    | commit => cases needs
    | rollback => cases needs

theorem chosen_of_tell {result : Except StoreError Unit} {numbers : List Nat}
    {requests : List Request} {number : Nat} {command : Command}
    (chosen : (tell result numbers requests)[number]? = some ⟨command, .chosen⟩) :
    requests[number]? = some ⟨command, .chosen⟩ := by
  rw [getElem?_tell] at chosen
  obtain ⟨⟨asked, standing⟩, found, heard⟩ := Option.map_eq_some_iff.1 chosen
  split at heard
  · cases standing <;> simp_all [hear]
  · rw [found, heard]

theorem settle_ok_ready (free : ∀ number, ¬ c.Holds number) {number : Nat} {command : Command}
    (last : log.getLast? = some ⟨number, command, .answered (.ok ())⟩) :
    Ready (c.settle command (.ok ())) log := by
  have unchosen (passed : List Nat) (other : Nat) (asked : Command)
      (chosen : (tell (.ok ()) passed c.requests)[other]? = some ⟨asked, .chosen⟩) : False :=
    free other (Or.inl (by rw [standing?, chosen_of_tell chosen]; rfl))
  rw [settle]
  rcases serve_cases command.target c.requests c.queue with
    ⟨_, served⟩ | ⟨passed, next, rest, asked, _, _, _, waits, needs, served⟩
  · rw [served]
    have rests : (Phase.settled command.target).state = command.target := by
      cases command <;> rfl
    refine ⟨fun _ other unsatisfied => ?_, fun other asked chosen => (unchosen _ _ _ chosen).elim⟩
    rw [last]
    exact permits_of_answered_ok number (rests ▸ unsatisfied)
  · rw [served]
    refine ⟨fun moves => absurd rfl moves, fun other wanted chosen => ?_⟩
    rw [last]
    have stands := chosen
    simp only [getElem?_setStanding] at stands
    split at stands
    · next here =>
      rw [← here, getElem?_tell, waits] at stands
      simp only [Option.map_some, Option.some.injEq] at stands
      split at stands <;> cases stands <;> exact permits_of_answered_ok number needs
    · exact (unchosen _ _ _ stands).elim

theorem settle_error_ready (free : ∀ number, ¬ c.Holds number) (command : Command)
    (error : StoreError) {last : Exchange} (at_end : log.getLast? = some last)
    (fell : last.fate.Fell) : Ready (c.settle command (.error error)) log := by
  rw [settle, tellAll_eq]
  refine ⟨fun _ other unsatisfied => ?_, fun other asked chosen => ?_⟩
  · rw [at_end]
    exact permits_of_fell fell unsatisfied
  · exact (free other (Or.inl (by rw [standing?, chosen_of_tell chosen]; rfl))).elim

theorem ready_concat {phase : Phase} {request : Request} (ready : Ready c log)
    (same : phase.state = .transitioning ∨ phase.state = c.state)
    (unchosen : request.standing ≠ .chosen) :
    Ready ⟨phase, c.requests ++ [request], c.statements⟩ log := by
  refine ⟨fun rests command needs => ?_, fun number command chosen => ?_⟩
  · have still : phase.state = c.state := same.resolve_left rests
    exact ready.atRest (still ▸ rests) command (still ▸ needs)
  · have stands :
        standing? ⟨phase, c.requests ++ [request], c.statements⟩ number = some .chosen := by
      simp [standing?, chosen]
    rw [standing?_concat] at stands
    split at stands
    · exact absurd (Option.some.inj stands) unchosen
    · next other =>
      refine ready.chosen number command ?_
      have inside : number < c.requests.length := by
        obtain ⟨within, _⟩ := List.getElem?_eq_some_iff.1 chosen
        rw [List.length_append, List.length_singleton] at within
        omega
      rw [← chosen]
      exact (List.getElem?_append_left inside).symm

/-- Where somebody holds the right to put the statement in flight, nobody is chosen. -/
theorem ready_of_issuing (sound : Sound c) {number : Nat} {command : Command}
    (issuing : c.requests[number]? = some ⟨command, .issuing⟩) : Ready c log := by
  have holds : c.Holds number := Or.inr (by simp [standing?, issuing])
  refine ⟨fun rests => absurd (sound.held number holds) rests, fun other asked chosen => ?_⟩
  have same := sound.unique other number (Or.inl (by simp [standing?, chosen])) holds
  rw [same, issuing] at chosen
  cases chosen

theorem not_issuing_of_rests (sound : Sound c) (rests : c.state ≠ .transitioning) (number : Nat) :
    c.standing? number ≠ some .issuing :=
  fun issues => rests (sound.held number (Or.inr issues))

theorem arrive_recorded (recorded : Recorded c log) (command : Command) :
    Recorded (c.arrive command) (c.note log (.arrive command)) := by
  have sound := arrive_sound recorded.sound command
  rw [note]
  rcases arrive_cases c command with
    ⟨queue, phase, arrived⟩ | ⟨rests, _, arrived⟩ | ⟨rests, needs, arrived⟩
  · rw [arrived] at sound ⊢
    rw [standing?_concat, if_pos rfl]
    exact ⟨sound, recorded.tracks.keep (keeps_concat c _ (by simp)), recorded.orderly,
      ready_concat recorded.ready (Or.inl rfl) (by simp)⟩
  · rw [arrived] at sound ⊢
    rw [standing?_concat, if_pos rfl]
    exact ⟨sound, recorded.tracks.keep (keeps_concat c _ (by simp)), recorded.orderly,
      ready_concat recorded.ready (Or.inr rfl) (by simp)⟩
  · rw [arrived] at sound ⊢
    rw [standing?_concat, if_pos rfl]
    have issuing : (c.requests ++ [⟨command, .issuing⟩])[c.requests.length]?
        = some ⟨command, .issuing⟩ := by simp
    have fresh : ∀ request, c.requests[c.requests.length]? = some request →
        ¬ Departed request.standing := by simp
    refine ⟨sound, recorded.tracks.put fresh issuing (fun other differs => ?_) rfl,
      recorded.orderly.put ?_ ?_, ready_of_issuing sound issuing⟩
    · rcases Nat.lt_or_gt_of_ne differs with beyond | inside
      · have outside : (c.requests ++ [(⟨command, .issuing⟩ : Request)]).length ≤ other := by
          rw [List.length_append]
          exact beyond
        rw [List.getElem?_eq_none (Nat.le_of_lt beyond), List.getElem?_eq_none outside]
      · exact List.getElem?_append_left inside
    · exact recorded.tracks.grounded (not_issuing_of_rests recorded.sound rests)
    · exact recorded.ready.atRest rests command needs

/-- A request that was told, or was waiting, leaves without a statement. -/
theorem Recorded.leave (recorded : Recorded c log) {number : Nat} {request : Request}
    {standing : Standing} (found : c.requests[number]? = some request)
    (waits : ¬ Departed request.standing) (departed : Departed standing)
    (idle : standing ≠ .issuing)
    (sound : Sound { c with requests := setStanding c.requests number standing }) :
    Recorded { c with requests := setStanding c.requests number standing } log := by
  refine ⟨sound, recorded.tracks.keep (keeps_setStanding c c.phase found waits idle),
    recorded.orderly, recorded.ready.atRest, fun other command chosen => ?_⟩
  simp only [getElem?_setStanding] at chosen
  split at chosen
  · obtain ⟨stood, _, same⟩ := Option.map_eq_some_iff.1 chosen
    cases same
    simp [Departed] at departed
  · exact recorded.ready.chosen other command chosen

theorem resume_recorded (recorded : Recorded c log) (number : Nat) :
    Recorded (c.resume number) (c.note log (.resume number)) := by
  have sound := resume_sound recorded.sound number
  rw [note, resume] at *
  cases found : c.requests[number]? with
  | none =>
    rw [found] at sound
    exact recorded
  | some request =>
    obtain ⟨command, standing⟩ := request
    rw [found] at sound
    cases standing with
    | told result =>
      exact recorded.leave found (by simp [Departed]) (by simp [Departed]) (by simp) sound
    | chosen =>
      have issuing : (setStanding c.requests number .issuing)[number]?
          = some ⟨command, .issuing⟩ := by simp [getElem?_setStanding, found]
      have holds : c.Holds number := Or.inl (by simp [standing?, found])
      refine ⟨sound, recorded.tracks.put (fun request at_number => ?_) issuing
        (fun other differs => ?_) rfl, recorded.orderly.put ?_ ?_, ready_of_issuing sound issuing⟩
      · rw [found] at at_number
        cases at_number
        simp [Departed]
      · exact (getElem?_setStanding ..).trans (if_neg differs)
      · refine recorded.tracks.grounded fun other issues => ?_
        have same := recorded.sound.unique other number (Or.inr issues) holds
        rw [same, standing?, found] at issues
        cases issues
      · exact recorded.ready.chosen number command found
    | queued => exact recorded
    | issuing => exact recorded
    | finished result => exact recorded
    | cancelled => exact recorded

/-- The statement in flight comes to its end, its request leaves, and the queue is settled. -/
theorem Recorded.end_statement (recorded : Recorded c log) {number : Nat} {command : Command}
    (issuing : c.requests[number]? = some ⟨command, .issuing⟩) {standing : Standing} {fate : Fate}
    (ended : fate ≠ .inFlight) (departed : Departed standing) (idle : standing ≠ .issuing)
    (result : Except StoreError Unit)
    (told : fate = .answered (.ok ()) ∧ result = .ok () ∨
      fate.Fell ∧ ∃ error, result = .error error) :
    Recorded (settle { c with requests := setStanding c.requests number standing } command result)
      (close number fate log) := by
  have holds : c.Holds number := Or.inr (by simp [standing?, issuing])
  have waitless : standing ≠ .queued ∧ standing ≠ .chosen := by
    rcases departed with place | place | ⟨_, place⟩ <;> simp [place]
  obtain ⟨released, free⟩ :=
    recorded.sound.release holds standing waitless.1 ⟨waitless.2, idle⟩
  obtain ⟨before, last⟩ := recorded.tracks.last_of_issuing recorded.orderly issuing
  have closed := recorded.tracks.close_eq last fate
  have tracks := recorded.tracks.close last ended departed idle
  have at_end : (close number fate log).getLast? = some ⟨number, command, fate⟩ := by
    rw [closed, List.getLast?_concat]
  refine ⟨released.settle free command result, tracks.keep (settle_keeps _ command result), ?_, ?_⟩
  · rw [closed]
    exact Orderly.close_last (last ▸ recorded.orderly) fate
  · rcases told with ⟨rfl, rfl⟩ | ⟨fell, error, rfl⟩
    · exact settle_ok_ready free at_end
    · exact settle_error_ready free command error at_end fell

theorem acknowledge_recorded (recorded : Recorded c log) (result : Except StoreError Unit) :
    Recorded (c.acknowledge result) (c.note log (.acknowledge result)) := by
  rw [note, acknowledge]
  cases flies : c.inFlight? with
  | none => exact recorded
  | some number =>
    obtain ⟨command, issuing⟩ := inFlight?_eq_some flies
    simp only [issuing]
    refine recorded.end_statement issuing (by simp) (Or.inr (Or.inr ⟨result, rfl⟩)) (by simp)
      result ?_
    cases result with
    | ok done => exact Or.inl ⟨rfl, rfl⟩
    | error error => exact Or.inr ⟨Or.inr ⟨error, rfl⟩, error, rfl⟩

theorem cancel_recorded (recorded : Recorded c log) (number : Nat) :
    Recorded (c.cancel number) (c.note log (.cancel number)) := by
  have sound := cancel_sound recorded.sound number
  rw [note, cancel, standing?] at *
  cases found : c.requests[number]? with
  | none => exact recorded
  | some request =>
    obtain ⟨command, standing⟩ := request
    rw [found] at sound
    cases standing with
    | issuing =>
      exact recorded.end_statement found (by simp) (Or.inr (Or.inl rfl)) (by simp) _
        (Or.inr ⟨Or.inl rfl, _, rfl⟩)
    | finished result => exact recorded
    | cancelled => exact recorded
    | queued => exact recorded.leave found (by simp [Departed]) (by simp [Departed]) (by simp) sound
    | told result =>
      exact recorded.leave found (by simp [Departed]) (by simp [Departed]) (by simp) sound
    | chosen => exact recorded.leave found (by simp [Departed]) (by simp [Departed]) (by simp) sound

theorem perform_recorded (recorded : Recorded c log) (step : Step) :
    Recorded (c.perform step) (c.note log step) := by
  cases step with
  | arrive command => exact arrive_recorded recorded command
  | resume number => exact resume_recorded recorded number
  | acknowledge result => exact acknowledge_recorded recorded result
  | cancel number => exact cancel_recorded recorded number

/-! ### A whole run -/

theorem history_recorded (steps : List Step) : Recorded (after steps) (history steps) := by
  induction steps using List.reverseRecOn with
  | nil => exact initial_recorded
  | append_singleton steps step ih =>
    rw [after_concat, history_concat]
    exact perform_recorded ih step

/-- Whatever steps are made, in whatever order: the history lists the statements that were put, what
is in flight in it is the statement of the one request that waits for an answer, and every statement
was put when the one before it had ended and when it was permitted after that one. -/
theorem history_orderly (steps : List Step) :
    (history steps).map (·.command) = (after steps).statements ∧
    (∀ number, (after steps).standing? number = some .issuing ↔
      ∃ exchange ∈ history steps, exchange.number = number ∧ exchange.fate = .inFlight) ∧
    (∀ first second, (after steps).standing? first = some .issuing →
      (after steps).standing? second = some .issuing → first = second) ∧
    Orderly (history steps) := by
  have recorded := history_recorded steps
  refine ⟨recorded.tracks.commands, fun number => ⟨fun issues => ?_, ?_⟩,
    fun first second one two => recorded.sound.unique first second (Or.inr one) (Or.inr two),
    recorded.orderly⟩
  · obtain ⟨exchange, member, same⟩ := recorded.tracks.issued number issues
    obtain ⟨standing, found, _, flies⟩ := recorded.tracks.requests exchange member
    refine ⟨exchange, member, same, flies.1 ?_⟩
    rw [standing?, ← same, found] at issues
    exact Option.some.inj issues
  · rintro ⟨exchange, member, rfl, flies⟩
    obtain ⟨standing, found, _, issues⟩ := recorded.tracks.requests exchange member
    rw [standing?, found, Option.map_some, issues.2 flies]

/-- A BEGIN may follow one whose request was cancelled. -/
example : history [.arrive .begin, .arrive .commit, .cancel 0, .resume 1, .arrive .begin]
    = [⟨0, .begin, .cancelled⟩, ⟨2, .begin, .inFlight⟩] := rfl

end Coordinator

end KeyStore.Transaction
