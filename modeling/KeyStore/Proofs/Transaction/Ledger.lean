import Mathlib.Data.List.Forall2
import KeyStore.Proofs.Transaction.Steps

/-!
# The ledger of requests

A ledger decides requests one after the other, in the order of arrival, against a settled state. It
knows nothing of wake-ups: a request whose target is the settled state succeeds, any other puts its
statement and holds up those behind it until the answer comes.

`run_agrees`: without cancellation the coordinator agrees with the ledger after every signal, in
whatever order the woken requests go on. An answer can only come for a statement that is in flight,
so requests may also arrive between the choice of the next one and its statement.
-/

namespace KeyStore.Transaction

/-- What comes to the coordinator from outside, other than cancellation. -/
inductive Signal where
  | request (command : Command)
  | answer (result : Except StoreError Unit)

/-- The requests in the order of arrival: the outcomes of the first ones, and the commands of the
others, of which the first has its statement in flight. -/
structure Ledger where
  settled : State
  outcomes : List (Except StoreError Unit)
  pending : List Command
  statements : List Command

namespace Ledger

def initial : Ledger := ⟨.idle, [], [], []⟩

/-- Decides requests in turn, up to the first that needs a statement. -/
def decide (settled : State) (outcomes : List (Except StoreError Unit))
    (statements : List Command) : List Command → Ledger
  | [] => ⟨settled, outcomes, [], statements⟩
  | command :: rest =>
    if command.target = settled then decide settled (outcomes ++ [.ok ()]) statements rest
    else ⟨settled, outcomes, command :: rest, statements ++ [command]⟩

/-- The ledger after a signal. An ok moves to the target of the statement and decides the rest; an
error is the outcome of everybody who waits. -/
def receive (ledger : Ledger) : Signal → Ledger
  | .request command =>
    match ledger.pending with
    | [] => decide ledger.settled ledger.outcomes ledger.statements [command]
    | first :: rest => { ledger with pending := first :: rest ++ [command] }
  | .answer result =>
    match ledger.pending, result with
    | [], _ => ledger
    | command :: rest, .ok () =>
      decide command.target (ledger.outcomes ++ [.ok ()]) ledger.statements rest
    | command :: rest, .error error =>
      { settled := .idle
        outcomes := ledger.outcomes ++ (command :: rest).map fun _ => .error error
        pending := []
        statements := ledger.statements }

def after (signals : List Signal) : Ledger := signals.foldl receive initial

theorem after_concat (signals : List Signal) (signal : Signal) :
    after (signals ++ [signal]) = (after signals).receive signal := by
  rw [after, List.foldl_append]
  rfl

/-- What is said about the session. -/
def state (ledger : Ledger) : State :=
  if ledger.pending = [] then ledger.settled else .transitioning

end Ledger

namespace Coordinator

/-- A run without cancellation: requests arrive, the statement in flight is answered, and those who
were told or chosen go on, in any order. -/
inductive Run : List Signal → Coordinator → Prop
  | start : Run [] initial
  | arrive {signals c} (command : Command) (run : Run signals c) :
    Run (signals ++ [.request command]) (c.arrive command)
  | resume {signals c} (number : Nat) (run : Run signals c) : Run signals (c.resume number)
  | acknowledge {signals c} (result : Except StoreError Unit) (flies : c.inFlight?.isSome)
    (run : Run signals c) : Run (signals ++ [.answer result]) (c.acknowledge result)

/-- The request has its outcome, whether or not it has gone on. -/
def Decided (request : Request) (result : Except StoreError Unit) : Prop :=
  request.standing = .told result ∨ request.standing = .finished result

/-- Some requests are decided, the next one has the right to put its statement, the others wait. -/
def between (past : List Request) (command : Command) (standing : Standing)
    (waiting statements : List Command) : Coordinator where
  phase := .transitioning (List.range' (past.length + 1) waiting.length)
  requests := past ++ ⟨command, standing⟩ :: waiting.map (⟨·, .queued⟩)
  statements := statements

/-- The coordinator is where the ledger is; only the statement of a chosen request is still to
come. -/
inductive Matches : Ledger → Coordinator → Prop
  | atRest {settled outcomes statements past} (decided : List.Forall₂ Decided past outcomes)
    (rests : settled ≠ .transitioning) :
    Matches ⟨settled, outcomes, [], statements⟩ ⟨.settled settled, past, statements⟩
  | chosen {settled outcomes statements past} (command : Command) (waiting : List Command)
    (decided : List.Forall₂ Decided past outcomes) :
    Matches ⟨settled, outcomes, command :: waiting, statements ++ [command]⟩
      (between past command .chosen waiting statements)
  | issuing {settled outcomes statements past} (command : Command) (waiting : List Command)
    (decided : List.Forall₂ Decided past outcomes) :
    Matches ⟨settled, outcomes, command :: waiting, statements⟩
      (between past command .issuing waiting statements)

/-! ### Places -/

theorem setStanding_length (past rest : List Request) (command : Command)
    (before standing : Standing) :
    setStanding (past ++ ⟨command, before⟩ :: rest) past.length standing
      = past ++ ⟨command, standing⟩ :: rest := by
  induction past with
  | nil => rfl
  | cons first past ih => exact congrArg (first :: ·) ih

theorem setStanding_append (past rest : List Request) {number : Nat} (standing : Standing)
    (inside : number < past.length) :
    setStanding (past ++ rest) number standing = setStanding past number standing ++ rest := by
  induction past generalizing number with
  | nil => cases inside
  | cons first past ih =>
    cases number with
    | zero => rfl
    | succ number => exact congrArg (first :: ·) (ih (Nat.lt_of_succ_lt_succ inside))

theorem isSatisfiedIn_iff (command : Command) (settled : State) :
    command.isSatisfiedIn settled = true ↔ command.target = settled := by
  rw [Command.isSatisfiedIn, decide_eq_true_iff, eq_comm]

theorem Decided.concat {past : List Request} {outcomes : List (Except StoreError Unit)}
    (decided : List.Forall₂ Decided past outcomes) {request : Request}
    {result : Except StoreError Unit} (last : Decided request result) :
    List.Forall₂ Decided (past ++ [request]) (outcomes ++ [result]) :=
  List.rel_append decided (.cons last .nil)

/-! ### The queue -/

/-- Serving those who wait decides them as the ledger does. -/
theorem serve_matches {settled : State} (rests : settled ≠ .transitioning)
    {past : List Request} {outcomes : List (Except StoreError Unit)}
    (decided : List.Forall₂ Decided past outcomes) (statements waiting : List Command)
    {phase : Phase} {requests : List Request}
    (served : serve settled (past ++ waiting.map (⟨·, .queued⟩))
      (List.range' past.length waiting.length) = (phase, requests)) :
    Matches (Ledger.decide settled outcomes statements waiting) ⟨phase, requests, statements⟩ := by
  induction waiting generalizing past outcomes with
  | nil =>
    rw [List.map_nil, List.append_nil] at served
    cases served
    exact .atRest decided rests
  | cons command waiting ih =>
    rw [List.length_cons, List.range'_succ, List.map_cons, serve,
      List.getElem?_append_right (Nat.le_refl _), Nat.sub_self, List.getElem?_cons_zero] at served
    simp only [setStanding_length, isSatisfiedIn_iff] at served
    rw [Ledger.decide]
    split at served
    · next satisfied =>
      rw [if_pos satisfied]
      refine ih (Decided.concat decided (Or.inl rfl : Decided ⟨command, .told (.ok ())⟩ _)) ?_
      rw [List.append_assoc, List.length_append]
      exact served
    · next needs =>
      rw [if_neg needs]
      cases served
      exact .chosen command waiting decided

/-- After an error everybody who waits is told the error. -/
theorem tellAll_waiting (error : StoreError) (past : List Request) (waiting : List Command) :
    tellAll error (past ++ waiting.map (⟨·, .queued⟩)) (List.range' past.length waiting.length)
      = past ++ waiting.map (⟨·, .told (.error error)⟩) := by
  induction waiting generalizing past with
  | nil => rfl
  | cons command waiting ih =>
    rw [List.length_cons, List.range'_succ, List.map_cons, tellAll,
      List.getElem?_append_right (Nat.le_refl _), Nat.sub_self, List.getElem?_cons_zero]
    simp only [setStanding_length]
    have later := ih (past ++ [⟨command, .told (.error error)⟩])
    rw [List.append_assoc, List.length_append, List.append_assoc] at later
    exact later

/-! ### The decided requests -/

section
variable {past : List Request} {outcomes : List (Except StoreError Unit)}

theorem Decided.at (decided : List.Forall₂ Decided past outcomes) {number : Nat}
    {request : Request} (found : past[number]? = some request) :
    ∃ result, outcomes[number]? = some result ∧ Decided request result := by
  induction decided generalizing number with
  | nil => cases found
  | cons first rest ih =>
    cases number with
    | zero => exact ⟨_, rfl, Option.some.inj found ▸ first⟩
    | succ number => exact ih found

/-- Telling a request its outcome and letting it go on leave it decided. -/
theorem Decided.setStanding (decided : List.Forall₂ Decided past outcomes) {number : Nat}
    {result : Except StoreError Unit} (outcome : outcomes[number]? = some result) :
    List.Forall₂ Decided (Coordinator.setStanding past number (.finished result)) outcomes := by
  induction decided generalizing number with
  | nil => cases outcome
  | cons first rest ih =>
    cases number with
    | zero =>
      cases outcome
      exact .cons (Or.inr rfl) rest
    | succ number => exact .cons first (ih outcome)

theorem Decided.findIdx?_isIssuing (decided : List.Forall₂ Decided past outcomes) :
    past.findIdx? isIssuing = none := by
  induction decided with
  | nil => rfl
  | cons first rest ih =>
    rw [List.findIdx?_cons, ih]
    rcases first with told | finished
    · simp [isIssuing, told]
    · simp [isIssuing, finished]

/-- Whoever of the decided requests goes on, they stay decided, and the others stay where they
are. -/
theorem Decided.resume (decided : List.Forall₂ Decided past outcomes) {number : Nat}
    (inside : number < past.length) (phase : Phase) (rest : List Request)
    (statements : List Command) :
    ∃ later, List.Forall₂ Decided later outcomes ∧ later.length = past.length ∧
      Coordinator.resume ⟨phase, past ++ rest, statements⟩ number
        = ⟨phase, later ++ rest, statements⟩ := by
  have found : (past ++ rest)[number]? = some past[number] := by
    rw [List.getElem?_append_left inside, List.getElem?_eq_getElem inside]
  obtain ⟨result, outcome, stands⟩ := Decided.at decided (List.getElem?_eq_getElem inside)
  generalize past[number] = request at found stands
  obtain ⟨command, standing⟩ := request
  rcases stands with told | finished
  · cases told
    refine ⟨Coordinator.setStanding past number (.finished result),
      Decided.setStanding decided outcome, List.length_modify .., ?_⟩
    rw [Coordinator.resume, found, ← setStanding_append past rest _ inside]
  · cases finished
    refine ⟨past, decided, rfl, ?_⟩
    rw [Coordinator.resume, found]

end

/-! ### One step -/

section
variable {ledger : Ledger} {c : Coordinator}

theorem arrive_of_rests (rests : c.state ≠ .transitioning) (command : Command) :
    c.arrive command =
      if command.target = c.state then
        { c with requests := c.requests ++ [⟨command, .finished (.ok ())⟩] }
      else
        { phase := .transitioning []
          requests := c.requests ++ [⟨command, .issuing⟩]
          statements := c.statements ++ [command] } := by
  rw [arrive]
  split
  · next queue phase => exact absurd (by rw [state, phase]; rfl) rests
  · simp only [isSatisfiedIn_iff]
    rfl

theorem between_arrive (past : List Request) (command : Command) (standing : Standing)
    (waiting statements : List Command) (other : Command) :
    (between past command standing waiting statements).arrive other
      = between past command standing (waiting ++ [other]) statements := by
  have last : (past ++ ⟨command, standing⟩ :: waiting.map (⟨·, .queued⟩) : List Request).length
      = past.length + 1 + 1 * waiting.length := by
    rw [List.length_append, List.length_cons, List.length_map]
    omega
  have queue : List.range' (past.length + 1) (waiting ++ [other]).length
      = List.range' (past.length + 1) waiting.length
        ++ [(past ++ ⟨command, standing⟩ :: waiting.map (⟨·, .queued⟩) : List Request).length] := by
    rw [last, List.length_append, List.length_singleton, List.range'_concat]
  have requests : past ++ ⟨command, standing⟩ :: (waiting ++ [other]).map (⟨·, .queued⟩)
      = (past ++ ⟨command, standing⟩ :: waiting.map (⟨·, .queued⟩)) ++ [⟨other, .queued⟩] := by
    simp
  unfold between
  rw [queue, requests]
  rfl

theorem between_inFlight? {past : List Request} {outcomes : List (Except StoreError Unit)}
    (decided : List.Forall₂ Decided past outcomes) (command : Command) (standing : Standing)
    (waiting statements : List Command) :
    (between past command standing waiting statements).inFlight?
      = if isIssuing ⟨command, standing⟩ then some past.length else none := by
  rw [inFlight?, between, List.findIdx?_append, Decided.findIdx?_isIssuing decided,
    List.findIdx?_cons]
  cases isIssuing ⟨command, standing⟩ <;> simp [isIssuing]

/-- Whoever goes on apart from the one between the decided requests and those who wait, the decided
requests stay decided and nothing else moves. -/
theorem between_resume_of_ne {past : List Request} {outcomes : List (Except StoreError Unit)}
    (decided : List.Forall₂ Decided past outcomes) (command : Command) (standing : Standing)
    (waiting statements : List Command) {number : Nat} (elsewhere : number ≠ past.length) :
    ∃ later, List.Forall₂ Decided later outcomes ∧
      (between past command standing waiting statements).resume number
        = between later command standing waiting statements := by
  rcases Nat.lt_or_gt_of_ne elsewhere with inside | beyond
  · obtain ⟨later, still, same, moved⟩ := Decided.resume decided inside
      (.transitioning (List.range' (past.length + 1) waiting.length))
      (⟨command, standing⟩ :: waiting.map (⟨·, .queued⟩)) statements
    refine ⟨later, still, ?_⟩
    unfold between
    rw [moved, same]
  · obtain ⟨place, rfl⟩ := Nat.exists_eq_add_of_lt beyond
    have found :
        (between past command standing waiting statements).requests[past.length + place + 1]?
          = waiting[place]?.map (⟨·, .queued⟩) := by
      rw [between, Nat.add_assoc, List.getElem?_append_right (Nat.le_add_right _ _),
        Nat.add_sub_cancel_left, List.getElem?_cons_succ, List.getElem?_map]
    refine ⟨past, decided, ?_⟩
    rw [resume, found]
    cases waiting[place]? <;> rfl

theorem between_resume_chosen (past : List Request) (command : Command)
    (waiting statements : List Command) :
    (between past command .chosen waiting statements).resume past.length
      = between past command .issuing waiting (statements ++ [command]) := by
  rw [resume, between, between]
  simp only [List.getElem?_append_right (Nat.le_refl _), Nat.sub_self, List.getElem?_cons_zero,
    setStanding_length]

theorem between_resume_issuing (past : List Request) (command : Command)
    (waiting statements : List Command) :
    (between past command .issuing waiting statements).resume past.length
      = between past command .issuing waiting statements := by
  rw [resume, between]
  simp only [List.getElem?_append_right (Nat.le_refl _), Nat.sub_self, List.getElem?_cons_zero]

theorem arrive_matches (agrees : Matches ledger c) (command : Command) :
    Matches (ledger.receive (.request command)) (c.arrive command) := by
  cases agrees with
  | @atRest settled outcomes statements past decided rests =>
    have same : (Phase.settled settled).state = settled := by
      cases settled <;> first | rfl | exact absurd rfl rests
    rw [arrive_of_rests (by rw [state, same]; exact rests), state, same]
    simp only [Ledger.receive, Ledger.decide]
    split
    · exact .atRest
        (Decided.concat decided (Or.inr rfl : Decided ⟨command, .finished (.ok ())⟩ _)) rests
    · exact .issuing command [] decided
  | chosen first waiting decided =>
    rw [between_arrive]
    exact .chosen first (waiting ++ [command]) decided
  | issuing first waiting decided =>
    rw [between_arrive]
    exact .issuing first (waiting ++ [command]) decided

theorem resume_matches (agrees : Matches ledger c) (number : Nat) :
    Matches ledger (c.resume number) := by
  cases agrees with
  | @atRest settled outcomes statements past decided rests =>
    rcases Nat.lt_or_ge number past.length with inside | beyond
    · obtain ⟨later, still, _, moved⟩ :=
        Decided.resume decided inside (.settled settled) [] statements
      rw [List.append_nil, List.append_nil] at moved
      rw [moved]
      exact .atRest still rests
    · rw [resume, List.getElem?_eq_none beyond]
      exact .atRest decided rests
  | @chosen settled outcomes statements past command waiting decided =>
    by_cases next : number = past.length
    · rw [next, between_resume_chosen]
      exact .issuing command waiting decided
    · obtain ⟨later, still, moved⟩ :=
        between_resume_of_ne decided command .chosen waiting statements next
      rw [moved]
      exact .chosen command waiting still
  | @issuing settled outcomes statements past command waiting decided =>
    by_cases next : number = past.length
    · rw [next, between_resume_issuing]
      exact .issuing command waiting decided
    · obtain ⟨later, still, moved⟩ :=
        between_resume_of_ne decided command .issuing waiting statements next
      rw [moved]
      exact .issuing command waiting still

theorem acknowledge_matches (agrees : Matches ledger c) (flies : c.inFlight?.isSome)
    (result : Except StoreError Unit) :
    Matches (ledger.receive (.answer result)) (c.acknowledge result) := by
  cases agrees with
  | atRest decided rests => simp [inFlight?, Decided.findIdx?_isIssuing decided] at flies
  | chosen command waiting decided => simp [between_inFlight? decided, isIssuing] at flies
  | @issuing settled outcomes statements past command waiting decided =>
    have finished := Decided.concat decided (Or.inr rfl : Decided ⟨command, .finished result⟩ _)
    rw [acknowledge, between_inFlight? decided]
    simp only [isIssuing, if_true, between, List.getElem?_append_right (Nat.le_refl _),
      Nat.sub_self, List.getElem?_cons_zero, setStanding_length]
    rw [List.append_cons]
    cases result with
    | ok done =>
      refine serve_matches (by cases command <;> decide) finished statements waiting ?_
      rw [List.length_append]
      rfl
    | error error =>
      have told := tellAll_waiting error (past ++ [⟨command, .finished (.error error)⟩]) waiting
      rw [List.length_append] at told
      have everybody : List.Forall₂ Decided (waiting.map (⟨·, .told (.error error)⟩))
          (waiting.map fun _ => .error error) := by
        rw [List.forall₂_map_left_iff, List.forall₂_map_right_iff, List.forall₂_same]
        exact fun _ _ => Or.inl rfl
      have all : List.Forall₂ Decided
          (past ++ [⟨command, .finished (.error error)⟩] ++ waiting.map (⟨·, .told (.error error)⟩))
          (outcomes ++ (command :: waiting).map fun _ => .error error) := by
        have one_more : outcomes ++ (command :: waiting).map (fun _ => .error error)
            = outcomes ++ [.error error] ++ waiting.map fun _ => .error error := by
          rw [List.map_cons, List.append_cons]
        rw [one_more]
        exact List.rel_append finished everybody
      have ended := @Matches.atRest .idle _ statements _ all (by decide)
      rw [← told] at ended
      exact ended

end

/-! ### A whole run -/

theorem run_matches {signals : List Signal} {c : Coordinator} (run : Run signals c) :
    Matches (Ledger.after signals) c := by
  induction run with
  | start => exact .atRest .nil (by decide)
  | arrive command run ih =>
    rw [Ledger.after_concat]
    exact arrive_matches ih command
  | resume number run ih => exact resume_matches ih number
  | acknowledge result flies run ih =>
    rw [Ledger.after_concat]
    exact acknowledge_matches ih flies result

theorem foldl_resume_matches {ledger : Ledger} {c : Coordinator} (agrees : Matches ledger c)
    (order : List Nat) : Matches ledger (order.foldl resume c) := by
  induction order generalizing c with
  | nil => exact agrees
  | cons number order ih => exact ih (resume_matches agrees number)

/-- What can be seen of the coordinator is what the ledger says: the state, the statements, and the
outcome of every request. Without a statement in flight every request is finished. -/
structure Agrees (ledger : Ledger) (c : Coordinator) : Prop where
  state : c.state = ledger.state
  statements : c.statements = ledger.statements
  requests : c.requests.length = ledger.outcomes.length + ledger.pending.length
  outcomes : ∀ number result,
    c.standing? number = some (.finished result) ↔ ledger.outcomes[number]? = some result
  finished : c.inFlight? = none →
    ∀ number < c.requests.length, ∃ result, c.standing? number = some (.finished result)

theorem Matches.state {ledger : Ledger} {c : Coordinator} (agrees : Matches ledger c) :
    c.state = ledger.state := by
  cases agrees with
  | @atRest settled outcomes statements past decided rests =>
    cases settled <;> first | rfl | exact absurd rfl rests
  | chosen command waiting decided => rfl
  | issuing command waiting decided => rfl

theorem finished_iff {past rest : List Request} {outcomes : List (Except StoreError Unit)}
    (decided : List.Forall₂ Decided past outcomes)
    (undecided : ∀ request ∈ rest, ∀ result, request.standing ≠ .finished result)
    {phase : Phase} {statements : List Command} (quiet : Quiet ⟨phase, past ++ rest, statements⟩)
    (number : Nat) (result : Except StoreError Unit) :
    standing? ⟨phase, past ++ rest, statements⟩ number = some (.finished result)
      ↔ outcomes[number]? = some result := by
  rcases Nat.lt_or_ge number past.length with inside | beyond
  · have awake := quiet number
    obtain ⟨own, outcome, stands⟩ := Decided.at decided (List.getElem?_eq_getElem inside)
    rw [Woken, standing?, List.getElem?_append_left inside, List.getElem?_eq_getElem inside,
      Option.map_some] at awake
    rw [outcome, standing?, List.getElem?_append_left inside, List.getElem?_eq_getElem inside,
      Option.map_some]
    rcases stands with told | finished
    · exact absurd (Or.inr ⟨own, congrArg some told⟩) awake
    · rw [finished]
      simp
  · rw [List.getElem?_eq_none (decided.length_eq ▸ beyond), standing?,
      List.getElem?_append_right beyond]
    refine ⟨fun stands => ?_, fun outcome => by cases outcome⟩
    obtain ⟨request, found, stands⟩ := Option.map_eq_some_iff.1 stands
    exact absurd stands (undecided request (List.mem_of_getElem? found) result)

theorem Matches.agrees {ledger : Ledger} {c : Coordinator} (agrees : Matches ledger c)
    (quiet : Quiet c) : Agrees ledger c := by
  have said := agrees.state
  cases agrees with
  | @atRest settled outcomes statements past decided rests =>
    have all := finished_iff decided (fun _ none => absurd none List.not_mem_nil)
      (by rw [List.append_nil]; exact quiet)
    rw [List.append_nil] at all
    refine ⟨said, rfl, decided.length_eq, all, fun _ number inside => ?_⟩
    obtain ⟨result, outcome, _⟩ := Decided.at decided (List.getElem?_eq_getElem inside)
    exact ⟨result, (all number result).2 outcome⟩
  | @chosen settled outcomes statements past command waiting decided =>
    refine absurd (Or.inl ?_) (quiet past.length)
    rw [standing?, between, List.getElem?_append_right (Nat.le_refl _), Nat.sub_self]
    rfl
  | @issuing settled outcomes statements past command waiting decided =>
    refine ⟨said, rfl, ?_, finished_iff decided ?_ quiet, fun grounded => ?_⟩
    · simp [between, decided.length_eq]
    · simp
    · rw [between_inFlight? decided] at grounded
      cases grounded

/-- Without cancellation the coordinator says of the session what the ledger says, at every moment;
and after every signal, once all who were told or chosen have gone on, in any order, it agrees with
the ledger altogether. -/
theorem run_agrees {signals : List Signal} {c : Coordinator} (run : Run signals c) :
    c.state = (Ledger.after signals).state ∧
      ∀ order : List Nat, (∀ number, c.Woken number → number ∈ order) →
        Agrees (Ledger.after signals) (order.foldl resume c) := by
  have agrees := run_matches run
  exact ⟨agrees.state, fun order covers =>
    (foldl_resume_matches agrees order).agrees (foldl_resume_quiet covers)⟩

/-- The second request is chosen when the first is answered, and then goes on. -/
theorem run_agrees_of_two :
    Run [.request .begin, .request .commit, .answer (.ok ())]
      (((initial.arrive .begin).arrive .commit).acknowledge (.ok ())) ∧
    (∀ number, Woken (((initial.arrive .begin).arrive .commit).acknowledge (.ok ())) number →
      number ∈ [1]) ∧
    Agrees (Ledger.after [.request .begin, .request .commit, .answer (.ok ())])
      ((((initial.arrive .begin).arrive .commit).acknowledge (.ok ())).resume 1) := by
  have run : Run [.request .begin, .request .commit, .answer (.ok ())]
      (((initial.arrive .begin).arrive .commit).acknowledge (.ok ())) :=
    .acknowledge (.ok ()) rfl (.arrive .commit (.arrive .begin .start))
  have covers (number : Nat)
      (woken : Woken (((initial.arrive .begin).arrive .commit).acknowledge (.ok ())) number) :
      number ∈ [1] := by
    match number with
    | 0 =>
      rcases woken with chosen | ⟨result, told⟩
      · cases chosen
      · cases told
    | 1 => exact List.mem_singleton_self 1
    | number + 2 =>
      rcases woken with chosen | ⟨result, told⟩
      · cases chosen
      · cases told
  exact ⟨run, covers, (run_agrees run).2 [1] covers⟩

end Coordinator

end KeyStore.Transaction
