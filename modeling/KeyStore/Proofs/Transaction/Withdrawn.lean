import KeyStore.Proofs.Transaction.Invariant

/-!
# Requests that are given up while they wait

A request that is cancelled before it was told its result or chosen leaves no trace: the run is the
run in which it was never made, but for the numbers of the requests after it. While the request
waits, and once it is dead, the loops over the queue may meet it; they never choose it, so what they
do to the others does not depend on it.

`Coordinator.without` leaves a request out of a coordinator, and `Step.without` out of a step.
`perform_without` says that the two agree, `cancelled_waiter_unnoticed` what follows for runs.
-/

namespace KeyStore.Transaction

/-- The place in a list that a later place moves up to when the place `gone` is closed. -/
def moveUp (gone number : Nat) : Nat := if gone < number then number - 1 else number

/-- The number of a request when the request `gone` is left out. -/
def renumber (gone number : Nat) : Option Nat :=
  if number = gone then none else some (moveUp gone number)

/-- The step when the request `gone` is left out; its own steps are left out with it. -/
def Step.without (gone : Nat) : Step → Option Step
  | .arrive command => some (.arrive command)
  | .resume number => (renumber gone number).map .resume
  | .acknowledge result => some (.acknowledge result)
  | .cancel number => (renumber gone number).map .cancel

/-- The phase when the request `gone` is left out. -/
def Phase.without (gone : Nat) : Phase → Phase
  | .transitioning queue => .transitioning (queue.filterMap (renumber gone))
  | phase => phase

theorem renumber_self (gone : Nat) : renumber gone gone = none := if_pos rfl

theorem renumber_of_ne {gone number : Nat} (other : number ≠ gone) :
    renumber gone number = some (moveUp gone number) :=
  if_neg other

theorem renumber_succ (gone number : Nat) :
    renumber (gone + 1) (number + 1) = (renumber gone number).map (· + 1) := by
  unfold renumber moveUp
  by_cases same : number = gone
  · simp [same]
  · by_cases above : gone < number
    · simp [same, above, Nat.sub_add_cancel (Nat.one_le_of_lt above)]
    · simp [same, above]

/-- Closing a place moves the items behind it up. -/
theorem getElem?_eraseIdx_moveUp {α : Type} (items : List α) {gone number : Nat}
    (other : number ≠ gone) : (items.eraseIdx gone)[moveUp gone number]? = items[number]? := by
  rw [List.getElem?_eraseIdx, moveUp]
  rcases Nat.lt_or_gt_of_ne other with below | above
  · rw [if_neg (Nat.lt_asymm below), if_pos below]
  · rw [if_pos above, if_neg (by omega), Nat.sub_add_cancel (Nat.one_le_of_lt above)]

/-- Where the closed place does not pass the test, the first that does is found where it has moved
to. -/
theorem findIdx?_eraseIdx {α : Type} (test : α → Bool) (items : List α) (gone : Nat)
    (fails : ∀ item, items[gone]? = some item → test item = false) :
    (items.eraseIdx gone).findIdx? test = (items.findIdx? test).bind (renumber gone) := by
  induction items generalizing gone with
  | nil => rfl
  | cons first rest ih =>
    cases gone with
    | zero =>
      rw [List.eraseIdx_cons_zero, List.findIdx?_cons, if_neg (by simp [fails first rfl])]
      cases rest.findIdx? test <;> rfl
    | succ gone =>
      rw [List.eraseIdx_cons_succ, List.findIdx?_cons, List.findIdx?_cons, ih gone fails]
      split
      · rfl
      · cases rest.findIdx? test with
        | none => rfl
        | some number => exact (renumber_succ gone number).symm

theorem Phase.state_without (gone : Nat) (phase : Phase) :
    (phase.without gone).state = phase.state := by
  cases phase <;> rfl

theorem Phase.without_settled (gone : Nat) (state : State) :
    (Phase.settled state).without gone = .settled state := by
  cases state <;> rfl

/-! ### What can become of a request -/

/-- A request can go from the one standing to the other. -/
inductive Standing.Moves : Standing → Standing → Prop
  | told (result : Except StoreError Unit) : Moves .queued (.told result)
  | chosen : Moves .queued .chosen
  | finished (result : Except StoreError Unit) : Moves (.told result) (.finished result)
  | issued : Moves .chosen .issuing
  | answered (result : Except StoreError Unit) : Moves .issuing (.finished result)
  | cancelled {standing : Standing} (unfinished : ∀ result, standing ≠ .finished result) :
      Moves standing .cancelled

/-- A request is left alone or goes from its standing to another. -/
def Standing.Goes (standing later : Standing) : Prop := later = standing ∨ standing.Moves later

namespace Coordinator

variable {c : Coordinator} {gone number : Nat} {standing : Standing}

theorem hear_goes (result : Except StoreError Unit) (standing : Standing) :
    standing.Goes (hear result standing) := by
  cases standing with
  | queued => exact Or.inr (.told result)
  | _ => exact Or.inl rfl

theorem settle_goes (command : Command) (result : Except StoreError Unit)
    (stands : c.standing? number = some standing) :
    ∃ later, (c.settle command result).standing? number = some later ∧ standing.Goes later := by
  have told (phase : Phase) (answer : Except StoreError Unit) (numbers : List Nat) :
      ∃ later, standing? { c with phase, requests := tell answer numbers c.requests } number
        = some later ∧ standing.Goes later := by
    rw [standing?_tell, stands, Option.map_some]
    split
    · exact ⟨_, rfl, hear_goes answer standing⟩
    · exact ⟨_, rfl, Or.inl rfl⟩
  cases result with
  | error error =>
    rw [settle, tellAll_eq]
    exact told .idle (.error error) c.queue
  | ok done =>
    rw [settle]
    rcases serve_cases command.target c.requests c.queue with
      ⟨_, served⟩ | ⟨passed, next, rest, asked, _, fresh, _, waits, _, served⟩
    · rw [served]
      exact told (.settled command.target) (.ok ()) c.queue
    · rw [served]
      by_cases here : next = number
      · subst here
        have queued : standing = .queued := by
          rw [standing?, waits] at stands
          exact (Option.some.inj stands).symm
        refine ⟨.chosen, ?_, queued ▸ Or.inr .chosen⟩
        simp [standing?, getElem?_setStanding, getElem?_tell, waits]
      · obtain ⟨later, found, goes⟩ := told (.transitioning rest) (.ok ()) passed
        refine ⟨later, ?_, goes⟩
        rw [← found]
        simp [standing?, getElem?_setStanding, here]

/-- Putting one request elsewhere and then bringing its statement to an end. -/
theorem settle_setStanding_goes {other : Nat} {place : Standing} (command : Command)
    (result : Except StoreError Unit) (stands : c.standing? number = some standing)
    (moved : other = number → standing.Moves place)
    (final : ∀ later, place.Moves later → later = place) :
    ∃ later, (settle { c with requests := setStanding c.requests other place } command
      result).standing? number = some later ∧ standing.Goes later := by
  by_cases here : other = number
  · have placed : standing? { c with requests := setStanding c.requests other place } number
        = some place := by
      rw [standing?_setStanding, if_pos here, stands]
      rfl
    obtain ⟨later, found, goes⟩ := settle_goes command result placed
    have same : later = place := goes.elim id (final later)
    exact ⟨later, found, Or.inr (same ▸ moved here)⟩
  · exact settle_goes command result (by rw [standing?_setStanding, if_neg here, stands])

/-- A step leaves every request where it stands, or moves it to where it can go from there. -/
theorem perform_goes (step : Step) (stands : c.standing? number = some standing) :
    ∃ later, (c.perform step).standing? number = some later ∧ standing.Goes later := by
  obtain ⟨request, found, place⟩ := Option.map_eq_some_iff.1 stands
  have inside : number < c.requests.length := (List.getElem?_eq_some_iff.1 found).1
  have same : ∃ later, c.standing? number = some later ∧ standing.Goes later :=
    ⟨standing, stands, Or.inl rfl⟩
  have put {other : Nat} {place : Standing} (phase : Phase) (statements : List Command)
      (moved : other = number → standing.Moves place) :
      ∃ later, standing? ⟨phase, setStanding c.requests other place, statements⟩ number
        = some later ∧ standing.Goes later := by
    rw [standing?_setStanding, stands]
    split
    · next here => exact ⟨place, rfl, Or.inr (moved here)⟩
    · exact ⟨standing, rfl, Or.inl rfl⟩
  have reaches {other : Nat} {old : Request} (known : c.requests[other]? = some old)
      (here : other = number) : standing = old.standing := by
    rw [← place, Option.some.inj (found.symm.trans (here ▸ known))]
  cases step with
  | arrive command =>
    have later (phase : Phase) (request : Request) (statements : List Command) :
        standing? ⟨phase, c.requests ++ [request], statements⟩ number = some standing := by
      rw [standing?_concat, if_neg (Nat.ne_of_lt inside), stands]
    rw [perform]
    rcases arrive_cases c command with ⟨queue, _, arrived⟩ | ⟨_, _, arrived⟩ | ⟨_, _, arrived⟩ <;>
      exact ⟨standing, by rw [arrived, later], Or.inl rfl⟩
  | resume other =>
    rw [perform, resume]
    split
    · next command result known =>
      exact put _ _ fun here => reaches known here ▸ .finished result
    · next command known => exact put _ _ fun here => reaches known here ▸ .issued
    · exact same
  | acknowledge result =>
    rw [perform, acknowledge]
    split
    · exact same
    · next other flies =>
      obtain ⟨command, known⟩ := inFlight?_eq_some flies
      rw [known]
      exact settle_setStanding_goes command result stands
        (fun here => reaches known here ▸ .answered result) fun later moves => by
          cases moves with
          | cancelled unfinished => exact absurd rfl (unfinished result)
  | cancel other =>
    rw [perform, cancel]
    split
    · exact same
    · exact same
    · exact same
    · next command known =>
      exact settle_setStanding_goes command _ stands
        (fun here => reaches known here ▸ .cancelled fun _ ended => by cases ended)
        fun later moves => by cases moves; rfl
    · next request finished _ _ known =>
      refine put _ _ fun here => .cancelled fun result ended => ?_
      exact finished request.command result (by rw [← ended, reaches known here])

/-- The request waits, or was told its result and has not gone on. -/
def Waiting (c : Coordinator) (number : Nat) : Prop :=
  c.standing? number = some .queued ∨ ∃ result, c.standing? number = some (.told result)

/-- The request waits or is dead: it has not taken part, and does not. -/
def Aside (c : Coordinator) (number : Nat) : Prop :=
  c.Waiting number ∨ c.standing? number = some .cancelled

theorem standing?_of_lt (known : number < c.requests.length) :
    c.standing? number = some c.requests[number].standing := by
  rw [standing?, List.getElem?_eq_getElem known]
  rfl

theorem known_of_standing? (stands : c.standing? number = some standing) :
    number < c.requests.length := by
  obtain ⟨request, found, _⟩ := Option.map_eq_some_iff.1 stands
  exact (List.getElem?_eq_some_iff.1 found).1

theorem known_perform (step : Step) (known : number < c.requests.length) :
    number < (c.perform step).requests.length := by
  obtain ⟨later, found, _⟩ := perform_goes step (standing?_of_lt known)
  exact known_of_standing? found

/-- A request that was made before waits after a step only if it waited already. -/
theorem waiting_of_perform (step : Step) (known : number < c.requests.length)
    (waits : (c.perform step).Waiting number) : c.Waiting number := by
  have stands := standing?_of_lt known
  obtain ⟨later, found, goes⟩ := perform_goes step stands
  unfold Waiting at waits ⊢
  rw [found] at waits
  rw [stands]
  generalize c.requests[number].standing = standing at goes ⊢
  rcases goes with rfl | moves
  · exact waits
  · rcases waits with queued | ⟨result, told⟩
    · cases Option.some.inj queued
      cases moves
    · cases Option.some.inj told
      cases moves
      exact Or.inl rfl

theorem cancelled_perform (step : Step) (dead : c.standing? number = some .cancelled) :
    (c.perform step).standing? number = some .cancelled := by
  obtain ⟨later, found, rfl | moves⟩ := perform_goes step dead
  · exact found
  · cases moves
    exact found

/-! ### One step with the request and without it -/

/-- The coordinator when the request `gone` is left out. -/
def without (c : Coordinator) (gone : Nat) : Coordinator :=
  ⟨c.phase.without gone, c.requests.eraseIdx gone, c.statements⟩

theorem queue_without (c : Coordinator) (gone : Nat) :
    (c.without gone).queue = c.queue.filterMap (renumber gone) := by
  unfold queue without
  cases c.phase <;> rfl

theorem setStanding_eraseIdx (requests : List Request) (other : number ≠ gone)
    (standing : Standing) :
    (setStanding requests number standing).eraseIdx gone
      = setStanding (requests.eraseIdx gone) (moveUp gone number) standing := by
  unfold setStanding moveUp
  rcases Nat.lt_or_gt_of_ne other with below | above
  · rw [if_neg (Nat.lt_asymm below), List.eraseIdx_modify_of_gt _ _ _ _ below]
  · rw [if_pos above, List.eraseIdx_modify_of_lt _ _ _ _ above]

theorem setStanding_eraseIdx_self (requests : List Request) (gone : Nat) (standing : Standing) :
    (setStanding requests gone standing).eraseIdx gone = requests.eraseIdx gone :=
  List.eraseIdx_modify_of_eq _ _ _

/-- The queue is served alike without a request that is not chosen. -/
theorem serve_without (state : State) (requests : List Request) (queue : List Nat)
    (unchosen : ∀ command, (serve state requests queue).2[gone]? ≠ some ⟨command, .chosen⟩) :
    serve state (requests.eraseIdx gone) (queue.filterMap (renumber gone))
      = ((serve state requests queue).1.without gone,
          (serve state requests queue).2.eraseIdx gone) := by
  induction queue generalizing requests with
  | nil => simp only [List.filterMap_nil, serve, Phase.without_settled]
  | cons number queue ih =>
    by_cases here : number = gone
    · subst here
      rw [List.filterMap_cons_none (renumber_self number)]
      rw [serve] at unchosen ⊢
      split at unchosen
      · next command waits =>
        split at unchosen
        · next satisfied =>
          rw [if_pos satisfied, ← ih _ unchosen, setStanding_eraseIdx_self]
        · refine absurd ?_ (unchosen command)
          rw [getElem?_setStanding, if_pos rfl, waits]
          rfl
      · exact ih requests unchosen
    · rw [List.filterMap_cons_some (renumber_of_ne here), serve,
        getElem?_eraseIdx_moveUp requests here]
      rw [serve] at unchosen ⊢
      split
      · next command waits =>
        simp only [waits] at unchosen
        split
        · next satisfied =>
          rw [if_pos satisfied] at unchosen
          rw [← ih _ unchosen, setStanding_eraseIdx requests here]
        · simp only [setStanding_eraseIdx requests here]
          rfl
      · next busy =>
        split at unchosen
        · next command waits => exact absurd waits (busy command)
        · exact ih requests unchosen

/-- An error is told alike without a request. -/
theorem tellAll_without (error : StoreError) (requests : List Request) (queue : List Nat)
    (gone : Nat) :
    tellAll error (requests.eraseIdx gone) (queue.filterMap (renumber gone))
      = (tellAll error requests queue).eraseIdx gone := by
  induction queue generalizing requests with
  | nil => rfl
  | cons number queue ih =>
    by_cases here : number = gone
    · subst here
      rw [List.filterMap_cons_none (renumber_self number), tellAll]
      split
      · rw [← ih, setStanding_eraseIdx_self]
      · exact ih requests
    · rw [List.filterMap_cons_some (renumber_of_ne here), tellAll, tellAll,
        getElem?_eraseIdx_moveUp requests here]
      split
      · rw [← ih, setStanding_eraseIdx requests here]
      · exact ih requests

theorem inFlight?_without (idle : c.standing? gone ≠ some .issuing) :
    (c.without gone).inFlight? = c.inFlight?.bind (renumber gone) := by
  refine findIdx?_eraseIdx isIssuing c.requests gone fun request found => ?_
  refine Bool.eq_false_iff.2 fun issues => idle ?_
  rw [standing?, found, Option.map_some, (isIssuing_iff request).1 issues]

theorem settle_without (command : Command) (result : Except StoreError Unit)
    (unchosen : (c.settle command result).standing? gone ≠ some .chosen) :
    (c.without gone).settle command result = (c.settle command result).without gone := by
  cases result with
  | error error =>
    rw [settle, settle, queue_without]
    exact congrArg (fun requests => (⟨.idle, requests, c.statements⟩ : Coordinator))
      (tellAll_without error c.requests c.queue gone)
  | ok done =>
    have unserved (other : Command) :
        (serve command.target c.requests c.queue).2[gone]? ≠ some ⟨other, .chosen⟩ :=
      fun chosen => unchosen (congrArg (Option.map Request.standing) chosen)
    have served := serve_without command.target c.requests c.queue unserved
    rw [settle, settle, queue_without]
    exact congrArg (fun (result : Phase × List Request) =>
      (⟨result.1, result.2, c.statements⟩ : Coordinator)) served

theorem Aside.known (aside : c.Aside gone) : gone < c.requests.length := by
  refine Nat.lt_of_not_le fun outside => ?_
  have unknown : c.standing? gone = none := by rw [standing?, List.getElem?_eq_none outside]; rfl
  simp [Aside, Waiting, unknown] at aside

theorem Aside.unchosen (aside : c.Aside gone) : c.standing? gone ≠ some .chosen := by
  intro chosen
  simp [Aside, Waiting, chosen] at aside

theorem Aside.idle (aside : c.Aside gone) : c.standing? gone ≠ some .issuing := by
  intro issuing
  simp [Aside, Waiting, issuing] at aside

theorem arrive_without (command : Command) (known : gone < c.requests.length) :
    (c.arrive command).without gone = (c.without gone).arrive command := by
  have count : (c.requests.eraseIdx gone).length = moveUp gone c.requests.length := by
    rw [List.length_eraseIdx_of_lt known, moveUp, if_pos known]
  have longer (request : Request) :
      (c.requests ++ [request]).eraseIdx gone = c.requests.eraseIdx gone ++ [request] :=
    List.eraseIdx_append_of_lt_length known _
  cases phase : c.phase with
  | transitioning queue =>
    simp only [arrive, without, phase, Phase.without, List.filterMap_append, longer, count]
    rw [List.filterMap_cons_some (renumber_of_ne (Nat.ne_of_gt known))]
    rfl
  | idle =>
    cases satisfied : command.isSatisfiedIn .idle <;>
      simp [arrive, without, phase, Phase.without, Phase.state, satisfied, longer]
  | inside =>
    cases satisfied : command.isSatisfiedIn .inside <;>
      simp [arrive, without, phase, Phase.without, Phase.state, satisfied, longer]

theorem resume_without (aside : c.Aside gone) (number : Nat) :
    (c.resume number).without gone
      = ((renumber gone number).map (c.without gone).resume).getD (c.without gone) := by
  by_cases here : number = gone
  · subst here
    rw [renumber_self, resume]
    split
    · simp only [without, setStanding_eraseIdx_self]
      rfl
    · next command chosen =>
      exact absurd (congrArg (Option.map Request.standing) chosen) aside.unchosen
    · rfl
  · rw [renumber_of_ne here, Option.map_some, Option.getD_some, resume, resume]
    simp only [without, getElem?_eraseIdx_moveUp c.requests here]
    split <;> simp only [setStanding_eraseIdx c.requests here]

/-- A statement comes to an end alike, when the request that put it is put elsewhere first. -/
theorem settle_setStanding_without {place : Standing} (other : number ≠ gone) (command : Command)
    (result : Except StoreError Unit)
    (unchosen : (settle { c with requests := setStanding c.requests number place } command
      result).standing? gone ≠ some .chosen) :
    settle { c.without gone with
        requests := setStanding (c.without gone).requests (moveUp gone number) place }
        command result
      = (settle { c with requests := setStanding c.requests number place } command
          result).without gone := by
  rw [← settle_without command result unchosen]
  exact congrArg (fun requests =>
    settle (⟨c.phase.without gone, requests, c.statements⟩ : Coordinator) command result)
      (setStanding_eraseIdx c.requests other place).symm

theorem acknowledge_without (result : Except StoreError Unit) (aside : c.Aside gone)
    (stays : (c.acknowledge result).Aside gone) :
    (c.acknowledge result).without gone = (c.without gone).acknowledge result := by
  have unchosen := stays.unchosen
  rw [acknowledge] at unchosen
  rw [acknowledge, acknowledge, inFlight?_without aside.idle]
  cases flies : c.inFlight? with
  | none => rfl
  | some number =>
    obtain ⟨command, known⟩ := inFlight?_eq_some flies
    have other : number ≠ gone := by
      rintro rfl
      exact aside.idle (congrArg (Option.map Request.standing) known)
    have moved := getElem?_eraseIdx_moveUp c.requests other
    simp only [flies, known] at unchosen
    simp only [Option.bind_some, renumber_of_ne other, known]
    rw [show (c.without gone).requests[moveUp gone number]? = some ⟨command, .issuing⟩ from
      moved.trans known]
    exact (settle_setStanding_without other command result unchosen).symm

theorem cancel_without (number : Nat) (aside : c.Aside gone)
    (stays : (c.cancel number).Aside gone) :
    (c.cancel number).without gone
      = ((renumber gone number).map (c.without gone).cancel).getD (c.without gone) := by
  by_cases here : number = gone
  · subst here
    rw [renumber_self, cancel]
    split
    · rfl
    · rfl
    · rfl
    · next command issuing =>
      exact absurd (congrArg (Option.map Request.standing) issuing) aside.idle
    · simp only [without, setStanding_eraseIdx_self]
      rfl
  · have unchosen := stays.unchosen
    rw [cancel] at unchosen
    rw [renumber_of_ne here, Option.map_some, Option.getD_some, cancel, cancel]
    have moved : (c.without gone).requests[moveUp gone number]? = c.requests[number]? :=
      getElem?_eraseIdx_moveUp c.requests here
    rw [moved]
    split
    · rfl
    · rfl
    · rfl
    · next command issuing =>
      simp only [issuing] at unchosen
      exact (settle_setStanding_without here command _ unchosen).symm
    · simp only [without, setStanding_eraseIdx c.requests here]

/-- A step does the same to the others with the request and without it. -/
theorem perform_without (step : Step) (aside : c.Aside gone) (stays : (c.perform step).Aside gone) :
    (c.perform step).without gone = (step.without gone).toList.foldl perform (c.without gone) := by
  cases step with
  | arrive command => exact arrive_without command aside.known
  | resume number =>
    rw [perform, resume_without aside, Step.without]
    cases renumber gone number <;> rfl
  | acknowledge result => exact acknowledge_without result aside stays
  | cancel number =>
    rw [perform, cancel_without number aside stays, Step.without]
    cases renumber gone number <;> rfl

/-! ### Runs with the request and without it -/

theorem after_append (before steps : List Step) :
    after (before ++ steps) = steps.foldl perform (after before) :=
  List.foldl_append

theorem length_arrive (c : Coordinator) (command : Command) :
    (c.arrive command).requests.length = c.requests.length + 1 := by
  rcases arrive_cases c command with ⟨_, _, arrived⟩ | ⟨_, _, arrived⟩ | ⟨_, _, arrived⟩ <;>
    simp [arrived]

/-- Leaving out the request that has just come to wait gives the coordinator before it came. -/
theorem enqueued_without (sound : Sound c) (command : Command)
    (waits : (c.arrive command).Waiting c.requests.length) :
    (c.arrive command).without c.requests.length = c := by
  rcases arrive_cases c command with ⟨queue, phase, arrived⟩ | ⟨_, _, arrived⟩ | ⟨_, _, arrived⟩
  · rw [arrived, without, List.eraseIdx_append_of_length_le (Nat.le_refl _), Nat.sub_self]
    have front : c.queue = queue := by rw [Coordinator.queue, phase]
    have listed : ∀ number ∈ queue, number < c.requests.length := by
      intro number member
      rcases sound.listed number (front ▸ member) with stands | stands
      · exact known_of_standing? stands
      · exact known_of_standing? stands
    have same : queue.filterMap (renumber c.requests.length) = queue := by
      refine (List.filterMap_congr fun number member => ?_).trans List.filterMap_some
      have below := listed number member
      rw [renumber_of_ne (Nat.ne_of_lt below), moveUp, if_neg (Nat.lt_asymm below)]
    rw [Phase.without, List.filterMap_append, same,
      List.filterMap_cons_none (renumber_self c.requests.length), List.filterMap_nil,
      List.append_nil, ← phase]
    simp
  all_goals
    rw [arrived] at waits
    simp [Waiting, standing?] at waits

theorem known_foldl (steps : List Step) (known : number < c.requests.length) :
    number < (steps.foldl perform c).requests.length := by
  induction steps generalizing c with
  | nil => exact known
  | cons step steps ih => exact ih (known_perform step known)

theorem waiting_of_foldl (steps : List Step) (known : number < c.requests.length)
    (waits : (steps.foldl perform c).Waiting number) : c.Waiting number := by
  induction steps generalizing c with
  | nil => exact waits
  | cons step steps ih => exact waiting_of_perform step known (ih (known_perform step known) waits)

theorem cancelled_foldl (steps : List Step) (dead : c.standing? number = some .cancelled) :
    (steps.foldl perform c).standing? number = some .cancelled := by
  induction steps generalizing c with
  | nil => exact dead
  | cons step steps ih => exact ih (cancelled_perform step dead)

theorem cancel_of_waiting (waits : c.Waiting number) :
    (c.cancel number).standing? number = some .cancelled := by
  have stands : ∃ standing, c.standing? number = some standing ∧
      (standing = .queued ∨ ∃ result, standing = .told result) :=
    waits.elim (fun queued => ⟨_, queued, Or.inl rfl⟩)
      fun ⟨result, told⟩ => ⟨_, told, Or.inr ⟨result, rfl⟩⟩
  obtain ⟨standing, stands, place⟩ := stands
  obtain ⟨⟨command, _⟩, found, rfl⟩ := Option.map_eq_some_iff.1 stands
  have cancelled : c.cancel number
      = { c with requests := setStanding c.requests number .cancelled } := by
    rw [cancel, found]
    rcases place with place | ⟨result, place⟩ <;> (cases place; rfl)
  rw [cancelled, standing?_setStanding, if_pos rfl, stands]
  rfl

/-- A request that waits until it is cancelled is aside at every moment of the run. -/
theorem aside_of_prefix {middle rest seen : List Step} (known : gone < c.requests.length)
    (waits : (middle.foldl perform c).Waiting gone)
    (part : seen <+: middle ++ .cancel gone :: rest) : (seen.foldl perform c).Aside gone := by
  rcases List.prefix_or_prefix_of_prefix part (List.prefix_append middle _) with early | late
  · obtain ⟨later, rfl⟩ := early
    rw [List.foldl_append] at waits
    exact Or.inl (waiting_of_foldl later (known_foldl seen known) waits)
  · obtain ⟨later, rfl⟩ := late
    rw [List.prefix_append_right_inj] at part
    cases later with
    | nil => exact Or.inl (by simpa using waits)
    | cons step later =>
      obtain ⟨rfl, _⟩ := List.cons_prefix_cons.1 part
      rw [List.foldl_append]
      exact Or.inr (cancelled_foldl later (cancel_of_waiting waits))

/-- While a request is aside, the run with it is the run without it. -/
theorem after_without (before : List Step) (command : Command) (seen : List Step)
    (aside : ∀ steps, steps <+: seen →
      (after (before ++ .arrive command :: steps)).Aside (after before).requests.length)
    (waits : (after (before ++ [.arrive command])).Waiting (after before).requests.length) :
    (after (before ++ .arrive command :: seen)).without (after before).requests.length
      = after (before ++ seen.filterMap (Step.without (after before).requests.length)) := by
  induction seen using List.reverseRecOn with
  | nil =>
    rw [after_concat] at waits ⊢
    rw [List.filterMap_nil, List.append_nil]
    exact enqueued_without (after_sound before) command waits
  | append_singleton seen step ih =>
    have moved : before ++ .arrive command :: (seen ++ [step])
        = (before ++ .arrive command :: seen) ++ [step] := by simp
    have stays := aside _ (List.prefix_refl _)
    rw [moved, after_concat] at stays ⊢
    have earlier : seen <+: seen ++ [step] := List.prefix_append seen [step]
    rw [perform_without step (aside seen earlier) stays,
      ih fun steps part => aside steps (part.trans earlier), List.filterMap_append,
      ← List.append_assoc, after_append]
    cases kept : step.without (after before).requests.length <;>
      simp [kept, after_append]

/-- A request that comes to wait and is cancelled before it was chosen or has finished goes
unnoticed: at every moment after it was made, the run in which it was never made has put the same
statements, reports the same state and has brought every other request equally far. -/
theorem cancelled_waiter_unnoticed (before middle rest : List Step) (command : Command) {gone : Nat}
    (made : gone = (after before).requests.length)
    (waits : (after (before ++ .arrive command :: middle)).Waiting gone) :
    ∀ seen, seen <+: middle ++ .cancel gone :: rest →
      (after (before ++ seen.filterMap (Step.without gone))).statements
          = (after (before ++ .arrive command :: seen)).statements ∧
        (after (before ++ seen.filterMap (Step.without gone))).state
          = (after (before ++ .arrive command :: seen)).state ∧
        (after (before ++ seen.filterMap (Step.without gone))).requests
          = (after (before ++ .arrive command :: seen)).requests.eraseIdx gone := by
  intro seen part
  have arrived (steps : List Step) : after (before ++ .arrive command :: steps)
      = steps.foldl perform (after (before ++ [.arrive command])) := by
    rw [List.append_cons, after_append]
  have known : gone < (after (before ++ [.arrive command])).requests.length := by
    rw [after_concat, perform, length_arrive, made]
    exact Nat.lt_succ_self _
  rw [arrived] at waits
  have aside (steps : List Step) (early : steps <+: seen) :
      (after (before ++ .arrive command :: steps)).Aside gone := by
    rw [arrived]
    exact aside_of_prefix known waits (early.trans part)
  subst made
  rw [← after_without before command seen aside (waiting_of_foldl middle known waits)]
  exact ⟨rfl, Phase.state_without _ _, rfl⟩

/-- Two requests wait for a BEGIN; the first, which would have put its COMMIT next, is given up. -/
theorem cancelled_commit_unnoticed :
    (after [.arrive .begin, .arrive .commit, .arrive .begin]).Waiting 1 ∧
    (after [.arrive .begin, .arrive .begin, .acknowledge (.ok ()), .resume 1]).requests
      = (after [.arrive .begin, .arrive .commit, .arrive .begin, .cancel 1, .acknowledge (.ok ()),
          .resume 2]).requests.eraseIdx 1 := by
  have waits : (after ([.arrive .begin] ++ .arrive .commit :: [.arrive .begin])).Waiting 1 :=
    Or.inl rfl
  exact ⟨waits, (cancelled_waiter_unnoticed [.arrive .begin] [.arrive .begin]
    [.acknowledge (.ok ()), .resume 2] .commit rfl waits _ (List.prefix_refl _)).2.2⟩

end Coordinator

end KeyStore.Transaction
