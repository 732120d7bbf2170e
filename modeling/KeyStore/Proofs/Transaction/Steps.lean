import Mathlib.Data.List.Basic
import KeyStore.Transaction.Run

/-!
# Steps of the coordinator

Every run is made of four kinds of steps: a request arrives, one that was told or chosen goes on,
the database answers, a request is cancelled. They may follow each other in any order. `after` is
the coordinator at the end of a list of steps.

`serve_cases` and `tellAll_eq` say what the two loops over the queue do, in closed form.
`foldl_resume_quiet`: when everybody who can go on has gone on, in any order, nobody can.
-/

namespace KeyStore.Transaction

/-- Something is said of an item of a list and those before it: of an item of a shorter list, or of
the last. -/
theorem exists_split_concat {α : Type} (said : List α → α → Prop) (items : List α) (last : α) :
    (∃ before item rest, items ++ [last] = before ++ item :: rest ∧ said before item) ↔
      (∃ before item rest, items = before ++ item :: rest ∧ said before item) ∨
        said items last := by
  constructor
  · rintro ⟨before, item, rest, split, holds⟩
    rcases List.eq_nil_or_concat rest with rfl | ⟨rest, final, rfl⟩
    · obtain ⟨rfl, rfl⟩ := List.append_singleton_inj.1 split
      exact Or.inr holds
    · rw [List.concat_eq_append, ← List.cons_append, ← List.append_assoc] at split
      obtain ⟨rfl, rfl⟩ := List.append_singleton_inj.1 split
      exact Or.inl ⟨before, item, rest, rfl, holds⟩
  · rintro (⟨before, item, rest, rfl, holds⟩ | holds)
    · exact ⟨before, item, rest ++ [last], by simp, holds⟩
    · exact ⟨items, last, [], rfl, holds⟩

/-- What can happen to a coordinator at one moment. -/
inductive Step where
  /-- A request is made. -/
  | arrive (command : Command)
  /-- A request that was told or chosen goes on. -/
  | resume (number : Nat)
  /-- The database answers the statement in flight. -/
  | acknowledge (result : Except StoreError Unit)
  /-- A request is cancelled. -/
  | cancel (number : Nat)

namespace Coordinator

/-- The coordinator after one step. -/
def perform (c : Coordinator) : Step → Coordinator
  | .arrive command => c.arrive command
  | .resume number => c.resume number
  | .acknowledge result => c.acknowledge result
  | .cancel number => c.cancel number

/-- The coordinator after a list of steps from the start. -/
def after (steps : List Step) : Coordinator := steps.foldl perform initial

theorem after_concat (steps : List Step) (step : Step) :
    after (steps ++ [step]) = (after steps).perform step := by
  rw [after, List.foldl_append]
  rfl

/-! ### Standings -/

theorem getElem?_setStanding (requests : List Request) (number other : Nat) (standing : Standing) :
    (setStanding requests number standing)[other]?
      = if number = other then requests[other]?.map fun request => { request with standing }
        else requests[other]? := by
  rw [setStanding, List.getElem?_modify]
  split <;> simp

/-- Whoever waits is told the result; others stay where they are. -/
def hear (result : Except StoreError Unit) : Standing → Standing
  | .queued => .told result
  | standing => standing

/-- Tells a result to those of the numbered requests that wait. -/
def tell (result : Except StoreError Unit) (numbers : List Nat) (requests : List Request) :
    List Request :=
  requests.mapIdx fun number request =>
    if number ∈ numbers then { request with standing := hear result request.standing } else request

theorem getElem?_tell (result : Except StoreError Unit) (numbers : List Nat)
    (requests : List Request) (number : Nat) :
    (tell result numbers requests)[number]?
      = requests[number]?.map fun request =>
          if number ∈ numbers then { request with standing := hear result request.standing }
          else request := by
  rw [tell, List.getElem?_mapIdx]

theorem tell_nil (result : Except StoreError Unit) (requests : List Request) :
    tell result [] requests = requests := by
  refine List.ext_getElem? fun number => ?_
  rw [getElem?_tell]
  simp

/-- Telling a first request and then others is telling all of them. -/
theorem tell_setStanding (result : Except StoreError Unit) (numbers : List Nat)
    (requests : List Request) (number : Nat) (command : Command)
    (waits : requests[number]? = some ⟨command, .queued⟩) :
    tell result numbers (setStanding requests number (.told result))
      = tell result (number :: numbers) requests := by
  refine List.ext_getElem? fun other => ?_
  rw [getElem?_tell, getElem?_tell, getElem?_setStanding]
  by_cases here : number = other
  · subst here
    simp [waits, hear]
  · simp [here, Ne.symm here]

/-- Telling passes over a request that does not wait. -/
theorem tell_cons_of_not_waiting (result : Except StoreError Unit) (numbers : List Nat)
    (requests : List Request) (number : Nat)
    (busy : ∀ command, requests[number]? ≠ some ⟨command, .queued⟩) :
    tell result (number :: numbers) requests = tell result numbers requests := by
  refine List.ext_getElem? fun other => ?_
  rw [getElem?_tell, getElem?_tell]
  by_cases here : other = number
  · subst here
    cases found : requests[other]? with
    | none => rfl
    | some request =>
      obtain ⟨command, standing⟩ := request
      have unheard : hear result standing = standing := by
        cases standing <;> first | rfl | exact absurd found (busy command)
      simp [unheard]
  · simp [here]

/-! ### Arriving -/

/-- A request that arrives waits, or has what it asks for, or puts its statement. -/
theorem arrive_cases (c : Coordinator) (command : Command) :
    (∃ queue, c.phase = .transitioning queue ∧
      c.arrive command = ⟨.transitioning (queue ++ [c.requests.length]),
        c.requests ++ [⟨command, .queued⟩], c.statements⟩) ∨
    (c.state ≠ .transitioning ∧ command.isSatisfiedIn c.state = true ∧
      c.arrive command = ⟨c.phase, c.requests ++ [⟨command, .finished (.ok ())⟩], c.statements⟩) ∨
    (c.state ≠ .transitioning ∧ command.isSatisfiedIn c.state = false ∧
      c.arrive command = ⟨.transitioning [], c.requests ++ [⟨command, .issuing⟩],
        c.statements ++ [command]⟩) := by
  cases phase : c.phase with
  | transitioning queue => exact Or.inl ⟨queue, rfl, by rw [arrive, phase]⟩
  | idle =>
    right
    cases satisfied : command.isSatisfiedIn .idle <;>
      simp [arrive, state, phase, Phase.state, satisfied]
  | inside =>
    right
    cases satisfied : command.isSatisfiedIn .inside <;>
      simp [arrive, state, phase, Phase.state, satisfied]

/-! ### Going on -/

/-- The request was told or chosen and has not gone on. -/
def Woken (c : Coordinator) (number : Nat) : Prop :=
  c.standing? number = some .chosen ∨ ∃ result, c.standing? number = some (.told result)

/-- Every request that was told or chosen has gone on. -/
def Quiet (c : Coordinator) : Prop := ∀ number, ¬ c.Woken number

theorem quiet_of_requests {c : Coordinator} (gone : ∀ request ∈ c.requests,
    request.standing ≠ .chosen ∧ ∀ result, request.standing ≠ .told result) : Quiet c := by
  rintro number (chosen | ⟨result, told⟩)
  · obtain ⟨request, found, stands⟩ := Option.map_eq_some_iff.1 chosen
    exact (gone request (List.mem_of_getElem? found)).1 stands
  · obtain ⟨request, found, stands⟩ := Option.map_eq_some_iff.1 told
    exact (gone request (List.mem_of_getElem? found)).2 result stands

theorem standing?_setStanding (c : Coordinator) (phase : Phase) (number other : Nat)
    (standing : Standing) (statements : List Command) :
    standing? { phase, requests := setStanding c.requests number standing, statements } other
      = if number = other then (c.standing? other).map fun _ => standing
        else c.standing? other := by
  rw [standing?, getElem?_setStanding, standing?]
  split <;> simp [Function.comp_def]

/-- After a request was put elsewhere, it stands there or is another one that stands where it
stood. -/
theorem standing?_setStanding_cases {c : Coordinator} {phase : Phase} {number other : Nat}
    {standing found : Standing} {statements : List Command}
    (stands : standing? { phase, requests := setStanding c.requests number standing, statements }
      other = some found) :
    (number = other ∧ found = standing) ∨ (number ≠ other ∧ c.standing? other = some found) := by
  rw [standing?_setStanding] at stands
  split at stands
  · next here =>
    obtain ⟨old, _, moved⟩ := Option.map_eq_some_iff.1 stands
    exact Or.inl ⟨here, moved.symm⟩
  · next differs => exact Or.inr ⟨differs, stands⟩

theorem not_woken_setStanding {c : Coordinator} {number other : Nat} {standing : Standing}
    (asleep : standing ≠ .chosen ∧ ∀ result, standing ≠ .told result) (statements : List Command)
    (woken : Woken
      { c with requests := setStanding c.requests number standing, statements } other) :
    number ≠ other ∧ c.Woken other := by
  rcases woken with chosen | ⟨result, told⟩
  · rcases standing?_setStanding_cases chosen with ⟨_, here⟩ | ⟨differs, stood⟩
    · exact absurd here.symm asleep.1
    · exact ⟨differs, Or.inl stood⟩
  · rcases standing?_setStanding_cases told with ⟨_, here⟩ | ⟨differs, stood⟩
    · exact absurd here.symm (asleep.2 result)
    · exact ⟨differs, Or.inr ⟨result, stood⟩⟩

theorem woken_resume {c : Coordinator} {number other : Nat}
    (woken : (c.resume number).Woken other) : number ≠ other ∧ c.Woken other := by
  rw [resume] at woken
  split at woken
  · exact not_woken_setStanding (by simp) c.statements woken
  · exact not_woken_setStanding (by simp) _ woken
  · next untold unchosen =>
    refine ⟨?_, woken⟩
    rintro rfl
    rcases woken with chosen | ⟨result, told⟩
    · obtain ⟨request, found, stands⟩ := Option.map_eq_some_iff.1 chosen
      exact unchosen request.command (by rw [found, ← stands])
    · obtain ⟨request, found, stands⟩ := Option.map_eq_some_iff.1 told
      exact untold request.command result (by rw [found, ← stands])

theorem foldl_resume_quiet {c : Coordinator} {order : List Nat}
    (covers : ∀ number, c.Woken number → number ∈ order) : Quiet (order.foldl resume c) := by
  induction order generalizing c with
  | nil => exact fun number woken => absurd (covers number woken) List.not_mem_nil
  | cons first order ih =>
    refine ih fun number woken => ?_
    obtain ⟨differs, before⟩ := woken_resume woken
    exact (List.mem_cons.1 (covers number before)).resolve_left (Ne.symm differs)

/-! ### The two loops -/

/-- After an error every request of the queue that waits is told the error. -/
theorem tellAll_eq (error : StoreError) (requests : List Request) (queue : List Nat) :
    tellAll error requests queue = tell (.error error) queue requests := by
  induction queue generalizing requests with
  | nil => rw [tellAll, tell_nil]
  | cons number queue ih =>
    rw [tellAll]
    split
    · next command waits => rw [ih, tell_setStanding _ _ _ _ command waits]
    · next busy => rw [ih, tell_cons_of_not_waiting _ _ _ _ busy]

/-- Each of the numbered requests that waits already has what it asks for. -/
def Satisfied (state : State) (requests : List Request) (numbers : List Nat) : Prop :=
  ∀ number ∈ numbers, ∀ command, requests[number]? = some ⟨command, .queued⟩ →
    command.isSatisfiedIn state = true

theorem Satisfied.cons_told {state : State} {requests : List Request} {numbers : List Nat}
    {number : Nat} {command : Command}
    (waits : requests[number]? = some ⟨command, .queued⟩)
    (satisfied : command.isSatisfiedIn state = true)
    (others : Satisfied state (setStanding requests number (.told (.ok ()))) numbers) :
    Satisfied state requests (number :: numbers) := by
  intro other member asked found
  by_cases here : number = other
  · subst here
    rw [waits] at found
    cases found
    exact satisfied
  · refine others other ((List.mem_cons.1 member).resolve_left (Ne.symm here)) asked ?_
    rw [getElem?_setStanding, if_neg here, found]

/-- After an ok the queue is served from its front: those that wait and have what they ask for are
told so, up to the first that has not, which is chosen. Without one the session comes to rest. -/
theorem serve_cases (state : State) (requests : List Request) (queue : List Nat) :
    (Satisfied state requests queue ∧
      serve state requests queue = (.settled state, tell (.ok ()) queue requests)) ∨
    ∃ passed number rest command,
      queue = passed ++ number :: rest ∧ number ∉ passed ∧ Satisfied state requests passed ∧
      requests[number]? = some ⟨command, .queued⟩ ∧ command.isSatisfiedIn state = false ∧
      serve state requests queue
        = (.transitioning rest, setStanding (tell (.ok ()) passed requests) number .chosen) := by
  induction queue generalizing requests with
  | nil => exact Or.inl ⟨fun _ member => absurd member List.not_mem_nil, by rw [serve, tell_nil]⟩
  | cons first queue ih =>
    rw [serve]
    split
    · next command waits =>
      cases satisfied : command.isSatisfiedIn state with
      | false =>
        refine Or.inr ⟨[], first, queue, command, rfl, List.not_mem_nil,
          fun _ member => absurd member List.not_mem_nil, waits, satisfied, ?_⟩
        rw [tell_nil]
        rfl
      | true =>
        rw [if_pos rfl]
        rcases ih (setStanding requests first (.told (.ok ()))) with
          ⟨rest, result⟩ | ⟨passed, number, rest, other, split, fresh, before, next, needs, result⟩
        · exact Or.inl ⟨rest.cons_told waits satisfied,
            by rw [result, tell_setStanding _ _ _ _ command waits]⟩
        · rw [getElem?_setStanding] at next
          have differs : first ≠ number := by
            rintro rfl
            rw [if_pos rfl, waits] at next
            cases next
          rw [if_neg differs] at next
          refine Or.inr ⟨first :: passed, number, rest, other, by rw [split]; rfl,
            by simp [fresh, differs.symm], before.cons_told waits satisfied, next, needs, ?_⟩
          rw [result, tell_setStanding _ _ _ _ command waits]
    · next busy =>
      have skipped {numbers : List Nat} (others : Satisfied state requests numbers) :
          Satisfied state requests (first :: numbers) := by
        intro other member asked found
        rcases List.mem_cons.1 member with rfl | member
        · exact absurd found (busy asked)
        · exact others other member asked found
      rcases ih requests with
        ⟨rest, result⟩ | ⟨passed, number, rest, other, split, fresh, before, next, needs, result⟩
      · exact Or.inl ⟨skipped rest, by rw [result, tell_cons_of_not_waiting _ _ _ _ busy]⟩
      · refine Or.inr ⟨first :: passed, number, rest, other, by rw [split]; rfl, ?_, skipped before,
          next, needs, by rw [result, tell_cons_of_not_waiting _ _ _ _ busy]⟩
        refine List.not_mem_cons_of_ne_of_not_mem ?_ fresh
        rintro rfl
        exact busy other next

end Coordinator

end KeyStore.Transaction
