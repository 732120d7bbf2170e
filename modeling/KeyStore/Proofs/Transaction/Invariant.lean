import Mathlib.Data.List.Induction
import KeyStore.Proofs.Transaction.Steps

/-!
# The invariant of the coordinator

While the coordinator is between two states, one request has the right to put a statement: it was
chosen, or its statement is in flight. The queue holds the requests that wait, each once, and
perhaps some that were cancelled while they waited. `after_sound`: this is so after any steps, in
any order.
-/

namespace KeyStore.Transaction

theorem Phase.state_settled_ne (state : State) : (Phase.settled state).state ≠ .transitioning := by
  cases state <;> decide

namespace Coordinator

/-- The request was chosen to put its statement, or its statement is in flight. -/
def Holds (c : Coordinator) (number : Nat) : Prop :=
  c.standing? number = some .chosen ∨ c.standing? number = some .issuing

/-- Who waits is in the queue, and at most one request has the right to put a statement. -/
structure Sound (c : Coordinator) : Prop where
  nodup : c.queue.Nodup
  listed : ∀ number ∈ c.queue,
    c.standing? number = some .queued ∨ c.standing? number = some .cancelled
  waiting : ∀ number, c.standing? number = some .queued → number ∈ c.queue
  unique : ∀ first second, c.Holds first → c.Holds second → first = second
  held : ∀ number, c.Holds number → c.state = .transitioning

variable {c : Coordinator}

theorem initial_sound : Sound initial where
  nodup := List.nodup_nil
  listed _ member := absurd member List.not_mem_nil
  waiting number waits := by simp [standing?, initial] at waits
  unique first _ holds _ := by simp [Holds, standing?, initial] at holds
  held number holds := by simp [Holds, standing?, initial] at holds

theorem queue_eq_nil_of_ne (rests : c.state ≠ .transitioning) : c.queue = [] := by
  unfold state at rests
  unfold queue
  cases phase : c.phase with
  | idle => rfl
  | inside => rfl
  | transitioning queue => simp [phase, Phase.state] at rests

/-! ### A request stands elsewhere -/

/-- After a request was put elsewhere, only its new place can give it the right to put a
statement; the others hold what they held. -/
theorem holds_setStanding_cases {phase : Phase} {number other : Nat} {standing : Standing}
    {statements : List Command}
    (holds : Holds
      { phase, requests := Coordinator.setStanding c.requests number standing, statements } other) :
    (number = other ∧ (standing = .chosen ∨ standing = .issuing)) ∨
      (number ≠ other ∧ c.Holds other) := by
  rcases holds with chosen | issuing
  · rcases standing?_setStanding_cases chosen with ⟨here, place⟩ | ⟨differs, stood⟩
    · exact Or.inl ⟨here, Or.inl place.symm⟩
    · exact Or.inr ⟨differs, Or.inl stood⟩
  · rcases standing?_setStanding_cases issuing with ⟨here, place⟩ | ⟨differs, stood⟩
    · exact Or.inl ⟨here, Or.inr place.symm⟩
    · exact Or.inr ⟨differs, Or.inr stood⟩

/-- A request may leave its place, if it neither comes to wait nor takes the right to put a
statement. In the queue only a cancelled request may stand where one waited. -/
theorem Sound.setStanding (sound : Sound c) (number : Nat) (standing : Standing)
    (unqueued : standing ≠ .queued) (place : number ∈ c.queue → standing = .cancelled)
    (keeps : standing = .chosen ∨ standing = .issuing → c.Holds number) :
    Sound { c with requests := Coordinator.setStanding c.requests number standing } := by
  have held_before (other : Nat)
      (holds : Holds
        { c with requests := Coordinator.setStanding c.requests number standing } other) :
      c.Holds other := by
    rcases holds_setStanding_cases holds with ⟨rfl, place⟩ | ⟨_, held⟩
    · exact keeps place
    · exact held
  refine ⟨sound.nodup, fun other member => ?_, fun other waits => ?_,
    fun first second one two => sound.unique first second (held_before first one)
      (held_before second two), fun other holds => sound.held other (held_before other holds)⟩
  · have stood := sound.listed other member
    rw [standing?_setStanding]
    split
    · next here =>
      subst here
      right
      rcases stood with stood | stood <;> simp [stood, place member]
    · exact stood
  · rcases standing?_setStanding_cases waits with ⟨_, place⟩ | ⟨_, waited⟩
    · exact absurd place.symm unqueued
    · exact sound.waiting other waited

/-! ### The statement has come to an end -/

theorem standing?_tell (c : Coordinator) (phase : Phase) (result : Except StoreError Unit)
    (numbers : List Nat) (number : Nat) :
    standing? { c with phase, requests := tell result numbers c.requests } number
      = (c.standing? number).map fun standing =>
          if number ∈ numbers then hear result standing else standing := by
  rw [standing?, getElem?_tell, standing?, Option.map_map, Option.map_map]
  congr 1
  funext request
  simp only [Function.comp_apply]
  split <;> rfl

theorem waits_tell_iff (c : Coordinator) (phase : Phase) (result : Except StoreError Unit)
    (numbers : List Nat) (number : Nat) :
    standing? { c with phase, requests := tell result numbers c.requests } number = some .queued
      ↔ c.standing? number = some .queued ∧ number ∉ numbers := by
  rw [standing?_tell]
  cases c.standing? number with
  | none => simp
  | some standing =>
    by_cases told : number ∈ numbers
    · cases standing <;> simp [told, hear]
    · simp [told]

theorem holds_tell_iff (c : Coordinator) (phase : Phase) (result : Except StoreError Unit)
    (numbers : List Nat) (number : Nat) :
    Holds { c with phase, requests := tell result numbers c.requests } number
      ↔ c.Holds number := by
  unfold Holds
  rw [standing?_tell]
  cases c.standing? number with
  | none => simp
  | some standing =>
    by_cases told : number ∈ numbers
    · cases standing <;> simp [told, hear]
    · simp [told]

/-- Without a holder, telling the front of the queue leaves the others waiting. -/
theorem Sound.tell (sound : Sound c) (free : ∀ number, ¬ c.Holds number)
    (result : Except StoreError Unit) {phase : Phase} {passed later : List Nat}
    (front : c.queue = passed ++ later)
    (left : queue { c with phase, requests := Coordinator.tell result passed c.requests } = later) :
    Sound { c with phase, requests := Coordinator.tell result passed c.requests } := by
  have nodup := sound.nodup
  rw [front, List.nodup_append] at nodup
  obtain ⟨_, nodup, apart⟩ := nodup
  refine ⟨?_, fun number member => ?_, fun number waits => ?_, fun first _ holds _ => ?_,
    fun number holds => ?_⟩
  · rw [left]
    exact nodup
  · rw [left] at member
    have untold : number ∉ passed := fun told => apart number told number member rfl
    rw [standing?_tell]
    simp only [untold, if_false, Option.map_id']
    exact sound.listed number (front ▸ List.mem_append_right _ member)
  · obtain ⟨waited, untold⟩ := (waits_tell_iff ..).1 waits
    have inside := sound.waiting number waited
    rw [front] at inside
    rw [left]
    exact (List.mem_append.1 inside).resolve_left untold
  · exact absurd ((holds_tell_iff ..).1 holds) (free first)
  · exact absurd ((holds_tell_iff ..).1 holds) (free number)

/-- Without a holder, the first of the queue can be chosen, and becomes the only holder. -/
theorem Sound.choose (sound : Sound c) (free : ∀ number, ¬ c.Holds number) {number : Nat}
    {rest : List Nat} (phase : c.phase = .transitioning (number :: rest)) :
    Sound { c with
      phase := .transitioning rest
      requests := Coordinator.setStanding c.requests number .chosen } := by
  have front : c.queue = number :: rest := by rw [queue, phase]
  have nodup := sound.nodup
  rw [front, List.nodup_cons] at nodup
  have only (other : Nat) (holds : Holds { c with
      phase := .transitioning rest
      requests := Coordinator.setStanding c.requests number .chosen } other) : other = number := by
    rcases holds_setStanding_cases holds with ⟨here, _⟩ | ⟨_, held⟩
    · exact here.symm
    · exact absurd held (free other)
  refine ⟨nodup.2, fun other member => ?_, fun other waits => ?_,
    fun first second one two => (only first one).trans (only second two).symm, fun _ _ => rfl⟩
  · have differs : number ≠ other := fun here => nodup.1 (here ▸ member)
    rw [standing?_setStanding, if_neg differs]
    exact sound.listed other (front ▸ List.mem_cons_of_mem _ member)
  · rcases standing?_setStanding_cases waits with ⟨_, place⟩ | ⟨differs, waited⟩
    · cases place
    · have inside := sound.waiting other waited
      rw [front] at inside
      exact (List.mem_cons.1 inside).resolve_left (Ne.symm differs)

theorem Sound.settle (sound : Sound c) (free : ∀ number, ¬ c.Holds number) (command : Command)
    (result : Except StoreError Unit) : Sound (c.settle command result) := by
  cases result with
  | error error =>
    rw [Coordinator.settle, tellAll_eq]
    exact sound.tell free _ (List.append_nil _).symm rfl
  | ok done =>
    rw [Coordinator.settle]
    rcases serve_cases command.target c.requests c.queue with
      ⟨_, served⟩ | ⟨passed, number, rest, _, front, _, _, _, _, served⟩
    · rw [served]
      exact sound.tell free _ (List.append_nil _).symm
        (queue_eq_nil_of_ne (Phase.state_settled_ne _))
    · rw [served]
      have told : Sound { c with
          phase := .transitioning (number :: rest)
          requests := Coordinator.tell (.ok ()) passed c.requests } :=
        sound.tell free (.ok ()) front rfl
      exact told.choose (fun other holds => free other ((holds_tell_iff ..).1 holds)) rfl

/-- When the holder leaves its place, nobody has the right to put a statement. -/
theorem Sound.release (sound : Sound c) {number : Nat} (holds : c.Holds number)
    (standing : Standing) (unqueued : standing ≠ .queued)
    (gone : standing ≠ .chosen ∧ standing ≠ .issuing) :
    Sound { c with requests := Coordinator.setStanding c.requests number standing } ∧
      ∀ other, ¬ Holds
        { c with requests := Coordinator.setStanding c.requests number standing } other := by
  refine ⟨sound.setStanding number standing unqueued (fun member => ?_) (fun _ => holds),
    fun other still => ?_⟩
  · rcases sound.listed number member with stood | stood <;> simp [Holds, stood] at holds
  · rcases holds_setStanding_cases still with ⟨_, place⟩ | ⟨differs, held⟩
    · exact place.elim gone.1 gone.2
    · exact differs (sound.unique number other holds held)

/-! ### One step -/

theorem Sound.withStatements (sound : Sound c) (statements : List Command) :
    Sound { c with statements } :=
  ⟨sound.nodup, sound.listed, sound.waiting, sound.unique, sound.held⟩

theorem standing?_concat (c : Coordinator) (phase : Phase) (request : Request)
    (statements : List Command) (number : Nat) :
    standing? { phase, requests := c.requests ++ [request], statements } number
      = if number = c.requests.length then some request.standing else c.standing? number := by
  unfold standing?
  split
  · next last =>
    rw [last, List.getElem?_append_right (Nat.le_refl _), Nat.sub_self]
    rfl
  · next other =>
    rcases Nat.lt_or_gt_of_ne other with before | beyond
    · rw [List.getElem?_append_left before]
    · have outside : (c.requests ++ [request]).length ≤ number := by
        rw [List.length_append]
        exact beyond
      rw [List.getElem?_eq_none outside, List.getElem?_eq_none (Nat.le_of_lt beyond)]

theorem standing?_length (c : Coordinator) : c.standing? c.requests.length = none := by
  simp [standing?]

/-- The last request holds the right to put a statement by its place, the others as before. -/
theorem holds_concat_iff (c : Coordinator) (phase : Phase) (request : Request)
    (statements : List Command) (number : Nat) :
    Holds ⟨phase, c.requests ++ [request], statements⟩ number
      ↔ (number = c.requests.length ∧ (request.standing = .chosen ∨ request.standing = .issuing))
        ∨ c.Holds number := by
  unfold Holds
  rw [standing?_concat]
  split
  · next last => simp [last, standing?_length]
  · next other => simp [other]

/-- A request that arrives while a statement is in flight goes to the end of the queue. -/
theorem Sound.enqueue (sound : Sound c) {queue : List Nat} (phase : c.phase = .transitioning queue)
    (command : Command) :
    Sound { c with
      phase := .transitioning (queue ++ [c.requests.length])
      requests := c.requests ++ [⟨command, .queued⟩] } := by
  have same : c.queue = queue := by rw [Coordinator.queue, phase]
  have fresh : c.requests.length ∉ queue := by
    intro member
    rcases sound.listed _ (same ▸ member) with stood | stood <;> simp [standing?_length] at stood
  have stands := standing?_concat c (.transitioning (queue ++ [c.requests.length]))
    ⟨command, .queued⟩ c.statements
  have held_before (number : Nat)
      (holds : Holds ⟨.transitioning (queue ++ [c.requests.length]),
        c.requests ++ [⟨command, .queued⟩], c.statements⟩ number) : c.Holds number := by
    rcases (holds_concat_iff ..).1 holds with ⟨_, place⟩ | held
    · rcases place with place | place <;> cases place
    · exact held
  refine ⟨?_, fun number member => ?_, fun number waits => ?_,
    fun first second one two => sound.unique first second (held_before first one)
      (held_before second two), fun _ _ => rfl⟩
  · have apart : (queue ++ [c.requests.length]).Nodup := by
      rw [List.nodup_append]
      refine ⟨same ▸ sound.nodup, by simp, ?_⟩
      rintro number member _ last rfl
      exact fresh (List.mem_singleton.1 last ▸ member)
    exact apart
  · rw [stands]
    split
    · exact Or.inl rfl
    · next other =>
      have inside := (List.mem_append.1 member).resolve_right (by simpa using other)
      exact sound.listed number (same ▸ inside)
  · rw [stands] at waits
    split at waits
    · next last => exact List.mem_append_right _ (by simp [last])
    · exact List.mem_append_left _ (same ▸ sound.waiting number waits)

/-- A request that arrives at rest does not wait. -/
theorem Sound.admit (sound : Sound c) (rests : c.state ≠ .transitioning) {phase : Phase}
    {request : Request} {statements : List Command} (unqueued : request.standing ≠ .queued)
    (alone : queue ⟨phase, c.requests ++ [request], statements⟩ = [])
    (holder : request.standing = .chosen ∨ request.standing = .issuing →
      phase.state = .transitioning) :
    Sound ⟨phase, c.requests ++ [request], statements⟩ := by
  have stands := standing?_concat c phase request statements
  have last (number : Nat) (holds : Holds ⟨phase, c.requests ++ [request], statements⟩ number) :
      number = c.requests.length ∧ (request.standing = .chosen ∨ request.standing = .issuing) := by
    rcases (holds_concat_iff ..).1 holds with last | held
    · exact last
    · exact absurd (sound.held number held) rests
  refine ⟨?_, ?_, fun number waits => ?_, fun first second one two => ?_, fun number holds => ?_⟩
  · rw [alone]
    exact List.nodup_nil
  · rw [alone]
    exact fun _ member => absurd member List.not_mem_nil
  · rw [stands] at waits
    split at waits
    · exact absurd (Option.some.inj waits) unqueued
    · have inside := sound.waiting number waits
      rw [queue_eq_nil_of_ne rests] at inside
      exact absurd inside List.not_mem_nil
  · rw [(last first one).1, (last second two).1]
  · exact holder (last number holds).2

theorem arrive_sound (sound : Sound c) (command : Command) : Sound (c.arrive command) := by
  rw [arrive]
  split
  · next queue phase => exact sound.enqueue phase command
  · next phase moves =>
    have rests : c.state ≠ .transitioning := by
      unfold state
      cases here : c.phase with
      | idle => decide
      | inside => decide
      | transitioning queue => exact absurd here (moves queue)
    split
    · exact sound.admit rests (by simp) (queue_eq_nil_of_ne rests) (by simp)
    · exact sound.admit rests (by simp) rfl (fun _ => rfl)

theorem resume_sound (sound : Sound c) (number : Nat) : Sound (c.resume number) := by
  rw [resume]
  split
  · next command result found =>
    have stood : c.standing? number = some (.told result) := by simp [standing?, found]
    refine sound.setStanding number _ (by simp) (fun member => ?_) (by simp)
    rcases sound.listed number member with other | other <;> simp [stood] at other
  · next command found =>
    have stood : c.standing? number = some .chosen := by simp [standing?, found]
    refine (sound.setStanding number .issuing (by simp) (fun member => ?_)
      (fun _ => Or.inl stood)).withStatements _
    rcases sound.listed number member with other | other <;> simp [stood] at other
  · exact sound

theorem isIssuing_iff (request : Request) :
    isIssuing request = true ↔ request.standing = .issuing := by
  unfold isIssuing
  split
  · next issues => simp [issues]
  · next idle => simpa using idle

theorem inFlight?_eq_some {number : Nat} (flies : c.inFlight? = some number) :
    ∃ command, c.requests[number]? = some ⟨command, .issuing⟩ := by
  obtain ⟨inside, issues, _⟩ := List.findIdx?_eq_some_iff_getElem.1 flies
  refine ⟨c.requests[number].command, ?_⟩
  rw [List.getElem?_eq_getElem inside, ← (isIssuing_iff _).1 issues]

theorem inFlight?_eq_none_iff :
    c.inFlight? = none ↔ ∀ number, c.standing? number ≠ some .issuing := by
  rw [inFlight?, List.findIdx?_eq_none_iff]
  constructor
  · intro none_issues number stands
    obtain ⟨request, found, issues⟩ := Option.map_eq_some_iff.1 stands
    have idle := none_issues request (List.mem_of_getElem? found)
    rw [(isIssuing_iff request).2 issues] at idle
    cases idle
  · intro none_stands request member
    obtain ⟨number, found⟩ := List.getElem?_of_mem member
    cases issues : isIssuing request with
    | false => rfl
    | true =>
      refine absurd ?_ (none_stands number)
      rw [standing?, found, Option.map_some, (isIssuing_iff request).1 issues]

theorem acknowledge_sound (sound : Sound c) (result : Except StoreError Unit) :
    Sound (c.acknowledge result) := by
  rw [acknowledge]
  split
  · exact sound
  · next number flies =>
    obtain ⟨command, found⟩ := inFlight?_eq_some flies
    have holds : c.Holds number := Or.inr (by simp [standing?, found])
    obtain ⟨released, free⟩ := sound.release holds (.finished result) (by simp) (by simp)
    rw [found]
    exact released.settle free command result

theorem cancel_sound (sound : Sound c) (number : Nat) : Sound (c.cancel number) := by
  rw [cancel]
  split
  · exact sound
  · exact sound
  · exact sound
  · next command found =>
    have holds : c.Holds number := Or.inr (by simp [standing?, found])
    obtain ⟨released, free⟩ := sound.release holds .cancelled (by simp) (by simp)
    exact released.settle free command _
  · exact sound.setStanding number .cancelled (by simp) (fun _ => rfl) (by simp)

theorem perform_sound (sound : Sound c) (step : Step) : Sound (c.perform step) := by
  cases step with
  | arrive command => exact arrive_sound sound command
  | resume number => exact resume_sound sound number
  | acknowledge result => exact acknowledge_sound sound result
  | cancel number => exact cancel_sound sound number

/-- Whatever steps were made, in whatever order, the coordinator is sound. -/
theorem after_sound (steps : List Step) : Sound (after steps) := by
  induction steps using List.reverseRecOn with
  | nil => exact initial_sound
  | append_singleton steps step ih =>
    rw [after_concat]
    exact perform_sound ih step

end Coordinator

end KeyStore.Transaction
