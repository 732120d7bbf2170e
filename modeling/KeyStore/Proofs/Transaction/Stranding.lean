import KeyStore.Proofs.Transaction.Invariant

/-!
# Stranded coordinators

When nothing is in flight and every request that was told or chosen has gone on, the coordinator
should be at rest: not between two states, with every request finished or cancelled. It is at rest
unless a request was cancelled after it was chosen and before it put its statement. Such a
cancellation leaves the coordinator between two states for ever, because the right to put a
statement goes with the request.
-/

namespace KeyStore.Transaction.Coordinator

/-- No statement is awaited, and every request is finished or cancelled. -/
structure AtRest (c : Coordinator) : Prop where
  state_ne : c.state ≠ .transitioning
  ended : ∀ number, c.isOver number = true

/-- The step cancels the request that was chosen and has not put its statement. -/
def Drops (c : Coordinator) (step : Step) : Prop :=
  ∃ number, step = .cancel number ∧ c.standing? number = some .chosen

/-- Among the steps, a request was cancelled while it was chosen. -/
def LosesIssuer (steps : List Step) : Prop :=
  ∃ before step rest, steps = before ++ step :: rest ∧ Drops (after before) step

/-- Between two states, some request has the right to put a statement. -/
def Guarded (c : Coordinator) : Prop := c.state = .transitioning → ∃ number, c.Holds number

variable {c : Coordinator}

/-- A quiet coordinator comes to rest without a statement in flight exactly when it is guarded. -/
theorem Sound.atRest_iff_guarded (sound : Sound c) (quiet : Quiet c) :
    (c.inFlight? = none → AtRest c) ↔ Guarded c := by
  constructor
  · intro rests moves
    cases flies : c.inFlight? with
    | none => exact absurd moves (rests flies).state_ne
    | some number =>
      obtain ⟨command, found⟩ := inFlight?_eq_some flies
      exact ⟨number, Or.inr (by simp [standing?, found])⟩
  · intro guarded flies
    have idle := inFlight?_eq_none_iff.1 flies
    have still : c.state ≠ .transitioning := by
      intro moves
      obtain ⟨number, chosen | issuing⟩ := guarded moves
      · exact quiet number (Or.inl chosen)
      · exact idle number issuing
    refine ⟨still, fun number => ?_⟩
    rw [isOver]
    cases stands : c.standing? number with
    | none => rfl
    | some standing =>
      cases standing with
      | queued =>
        have inside := sound.waiting number stands
        rw [queue_eq_nil_of_ne still] at inside
        exact absurd inside List.not_mem_nil
      | told result => exact absurd (Or.inr ⟨result, stands⟩) (quiet number)
      | chosen => exact absurd (Or.inl stands) (quiet number)
      | issuing => exact absurd stands (idle number)
      | finished result => rfl
      | cancelled => rfl

/-! ### One step -/

theorem settle_guarded (c : Coordinator) (command : Command) (result : Except StoreError Unit) :
    Guarded (c.settle command result) := by
  cases result with
  | error error => exact fun moves => by cases moves
  | ok done =>
    rw [settle]
    rcases serve_cases command.target c.requests c.queue with
      ⟨_, served⟩ | ⟨passed, number, rest, asked, _, fresh, _, waits, _, served⟩
    · rw [served]
      exact fun moves => absurd moves (Phase.state_settled_ne _)
    · rw [served]
      refine fun _ => ⟨number, Or.inl ?_⟩
      simp [standing?, getElem?_setStanding, getElem?_tell, waits]

/-- Whoever does not hold the right to put a statement may stand elsewhere. -/
theorem Guarded.setStanding (guarded : Guarded c) (number : Nat) (standing : Standing)
    (aside : ¬ c.Holds number) :
    Guarded { c with requests := Coordinator.setStanding c.requests number standing } := by
  intro moves
  obtain ⟨holder, holds⟩ := guarded moves
  have differs : number ≠ holder := fun here => aside (here ▸ holds)
  refine ⟨holder, ?_⟩
  unfold Holds
  rw [standing?_setStanding, if_neg differs]
  exact holds

theorem arrive_guarded (guarded : Guarded c) (command : Command) :
    Guarded (c.arrive command) := by
  have lasting {phase : Phase} {request : Request} {statements : List Command}
      (moves : c.state = .transitioning) :
      ∃ number, Holds ⟨phase, c.requests ++ [request], statements⟩ number := by
    obtain ⟨number, holds⟩ := guarded moves
    exact ⟨number, (holds_concat_iff ..).2 (Or.inr holds)⟩
  rw [arrive]
  split
  · next queue phase => exact fun _ => lasting (by rw [state, phase]; rfl)
  · split
    · exact fun moves => lasting moves
    · exact fun _ => ⟨c.requests.length, (holds_concat_iff ..).2 (Or.inl ⟨rfl, Or.inr rfl⟩)⟩

theorem resume_guarded (guarded : Guarded c) (number : Nat) : Guarded (c.resume number) := by
  rw [resume]
  split
  · next command result found =>
    exact guarded.setStanding number _ (by simp [Holds, standing?, found])
  · next command found =>
    refine fun _ => ⟨number, Or.inr ?_⟩
    simp [standing?, getElem?_setStanding, found]
  · exact guarded

theorem acknowledge_guarded (guarded : Guarded c) (result : Except StoreError Unit) :
    Guarded (c.acknowledge result) := by
  rw [acknowledge]
  split
  · exact guarded
  · split
    · exact guarded
    · exact settle_guarded _ _ _

theorem cancel_guarded (guarded : Guarded c) {number : Nat}
    (unchosen : c.standing? number ≠ some .chosen) : Guarded (c.cancel number) := by
  rw [cancel]
  split
  · exact guarded
  · exact guarded
  · exact guarded
  · exact settle_guarded _ _ _
  · next request _ _ elsewhere found =>
    refine guarded.setStanding number .cancelled ?_
    rintro (chosen | issuing)
    · exact unchosen chosen
    · obtain ⟨issuer, here, issues⟩ := Option.map_eq_some_iff.1 issuing
      obtain ⟨command, standing⟩ := issuer
      cases issues
      rw [found] at here
      exact elsewhere command (Option.some.inj here)

theorem cancel_chosen_not_guarded (sound : Sound c) {number : Nat}
    (chosen : c.standing? number = some .chosen) : ¬ Guarded (c.cancel number) := by
  intro guarded
  obtain ⟨request, found, stands⟩ := Option.map_eq_some_iff.1 chosen
  obtain ⟨command, standing⟩ := request
  cases stands
  rw [cancel, found] at guarded
  obtain ⟨_, free⟩ := sound.release (Or.inl chosen) .cancelled (by simp) (by simp)
  obtain ⟨holder, holds⟩ := guarded (sound.held number (Or.inl chosen))
  exact free holder holds

theorem not_guarded_iff :
    ¬ Guarded c ↔ c.state = .transitioning ∧ ∀ number, ¬ c.Holds number := by
  simp [Guarded]

theorem setStanding_not_guarded (lost : ¬ Guarded c) (number : Nat) {standing : Standing}
    (gone : standing ≠ .chosen ∧ standing ≠ .issuing) :
    ¬ Guarded { c with requests := Coordinator.setStanding c.requests number standing } := by
  obtain ⟨moves, free⟩ := not_guarded_iff.1 lost
  refine not_guarded_iff.2 ⟨moves, fun other holds => ?_⟩
  rcases holds_setStanding_cases holds with ⟨_, place⟩ | ⟨_, held⟩
  · exact place.elim gone.1 gone.2
  · exact free other held

/-- While no request has the right to put a statement, none gets it. -/
theorem perform_not_guarded (lost : ¬ Guarded c) (step : Step) : ¬ Guarded (c.perform step) := by
  obtain ⟨moves, free⟩ := not_guarded_iff.1 lost
  cases step with
  | arrive command =>
    cases phase : c.phase with
    | idle => simp [state, phase, Phase.state] at moves
    | inside => simp [state, phase, Phase.state] at moves
    | transitioning queue =>
      rw [perform, arrive, phase]
      refine not_guarded_iff.2 ⟨rfl, fun number holds => ?_⟩
      rcases (holds_concat_iff ..).1 holds with ⟨_, place⟩ | held
      · rcases place with place | place <;> cases place
      · exact free number held
  | resume number =>
    rw [perform, resume]
    split
    · exact setStanding_not_guarded lost number (by simp)
    · next command found => exact absurd (Or.inl (by simp [standing?, found])) (free number)
    · exact lost
  | acknowledge result =>
    have grounded : c.inFlight? = none :=
      inFlight?_eq_none_iff.2 fun number issuing => free number (Or.inr issuing)
    rw [perform, acknowledge, grounded]
    exact lost
  | cancel number =>
    rw [perform, cancel]
    split
    · exact lost
    · exact lost
    · exact lost
    · next command found => exact absurd (Or.inr (by simp [standing?, found])) (free number)
    · exact setStanding_not_guarded lost number (by simp)

/-- A step keeps the coordinator guarded exactly when it does not drop a chosen request. -/
theorem perform_guarded_iff (sound : Sound c) (step : Step) :
    Guarded (c.perform step) ↔ Guarded c ∧ ¬ Drops c step := by
  constructor
  · intro guarded
    refine ⟨?_, ?_⟩
    · by_contra lost
      exact perform_not_guarded lost step guarded
    · rintro ⟨number, rfl, chosen⟩
      exact cancel_chosen_not_guarded sound chosen guarded
  · rintro ⟨guarded, kept⟩
    cases step with
    | arrive command => exact arrive_guarded guarded command
    | resume number => exact resume_guarded guarded number
    | acknowledge result => exact acknowledge_guarded guarded result
    | cancel number => exact cancel_guarded guarded fun chosen => kept ⟨number, rfl, chosen⟩

/-! ### A whole run -/

theorem losesIssuer_concat (steps : List Step) (step : Step) :
    LosesIssuer (steps ++ [step]) ↔ LosesIssuer steps ∨ Drops (after steps) step :=
  exists_split_concat (fun before step => Drops (after before) step) steps step

theorem after_guarded_iff (steps : List Step) : Guarded (after steps) ↔ ¬ LosesIssuer steps := by
  induction steps using List.reverseRecOn with
  | nil =>
    have started : Guarded (after []) := fun moves => by cases moves
    have kept : ¬ LosesIssuer [] := by
      rintro ⟨before, dropping, rest, split, _⟩
      simp at split
    exact ⟨fun _ => kept, fun _ => started⟩
  | append_singleton steps step ih =>
    rw [after_concat, perform_guarded_iff (after_sound steps), ih, losesIssuer_concat, not_or]

/-- Whatever steps were made: once every request that was told or chosen has gone on and nothing is
in flight, the coordinator is at rest, exactly when no request was cancelled while it was chosen. -/
theorem quiet_atRest_iff (steps : List Step) (quiet : Quiet (after steps)) :
    ((after steps).inFlight? = none → AtRest (after steps)) ↔ ¬ LosesIssuer steps :=
  ((after_sound steps).atRest_iff_guarded quiet).trans (after_guarded_iff steps)

/-- A second request waits for the first, is chosen when the first is answered, and goes on. -/
theorem quiet_atRest_of_two :
    Quiet (after [.arrive .begin, .arrive .commit, .acknowledge (.ok ()), .resume 1,
      .acknowledge (.ok ())]) ∧
    (((after [.arrive .begin, .arrive .commit, .acknowledge (.ok ()), .resume 1,
        .acknowledge (.ok ())]).inFlight? = none →
      AtRest (after [.arrive .begin, .arrive .commit, .acknowledge (.ok ()), .resume 1,
        .acknowledge (.ok ())])) ↔
      ¬ LosesIssuer [.arrive .begin, .arrive .commit, .acknowledge (.ok ()), .resume 1,
        .acknowledge (.ok ())]) := by
  have quiet : Quiet (after [.arrive .begin, .arrive .commit, .acknowledge (.ok ()), .resume 1,
      .acknowledge (.ok ())]) := by
    have left : (after [.arrive .begin, .arrive .commit, .acknowledge (.ok ()), .resume 1,
        .acknowledge (.ok ())]).requests
        = [⟨.begin, .finished (.ok ())⟩, ⟨.commit, .finished (.ok ())⟩] := rfl
    refine quiet_of_requests ?_
    rw [left]
    simp
  exact ⟨quiet, quiet_atRest_iff _ quiet⟩

/-- The second request is chosen and then cancelled: nothing is in flight, nobody is about to go on,
and the coordinator is between two states. -/
theorem chosen_then_cancelled_transitioning :
    Quiet (after [.arrive .begin, .arrive .commit, .acknowledge (.ok ()), .cancel 1]) ∧
      (after [.arrive .begin, .arrive .commit, .acknowledge (.ok ()), .cancel 1]).inFlight? = none ∧
      (after [.arrive .begin, .arrive .commit, .acknowledge (.ok ()), .cancel 1]).state
        = .transitioning := by
  have left : (after [.arrive .begin, .arrive .commit, .acknowledge (.ok ()),
      .cancel 1]).requests = [⟨.begin, .finished (.ok ())⟩, ⟨.commit, .cancelled⟩] := rfl
  refine ⟨quiet_of_requests ?_, rfl, rfl⟩
  rw [left]
  simp

end KeyStore.Transaction.Coordinator
