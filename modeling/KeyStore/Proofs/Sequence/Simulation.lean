import KeyStore.Proofs.Sequence.Following
import KeyStore.Proofs.Sequence.Outcomes

/-!
# Sequences of the store are sequences of results

The operations of the store are written over sequences that give items and put requests. Over a
library of streams such a sequence stands for a sequence of results with a source, a latch and the
stages of the library (`Sequence.Models`): whatever state it is pulled in, it gives the same, leaves
the same state, and what is left of it stands for what is left.

The sources are modelled, and every stage keeps it so (`Models.map`, `Models.filter`,
`Models.flatMap`), although the adapters of the library go on after an error. `Models.runs`: what
consumes the one comes to what consuming the other comes to.
-/

namespace KeyStore

variable {I : Interface} {σ : Type} {lib : Streams σ} {handle : Handler I σ} {α β γ : Type}

/-- What a pull of a stream of results comes to. -/
abbrev Pull (lib : Streams σ) (α : Type) : Type 1 :=
  Part (Pulled σ (lib.Stream (Except StoreError α)) (Except StoreError α))

namespace Sequence

/-- A pull gives what the sequence gives in a state. -/
def Comes (lib : Streams σ) (handle : Handler I σ) : Sequence I α → σ → Pull lib α → Prop
  | nil, state, pull => ∃ left, pull = .some ((none, left), state)
  | fail error, state, pull => ∃ left, pull = .some ((some (.error error), left), state)
  | cons item rest, state, pull => ∃ left, pull = .some ((some (.ok item), left), state) ∧
    ∀ state, rest.Comes lib handle state (lib.next left state)
  | ask request next, state, pull =>
    let (reply, state) := handle request state
    (next reply).Comes lib handle state pull

/-- In every state the sequence of results gives what the sequence gives. -/
def Models (handle : Handler I σ) (source : Sequence I α)
    (sequence : ResultSequence lib α) : Prop :=
  ∀ state, source.Comes lib handle state (lib.next sequence.intoStream state)

theorem comes_ofAction_bind (action : Action I α) (f : α → Action I (Sequence I β)) (state : σ)
    (pull : Pull lib β) :
    (ofAction (action.bind f)).Comes lib handle state pull ↔
      match action.run handle state with
      | (.ok result, later) => (ofAction (f result)).Comes lib handle later pull
      | (.error error, later) => (fail error : Sequence I β).Comes lib handle later pull := by
  induction action generalizing state with
  | done result => rfl
  | fail error => rfl
  | ask request next ih => exact ih _ _

/-! ### Sources -/

theorem models_nil (lawful : lib.Lawful) :
    (nil : Sequence I α).Models handle (.empty : ResultSequence lib α) :=
  fun state => lawful.next_empty state

theorem models_fail (lawful : lib.Lawful) (error : StoreError) :
    (fail error : Sequence I α).Models handle (.failed error : ResultSequence lib α) :=
  fun state => lawful.next_once _ state

theorem models_ofList (lawful : lib.Lawful) (items : List α) :
    (ofList items : Sequence I α).Models handle (.ofList items : ResultSequence lib α) := by
  induction items with
  | nil => exact fun state => lawful.next_iter_nil state
  | cons item rest ih => exact fun state => ⟨_, lawful.next_iter_cons _ _ state, ih⟩

/-- A list of items and errors of which every one that is taken is noticed. -/
theorem models_ofItems (lawful : lib.Lawful) (notice : Except StoreError α → Action I Unit)
    (items : List (Except StoreError α)) (state : σ) :
    ∃ stream, lib.andThen (fun item => ((notice item).bind fun _ => .ofExcept item).run handle)
        (lib.iter items) state = (stream, state) ∧
      (ofItems notice items).Models handle (.ofStream stream) := by
  obtain ⟨above, made, pulls⟩ := lawful.andThen fun item : Except StoreError α =>
    ((notice item).bind fun _ => .ofExcept item).run handle
  refine ⟨above (lib.iter items), made _ _, ?_⟩
  induction items with
  | nil =>
    intro state
    obtain ⟨left, gives⟩ := lawful.next_iter_nil (ι := Except StoreError α) state
    refine ⟨above left, ?_⟩
    change lib.next (above (lib.iter [])) state = _
    rw [pulls, gives, Part.map_some]
    rfl
  | cons item rest ih =>
    intro state
    change Comes lib handle _ state (lib.next (above (lib.iter (item :: rest))) state)
    rw [pulls, lawful.next_iter_cons, Part.map_some, Streams.thenStep, Action.run_bind]
    cases item with
    | error error =>
      rw [ofItems, comes_ofAction_bind]
      rcases (notice (.error error)).run handle state with ⟨failure | ⟨⟩, later⟩
      · exact ⟨_, rfl⟩
      · exact ⟨_, rfl⟩
    | ok item =>
      rw [ofItems, comes_ofAction_bind]
      rcases (notice (.ok item)).run handle state with ⟨failure | ⟨⟩, later⟩
      · exact ⟨_, rfl⟩
      · exact ⟨_, rfl, ih⟩

/-! ### Stages -/

section

variable {images : α → Effect σ (Except StoreError (List β))} {f : α → Action I (List β)}
  {Over : lib.Stream (Except StoreError β) → List β → lib.Stream (Except StoreError α) → Prop}
  (layer : Layer lib images Over)

include layer

/-- Images stand in front of what is made of a source. -/
theorem comes_append {source : Sequence I β} {below : lib.Stream (Except StoreError α)}
    (each : ∀ state pull, (∀ {result others rest later},
        Turn lib images [] below state result others rest later →
        ∃ left, ((result, left), later) ∈ pull ∧ Over left others rest) →
      source.Comes lib handle state pull)
    (group : List β) {state : σ} {pull : Pull lib β}
    (reads : ∀ {result others rest later},
      Turn lib images group below state result others rest later →
      ∃ left, ((result, left), later) ∈ pull ∧ Over left others rest) :
    (append group source).Comes lib handle state pull := by
  induction group generalizing state pull with
  | nil => exact each state pull reads
  | cons image group ih =>
    obtain ⟨left, pulled, above⟩ := reads .given
    exact ⟨left, Part.eq_some_iff.2 pulled, fun state => ih (layer.comes above)⟩

/-- A layer over what a sequence gives gives what its images give. -/
theorem comes_flatMap (same : ∀ item state, images item state = (f item).run handle state)
    (source : Sequence I α) {stream : lib.Stream (Except StoreError α)} {start state : σ}
    {pull : Pull lib β}
    (comes : source.Comes lib handle state (lib.next stream start))
    (reads : ∀ {result others rest later},
      Turn lib images [] stream start result others rest later →
      ∃ left, ((result, left), later) ∈ pull ∧ Over left others rest) :
    (source.flatMap f).Comes lib handle state pull := by
  induction source generalizing stream start state pull with
  | nil =>
    obtain ⟨_, gives⟩ := comes
    obtain ⟨left, pulled, _⟩ := reads (.ended (Part.eq_some_iff.1 gives))
    exact ⟨left, Part.eq_some_iff.2 pulled⟩
  | fail error =>
    obtain ⟨_, gives⟩ := comes
    obtain ⟨left, pulled, _⟩ := reads (.failed (Part.eq_some_iff.1 gives))
    exact ⟨left, Part.eq_some_iff.2 pulled⟩
  | cons item rest ih =>
    obtain ⟨below, gives, others⟩ := comes
    rw [flatMap, comes_ofAction_bind, ← same]
    rcases made : images item state with ⟨error | new, later⟩
    · obtain ⟨left, pulled, _⟩ := reads (.broke (Part.eq_some_iff.1 gives) made)
      exact ⟨left, Part.eq_some_iff.2 pulled⟩
    · exact comes_append layer (fun state pull => ih (others state)) new
        fun turn => reads (.made (Part.eq_some_iff.1 gives) made turn)
  | ask request next ih => exact ih _ comes reads

end

namespace Models

variable {source : Sequence I α} {sequence : ResultSequence lib α}

theorem stage (lawful : lib.Lawful) (stage : Stage σ α β) {f : α → Action I (List β)}
    (same : ∀ item state, stage.images item state = (f item).run handle state)
    (models : source.Models handle sequence) (state : σ) :
    ∃ top : ResultSequence lib β, stage.atop sequence state = (top, state) ∧
      (source.flatMap f).Models handle top := by
  obtain ⟨Over, layer, put⟩ := stage.exists_layer lawful
  obtain ⟨top, made, above⟩ := put sequence state
  exact ⟨.ofStream top, made, fun state =>
    comes_flatMap layer same source (models state) (layer.comes above)⟩

theorem map (lawful : lib.Lawful) (f : α → Action I β) (models : source.Models handle sequence)
    (state : σ) : ∃ top : ResultSequence lib β,
      sequence.map (fun item => (f item).run handle) state = (top, state) ∧
        (source.map f).Models handle top := by
  rw [map_eq_flatMap]
  refine models.stage lawful (.map fun item => (f item).run handle) (fun item state => ?_) state
  rw [Action.run_bind]
  rcases ran : (f item).run handle state with ⟨error | image, later⟩
  · exact Stage.images_map_of_error ran
  · exact Stage.images_map_of_ok ran

theorem filter (lawful : lib.Lawful) (p : α → Bool) (models : source.Models handle sequence)
    (state : σ) : ∃ top : ResultSequence lib α,
      sequence.filter (fun item state => (p item, state)) state = (top, state) ∧
        (source.filter p).Models handle top := by
  rw [Sequence.filter, filterM_eq_flatMap]
  exact models.stage lawful (.filter fun item state => (p item, state)) (fun _ _ => rfl) state

theorem flatMap (lawful : lib.Lawful) (f : α → Action I (List β))
    (models : source.Models handle sequence) (state : σ) :
    ∃ top : ResultSequence lib β,
      sequence.flatMap (fun item => (f item).run handle) state = (top, state) ∧
        (source.flatMap f).Models handle top :=
  models.stage lawful (.flatMap fun item => (f item).run handle) (fun _ _ => rfl) state

/-! ### Consumers -/

end Models

variable {source : Sequence I α} {sequence : ResultSequence lib α} {state : σ}

/-- What comes of a pull is what a call of `next` gives. -/
theorem Comes.next (lawful : lib.Lawful) {pull : Pull lib α}
    (comes : source.Comes lib handle state pull) :
    ∃ left, ((pulledOf (source.next handle state).1.1, left), (source.next handle state).2) ∈ pull ∧
      (source.next handle state).1.2.Models handle
        (.ofStream (ResultSequence.latched left (source.next handle state).1.1)) := by
  induction source generalizing state with
  | nil =>
    obtain ⟨left, gives⟩ := comes
    exact ⟨left, Part.eq_some_iff.1 gives, models_nil lawful⟩
  | fail error =>
    obtain ⟨left, gives⟩ := comes
    exact ⟨left, Part.eq_some_iff.1 gives, models_fail lawful error⟩
  | cons item rest ih =>
    obtain ⟨left, gives, others⟩ := comes
    exact ⟨left, Part.eq_some_iff.1 gives, others⟩
  | ask request next ih => exact ih _ comes

/-- A loop over the one comes to what the loop over the other comes to. -/
theorem Comes.run_fold_mem (lawful : lib.Lawful) (f : β → α → Action I β) {start : β} {before : σ}
    (comes : source.Comes lib handle state (lib.next sequence.intoStream before)) :
    (source.fold f start).run handle state
      ∈ sequence.fold (fun value item => (f value item).run handle) start before := by
  induction source generalizing sequence start state before with
  | nil =>
    obtain ⟨left, gives⟩ := comes
    obtain ⟨rest, member, -⟩ := ResultSequence.exists_next_of_pulled lawful (.ok none)
      (Part.eq_some_iff.1 gives)
    exact PFun.fix_stop (Part.mem_map _ member)
  | fail error =>
    obtain ⟨left, gives⟩ := comes
    obtain ⟨rest, member, -⟩ := ResultSequence.exists_next_of_pulled lawful (.error error)
      (Part.eq_some_iff.1 gives)
    exact PFun.fix_stop (Part.mem_map _ member)
  | cons item rest ih =>
    obtain ⟨left, gives, others⟩ := comes
    obtain ⟨after, member, left_over⟩ := ResultSequence.exists_next_of_pulled lawful
      (.ok (some item)) (Part.eq_some_iff.1 gives)
    have turned : _ ∈ ResultSequence.foldTurn (fun value item => (f value item).run handle)
      ((start, sequence), before) := Part.mem_map _ member
    rw [Sequence.fold, Action.run_bind]
    rcases ran : (f start item).run handle state with ⟨error | value, later⟩
    · simp only [ran] at turned
      exact PFun.fix_stop turned
    · simp only [ran] at turned
      have goes_on : rest.Comes lib handle later (lib.next after.intoStream later) := by
        rw [left_over]
        exact others later
      exact PFun.mem_fix_iff.2 (.inr ⟨_, turned, ih goes_on⟩)
  | ask request next ih => exact ih _ comes

/-- To collect is to put each item behind those before it. -/
theorem run_fold_append (source : Sequence I α) (front : List α) (state : σ) :
    (source.fold (fun items item => .done (items ++ [item])) front).run handle state
      = ((source.toList.run handle state).1.map (front ++ ·),
        (source.toList.run handle state).2) := by
  induction source generalizing front state with
  | nil => simp [fold, toList, Action.run, Except.map]
  | fail error => rfl
  | cons item rest ih =>
    rw [fold, toList, Action.run_bind, Action.run_bind]
    simp only [Action.run, ih]
    rcases rest.toList.run handle state with ⟨error | items, later⟩
    · rfl
    · simp [Except.map]
  | ask request next ih => exact ih _ front _

theorem run_first (source : Sequence I α) (state : σ) :
    source.first.run handle state
      = ((source.next handle state).1.1, (source.next handle state).2) := by
  induction source generalizing state with
  | nil => rfl
  | fail error => rfl
  | cons item rest ih => rfl
  | ask request next ih => exact ih _ _

/-- What consumes the one comes to what consuming the other comes to. -/
structure RunsAs (handle : Handler I σ) (source : Sequence I α)
    (sequence : ResultSequence lib α) : Prop where
  next : ∀ state, ∃ rest,
    sequence.next state
      = .some (((source.next handle state).1.1, rest), (source.next handle state).2) ∧
    (source.next handle state).1.2.Models handle rest
  fold : ∀ {β : Type} (f : β → α → Action I β) (start : β) (state : σ),
    sequence.fold (fun value item => (f value item).run handle) start state
      = .some ((source.fold f start).run handle state)
  forEach : ∀ (visit : α → Action I Unit) (state : σ),
    sequence.forEach (fun item => (visit item).run handle) state
      = .some ((source.forEach visit).run handle state)
  toList : ∀ state, sequence.toList state = .some (source.toList.run handle state)
  first : ∀ state, sequence.first state = .some (source.first.run handle state)
  isNonempty : ∀ state, sequence.isNonempty state = .some (source.isNonempty.run handle state)

theorem Models.runs (lawful : lib.Lawful) (models : source.Models handle sequence) :
    source.RunsAs handle sequence := by
  have next (state : σ) : ∃ rest, sequence.next state
      = .some (((source.next handle state).1.1, rest), (source.next handle state).2) ∧
      (source.next handle state).1.2.Models handle rest := by
    obtain ⟨left, pulled, follows⟩ := (models state).next lawful
    obtain ⟨rest, member, left_over⟩ := ResultSequence.exists_next_of_pulled lawful _ pulled
    refine ⟨rest, Part.eq_some_iff.2 member, fun state => ?_⟩
    rw [left_over]
    exact follows state
  have fold {β : Type} (f : β → α → Action I β) (start : β) (state : σ) :
      sequence.fold (fun value item => (f value item).run handle) start state
        = .some ((source.fold f start).run handle state) :=
    Part.eq_some_iff.2 ((models state).run_fold_mem lawful f)
  have first (state : σ) : sequence.first state = .some (source.first.run handle state) := by
    obtain ⟨rest, gives, -⟩ := next state
    rw [ResultSequence.first, gives, Part.map_some, run_first]
  refine ⟨next, fold, fun visit => fold (fun _ item => visit item) (), fun state => ?_, first,
    fun state => ?_⟩
  · have collected := fold (fun items item => .done (items ++ [item])) [] state
    rw [run_fold_append] at collected
    refine collected.trans (congrArg Part.some (Prod.ext ?_ rfl))
    cases (source.toList.run handle state).1 <;> rfl
  · rw [ResultSequence.isNonempty, first, Part.map_some, isNonempty, Action.run_bind]
    rcases source.first.run handle state with ⟨error | item, later⟩ <;> rfl

end Sequence

end KeyStore
