import KeyStore.Streams

/-!
# A library of machines

A stream is here a machine with a state of its own: the adapters are machines around a machine.
`machines_lawful`: the library does what is documented of streams.
-/

namespace KeyStore

variable {σ : Type} {α β ι κ : Type}

/-- A stream with its state. -/
structure Machine (σ ι : Type) where
  State : Type
  step : State → σ → Part (Pulled σ State ι)
  now : State

namespace Machine

/-- The machine in another of its states. -/
def at_ (machine : Machine σ ι) (state : machine.State) : Machine σ ι :=
  { machine with now := state }

/-- Pulls the next item of a machine. -/
def next (machine : Machine σ ι) (state : σ) : Part (Pulled σ (Machine σ ι) ι) :=
  (machine.step machine.now state).map (Streams.Pulled.mapLeft machine.at_)

/-- The machine that gives a list. -/
def iter (items : List ι) : Machine σ ι where
  State := List ι
  step
    | [], state => .some ((none, []), state)
    | item :: rest, state => .some ((some item, rest), state)
  now := items

/-- The machine around a machine that passes each item through a call. -/
def andThen (f : ι → Effect σ κ) (machine : Machine σ ι) : Machine σ κ where
  State := machine.State
  step now state := (machine.step now state).map (Streams.thenStep f)
  now := machine.now

/-- The machine around a machine that leaves items out. -/
def tryFilter (p : α → Effect σ Bool) (machine : Machine σ (Except StoreError α)) :
    Machine σ (Except StoreError α) where
  State := machine.State
  step now state := (Streams.filterTurn machine.step p).fix (now, state)
  now := machine.now

/-- The machine around a machine that passes each item through a function. -/
def mapOk (f : α → β) (machine : Machine σ (Except StoreError α)) :
    Machine σ (Except StoreError β) where
  State := machine.State
  step now state := (machine.step now state).map fun ((item, left), state) =>
    ((item.map (Except.map f), left), state)
  now := machine.now

/-- The machine around a machine that gives out groups, the one at hand first. -/
def tryFlatten
    (at_ : List (Except StoreError α) × Machine σ (Except StoreError (List (Except StoreError α)))) :
    Machine σ (Except StoreError α) where
  State := List (Except StoreError α) × at_.2.State
  step now state := (Streams.flattenTurn at_.2.step).fix (now, state)
  now := (at_.1, at_.2.now)

end Machine

/-- The library of machines. -/
def machines (σ : Type) : Streams σ where
  Stream := Machine σ
  next := Machine.next
  iter := Machine.iter
  once item := Machine.iter [item]
  empty := Machine.iter []
  andThen f machine state := (machine.andThen f, state)
  tryFilter p machine state := (machine.tryFilter p, state)
  mapOk f machine state := (machine.mapOk f, state)
  tryFlatten machine state := (.tryFlatten ([], machine), state)

universe u v

/-- Loops whose turns are the same but for names come to the same but for names. -/
theorem fix_map_of_turns {A B : Type u} {A' B' : Type v} {f : A →. B ⊕ A} {g : A' →. B' ⊕ A'}
    (onTurn : A → A') {onEnd : B → B'}
    (turns : ∀ at_, g (onTurn at_) = (f at_).map (Sum.map onEnd onTurn)) (start : A) :
    g.fix (onTurn start) = (f.fix start).map onEnd := by
  refine Part.ext fun result => ⟨fun member => ?_, fun member => ?_⟩
  · refine PFun.fixInduction' (C := fun at_ => ∀ start, at_ = onTurn start →
      result ∈ (f.fix start).map onEnd) member ?_ ?_ start rfl
    · rintro _ stops start rfl
      rw [turns] at stops
      obtain ⟨ended | turned, turn, same⟩ := (Part.mem_map_iff _).1 stops
      · cases same
        exact Part.mem_map _ (PFun.fix_stop turn)
      · cases same
    · rintro _ _ - goes_on ih start rfl
      rw [turns] at goes_on
      obtain ⟨ended | turned, turn, same⟩ := (Part.mem_map_iff _).1 goes_on
      · cases same
      · cases same
        obtain ⟨last, ends, rfl⟩ := (Part.mem_map_iff _).1 (ih turned rfl)
        exact Part.mem_map _ (PFun.mem_fix_iff.2 (.inr ⟨turned, turn, ends⟩))
  · obtain ⟨last, ends, rfl⟩ := (Part.mem_map_iff _).1 member
    refine PFun.fixInduction' (C := fun at_ => onEnd last ∈ g.fix (onTurn at_)) ends ?_ ?_
    · intro at_ stops
      exact PFun.fix_stop (turns at_ ▸ Part.mem_map (Sum.map onEnd onTurn) stops)
    · intro at_ turned _ goes_on ih
      exact PFun.mem_fix_iff.2
        (.inr ⟨_, turns at_ ▸ Part.mem_map (Sum.map onEnd onTurn) goes_on, ih⟩)

/-- A turn of a filter does not depend on how the machine is called. -/
theorem filterTurn_at (p : α → Effect σ Bool) (machine : Machine σ (Except StoreError α))
    (now : machine.State) (state : σ) :
    Streams.filterTurn Machine.next p (machine.at_ now, state)
      = (Streams.filterTurn machine.step p (now, state)).map
        (Sum.map (Streams.Pulled.mapLeft machine.at_) fun (now, state) =>
          (machine.at_ now, state)) := by
  simp only [Streams.filterTurn, Machine.next, Part.map_map]
  congr 1
  funext ⟨⟨item, left⟩, state⟩
  obtain _ | error | item := item
  · rfl
  · rfl
  · rcases ran : p item state with ⟨_ | _, later⟩ <;>
      simp only [Streams.Pulled.mapLeft, Streams.filterStep, Function.comp, ran] <;> rfl

theorem flattenTurn_at (machine : Machine σ (Except StoreError (List (Except StoreError α))))
    (group : List (Except StoreError α)) (now : machine.State) (state : σ) :
    Streams.flattenTurn Machine.next ((group, machine.at_ now), state)
      = (Streams.flattenTurn machine.step ((group, now), state)).map
        (Sum.map (Streams.Pulled.mapLeft fun (group, now) => (group, machine.at_ now))
          fun ((group, now), state) => ((group, machine.at_ now), state)) := by
  cases group with
  | cons item group => exact (Part.map_some _ _).symm
  | nil =>
    simp only [Streams.flattenTurn, Machine.next, Part.map_map]
    congr 1
    funext ⟨⟨item, left⟩, state⟩
    obtain _ | error | group := item <;> rfl

namespace Machine

theorem next_tryFilter (p : α → Effect σ Bool) (machine : Machine σ (Except StoreError α))
    (state : σ) : (machine.tryFilter p).next state
      = ((Streams.filterTurn next p).fix (machine, state)).map
        (Streams.Pulled.mapLeft (tryFilter p)) := by
  have renamed : (Streams.filterTurn next p).fix (machine, state)
      = ((Streams.filterTurn machine.step p).fix (machine.now, state)).map
        (Streams.Pulled.mapLeft machine.at_) :=
    fix_map_of_turns (fun (now, state) => (machine.at_ now, state))
      (fun (now, state) => filterTurn_at p machine now state) (machine.now, state)
  rw [renamed, Part.map_map]
  rfl

theorem next_tryFlatten (group : List (Except StoreError α))
    (machine : Machine σ (Except StoreError (List (Except StoreError α)))) (state : σ) :
    (tryFlatten (group, machine)).next state
      = ((Streams.flattenTurn next).fix ((group, machine), state)).map
        (Streams.Pulled.mapLeft tryFlatten) := by
  have renamed : (Streams.flattenTurn next).fix ((group, machine), state)
      = ((Streams.flattenTurn machine.step).fix ((group, machine.now), state)).map
        (Streams.Pulled.mapLeft fun (group, now) => (group, machine.at_ now)) :=
    fix_map_of_turns (fun ((group, now), state) => ((group, machine.at_ now), state))
      (fun ((group, now), state) => flattenTurn_at machine group now state)
      ((group, machine.now), state)
  rw [renamed, Part.map_map]
  rfl

end Machine

/-- The library of machines does what is documented. -/
theorem machines_lawful : (machines σ).Lawful where
  next_iter_cons item items state :=
    Part.map_some (Streams.Pulled.mapLeft (Machine.iter (item :: items)).at_)
      ((some item, items), state)
  next_iter_nil state := ⟨_, Part.map_some _ _⟩
  next_once item state := ⟨_, Part.map_some _ _⟩
  next_empty state := ⟨_, Part.map_some _ _⟩
  andThen f := by
    refine ⟨Machine.andThen f, fun _ _ => rfl, fun source state => ?_⟩
    simp only [machines, Machine.next, Machine.andThen, Part.map_map]
    congr 1
    funext ⟨⟨item, left⟩, state⟩
    cases item <;> rfl
  tryFilter p := ⟨Machine.tryFilter p, fun _ _ => rfl, Machine.next_tryFilter p⟩
  mapOk f := by
    refine ⟨Machine.mapOk f, fun _ _ => rfl, fun source state => ?_⟩
    simp only [machines, Machine.next, Machine.mapOk, Part.map_map]
    rfl
  tryFlatten := ⟨Machine.tryFlatten, fun _ _ => rfl,
    fun (group, machine) state => Machine.next_tryFlatten group machine state⟩

end KeyStore
