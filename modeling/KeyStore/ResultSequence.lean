import KeyStore.Streams

/-!
# Sequences of results

A sequence of results is a stream that latches: after an error every pull gives the same error,
after the end every pull gives the end, and the stream is not pulled again. The stages are put
together from the adapters of the library, which know nothing of the latch of the sequence below:
what they are put over is its stream, or one that gives its error or nothing (`intoStream`).
-/

namespace KeyStore

/-- A stream of results until it has ended or failed, and the error that it has failed with. -/
structure ResultSequence {σ : Type} (lib : Streams σ) (α : Type) where
  source : Option (lib.Stream (Except StoreError α))
  failure : Option StoreError

namespace ResultSequence

variable {σ : Type} {lib : Streams σ} {α β : Type}

/-! ### Sources -/

/-- The results of a stream. -/
def ofStream (stream : lib.Stream (Except StoreError α)) : ResultSequence lib α :=
  ⟨some stream, none⟩

/-- The items of a list. -/
def ofList (items : List α) : ResultSequence lib α := ofStream (lib.iter (items.map .ok))

/-- No items. -/
def empty : ResultSequence lib α := ⟨none, none⟩

/-- An error. -/
def failed (error : StoreError) : ResultSequence lib α := ⟨none, some error⟩

/-! ### Pulls -/

/-- What a pull of the stream gives a sequence: the stream that is left stays only after an item. -/
def latch : Pulled σ (lib.Stream (Except StoreError α)) (Except StoreError α) →
    (Except StoreError (Option α) × ResultSequence lib α) × σ
  | ((some (.ok item), left), state) => ((.ok (some item), ofStream left), state)
  | ((some (.error error), _), state) => ((.error error, failed error), state)
  | ((none, _), state) => ((.ok none, empty), state)

/-- The next item, none at the end, or the error. -/
def next (sequence : ResultSequence lib α) (state : σ) :
    Part ((Except StoreError (Option α) × ResultSequence lib α) × σ) :=
  match sequence.failure, sequence.source with
  | some error, _ => .some ((.error error, sequence), state)
  | none, none => .some ((.ok none, sequence), state)
  | none, some source => (lib.next source state).map latch

/-- The stream of the sequence. -/
def intoStream (sequence : ResultSequence lib α) : lib.Stream (Except StoreError α) :=
  match sequence.failure, sequence.source with
  | some error, _ => lib.once (.error error)
  | none, some source => source
  | none, none => lib.empty

/-! ### Stages -/

/-- Passes an item through a call, and an error by it. -/
def onItem (f : α → Effect σ (Except StoreError β)) :
    Except StoreError α → Effect σ (Except StoreError β)
  | .ok item => f item
  | .error error => fun state => (.error error, state)

/-- Passes each item through a call. -/
def map (f : α → Effect σ (Except StoreError β)) (sequence : ResultSequence lib α) :
    Effect σ (ResultSequence lib β) := fun state =>
  let (mapped, state) := lib.andThen (onItem f) sequence.intoStream state
  (ofStream mapped, state)

/-- Passes each item through a call that gives any number of items. -/
def flatMap (f : α → Effect σ (Except StoreError (List β))) (sequence : ResultSequence lib α) :
    Effect σ (ResultSequence lib β) := fun state =>
  let (groups, state) := sequence.map f state
  let (groups, state) := lib.mapOk (fun items => items.map .ok) groups.intoStream state
  let (flattened, state) := lib.tryFlatten groups state
  (ofStream flattened, state)

/-- Passes on the items for which a call says so. -/
def filter (p : α → Effect σ Bool) (sequence : ResultSequence lib α) :
    Effect σ (ResultSequence lib α) := fun state =>
  let (kept, state) := lib.tryFilter p sequence.intoStream state
  (ofStream kept, state)

/-! ### Consumers -/

/-- One round of a loop over the items: the value after the item, or what the loop ends with. -/
def foldTurn (f : β → α → Effect σ (Except StoreError β)) :
    (β × ResultSequence lib α) × σ →. (Except StoreError β × σ) ⊕ (β × ResultSequence lib α) × σ :=
  fun ((value, sequence), state) => (sequence.next state).map fun
    | ((.error error, _), state) => .inl (.error error, state)
    | ((.ok none, _), state) => .inl (.ok value, state)
    | ((.ok (some item), left), state) =>
      match f value item state with
      | (.error error, state) => .inl (.error error, state)
      | (.ok next, state) => .inr ((next, left), state)

/-- Passes a value through all items from the first on, each before the next one is pulled. -/
def fold (f : β → α → Effect σ (Except StoreError β)) (sequence : ResultSequence lib α) (start : β)
    (state : σ) : Part (Except StoreError β × σ) :=
  (foldTurn f).fix ((start, sequence), state)

/-- Visits every item before the next one is pulled. -/
def forEach (visit : α → Effect σ (Except StoreError Unit)) (sequence : ResultSequence lib α)
    (state : σ) : Part (Except StoreError Unit × σ) :=
  sequence.fold (fun _ item => visit item) () state

/-- All items. -/
def toList (sequence : ResultSequence lib α) (state : σ) : Part (Except StoreError (List α) × σ) :=
  sequence.fold (fun items item state => (.ok (items ++ [item]), state)) [] state

/-- The first item, if there is one. -/
def first (sequence : ResultSequence lib α) (state : σ) :
    Part (Except StoreError (Option α) × σ) :=
  (sequence.next state).map fun ((result, _), state) => (result, state)

/-- Whether there is an item. -/
def isNonempty (sequence : ResultSequence lib α) (state : σ) : Part (Except StoreError Bool × σ) :=
  (sequence.first state).map fun (result, state) => (result.map Option.isSome, state)

end ResultSequence

end KeyStore
