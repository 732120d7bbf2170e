import Mathlib.Data.PFun
import KeyStore.Error

/-!
# Streams

Sequences of results stand on a library of asynchronous streams. The library is a parameter: its
functions are the fields of `Streams`, and what is documented of them is said by `Streams.Lawful`.

An adapter goes on after an error: it passes the error on as it passes on the end, and what it does
when it is pulled again is what it does with the rest of its source. To make one pulls nothing and
calls nothing. A pull need not come to an end: a filter that keeps nothing of an endless stream is
pulled for ever.
-/

namespace KeyStore

/-- A call that is awaited: what it comes to, and what it leaves of the surroundings. -/
abbrev Effect.{u} (σ : Type) (α : Type u) : Type u := σ → α × σ

/-- What a pull gives: an item, or none at the end, with what is left of the source and of the
surroundings. -/
abbrev Pulled.{u} (σ : Type) (S : Type u) (ι : Type) : Type u := (Option ι × S) × σ

/-- A library of streams in surroundings `σ`. -/
structure Streams (σ : Type) where
  /-- Streams of items of a type. -/
  Stream : Type → Type 1
  /-- Pulls the next item. -/
  next {ι : Type} : Stream ι → σ → Part (Pulled σ (Stream ι) ι)
  /-- Gives the items of a list. -/
  iter {ι : Type} : List ι → Stream ι
  /-- Gives one item. -/
  once {ι : Type} : ι → Stream ι
  /-- Gives nothing. -/
  empty {ι : Type} : Stream ι
  /-- Passes each item through a call. -/
  andThen {ι κ : Type} : (ι → Effect σ κ) → Stream ι → Effect σ (Stream κ)
  /-- Passes on the errors, and the items for which the call says so. -/
  tryFilter {α : Type} : (α → Effect σ Bool) → Stream (Except StoreError α) →
    Effect σ (Stream (Except StoreError α))
  /-- Passes on the errors, and the images of the items. -/
  mapOk {α β : Type} : (α → β) → Stream (Except StoreError α) →
    Effect σ (Stream (Except StoreError β))
  /-- Passes on the errors, and everything that each group gives. -/
  tryFlatten {α : Type} : Stream (Except StoreError (List (Except StoreError α))) →
    Effect σ (Stream (Except StoreError α))

namespace Streams

variable {σ : Type} {α β ι κ : Type}

section

universe u v

variable {S : Type u}

/-- What `andThen` does with what was pulled. -/
def thenStep (f : ι → Effect σ κ) : Pulled σ S ι → Pulled σ S κ
  | ((none, left), state) => ((none, left), state)
  | ((some item, left), state) => ((some (f item state).1, left), (f item state).2)

/-- What `tryFilter` does with what was pulled: an item that is not kept makes another turn. -/
def filterStep (p : α → Effect σ Bool) :
    Pulled σ S (Except StoreError α) → Pulled σ S (Except StoreError α) ⊕ S × σ
  | ((some (.ok item), left), state) =>
    match p item state with
    | (true, state) => .inl ((some (.ok item), left), state)
    | (false, state) => .inr (left, state)
  | ((some (.error error), left), state) => .inl ((some (.error error), left), state)
  | ((none, left), state) => .inl ((none, left), state)

/-- One turn of `tryFilter`. -/
def filterTurn (next : S → σ → Part (Pulled σ S (Except StoreError α)))
    (p : α → Effect σ Bool) : S × σ →. Pulled σ S (Except StoreError α) ⊕ S × σ :=
  fun (source, state) => (next source state).map (filterStep p)

/-- What `tryFlatten` does with what was pulled: a group makes another turn. -/
def flattenStep : Pulled σ S (Except StoreError (List (Except StoreError α))) →
    Pulled σ (List (Except StoreError α) × S) (Except StoreError α) ⊕
      (List (Except StoreError α) × S) × σ
  | ((some (.ok group), left), state) => .inr ((group, left), state)
  | ((some (.error error), left), state) => .inl ((some (.error error), [], left), state)
  | ((none, left), state) => .inl ((none, [], left), state)

/-- One turn of `tryFlatten` with what is left of a group, which comes first. -/
def flattenTurn
    (next : S → σ → Part (Pulled σ S (Except StoreError (List (Except StoreError α))))) :
    (List (Except StoreError α) × S) × σ →.
      Pulled σ (List (Except StoreError α) × S) (Except StoreError α) ⊕
        (List (Except StoreError α) × S) × σ
  | ((item :: group, source), state) => .some (.inl ((some item, group, source), state))
  | (([], source), state) => (next source state).map flattenStep

/-- Puts what is left of a source under the stream over it. -/
def Pulled.mapLeft {T : Type v} (above : S → T) : Pulled σ S ι → Pulled σ T ι
  | ((item, left), state) => ((item, above left), state)

end

/-- What is documented of a library of streams. An adapter is made at once, and what it gives is
said by the streams `above` others that it makes. -/
structure Lawful (lib : Streams σ) : Prop where
  next_iter_cons {ι : Type} (item : ι) (items : List ι) (state : σ) :
    lib.next (lib.iter (item :: items)) state = .some ((some item, lib.iter items), state)
  next_iter_nil {ι : Type} (state : σ) :
    ∃ left, lib.next (lib.iter ([] : List ι)) state = .some ((none, left), state)
  next_once {ι : Type} (item : ι) (state : σ) :
    ∃ left, lib.next (lib.once item) state = .some ((some item, left), state)
  next_empty {ι : Type} (state : σ) :
    ∃ left : lib.Stream ι, lib.next lib.empty state = .some ((none, left), state)
  andThen {ι κ : Type} (f : ι → Effect σ κ) : ∃ above : lib.Stream ι → lib.Stream κ,
    (∀ source state, lib.andThen f source state = (above source, state)) ∧
    ∀ source state, lib.next (above source) state
      = (lib.next source state).map fun pulled => Pulled.mapLeft above (thenStep f pulled)
  tryFilter {α : Type} (p : α → Effect σ Bool) :
    ∃ above : lib.Stream (Except StoreError α) → lib.Stream (Except StoreError α),
      (∀ source state, lib.tryFilter p source state = (above source, state)) ∧
      ∀ source state, lib.next (above source) state
        = ((filterTurn lib.next p).fix (source, state)).map (Pulled.mapLeft above)
  mapOk {α β : Type} (f : α → β) :
    ∃ above : lib.Stream (Except StoreError α) → lib.Stream (Except StoreError β),
      (∀ source state, lib.mapOk f source state = (above source, state)) ∧
      ∀ source state, lib.next (above source) state
        = (lib.next source state).map fun ((item, left), state) =>
          ((item.map (Except.map f), above left), state)
  tryFlatten {α : Type} :
    ∃ above : List (Except StoreError α) ×
          lib.Stream (Except StoreError (List (Except StoreError α))) →
        lib.Stream (Except StoreError α),
      (∀ source state, lib.tryFlatten source state = (above ([], source), state)) ∧
      ∀ source state, lib.next (above source) state
        = ((flattenTurn lib.next).fix (source, state)).map (Pulled.mapLeft above)

end Streams

end KeyStore
