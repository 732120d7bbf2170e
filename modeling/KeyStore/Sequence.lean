import KeyStore.Action

/-!
# Sequences

A sequence gives items one at a time, and puts requests in between. Nothing is asked before an item
is pulled, and then only as much as that item needs. A sequence that has failed fails again with the
same error; one that has ended stays at its end.

`map`, `flatMap` and `filter` make stages: each item passes through all of them before the next one
is pulled. `fold` and what is made of it consume a sequence.
-/

namespace KeyStore

/-- Items that are asked for one at a time. -/
inductive Sequence (I : Interface) (α : Type) where
  | nil
  | fail (error : StoreError)
  | cons (item : α) (rest : Sequence I α)
  | ask (request : I.Request) (next : I.Reply request → Sequence I α)

namespace Sequence

variable {I : Interface} {α β : Type}

instance : Inhabited (Sequence I α) := ⟨nil⟩

/-! ### Sources -/

/-- The items of a list. -/
def ofList : List α → Sequence I α
  | [] => nil
  | item :: rest => cons item (ofList rest)

/-- The items of a list, followed by a sequence. -/
def append : List α → Sequence I α → Sequence I α
  | [], rest => rest
  | item :: items, rest => cons item (append items rest)

/-- The sequence that an action gives; the action is put off until the first pull. -/
def ofAction : Action I (Sequence I α) → Sequence I α
  | .done items => items
  | .fail error => fail error
  | .ask request next => ask request fun reply => ofAction (next reply)

/-- The items of a list that ends with the first error in it; `notice` is put whenever one is
taken. -/
def ofItems (notice : Except StoreError α → Action I Unit) :
    List (Except StoreError α) → Sequence I α
  | [] => nil
  | .ok item :: rest =>
    ofAction ((notice (.ok item)).bind fun _ => .done (cons item (ofItems notice rest)))
  | .error error :: _ => ofAction ((notice (.error error)).bind fun _ => .fail error)

/-! ### Stages -/

/-- Passes each item through an action. -/
def map (f : α → Action I β) : Sequence I α → Sequence I β
  | nil => nil
  | fail error => fail error
  | cons item rest => ofAction ((f item).bind fun image => .done (cons image (map f rest)))
  | ask request next => ask request fun reply => map f (next reply)

/-- Passes each item through an action that gives any number of items. -/
def flatMap (f : α → Action I (List β)) : Sequence I α → Sequence I β
  | nil => nil
  | fail error => fail error
  | cons item rest => ofAction ((f item).bind fun images => .done (append images (flatMap f rest)))
  | ask request next => ask request fun reply => flatMap f (next reply)

/-- Passes on the items for which an action says so. -/
def filterM (p : α → Action I Bool) : Sequence I α → Sequence I α
  | nil => nil
  | fail error => fail error
  | cons item rest =>
    ofAction ((p item).bind fun keep =>
      .done (if keep then cons item (filterM p rest) else filterM p rest))
  | ask request next => ask request fun reply => filterM p (next reply)

/-- Passes on the items that satisfy `p`. -/
def filter (p : α → Bool) (items : Sequence I α) : Sequence I α :=
  items.filterM fun item => .done (p item)

/-! ### Consumers -/

/-- Passes a value through all items from the first on. -/
def fold (f : β → α → Action I β) : Sequence I α → β → Action I β
  | nil, start => .done start
  | fail error, _ => .fail error
  | cons item rest, start => (f start item).bind fun next => fold f rest next
  | ask request next, start => .ask request fun reply => fold f (next reply) start

/-- Visits every item before the next one is pulled. -/
def forEach (visit : α → Action I Unit) (items : Sequence I α) : Action I Unit :=
  items.fold (fun _ item => visit item) ()

/-- All items. -/
def toList : Sequence I α → Action I (List α)
  | nil => .done []
  | fail error => .fail error
  | cons item rest => (toList rest).bind fun items => .done (item :: items)
  | ask request next => .ask request fun reply => toList (next reply)

/-- The first item, if there is one. -/
def first : Sequence I α → Action I (Option α)
  | nil => .done none
  | fail error => .fail error
  | cons item _ => .done (some item)
  | ask request next => .ask request fun reply => first (next reply)

/-- Whether there is an item. -/
def isNonempty (items : Sequence I α) : Action I Bool :=
  items.first.bind fun item => .done item.isSome

/-! ### One at a time -/

/-- The next item, with the sequence that is left. -/
def next {σ : Type} (handle : Handler I σ) :
    Sequence I α → σ → (Except StoreError (Option α) × Sequence I α) × σ
  | nil, state => ((.ok none, nil), state)
  | fail error, state => ((.error error, fail error), state)
  | cons item rest, state => ((.ok (some item), rest), state)
  | ask request next, state =>
    let (reply, state) := handle request state
    Sequence.next handle (next reply) state

/-- Why no more items were pulled. -/
inductive Ending where
  | finished
  | failed (error : StoreError)
  /-- As many as were wanted have come. -/
  | paused
deriving DecidableEq, Repr

/-- What came of pulling several items. -/
structure Pulled (I : Interface) (α : Type) where
  items : List α
  ending : Ending
  rest : Sequence I α

/-- Pulls items until the end, an error, or `wanted` of them; without a number, all. -/
def pull {σ : Type} (handle : Handler I σ) :
    Sequence I α → (wanted : Option Nat) → σ → Pulled I α × σ
  | nil, wanted, state =>
    if wanted = some 0 then (⟨[], .paused, nil⟩, state) else (⟨[], .finished, nil⟩, state)
  | fail error, wanted, state =>
    if wanted = some 0 then (⟨[], .paused, fail error⟩, state)
    else (⟨[], .failed error, fail error⟩, state)
  | cons item rest, wanted, state =>
    if wanted = some 0 then (⟨[], .paused, cons item rest⟩, state)
    else
      let (pulled, state) := pull handle rest (wanted.map (· - 1)) state
      ({ pulled with items := item :: pulled.items }, state)
  | ask request next, wanted, state =>
    if wanted = some 0 then (⟨[], .paused, ask request next⟩, state)
    else
      let (reply, state) := handle request state
      pull handle (next reply) wanted state

end Sequence

end KeyStore
