import Mathlib.Data.List.Forall2
import KeyStore.Proofs.Sequence.Stages

/-!
# What is pulled is what the list of items says

Where the functions of the stages give the same result for an item at any time, what is pulled does
not depend on when it is pulled. It is said by a list of items and the error after them, if there is
one (`Outcome`): a stage goes over the items in their order and stops at the first error, which comes
after all that was made before it (`Sequence.Has.flatMap`).
-/

namespace KeyStore

variable {I : Interface} {α β : Type} {σ : Type} {handle : Handler I σ}

/-! ### Lists that may end with an error -/

/-- Items, and the error after them, if there is one. -/
structure Outcome (α : Type) where
  items : List α
  failure : Option StoreError

namespace Outcome

/-- The first item and the others; at the end, the end again. -/
def next : Outcome α → Except StoreError (Option α) × Outcome α
  | ⟨[], failure⟩ => (atEnd failure none, ⟨[], failure⟩)
  | ⟨item :: rest, failure⟩ => (.ok (some item), ⟨rest, failure⟩)

/-- The images of some items in their order, up to the first error. -/
def images (f : α → Except StoreError (List β)) (failure : Option StoreError) :
    List α → Outcome β
  | [] => ⟨[], failure⟩
  | item :: rest =>
    match f item with
    | .error error => ⟨[], some error⟩
    | .ok images =>
      let others := Outcome.images f failure rest
      ⟨images ++ others.items, others.failure⟩

/-- Replaces each item by its images. -/
def flatMap (f : α → Except StoreError (List β)) (outcome : Outcome α) : Outcome β :=
  images f outcome.failure outcome.items

/-- Replaces each item by its image. -/
def map (f : α → Except StoreError β) (outcome : Outcome α) : Outcome β :=
  outcome.flatMap fun item => (f item).map fun image => [image]

/-- Keeps the items that pass the test. -/
def filter (p : α → Except StoreError Bool) (outcome : Outcome α) : Outcome α :=
  outcome.flatMap fun item => (p item).map fun keep => if keep then [item] else []

/-- The items before the first error in a list. -/
def ofItems : List (Except StoreError α) → Outcome α
  | [] => ⟨[], none⟩
  | .error error :: _ => ⟨[], some error⟩
  | .ok item :: rest => ⟨item :: (ofItems rest).items, (ofItems rest).failure⟩

theorem ofItems_map (f : α → β) (items : List (Except StoreError α)) :
    ofItems (items.map (Except.map f))
      = ⟨(ofItems items).items.map f, (ofItems items).failure⟩ := by
  induction items with
  | nil => rfl
  | cons item rest ih =>
    cases item with
    | error error => rfl
    | ok item =>
      rw [List.map_cons, Except.map, ofItems, ih]
      rfl

theorem mem_of_mem_ofItems {items : List (Except StoreError α)} {item : α}
    (member : item ∈ (ofItems items).items) : .ok item ∈ items := by
  induction items with
  | nil => cases member
  | cons head rest ih =>
    cases head with
    | error error => cases member
    | ok head =>
      rcases List.mem_cons.1 member with rfl | member
      · exact List.mem_cons_self
      · exact List.mem_cons_of_mem _ (ih member)

/-- Where each item has its images, all of them come. -/
theorem flatMap_of_forall₂ {f : α → Except StoreError (List β)} {items : List α}
    {groups : List (List β)}
    (each : List.Forall₂ (fun item images => f item = .ok images) items groups)
    (failure : Option StoreError) : flatMap f ⟨items, failure⟩ = ⟨groups.flatten, failure⟩ := by
  induction each with
  | nil => rfl
  | cons first _ ih =>
    rw [flatMap] at ih
    simp only [flatMap, Outcome.images, first, ih, List.flatten_cons]

theorem map_of_forall₂ {f : α → Except StoreError β} {items : List α} {images : List β}
    (each : List.Forall₂ (fun item image => f item = .ok image) items images)
    (failure : Option StoreError) : map f ⟨items, failure⟩ = ⟨images, failure⟩ := by
  have groups : List.Forall₂ (fun item group => (f item).map (fun image => [image]) = .ok group)
      items (images.map fun image => [image]) := by
    rw [List.forall₂_map_right_iff]
    exact each.imp fun item image found => by rw [found]; rfl
  rw [map, flatMap_of_forall₂ groups, ← List.flatMap_def, List.flatMap_singleton']

theorem filter_ok (p : α → Bool) (items : List α) (failure : Option StoreError) :
    filter (fun item => .ok (p item)) ⟨items, failure⟩ = ⟨items.filter p, failure⟩ := by
  induction items with
  | nil => rfl
  | cons item rest ih =>
    simp only [filter, flatMap, Except.map] at ih
    simp only [filter, flatMap, Outcome.images, Except.map, ih, List.filter_cons]
    cases p item <;> rfl

/-- What comes first is made of what came first. -/
theorem next_map_congr {left right : Outcome α} (same : left.next.1 = right.next.1)
    (f : α → Except StoreError β) : (left.map f).next.1 = (right.map f).next.1 := by
  have head (outcome : Outcome α) : (outcome.map f).next.1
      = outcome.next.1.bind fun item => item.elim (.ok none) fun item => (f item).map some := by
    obtain ⟨items, failure⟩ := outcome
    cases items with
    | nil => cases failure <;> rfl
    | cons item rest =>
      simp only [map, flatMap, Outcome.images, next, Except.bind, Option.elim]
      cases f item <;> rfl
  rw [head, head, same]

/-- One item is enough to know what comes first. -/
theorem next_ofItems_take (items : List (Except StoreError α)) :
    (ofItems (items.take 1)).next.1 = (ofItems items).next.1 := by
  cases items with
  | nil => rfl
  | cons item rest => cases item <;> rfl

end Outcome

namespace Sequence

/-- Runs a sequence until its next item or its end is there. -/
def settle (handle : Handler I σ) : Sequence I α → σ → Sequence I α × σ
  | nil, state => (nil, state)
  | fail error, state => (fail error, state)
  | cons item rest, state => (cons item rest, state)
  | ask request next, state =>
    let (reply, state) := handle request state
    (next reply).settle handle state

/-- The sequence that is at its end. -/
def ended : Option StoreError → Sequence I α
  | none => nil
  | some error => fail error

/-- Whatever the states in which it is pulled, the sequence has these items and ends so. -/
def Has (handle : Handler I σ) (failure : Option StoreError) : List α → Sequence I α → Prop
  | [], source => ∀ state, (source.settle handle state).1 = ended failure
  | item :: rest, source => ∀ state, ∃ left,
    (source.settle handle state).1 = cons item left ∧ Has handle failure rest left

theorem next_settle (source : Sequence I α) (state : σ) :
    source.next handle state
      = (source.settle handle state).1.next handle (source.settle handle state).2 := by
  induction source generalizing state with
  | nil => rfl
  | fail error => rfl
  | cons item rest ih => rfl
  | ask request next ih => exact ih _ _

theorem settle_flatMap (f : α → Action I (List β)) (source : Sequence I α) (state : σ) :
    (source.flatMap f).settle handle state
      = ((source.settle handle state).1.flatMap f).settle handle
          (source.settle handle state).2 := by
  induction source generalizing state with
  | nil => rfl
  | fail error => rfl
  | cons item rest ih => rfl
  | ask request next ih => exact ih _ _

theorem settle_ofAction_bind (action : Action I α) (f : α → Action I (Sequence I β)) (state : σ) :
    (ofAction (action.bind f)).settle handle state
      = match action.run handle state with
        | (.ok result, later) => (ofAction (f result)).settle handle later
        | (.error error, later) => (fail error, later) := by
  induction action generalizing state with
  | done result => rfl
  | fail error => rfl
  | ask request next ih => exact ih _ _

variable {failure : Option StoreError} {items : List α} {source : Sequence I α}

/-- A sequence has the items of whatever it settles like. -/
theorem Has.of_settle (alike : ∀ state, ∃ other later,
    (source.settle handle state).1 = (Sequence.settle handle other later).1 ∧
      Has handle failure items other) : Has handle failure items source := by
  cases items with
  | nil =>
    intro state
    obtain ⟨other, later, same, has⟩ := alike state
    exact same.trans (has later)
  | cons item rest =>
    intro state
    obtain ⟨other, later, same, has⟩ := alike state
    obtain ⟨left, head, others⟩ := has later
    exact ⟨left, same.trans head, others⟩

theorem has_ended (failure : Option StoreError) :
    Has handle failure [] (ended failure : Sequence I α) := by
  intro state
  cases failure <;> rfl

theorem has_append (has : Has handle failure items source) (front : List α) :
    Has handle failure (front ++ items) (append front source) := by
  induction front with
  | nil => exact has
  | cons item rest ih => exact fun state => ⟨_, rfl, ih⟩

theorem Has.flatMap {f : α → Action I (List β)} {value : α → Except StoreError (List β)}
    (ends : ∀ item state, ((f item).run handle state).1 = value item)
    (has : Has handle failure items source) :
    Has handle (Outcome.images value failure items).failure
      (Outcome.images value failure items).items (source.flatMap f) := by
  -- the function runs between the items of the source, so their states are not those without it
  induction items generalizing source with
  | nil =>
    intro state
    rw [settle_flatMap, has state]
    cases failure <;> rfl
  | cons item rest ih =>
    apply Has.of_settle
    intro state
    obtain ⟨left, head, others⟩ := has state
    rw [settle_flatMap, head, Sequence.flatMap, settle_ofAction_bind, Outcome.images]
    have ran := ends item (source.settle handle state).2
    cases outcome : (f item).run handle (source.settle handle state).2 with
    | mk result later =>
      rw [outcome] at ran
      rw [← ran]
      cases result with
      | error error => exact ⟨fail error, later, rfl, has_ended (some error)⟩
      | ok images => exact ⟨_, later, rfl, has_append (ih others) images⟩

theorem has_ofItems {notice : Except StoreError α → Action I Unit}
    (notices : ∀ item state, ((notice item).run handle state).1 = .ok ())
    (items : List (Except StoreError α)) :
    Has handle (Outcome.ofItems items).failure (Outcome.ofItems items).items
      (ofItems notice items) := by
  induction items with
  | nil => exact has_ended none
  | cons item rest ih =>
    apply Has.of_settle
    intro state
    have noticed := notices item state
    cases ran : (notice item).run handle state with
    | mk result later =>
      rw [ran] at noticed
      cases noticed
      cases item with
      | error error =>
        refine ⟨fail error, later, ?_, has_ended (some error)⟩
        rw [ofItems, settle_ofAction_bind, ran]
        rfl
      | ok item =>
        refine ⟨cons item (ofItems notice rest), later, ?_, fun _ => ⟨_, rfl, ih⟩⟩
        rw [ofItems, settle_ofAction_bind, ran]
        rfl

theorem Has.next (has : Has handle failure items source) (state : σ) :
    (source.next handle state).1.1 = (Outcome.next ⟨items, failure⟩).1 ∧
      Has handle (Outcome.next ⟨items, failure⟩).2.failure (Outcome.next ⟨items, failure⟩).2.items
        (source.next handle state).1.2 := by
  rw [next_settle]
  cases items with
  | nil =>
    rw [has state]
    cases failure with
    | none => exact ⟨rfl, has_ended none⟩
    | some error => exact ⟨rfl, has_ended (some error)⟩
  | cons item rest =>
    obtain ⟨left, head, others⟩ := has state
    rw [head]
    exact ⟨rfl, others⟩

end Sequence

/-! ### Repeatable functions -/

/-- A function whose result for an item is the same at any time, whatever else it does. -/
structure Repeatable (handle : Handler I σ) (α β : Type) where
  act : α → Action I β
  value : α → Except StoreError β
  ends : ∀ item state, ((act item).run handle state).1 = value item

theorem Repeatable.ends_bind {f : Repeatable handle α β} {γ : Type} (g : β → γ) (item : α)
    (state : σ) :
    (((f.act item).bind fun result => .done (g result)).run handle state).1
      = (f.value item).map g := by
  rw [Action.run_bind, ← f.ends item state]
  cases (f.act item).run handle state with
  | mk result later => cases result <;> rfl

namespace Sequence

variable {failure : Option StoreError} {items : List α} {source : Sequence I α}

theorem Has.map (f : Repeatable handle α β) (has : Has handle failure items source) :
    Has handle (Outcome.map f.value ⟨items, failure⟩).failure
      (Outcome.map f.value ⟨items, failure⟩).items (source.map f.act) := by
  rw [Sequence.map_eq_flatMap]
  exact has.flatMap (f.ends_bind fun image => [image])

theorem Has.filterM (p : Repeatable handle α Bool) (has : Has handle failure items source) :
    Has handle (Outcome.filter p.value ⟨items, failure⟩).failure
      (Outcome.filter p.value ⟨items, failure⟩).items (source.filterM p.act) := by
  rw [Sequence.filterM_eq_flatMap]
  exact has.flatMap fun item => p.ends_bind (fun keep => if keep then [item] else []) item

end Sequence

end KeyStore
