import Mathlib.Data.List.Forall2
import KeyStore.Proofs.Sequence.Only
import KeyStore.Proofs.Sequence.Relays

/-!
# What actions and sequences give

`Action.Gives handle action result` says that an action ends with the result, and
`Sequence.Gives handle items list` that a sequence has the items of the list and ends without an
error, both whatever the state of the handler is each time a request is put. A stage turns what its
source gives item by item, and all that a sequence gives can be collected. A loop over it keeps what
its rounds and the requests between them keep (`run_fold`), and so does collecting groups of items
(`run_flatMap`).
-/

namespace KeyStore

variable {I : Interface} {α β : Type} {σ : Type} {handle : Handler I σ}

namespace Action

/-- The action ends with the result, whatever the states. -/
inductive Gives (handle : Handler I σ) : Action I α → α → Prop where
  | done (result : α) : Gives handle (.done result) result
  | ask {request : I.Request} {next : I.Reply request → Action I α} {result : α}
    (goesOn : ∀ state, Gives handle (next (handle request state).1) result) :
    Gives handle (.ask request next) result

theorem Gives.bind {action : Action I α} {result : α} {f : α → Action I β} {final : β}
    (first : Gives handle action result) (second : Gives handle (f result) final) :
    Gives handle (action.bind f) final := by
  induction first with
  | done result => exact second
  | ask _ ih => exact .ask fun state => ih state second

/-- Put to any state, the action ends with its result. -/
theorem Gives.run_fst {action : Action I α} {result : α} (gives : Gives handle action result) :
    ∀ state, (action.run handle state).1 = .ok result := by
  induction gives with
  | done result => exact fun _ => rfl
  | ask _ ih => exact fun state => ih state _

theorem run_ofExcept (result : Except StoreError α) (state : σ) :
    (ofExcept result).run handle state = (result, state) := by
  cases result <;> rfl

/-- A request whose reply may be an error ends with the reply. -/
theorem run_requestOrFail (request : I.Request) (reply : I.Reply request → Except StoreError α)
    (state : σ) :
    (requestOrFail request reply).run handle state
      = (reply (handle request state).1, (handle request state).2) :=
  run_ofExcept _ _

/-- An action that has ended hands its result and the state on. -/
theorem run_bind_of_ok {action : Action I α} {f : α → Action I β} {result : α} {state later : σ}
    (ended : action.run handle state = (.ok result, later)) :
    (action.bind f).run handle state = (f result).run handle later := by
  induction action generalizing state with
  | done value =>
    cases ended
    rfl
  | fail error => cases ended
  | ask request next ih => exact ih _ ended

/-- The requests of an action that has ended come before those of what goes on. -/
theorem asked_bind_of_ok {action : Action I α} {f : α → Action I β} {result : α} {state later : σ}
    (ended : action.run handle state = (.ok result, later)) :
    (action.bind f).asked handle state
      = action.asked handle state ++ (f result).asked handle later := by
  induction action generalizing state with
  | done value =>
    cases ended
    rfl
  | fail error => cases ended
  | ask request next ih => exact congrArg (_ :: ·) (ih _ ended)

end Action

namespace Sequence

/-- The sequence has the items of the list and ends, whatever the states. -/
inductive Gives (handle : Handler I σ) : Sequence I α → List α → Prop where
  | nil : Gives handle .nil []
  | cons {item : α} {rest : Sequence I α} {items : List α} (others : Gives handle rest items) :
    Gives handle (.cons item rest) (item :: items)
  | ask {request : I.Request} {next : I.Reply request → Sequence I α} {items : List α}
    (goesOn : ∀ state, Gives handle (next (handle request state).1) items) :
    Gives handle (.ask request next) items

/-- Putting off an action that ends in a sequence does not change what is given. -/
theorem Gives.ofAction {action : Action I (Sequence I α)} {rest : Sequence I α} {items : List α}
    (ends : Action.Gives handle action rest) (others : Gives handle rest items) :
    Gives handle (Sequence.ofAction action) items := by
  induction ends with
  | done rest => exact others
  | ask _ ih => exact .ask fun state => ih state others

/-- A sequence made of a list gives the list, if taking an item may be noticed. -/
theorem Gives.ofItems {notice : Except StoreError α → Action I Unit}
    (noticed : ∀ item, Action.Gives handle (notice item) ()) (items : List α) :
    Gives handle (Sequence.ofItems notice (items.map Except.ok)) items := by
  induction items with
  | nil => exact .nil
  | cons item rest ih => exact .ofAction ((noticed _).bind (.done _)) (.cons ih)

/-- Each item passes through the action on its own. -/
theorem Gives.map {source : Sequence I α} {items : List α} {f : α → Action I β} {images : List β}
    (given : Gives handle source items)
    (each : List.Forall₂ (fun item image => Action.Gives handle (f item) image) items images) :
    Gives handle (source.map f) images := by
  induction given generalizing images with
  | nil =>
    cases each
    exact .nil
  | cons _ ih =>
    cases each with
    | cons first others => exact .ofAction (first.bind (.done _)) (.cons (ih others))
  | ask _ ih => exact .ask fun state => ih state each

/-- Filtering passes on the items that satisfy the predicate. -/
theorem Gives.filter {source : Sequence I α} {items : List α} (p : α → Bool)
    (given : Gives handle source items) : Gives handle (source.filter p) (items.filter p) := by
  induction given with
  | nil => exact .nil
  | @cons item rest items others ih =>
    refine .ofAction (.done _) ?_
    cases keep : p item with
    | true =>
      rw [List.filter_cons_of_pos keep]
      exact .cons ih
    | false =>
      rw [List.filter_cons_of_neg (by simp [keep])]
      exact ih
  | ask _ ih => exact .ask ih

/-- Collecting a sequence gives the list of its items. -/
theorem Gives.toList {source : Sequence I α} {items : List α} (given : Gives handle source items) :
    Action.Gives handle source.toList items := by
  induction given with
  | nil => exact .done []
  | cons _ ih => exact ih.bind (.done _)
  | ask _ ih => exact .ask ih

/-- The first item is the head of the list. -/
theorem Gives.first {source : Sequence I α} {items : List α} (given : Gives handle source items) :
    Action.Gives handle source.first items.head? := by
  induction given with
  | nil => exact .done none
  | cons _ _ => exact .done (some _)
  | ask _ ih => exact .ask ih

theorem Gives.isNonempty {source : Sequence I α} {items : List α}
    (given : Gives handle source items) :
    Action.Gives handle source.isNonempty items.head?.isSome :=
  given.first.bind (.done _)

/-- Where only the first reply depends on the state, it decides what is collected. -/
theorem run_toList_ask_fst {request : I.Request} {next : I.Reply request → Sequence I α}
    {items : List α} (state : σ) (goesOn : Gives handle (next (handle request state).1) items) :
    ((ask request next).toList.run handle state).1 = .ok items :=
  goesOn.toList.run_fst _

/-- What is known after each round of a loop. `inv value rest state` is kept by the requests that
are put for the items, and a round takes it from `item :: rest` to `rest`; so it holds when no items
are left. -/
theorem Gives.run_fold {allowed : I.Request → Prop} {f : β → α → Action I β}
    (inv : β → List α → σ → Prop)
    (keeps : ∀ request, allowed request → ∀ value rest state, inv value rest state →
      inv value rest (handle request state).2)
    (round : ∀ value item rest state, inv value (item :: rest) state →
      ∃ next later, (f value item).run handle state = (.ok next, later) ∧ inv next rest later)
    {source : Sequence I α} {items : List α} (given : Gives handle source items)
    (only : source.Only allowed) {value : β} {state : σ} (holds : inv value items state) :
    ∃ final later, (source.fold f value).run handle state = (.ok final, later) ∧
      inv final [] later := by
  induction given generalizing value state with
  | nil => exact ⟨value, state, rfl, holds⟩
  | @cons item rest items others ih =>
    obtain ⟨next, later, ended, kept⟩ := round value item items state holds
    obtain ⟨final, last, folded, done⟩ := ih only kept
    exact ⟨final, last, (Action.run_bind_of_ok ended).trans folded, done⟩
  | @ask request next items goesOn ih =>
    exact ih state (only.2 _) (keeps request only.1 value items state holds)

/-- Collecting what an action puts off collects what it ends in. -/
theorem toList_ofAction (action : Action I (Sequence I α)) :
    (ofAction action).toList = action.bind toList := by
  induction action with
  | done items => rfl
  | fail error => rfl
  | ask request next ih => exact congrArg (Action.ask request) (funext ih)

theorem run_toList_append {rest : Sequence I α} {items : List α} {state later : σ}
    (collected : rest.toList.run handle state = (.ok items, later)) (images : List α) :
    (append images rest).toList.run handle state = (.ok (images ++ items), later) := by
  induction images with
  | nil => exact collected
  | cons image images ih => exact Action.run_bind_of_ok ih

theorem asked_toList_append {rest : Sequence I α} {items : List α} {state later : σ}
    (collected : rest.toList.run handle state = (.ok items, later)) (images : List α) :
    (append images rest).toList.asked handle state = rest.toList.asked handle state := by
  induction images with
  | nil => rfl
  | cons image images ih =>
    refine (Action.asked_bind_of_ok (run_toList_append collected images)).trans ?_
    exact (List.append_nil _).trans ih

/-- What is collected after each item has passed through an action that gives a group. `inv` is kept
by the requests that are put for the items, and the action keeps it. What is said of an item and its
group may tell of the requests that are put for it. -/
theorem Gives.run_flatMap {allowed : I.Request → Prop} {f : α → Action I (List β)}
    (inv : σ → Prop) (group : List (I.Request × σ) → α → List β → Prop)
    (keeps : ∀ request, allowed request → ∀ state, inv state → inv (handle request state).2)
    {source : Sequence I α} {items : List α} (given : Gives handle source items)
    (only : source.Only allowed)
    (each : ∀ item ∈ items, ∀ state, inv state →
      ∃ images later, (f item).run handle state = (.ok images, later) ∧ inv later ∧
        ∀ moments, (f item).asked handle state ⊆ moments → group moments item images)
    {state : σ} (holds : inv state) :
    ∃ groups later, (source.flatMap f).toList.run handle state = (.ok groups.flatten, later) ∧
      inv later ∧ ∀ moments, (source.flatMap f).toList.asked handle state ⊆ moments →
        List.Forall₂ (group moments) items groups := by
  induction given generalizing state with
  | nil => exact ⟨[], state, rfl, holds, fun _ _ => .nil⟩
  | @cons item rest items others ih =>
    obtain ⟨images, between, ended, kept, first⟩ := each item List.mem_cons_self state holds
    obtain ⟨groups, later, collected, last, grouped⟩ :=
      ih only (fun other member => each other (List.mem_cons_of_mem _ member)) kept
    have put : ((f item).bind fun images => .done (append images (rest.flatMap f))).run handle
        state = (.ok (append images (rest.flatMap f)), between) := Action.run_bind_of_ok ended
    have asked : ((Sequence.cons item rest).flatMap f).toList.asked handle state
        = (f item).asked handle state ++ (rest.flatMap f).toList.asked handle between := by
      rw [flatMap, toList_ofAction, Action.asked_bind_of_ok put, Action.asked_bind_of_ok ended,
        asked_toList_append collected]
      exact congrArg (· ++ _) (List.append_nil _)
    refine ⟨images :: groups, later, ?_, last, fun moments all => ?_⟩
    · rw [flatMap, toList_ofAction]
      exact (Action.run_bind_of_ok put).trans (run_toList_append collected images)
    · rw [asked, List.append_subset] at all
      exact .cons (first moments all.1) (grouped moments all.2)
  | @ask request next items goesOn ih =>
    obtain ⟨groups, later, collected, last, grouped⟩ :=
      ih state (only.2 _) each (keeps request only.1 state holds)
    exact ⟨groups, later, collected, last, fun moments all =>
      grouped moments fun moment member => all (List.mem_cons_of_mem _ member)⟩

end Sequence

end KeyStore
