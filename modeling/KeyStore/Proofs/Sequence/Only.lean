import KeyStore.Sequence

/-!
# Which requests are put

`Action.Only allowed action` says that whatever is replied, the action puts no request but those
that are allowed; `Sequence.Only` says so of a sequence however far it is pulled. Stages and
consumers put the requests of what they are made of.

A run keeps what every allowed request keeps, and it cannot tell two handlers apart that answer the
allowed requests alike (`run_keeps`, `run_congr`; `pull_keeps`, `pull_congr`).
-/

namespace KeyStore

variable {I : Interface} {α β : Type} {allowed : I.Request → Prop}

namespace Action

/-- The action puts allowed requests only. -/
def Only (allowed : I.Request → Prop) : Action I α → Prop
  | done _ => True
  | fail _ => True
  | ask request next => allowed request ∧ ∀ reply, Only allowed (next reply)

theorem Only.mono {wider : I.Request → Prop} (grants : ∀ request, allowed request → wider request)
    {action : Action I α} (only : action.Only allowed) : action.Only wider := by
  induction action with
  | done result => trivial
  | fail error => trivial
  | ask request next ih => exact ⟨grants request only.1, fun reply => ih reply (only.2 reply)⟩

theorem Only.bind {action : Action I α} {f : α → Action I β} (first : action.Only allowed)
    (second : ∀ result, (f result).Only allowed) : (action.bind f).Only allowed := by
  induction action with
  | done result => exact second result
  | fail error => trivial
  | ask request next ih => exact ⟨first.1, fun reply => ih reply (first.2 reply)⟩

theorem Only.attempt {action : Action I α} (only : action.Only allowed) :
    action.attempt.Only allowed := by
  induction action with
  | done result => trivial
  | fail error => trivial
  | ask request next ih => exact ⟨only.1, fun reply => ih reply (only.2 reply)⟩

theorem only_ofExcept (result : Except StoreError α) :
    (ofExcept result : Action I α).Only allowed := by
  cases result <;> trivial

theorem only_ofExcept_bind {result : Except StoreError α} {f : α → Action I β}
    (second : ∀ value, result = .ok value → (f value).Only allowed) :
    ((ofExcept result).bind f).Only allowed := by
  cases result with
  | ok value => exact second value rfl
  | error error => trivial

/-- What every allowed request keeps is kept by the run. -/
theorem Only.run_keeps {σ : Type} {handle : Handler I σ} (inv : σ → Prop)
    (keeps : ∀ request, allowed request → ∀ state, inv state → inv (handle request state).2)
    {action : Action I α} (only : action.Only allowed) {state : σ} (holds : inv state) :
    inv (action.run handle state).2 := by
  induction action generalizing state with
  | done result => exact holds
  | fail error => exact holds
  | ask request next ih => exact ih _ (only.2 _) (keeps request only.1 state holds)

/-- Handlers that answer every allowed request alike lead to the same run. -/
theorem Only.run_congr {σ : Type} {left right : Handler I σ}
    (alike : ∀ request, allowed request → ∀ state, left request state = right request state)
    {action : Action I α} (only : action.Only allowed) (state : σ) :
    action.run left state = action.run right state := by
  induction action generalizing state with
  | done result => rfl
  | fail error => rfl
  | ask request next ih =>
    rw [run, run, alike request only.1]
    exact ih _ (only.2 _) _

end Action

namespace Sequence

/-- The sequence puts allowed requests only. -/
def Only (allowed : I.Request → Prop) : Sequence I α → Prop
  | nil => True
  | fail _ => True
  | cons _ rest => Only allowed rest
  | ask request next => allowed request ∧ ∀ reply, Only allowed (next reply)

theorem Only.mono {wider : I.Request → Prop} (grants : ∀ request, allowed request → wider request)
    {source : Sequence I α} (only : source.Only allowed) : source.Only wider := by
  induction source with
  | nil => trivial
  | fail error => trivial
  | cons item rest ih => exact ih only
  | ask request next ih => exact ⟨grants request only.1, fun reply => ih reply (only.2 reply)⟩

theorem Only.append {items : List α} {rest : Sequence I α} (only : rest.Only allowed) :
    (Sequence.append items rest).Only allowed := by
  induction items with
  | nil => exact only
  | cons item items ih => exact ih

/-- An action put off, and what its result leads to. -/
theorem Only.ofAction_bind {action : Action I α} {f : α → Action I (Sequence I β)}
    (first : action.Only allowed) (others : ∀ result, (Sequence.ofAction (f result)).Only allowed) :
    (Sequence.ofAction (action.bind f)).Only allowed := by
  induction action with
  | done result => exact others result
  | fail error => trivial
  | ask request next ih => exact ⟨first.1, fun reply => ih reply (first.2 reply)⟩

theorem only_ofItems {notice : Except StoreError α → Action I Unit}
    (noticed : ∀ item, (notice item).Only allowed) (items : List (Except StoreError α)) :
    (Sequence.ofItems notice items).Only allowed := by
  induction items with
  | nil => trivial
  | cons item items ih =>
    cases item with
    | ok item => exact Only.ofAction_bind (noticed _) fun _ => ih
    | error error => exact Only.ofAction_bind (noticed _) fun _ => trivial

theorem Only.map {source : Sequence I α} {f : α → Action I β} (only : source.Only allowed)
    (each : ∀ item, (f item).Only allowed) : (source.map f).Only allowed := by
  induction source with
  | nil => trivial
  | fail error => trivial
  | cons item rest ih => exact Only.ofAction_bind (each item) fun _ => ih only
  | ask request next ih => exact ⟨only.1, fun reply => ih reply (only.2 reply)⟩

theorem Only.flatMap {source : Sequence I α} {f : α → Action I (List β)}
    (only : source.Only allowed) (each : ∀ item, (f item).Only allowed) :
    (source.flatMap f).Only allowed := by
  induction source with
  | nil => trivial
  | fail error => trivial
  | cons item rest ih => exact Only.ofAction_bind (each item) fun _ => (ih only).append
  | ask request next ih => exact ⟨only.1, fun reply => ih reply (only.2 reply)⟩

theorem Only.filter {source : Sequence I α} (only : source.Only allowed) (p : α → Bool) :
    (source.filter p).Only allowed := by
  induction source with
  | nil => trivial
  | fail error => trivial
  | cons item rest ih =>
    have asked : Action.Only allowed (.done (p item) : Action I Bool) := trivial
    rw [Sequence.filter, filterM]
    refine Only.ofAction_bind asked fun keep => ?_
    cases keep with
    | true => exact ih only
    | false => exact ih only
  | ask request next ih => exact ⟨only.1, fun reply => ih reply (only.2 reply)⟩

theorem Only.fold {source : Sequence I α} {f : β → α → Action I β} (only : source.Only allowed)
    (each : ∀ value item, (f value item).Only allowed) (start : β) :
    (source.fold f start).Only allowed := by
  induction source generalizing start with
  | nil => trivial
  | fail error => trivial
  | cons item rest ih => exact (each start item).bind fun value => ih only value
  | ask request next ih => exact ⟨only.1, fun reply => ih reply (only.2 reply) start⟩

theorem Only.toList {source : Sequence I α} (only : source.Only allowed) :
    source.toList.Only allowed := by
  induction source with
  | nil => trivial
  | fail error => trivial
  | cons item rest ih => exact (ih only).bind fun _ => trivial
  | ask request next ih => exact ⟨only.1, fun reply => ih reply (only.2 reply)⟩

theorem Only.first {source : Sequence I α} (only : source.Only allowed) :
    source.first.Only allowed := by
  induction source with
  | nil => trivial
  | fail error => trivial
  | cons item rest => trivial
  | ask request next ih => exact ⟨only.1, fun reply => ih reply (only.2 reply)⟩

theorem Only.isNonempty {source : Sequence I α} (only : source.Only allowed) :
    source.isNonempty.Only allowed :=
  only.first.bind fun _ => trivial

/-- What every allowed request keeps is kept however far the sequence is pulled. -/
theorem Only.pull_keeps {σ : Type} {handle : Handler I σ} (inv : σ → Prop)
    (keeps : ∀ request, allowed request → ∀ state, inv state → inv (handle request state).2)
    {source : Sequence I α} (only : source.Only allowed) (wanted : Option Nat) {state : σ}
    (holds : inv state) : inv (source.pull handle wanted state).2 := by
  induction source generalizing wanted state with
  | nil =>
    rw [pull]
    split <;> exact holds
  | fail error =>
    rw [pull]
    split <;> exact holds
  | cons item rest ih =>
    rw [pull]
    split
    · exact holds
    · exact ih only _ holds
  | ask request next ih =>
    rw [pull]
    split
    · exact holds
    · exact ih _ (only.2 _) _ (keeps request only.1 state holds)

/-- Handlers that answer every allowed request alike lead to the same items, the same end and the
same rest. -/
theorem Only.pull_congr {σ : Type} {left right : Handler I σ}
    (alike : ∀ request, allowed request → ∀ state, left request state = right request state)
    {source : Sequence I α} (only : source.Only allowed) (wanted : Option Nat) (state : σ) :
    source.pull left wanted state = source.pull right wanted state := by
  induction source generalizing wanted state with
  | nil => rfl
  | fail error => rfl
  | cons item rest ih => rw [pull, pull, ih only]
  | ask request next ih =>
    rw [pull, pull, alike request only.1]
    split
    · rfl
    · exact ih _ (only.2 _) _ _

/-! ### What is left of a sequence -/

/-- The second sequence may be left of the first when items were pulled from it. -/
inductive Leaves : Sequence I α → Sequence I α → Prop where
  | whole (source : Sequence I α) : Leaves source source
  | item {rest left : Sequence I α} (item : α) (leaves : Leaves rest left) :
    Leaves (cons item rest) left
  | reply {left : Sequence I α} (request : I.Request) (next : I.Reply request → Sequence I α)
    (reply : I.Reply request) (leaves : Leaves (next reply) left) : Leaves (ask request next) left

theorem Leaves.trans {source left last : Sequence I α} (first : source.Leaves left)
    (second : left.Leaves last) : source.Leaves last := by
  induction first with
  | whole source => exact second
  | item item _ ih => exact .item item (ih second)
  | reply request next reply _ ih => exact .reply request next reply (ih second)

/-- What was not pulled is left. -/
theorem leaves_pull {σ : Type} (handle : Handler I σ) (source : Sequence I α)
    (wanted : Option Nat) (state : σ) :
    source.Leaves (source.pull handle wanted state).1.rest := by
  induction source generalizing wanted state with
  | nil =>
    rw [pull]
    split <;> exact .whole _
  | fail error =>
    rw [pull]
    split <;> exact .whole _
  | cons item rest ih =>
    rw [pull]
    split
    · exact .whole _
    · exact .item item (ih _ _)
  | ask request next ih =>
    rw [pull]
    split
    · exact .whole _
    · exact .reply request next _ (ih _ _ _)

theorem Only.of_leaves {source left : Sequence I α} (only : source.Only allowed)
    (leaves : source.Leaves left) : left.Only allowed := by
  induction leaves with
  | whole source => exact only
  | item item _ ih => exact ih only
  | reply request next reply _ ih => exact ih (only.2 reply)

end Sequence

end KeyStore
