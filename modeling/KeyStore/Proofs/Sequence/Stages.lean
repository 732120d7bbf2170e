import KeyStore.Sequence

/-!
# Actions one after the other, and stages

An action that goes on with another one goes on from the state that is left (`Action.run_bind`). A
stage makes a list of images of each item: `map` one, `filterM` one or none, so that both are a
`flatMap`.
-/

namespace KeyStore

variable {I : Interface} {α β γ : Type} {σ : Type} {handle : Handler I σ}

namespace Action

theorem bind_assoc (action : Action I α) (f : α → Action I β) (g : β → Action I γ) :
    (action.bind f).bind g = action.bind fun result => (f result).bind g := by
  induction action with
  | done result => rfl
  | fail error => rfl
  | ask request next ih => exact congrArg (ask request) (funext ih)

/-- An action goes on from the state that the one before it has left. -/
theorem run_bind (action : Action I α) (f : α → Action I β) (state : σ) :
    (action.bind f).run handle state
      = match action.run handle state with
        | (.ok result, later) => (f result).run handle later
        | (.error error, later) => (.error error, later) := by
  induction action generalizing state with
  | done result => rfl
  | fail error => rfl
  | ask request next ih => exact ih _ _

/-- An attempt gives what the action ends with, and leaves what it leaves. -/
theorem run_attempt (action : Action I α) (state : σ) :
    action.attempt.run handle state
      = (.ok (action.run handle state).1, (action.run handle state).2) := by
  induction action generalizing state with
  | done result => rfl
  | fail error => rfl
  | ask request next ih => exact ih _ _

end Action

namespace Sequence

theorem map_eq_flatMap (f : α → Action I β) (source : Sequence I α) :
    source.map f = source.flatMap fun item => (f item).bind fun image => .done [image] := by
  induction source with
  | nil => rfl
  | fail error => rfl
  | cons item rest ih =>
    rw [map, flatMap, Action.bind_assoc, ih]
    rfl
  | ask request next ih => exact congrArg (ask request) (funext ih)

theorem filterM_eq_flatMap (p : α → Action I Bool) (source : Sequence I α) :
    source.filterM p
      = source.flatMap fun item => (p item).bind fun keep =>
          .done (if keep then [item] else []) := by
  induction source with
  | nil => rfl
  | fail error => rfl
  | cons item rest ih =>
    rw [filterM, flatMap, Action.bind_assoc, ih]
    congr 2
    funext keep
    cases keep <;> rfl
  | ask request next ih => exact congrArg (ask request) (funext ih)

end Sequence

/-- What comes at the end: the error, or a value if there is none. -/
def atEnd (failure : Option StoreError) (value : α) : Except StoreError α :=
  match failure with
  | some error => .error error
  | none => .ok value

end KeyStore
