import KeyStore.Error

/-!
# Actions

An action is a computation that asks its surroundings: it gives a result, fails, or puts a request
and goes on with the reply. What a request means is left to the handler that runs the action, so the
same action runs against a database, a model of one, or a list of prepared replies.
-/

namespace KeyStore

/-- The requests that can be put, and what is replied to each. -/
structure Interface where
  Request : Type
  Reply : Request → Type

/-- Replies to requests over a state. -/
abbrev Handler (I : Interface) (σ : Type) : Type := (request : I.Request) → σ → I.Reply request × σ

/-- A computation that puts requests. -/
inductive Action (I : Interface) (α : Type) where
  | done (result : α)
  | fail (error : StoreError)
  | ask (request : I.Request) (next : I.Reply request → Action I α)

namespace Action

variable {I : Interface} {α β : Type}

instance : Inhabited (Action I α) := ⟨fail default⟩

/-- Goes on with the result of an action. -/
def bind : Action I α → (α → Action I β) → Action I β
  | done result, f => f result
  | fail error, _ => fail error
  | ask request next, f => ask request fun reply => bind (next reply) f

instance : Monad (Action I) where
  pure := done
  bind := bind

/-- Gives the failure of an action as a result. -/
def attempt : Action I α → Action I (Except StoreError α)
  | done result => done (.ok result)
  | fail error => done (.error error)
  | ask request next => ask request fun reply => attempt (next reply)

/-- A result that may be an error. -/
def ofExcept : Except StoreError α → Action I α
  | .ok result => done result
  | .error error => fail error

instance : MonadLift (Except StoreError) (Action I) := ⟨ofExcept⟩

/-- Puts one request and gives the reply. -/
def request (r : I.Request) : Action I (I.Reply r) := ask r done

/-- Puts one request whose reply may be an error. -/
def requestOrFail (r : I.Request) (reply : I.Reply r → Except StoreError α) : Action I α :=
  ask r fun answer => ofExcept (reply answer)

/-- Runs an action to its end. -/
def run {σ : Type} (handle : Handler I σ) : Action I α → σ → Except StoreError α × σ
  | done result, state => (.ok result, state)
  | fail error, state => (.error error, state)
  | ask request next, state =>
    let (reply, state) := handle request state
    run handle (next reply) state

end Action

end KeyStore
