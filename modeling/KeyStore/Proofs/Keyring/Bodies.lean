import KeyStore.Proofs.Keyring.Calls
import KeyStore.Proofs.Sequence.Relays
import KeyStore.Proofs.Sequence.Stages

/-!
# Calls as actions

A call runs an action or pulls a sequence; that is its body. Pulling a sequence is an action as well
(`Sequence.drain`), so the requests of a call are those of one action (`Call.run_eq`). What is said
of all calls is said of that action, once for those that read (`Call.action_cases`).
-/

namespace KeyStore

namespace Sequence

variable {I : Interface} {α : Type} {σ : Type} {handle : Handler I σ}

/-- The error, if that was the reason. -/
def Ending.outcome : Ending → Except StoreError Unit
  | failed error => .error error
  | _ => .ok ()

/-- Pulls items until the end, an error, or `wanted` of them, and gives none of them. -/
def drain : Sequence I α → (wanted : Option Nat) → Action I Unit
  | nil, _ => .done ()
  | fail error, wanted => if wanted = some 0 then .done () else .fail error
  | cons _ rest, wanted => if wanted = some 0 then .done () else drain rest (wanted.map (· - 1))
  | ask request next, wanted =>
    if wanted = some 0 then .done () else .ask request fun reply => drain (next reply) wanted

/-- Draining fails as pulling does, and leaves the same state. -/
theorem run_drain (source : Sequence I α) (wanted : Option Nat) (state : σ) :
    (source.drain wanted).run handle state
      = ((source.pull handle wanted state).1.ending.outcome,
          (source.pull handle wanted state).2) := by
  induction source generalizing wanted state with
  | nil =>
    rw [drain, pull]
    split <;> rfl
  | fail error =>
    rw [drain, pull]
    split <;> rfl
  | cons item rest ih =>
    rw [drain, pull]
    split
    · rfl
    · exact ih _ state
  | ask request next ih =>
    rw [drain, pull]
    split
    · rfl
    · exact ih _ wanted _

/-- What is left after an error is the error. -/
theorem rest_of_failed {source : Sequence I α} {wanted : Option Nat} {state : σ}
    {error : StoreError} (failed : (source.pull handle wanted state).1.ending = .failed error) :
    (source.pull handle wanted state).1.rest = .fail error := by
  induction source generalizing wanted state with
  | nil =>
    rw [pull] at failed
    split at failed <;> cases failed
  | fail failure =>
    rw [pull] at failed ⊢
    split at failed
    · cases failed
    · next more =>
      cases failed
      rw [if_neg more]
  | cons item rest ih =>
    rw [pull] at failed ⊢
    split at failed
    · cases failed
    · next more =>
      rw [if_neg more]
      exact ih failed
  | ask request next ih =>
    rw [pull] at failed ⊢
    split at failed
    · cases failed
    · next more =>
      rw [if_neg more]
      exact ih _ failed

theorem Only.drain {allowed : I.Request → Prop} {source : Sequence I α}
    (only : source.Only allowed) (wanted : Option Nat) : (source.drain wanted).Only allowed := by
  induction source generalizing wanted with
  | nil => trivial
  | fail error =>
    rw [Sequence.drain]
    split <;> trivial
  | cons item rest ih =>
    rw [Sequence.drain]
    split
    · trivial
    · exact ih only _
  | ask request next ih =>
    rw [Sequence.drain]
    split
    · trivial
    · exact ⟨only.1, fun reply => ih reply (only.2 reply) wanted⟩

end Sequence

namespace Call

variable {σ : Type}

/-- What a call does: it runs an action, or pulls items of a sequence. -/
inductive Body where
  | act {α : Type} (action : Action Store α)
  | draw {α : Type} (items : Sequence Store α) (wanted : Option Nat)

/-- The body as one action without a result. -/
def Body.action : Body → Action Store Unit
  | act action => action.bind fun _ => .done ()
  | draw items wanted => items.drain wanted

theorem Body.only_act {allowed : StoreRequest → Prop} {α : Type} {action : Action Store α}
    (only : action.Only allowed) : (Body.act action).action.Only allowed :=
  only.bind fun _ => trivial

theorem Body.only_draw {allowed : StoreRequest → Prop} {α : Type} {items : Sequence Store α}
    (only : items.Only allowed) (wanted : Option Nat) :
    (Body.draw items wanted).action.Only allowed :=
  only.drain wanted

/-- The body of a call. -/
def body (keyring : Keyring) : Call → Body
  | list collection conditions wanted => .draw (keyring.list collection conditions) wanted
  | entries collection conditions fields wanted =>
    .draw (keyring.entries collection conditions fields) wanted
  | selfSignedEntries collection conditions fields wanted =>
    .draw (keyring.selfSignedEntries collection conditions fields) wanted
  | parents subkey wanted => .draw (keyring.parents subkey) wanted
  | signaturesBy kind issuer conditions wanted =>
    .draw (keyring.signaturesBy kind issuer conditions) wanted
  | searchIdentities search wanted => .draw (keyring.searchIdentities search) wanted
  | searchShortId shortId wanted => .draw (keyring.searchShortId shortId) wanted
  | searchLongId id wanted => .draw (keyring.searchLongId id) wanted
  | searchFingerprint fingerprint wanted => .draw (keyring.searchFingerprint fingerprint) wanted
  | contains collection id => .act (keyring.contains collection id)
  | find collection id fields => .act (keyring.find? collection id fields)
  | findSelfSigned collection id fields => .act (keyring.findSelfSigned? collection id fields)
  | relationNames => .act keyring.relationNames
  | bootstrap objects => .act (keyring.bootstrap objects)
  | initialise => .act keyring.initialise
  | add collection record => .act (keyring.add collection record)
  | update collection id record => .act (keyring.update collection id record)
  | remove collection id => .act (keyring.remove collection id)
  | save => .act Keyring.save
  | revert => .act Keyring.revert

/-- The requests of a call, each with the state in which it is put. -/
def asked (keyring : Keyring) (handle : Handler Store σ) (call : Call) (state : σ) :
    List (StoreRequest × σ) :=
  (call.body keyring).action.asked handle state

theorem act_snd (handle : Handler Store σ) {α : Type} (action : Action Store α) (state : σ) :
    (act handle action state).2 = (action.run handle state).2 :=
  rfl

theorem act_eq (handle : Handler Store σ) {α : Type} (action : Action Store α) (state : σ) :
    act handle action state = (Body.act action).action.run handle state := by
  rw [Body.action, act, Action.run_bind]
  generalize action.run handle state = ran
  obtain ⟨result, later⟩ := ran
  cases result <;> rfl

theorem draw_eq (handle : Handler Store σ) {α : Type} (items : Sequence Store α)
    (wanted : Option Nat) (state : σ) :
    draw handle items wanted state = (Body.draw items wanted).action.run handle state := by
  rw [Body.action, draw, Sequence.run_drain]
  generalize items.pull handle wanted state = pulled
  obtain ⟨⟨_, ending, _⟩, later⟩ := pulled
  cases ending <;> rfl

/-- A call runs its body. -/
theorem run_eq (keyring : Keyring) (handle : Handler Store σ) (call : Call) (state : σ) :
    call.run keyring handle state = (call.body keyring).action.run handle state := by
  unfold run body
  cases call with
  | list | entries | selfSignedEntries | parents | signaturesBy | searchIdentities | searchShortId
    | searchLongId | searchFingerprint => exact draw_eq _ _ _ _
  | _ => exact act_eq _ _ _

end Call

end KeyStore
