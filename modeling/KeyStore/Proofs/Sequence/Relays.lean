import KeyStore.Sequence

/-!
# Whose errors come out

`Action.Relays carries error action` says that the action fails with the error only after a reply
that carries it; `Sequence.Relays` says so of a sequence however far it is pulled. Stages and
consumers relay what the things that they are made of relay. A run that fails with an error that is
only relayed has put a request that was answered with it (`Relays.run`, `Relays.pull`).
-/

namespace KeyStore

variable {I : Interface} {α β : Type} {σ : Type}
  {carries : (request : I.Request) → I.Reply request → Prop} {error : StoreError}

namespace Action

/-- The requests that a run puts, each with the state in which it is put. -/
def asked (handle : Handler I σ) : Action I α → σ → List (I.Request × σ)
  | done _, _ => []
  | fail _, _ => []
  | ask request next, state =>
    let (reply, later) := handle request state
    (request, state) :: asked handle (next reply) later

theorem asked_ask (handle : Handler I σ) (request : I.Request)
    (next : I.Reply request → Action I α) (state : σ) :
    asked handle (ask request next) state
      = (request, state) :: asked handle (next (handle request state).1) (handle request state).2 :=
  rfl

/-- The action fails with the error only after a reply that carries it. -/
def Relays (carries : (request : I.Request) → I.Reply request → Prop) (error : StoreError) :
    Action I α → Prop
  | done _ => True
  | fail failure => failure ≠ error
  | ask request next => ∀ reply, carries request reply ∨ Relays carries error (next reply)

theorem Relays.bind {action : Action I α} {f : α → Action I β}
    (first : action.Relays carries error) (second : ∀ result, (f result).Relays carries error) :
    (action.bind f).Relays carries error := by
  induction action with
  | done result => exact second result
  | fail failure => exact first
  | ask request next ih => exact fun reply => (first reply).imp_right (ih reply)

theorem relays_ofExcept {result : Except StoreError α} (other : result ≠ .error error) :
    (ofExcept result : Action I α).Relays carries error := by
  cases result with
  | ok value => trivial
  | error failure => exact fun same => other (congrArg _ same)

theorem relays_ofExcept_bind {result : Except StoreError α} {f : α → Action I β}
    (other : result ≠ .error error)
    (second : ∀ value, result = .ok value → (f value).Relays carries error) :
    ((ofExcept result).bind f).Relays carries error := by
  cases result with
  | ok value => exact second value rfl
  | error failure => exact fun same => other (congrArg _ same)

/-- A request whose reply may be an error relays the errors that its replies carry. -/
theorem relays_requestOrFail {request : I.Request} {read : I.Reply request → Except StoreError α}
    (carried : ∀ reply, read reply = .error error → carries request reply) :
    (requestOrFail request read).Relays carries error := by
  intro reply
  by_cases brought : read reply = .error error
  · exact Or.inl (carried reply brought)
  · exact Or.inr (relays_ofExcept brought)

/-- A run that fails with an error that is only relayed was given it. -/
theorem Relays.run {handle : Handler I σ} {action : Action I α}
    (relays : action.Relays carries error) {state : σ}
    (failed : (action.run handle state).1 = .error error) :
    ∃ moment ∈ action.asked handle state, carries moment.1 (handle moment.1 moment.2).1 := by
  induction action generalizing state with
  | done result => cases failed
  | fail failure =>
    cases failed
    exact absurd rfl relays
  | ask request next ih =>
    rcases relays (handle request state).1 with carried | later
    · exact ⟨(request, state), List.mem_cons_self, carried⟩
    · obtain ⟨moment, member, carried⟩ := ih _ later failed
      exact ⟨moment, List.mem_cons_of_mem _ member, carried⟩

end Action

namespace Sequence

/-- The requests that are put when items are pulled, each with the state in which it is put. -/
def asked (handle : Handler I σ) : Sequence I α → (wanted : Option Nat) → σ → List (I.Request × σ)
  | nil, _, _ => []
  | fail _, _, _ => []
  | cons _ rest, wanted, state =>
    if wanted = some 0 then [] else asked handle rest (wanted.map (· - 1)) state
  | ask request next, wanted, state =>
    if wanted = some 0 then []
    else
      let (reply, later) := handle request state
      (request, state) :: asked handle (next reply) wanted later

/-- The sequence fails with the error only after a reply that carries it. -/
def Relays (carries : (request : I.Request) → I.Reply request → Prop) (error : StoreError) :
    Sequence I α → Prop
  | nil => True
  | fail failure => failure ≠ error
  | cons _ rest => Relays carries error rest
  | ask request next => ∀ reply, carries request reply ∨ Relays carries error (next reply)

/-- An action put off, and what its result leads to. -/
theorem Relays.ofAction_bind {action : Action I α} {f : α → Action I (Sequence I β)}
    (first : action.Relays carries error)
    (others : ∀ result, (Sequence.ofAction (f result)).Relays carries error) :
    (Sequence.ofAction (action.bind f)).Relays carries error := by
  induction action with
  | done result => exact others result
  | fail failure => exact first
  | ask request next ih => exact fun reply => (first reply).imp_right (ih reply)

theorem relays_ofItems {notice : Except StoreError α → Action I Unit}
    (noticed : ∀ item, (notice item).Relays carries error) {items : List (Except StoreError α)}
    (absent : .error error ∉ items) : (Sequence.ofItems notice items).Relays carries error := by
  induction items with
  | nil => trivial
  | cons item items ih =>
    obtain ⟨differs, later⟩ := not_or.1 (mt List.mem_cons.2 absent)
    cases item with
    | ok item => exact Relays.ofAction_bind (noticed _) fun _ => ih later
    | error failure =>
      exact Relays.ofAction_bind (noticed _) fun _ same => differs (congrArg _ same.symm)

theorem Relays.map {source : Sequence I α} {f : α → Action I β}
    (relays : source.Relays carries error) (each : ∀ item, (f item).Relays carries error) :
    (source.map f).Relays carries error := by
  induction source with
  | nil => trivial
  | fail failure => exact relays
  | cons item rest ih => exact Relays.ofAction_bind (each item) fun _ => ih relays
  | ask request next ih => exact fun reply => (relays reply).imp_right (ih reply)

theorem Relays.filter {source : Sequence I α} (p : α → Bool)
    (relays : source.Relays carries error) : (source.filter p).Relays carries error := by
  induction source with
  | nil => trivial
  | fail failure => exact relays
  | cons item rest ih =>
    have tested : Action.Relays carries error (.done (p item) : Action I Bool) := trivial
    rw [Sequence.filter, filterM]
    refine Relays.ofAction_bind tested fun keep => ?_
    cases keep with
    | true => exact ih relays
    | false => exact ih relays
  | ask request next ih => exact fun reply => (relays reply).imp_right (ih reply)

theorem Relays.fold {source : Sequence I α} {f : β → α → Action I β}
    (relays : source.Relays carries error)
    (each : ∀ value item, (f value item).Relays carries error) (start : β) :
    (source.fold f start).Relays carries error := by
  induction source generalizing start with
  | nil => trivial
  | fail failure => exact relays
  | cons item rest ih => exact (each start item).bind fun value => ih relays value
  | ask request next ih =>
    exact fun reply => (relays reply).imp_right fun later => ih reply later start

/-- A loop over images is a loop over what they are images of. -/
theorem fold_map_done {γ : Type} (source : Sequence I α) (g : α → β) (f : γ → β → Action I γ)
    (start : γ) :
    (source.map fun item => .done (g item)).fold f start
      = source.fold (fun value item => f value (g item)) start := by
  induction source generalizing start with
  | nil => rfl
  | fail failure => rfl
  | cons item rest ih => exact congrArg (Action.bind _) (funext ih)
  | ask request next ih => exact congrArg (Action.ask request) (funext fun reply => ih reply start)

theorem Relays.first {source : Sequence I α} (relays : source.Relays carries error) :
    source.first.Relays carries error := by
  induction source with
  | nil => trivial
  | fail failure => exact relays
  | cons item rest => trivial
  | ask request next ih => exact fun reply => (relays reply).imp_right (ih reply)

theorem Relays.isNonempty {source : Sequence I α} (relays : source.Relays carries error) :
    source.isNonempty.Relays carries error :=
  relays.first.bind fun _ => trivial

/-- A sequence that fails with an error that is only relayed was given it. -/
theorem Relays.pull {handle : Handler I σ} {source : Sequence I α}
    (relays : source.Relays carries error) {wanted : Option Nat} {state : σ}
    (failed : (source.pull handle wanted state).1.ending = .failed error) :
    ∃ moment ∈ source.asked handle wanted state, carries moment.1 (handle moment.1 moment.2).1 := by
  induction source generalizing wanted state with
  | nil =>
    rw [Sequence.pull] at failed
    split at failed <;> cases failed
  | fail failure =>
    rw [Sequence.pull] at failed
    split at failed
    · cases failed
    · cases failed
      exact absurd rfl relays
  | cons item rest ih =>
    rw [Sequence.pull] at failed
    rw [asked]
    split at failed
    · cases failed
    · next more =>
      rw [if_neg more]
      exact ih relays failed
  | ask request next ih =>
    rw [Sequence.pull] at failed
    rw [asked]
    split at failed
    · cases failed
    · next more =>
      rw [if_neg more]
      rcases relays (handle request state).1 with carried | later
      · exact ⟨(request, state), List.mem_cons_self, carried⟩
      · obtain ⟨moment, member, carried⟩ := ih _ later failed
        exact ⟨moment, List.mem_cons_of_mem _ member, carried⟩

end Sequence

end KeyStore
