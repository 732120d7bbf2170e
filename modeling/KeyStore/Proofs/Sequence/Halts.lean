import KeyStore.Proofs.Sequence.Stages
import KeyStore.Store

/-!
# Stopping at the first error

An error reaches a computation in a reply, or in a row that it takes from a stream. The rows came
with the reply that opened the stream, so which row is taken is known from the replies before:
`Store.leave` keeps what is left in each stream.

`Action.Halts base left action` says that the action, with the rows `left` in the streams so far,
fails with the first error it is brought and asks for nothing more, whatever else is replied; and
that it takes rows only from streams opened after the first `base`. A stage may hold a stream open
while the actions for its items open others, and the last condition is what keeps the rows of the
one apart from those of the others. `Latches` is `Halts` where all streams so far are others'.
-/

namespace KeyStore

namespace Store

/-- The error that a reply brings; that a row is taken brings the error that stands in its place. -/
def error? (left : List Rows) : (request : Store.Request) → Store.Reply request → Option StoreError
  | .execute _, .error error => some error
  | .fetch _ _, .error error => some error
  | .stream _ _, .error error => some error
  | .take number, _ =>
    match left[number]?.bind List.head? with
    | some (.error error) => some error
    | _ => none
  | .decode _ _, .error error => some error
  | .transact _, .error error => some error
  | _, _ => none

/-- The rows left in each stream after a reply. -/
def leave (left : List Rows) : (request : Store.Request) → Store.Reply request → List Rows
  | .stream _ _, .ok (_, rows) => left ++ [rows]
  | .take number, _ => left.modify number List.tail
  | _, _ => left

/-- The reply numbers streams in the order in which they are opened. -/
def Numbers (left : List Rows) : (request : Store.Request) → Store.Reply request → Prop
  | .stream _ _, .ok (number, _) => number = left.length
  | _, _ => True

/-- The request takes no row from the first streams. -/
def Beyond (base : Nat) : StoreRequest → Prop
  | .take number => base ≤ number
  | _ => True

theorem Beyond.mono {base other : Nat} (fewer : base ≤ other) {request : StoreRequest}
    (beyond : Beyond other request) : Beyond base request := by
  cases request with
  | take number => exact Nat.le_trans fewer beyond
  | _ => trivial

theorem modify_append_of_le {α : Type} (front back : List α) {number : Nat} (f : α → α)
    (past : front.length ≤ number) :
    (front ++ back).modify number f = front ++ back.modify (number - front.length) f := by
  refine List.ext_getElem? fun index => ?_
  rcases Nat.lt_or_ge index front.length with inside | beyond
  · rw [List.getElem?_modify_ne _ _ (by omega), List.getElem?_append_left inside,
      List.getElem?_append_left inside]
  · rw [List.getElem?_modify, List.getElem?_append_right beyond, List.getElem?_append_right beyond,
      List.getElem?_modify]
    have same : number = index ↔ number - front.length = index - front.length := by omega
    simp only [same]

/-- Nothing is taken from the streams before. -/
theorem leave_append {left : List Rows} (more : List Rows) {request : Store.Request}
    (beyond : Beyond left.length request) (reply : Store.Reply request) :
    ∃ others, leave (left ++ more) request reply = left ++ others := by
  cases request with
  | stream query shape =>
    cases reply with
    | error error => exact ⟨more, rfl⟩
    | ok opened => exact ⟨more ++ [opened.2], List.append_assoc _ _ _⟩
  | take number => exact ⟨_, modify_append_of_le left more List.tail beyond⟩
  | _ => exact ⟨more, rfl⟩

theorem length_leave (left : List Rows) (request : Store.Request) (reply : Store.Reply request) :
    left.length ≤ (leave left request reply).length := by
  cases request with
  | stream query shape =>
    cases reply with
    | error error => exact Nat.le_refl _
    | ok opened => simp [leave]
  | take number => exact Nat.le_of_eq (List.length_modify ..).symm
  | _ => exact Nat.le_refl _

end Store

variable {α β : Type} {base : Nat} {left : List Rows}

namespace Action

/-- With the rows `left` in the streams so far, the action fails with the first error that it is
brought, and leaves the first `base` streams alone. -/
def Halts (base : Nat) : List Rows → Action Store α → Prop
  | _, .done _ => True
  | _, .fail _ => True
  | left, .ask request next =>
    Store.Beyond base request ∧ ∀ reply, Store.Numbers left request reply →
      (∀ error, Store.error? left request reply = some error → next reply = .fail error) ∧
        (Store.error? left request reply = none →
          Halts base (Store.leave left request reply) (next reply))

/-- Whatever streams are open, the action fails with the first error that it is brought, and leaves
them alone. -/
def Latches (action : Action Store α) : Prop := ∀ left, action.Halts left.length left

theorem Halts.mono {other : Nat} (fewer : base ≤ other) {action : Action Store α}
    (halts : action.Halts other left) : action.Halts base left := by
  induction action generalizing left with
  | done result => trivial
  | fail error => trivial
  | ask request next ih =>
    refine ⟨halts.1.mono fewer, fun reply numbers => ?_⟩
    exact (halts.2 reply numbers).imp_right fun goesOn sound => ih reply (goesOn sound)

/-- After a reply that brings no error the action goes on, with the streams before as they were. -/
theorem Halts.goes_on {more : List Rows} {request : Store.Request}
    {next : Store.Reply request → Action Store α}
    (halts : (ask request next).Halts left.length (left ++ more)) {reply : Store.Reply request}
    (numbers : Store.Numbers (left ++ more) request reply)
    (sound : Store.error? (left ++ more) request reply = none) :
    ∃ others, Store.leave (left ++ more) request reply = left ++ others ∧
      (next reply).Halts left.length (left ++ others) := by
  obtain ⟨others, kept⟩ := Store.leave_append more halts.1 reply
  exact ⟨others, kept, kept ▸ (halts.2 reply numbers).2 sound⟩

/-- Meanwhile more streams may have been opened. -/
theorem Halts.bind {more : List Rows} {action : Action Store α} {f : α → Action Store β}
    (first : action.Halts left.length (left ++ more)) (long : base ≤ left.length)
    (second : ∀ result others, (f result).Halts base (left ++ others)) :
    (action.bind f).Halts base (left ++ more) := by
  induction action generalizing more with
  | done result => exact second result more
  | fail error => trivial
  | ask request next ih =>
    refine ⟨first.1.mono long, fun reply numbers => ⟨fun error brought => ?_, fun sound => ?_⟩⟩
    · exact congrArg (Action.bind · f) ((first.2 reply numbers).1 error brought)
    · obtain ⟨others, kept, goesOn⟩ := first.goes_on numbers sound
      rw [kept]
      exact ih reply goesOn

theorem Latches.bind_halts {action : Action Store α} {f : α → Action Store β}
    (first : action.Latches) (long : base ≤ left.length)
    (second : ∀ result others, (f result).Halts base (left ++ others)) :
    (action.bind f).Halts base left := by
  have halts := first (left ++ [])
  rw [← List.append_nil left]
  exact (halts.mono (by simp)).bind long second

theorem Latches.bind {action : Action Store α} {f : α → Action Store β} (first : action.Latches)
    (second : ∀ result, (f result).Latches) : (action.bind f).Latches :=
  fun left => first.bind_halts (Nat.le_refl _) fun result others =>
    (second result (left ++ others)).mono (by simp)

theorem halts_ofExcept (result : Except StoreError α) :
    (ofExcept result : Action Store α).Halts base left := by
  cases result <;> trivial

theorem latches_ofExcept (result : Except StoreError α) :
    (ofExcept result : Action Store α).Latches :=
  fun _ => halts_ofExcept result

theorem latches_done (result : α) : (done result : Action Store α).Latches := fun _ => trivial

theorem latches_fail (error : StoreError) : (fail error : Action Store α).Latches :=
  fun _ => trivial

end Action

namespace Sequence

/-- As for actions, however far the sequence is pulled; more streams may be opened between two
pulls. -/
def Halts (base : Nat) : List Rows → Sequence Store α → Prop
  | _, .nil => True
  | _, .fail _ => True
  | left, .cons _ rest => ∀ others, Halts base (left ++ others) rest
  | left, .ask request next =>
    Store.Beyond base request ∧ ∀ reply, Store.Numbers left request reply →
      (∀ error, Store.error? left request reply = some error → next reply = .fail error) ∧
        (Store.error? left request reply = none →
          Halts base (Store.leave left request reply) (next reply))

/-- As for actions. -/
def Latches (source : Sequence Store α) : Prop := ∀ left, source.Halts left.length left

/-- A stage over a request is the request with the stage over what follows. -/
theorem Halts.ask_stage {request : Store.Request} {next : Store.Reply request → Sequence Store α}
    {f : Sequence Store α → Sequence Store β} (halts : Halts base left (.ask request next))
    (fails : ∀ error, f (.fail error) = .fail error)
    (others : ∀ reply, Halts base (Store.leave left request reply) (next reply) →
      Halts base (Store.leave left request reply) (f (next reply))) :
    Halts base left (.ask request fun reply => f (next reply)) := by
  refine ⟨halts.1, fun reply numbers => ⟨fun error brought => ?_, fun sound => ?_⟩⟩
  · exact (congrArg f ((halts.2 reply numbers).1 error brought)).trans (fails error)
  · exact others reply ((halts.2 reply numbers).2 sound)

/-- As for a stage, where the sequence is consumed. -/
theorem Halts.ask_consumer {request : Store.Request}
    {next : Store.Reply request → Sequence Store α} {f : Sequence Store α → Action Store β}
    (halts : Halts base left (.ask request next)) (fails : ∀ error, f (.fail error) = .fail error)
    (others : ∀ reply, Halts base (Store.leave left request reply) (next reply) →
      (f (next reply)).Halts base (Store.leave left request reply)) :
    Action.Halts base left (.ask request fun reply => f (next reply)) := by
  refine ⟨halts.1, fun reply numbers => ⟨fun error brought => ?_, fun sound => ?_⟩⟩
  · exact (congrArg f ((halts.2 reply numbers).1 error brought)).trans (fails error)
  · exact others reply ((halts.2 reply numbers).2 sound)

theorem halts_ofAction_bind_from {more : List Rows} {action : Action Store α}
    {f : α → Action Store (Sequence Store β)} (first : action.Halts left.length (left ++ more))
    (long : base ≤ left.length)
    (second : ∀ result others, (Sequence.ofAction (f result)).Halts base (left ++ others)) :
    (Sequence.ofAction (action.bind f)).Halts base (left ++ more) := by
  induction action generalizing more with
  | done result => exact second result more
  | fail error => trivial
  | ask request next ih =>
    refine ⟨first.1.mono long, fun reply numbers => ⟨fun error brought => ?_, fun sound => ?_⟩⟩
    · exact congrArg (fun action => Sequence.ofAction (Action.bind action f))
        ((first.2 reply numbers).1 error brought)
    · obtain ⟨others, kept, goesOn⟩ := first.goes_on numbers sound
      rw [kept]
      exact ih reply goesOn

/-- An action put off, and what its result leads to. -/
theorem halts_ofAction_bind {action : Action Store α} {f : α → Action Store (Sequence Store β)}
    (first : action.Latches) (long : base ≤ left.length)
    (second : ∀ result others, (Sequence.ofAction (f result)).Halts base (left ++ others)) :
    (Sequence.ofAction (action.bind f)).Halts base left := by
  have halts := first (left ++ [])
  rw [← List.append_nil left]
  exact halts_ofAction_bind_from (halts.mono (by simp)) long second

theorem halts_append {rest : Sequence Store α} (items : List α)
    (halts : ∀ others, rest.Halts base (left ++ others)) :
    (Sequence.append items rest).Halts base left := by
  induction items generalizing left with
  | nil => exact List.append_nil left ▸ halts []
  | cons item items ih =>
    intro others
    refine ih fun more => ?_
    rw [List.append_assoc]
    exact halts (others ++ more)

theorem Halts.flatMap {source : Sequence Store α} {f : α → Action Store (List β)}
    (halts : source.Halts base left) (long : base ≤ left.length) (each : ∀ item, (f item).Latches) :
    (source.flatMap f).Halts base left := by
  induction source generalizing left with
  | nil => trivial
  | fail error => trivial
  | cons item rest ih =>
    refine halts_ofAction_bind (each item) long fun images others => ?_
    refine halts_append images fun more => ?_
    rw [List.append_assoc]
    exact ih (halts (others ++ more)) (by simp; omega)
  | ask request next ih =>
    exact halts.ask_stage (fun _ => rfl) fun reply later =>
      ih reply later (Nat.le_trans long (Store.length_leave ..))

theorem Halts.map {source : Sequence Store α} {f : α → Action Store β}
    (halts : source.Halts base left) (long : base ≤ left.length) (each : ∀ item, (f item).Latches) :
    (source.map f).Halts base left := by
  rw [map_eq_flatMap]
  exact halts.flatMap long fun item => (each item).bind fun image => Action.latches_done [image]

theorem Halts.filter {source : Sequence Store α} (p : α → Bool) (halts : source.Halts base left)
    (long : base ≤ left.length) : (source.filter p).Halts base left := by
  rw [Sequence.filter, filterM_eq_flatMap]
  exact halts.flatMap long fun item => Action.latches_done _

theorem Halts.fold {source : Sequence Store α} {f : β → α → Action Store β}
    (halts : source.Halts base left) (long : base ≤ left.length)
    (each : ∀ value item, (f value item).Latches) (start : β) :
    (source.fold f start).Halts base left := by
  induction source generalizing left start with
  | nil => trivial
  | fail error => trivial
  | cons item rest ih =>
    exact (each start item).bind_halts long fun value others =>
      ih (halts others) (by simp; omega) value
  | ask request next ih =>
    exact halts.ask_consumer (f := fun items => items.fold f start) (fun _ => rfl)
      fun reply later => ih reply later (Nat.le_trans long (Store.length_leave ..)) start

theorem Halts.first {source : Sequence Store α} (halts : source.Halts base left) :
    source.first.Halts base left := by
  induction source generalizing left with
  | nil => trivial
  | fail error => trivial
  | cons item rest => trivial
  | ask request next ih => exact halts.ask_consumer (fun _ => rfl) fun reply later => ih reply later

/-! Where all streams so far are others': -/

theorem Latches.flatMap {source : Sequence Store α} {f : α → Action Store (List β)}
    (latches : source.Latches) (each : ∀ item, (f item).Latches) : (source.flatMap f).Latches :=
  fun left => (latches left).flatMap (Nat.le_refl _) each

theorem Latches.map {source : Sequence Store α} {f : α → Action Store β} (latches : source.Latches)
    (each : ∀ item, (f item).Latches) : (source.map f).Latches :=
  fun left => (latches left).map (Nat.le_refl _) each

theorem Latches.filter {source : Sequence Store α} (latches : source.Latches) (p : α → Bool) :
    (source.filter p).Latches :=
  fun left => (latches left).filter p (Nat.le_refl _)

theorem Latches.fold {source : Sequence Store α} {f : β → α → Action Store β}
    (latches : source.Latches) (each : ∀ value item, (f value item).Latches) (start : β) :
    (source.fold f start).Latches :=
  fun left => (latches left).fold (Nat.le_refl _) each start

theorem Latches.first {source : Sequence Store α} (latches : source.Latches) :
    source.first.Latches :=
  fun left => (latches left).first

theorem Latches.isNonempty {source : Sequence Store α} (latches : source.Latches) :
    source.isNonempty.Latches :=
  latches.first.bind fun _ => Action.latches_done _

end Sequence

/-! ### Requests -/

namespace Store

/-- A request that takes no row, and whose reply is read as the error that it brings. -/
theorem latches_requestOrFail {request : Store.Request}
    {read : Store.Reply request → Except StoreError α} (beyond : ∀ base, Beyond base request)
    (reads : ∀ left reply error, error? left request reply = some error →
      read reply = .error error) :
    (Action.requestOrFail request read).Latches :=
  fun left => ⟨beyond _, fun reply _ => ⟨fun error brought =>
    congrArg Action.ofExcept (reads left reply error brought), fun _ => Action.halts_ofExcept _⟩⟩

theorem execute_latches (query : Query) : (execute query).Latches := by
  refine latches_requestOrFail (fun _ => trivial) fun left reply error brought => ?_
  cases reply <;> cases brought
  rfl

theorem fetch_latches (query : Query) (shape : RowShape) : (fetch query shape).Latches := by
  refine latches_requestOrFail (fun _ => trivial) fun left reply error brought => ?_
  cases reply <;> cases brought
  rfl

theorem decode_latches (kind : PacketKind) (packet : List UInt8) :
    (decode kind packet).Latches := by
  refine latches_requestOrFail (fun _ => trivial) fun left reply error brought => ?_
  cases reply <;> cases brought
  rfl

theorem transact_latches (command : Transaction.Command) : (transact command).Latches := by
  refine latches_requestOrFail (fun _ => trivial) fun left reply error brought => ?_
  cases reply <;> cases brought
  rfl

/-- The rows of a stream, from the place that the rows left in it say. -/
theorem ofItems_halts {number : Nat} (own : base ≤ number) (items : Rows)
    (there : left[number]? = some items) :
    (Sequence.ofItems (fun _ => take number) items).Halts base left := by
  induction items generalizing left with
  | nil => trivial
  | cons item items ih =>
    cases item with
    | ok row =>
      refine ⟨own, fun reply _ => ⟨fun error brought => ?_, fun _ others => ih ?_⟩⟩
      · simp [error?, there] at brought
      · have inside : number < (left.modify number List.tail).length := by
          rw [List.length_modify]
          exact (List.getElem?_eq_some_iff.1 there).1
        rw [leave, List.getElem?_append_left inside, List.getElem?_modify_eq, there]
        rfl
    | error failure =>
      refine ⟨own, fun reply _ => ⟨fun error brought => ?_, fun _ => trivial⟩⟩
      simp only [error?, there, Option.bind_some, List.head?_cons, Option.some.injEq] at brought
      exact congrArg Sequence.fail brought

theorem rows_latches (query : Query) (shape : RowShape) : (rows query shape).Latches := by
  refine fun left => ⟨trivial, fun reply numbers => ?_⟩
  cases reply with
  | error failure =>
    refine ⟨fun error brought => ?_, fun _ => trivial⟩
    cases brought
    rfl
  | ok opened =>
    obtain ⟨number, items⟩ := opened
    have last : number = left.length := numbers
    subst last
    refine ⟨nofun, fun _ => ofItems_halts (Nat.le_refl _) items ?_⟩
    simp [leave]

end Store

end KeyStore
