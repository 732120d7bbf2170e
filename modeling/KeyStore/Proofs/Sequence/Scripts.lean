import KeyStore.Proofs.Sequence.Following
import KeyStore.Proofs.Sequence.Machines

/-!
# Calls of a sequence in any order

Items are pulled and stages are added in any order, and at last the sequence may be consumed
(`Script`). Where the functions of the stages give the same result for an item at any time, the
results do not depend on when an item is pulled or when a stage is added: they are read off what is
known of the items of the source (`Script.answer`).

`run_iff_answer`: the calls come to an end with some results just if enough of the source tells
these results; and the end, or an error, comes again and again, also when stages are added.
-/

namespace KeyStore

variable {σ : Type} {lib : Streams σ} {α β : Type}

/-- Where a sequence comes from. -/
inductive Source (lib : Streams σ) (α : Type) where
  /-- A stream that gives numbered items and errors, whatever a pull does to the surroundings. -/
  | stream (items : Nat → Option (Except StoreError α))
    (At : Nat → lib.Stream (Except StoreError α) → Prop)
    (gives : ∀ place stream state, At place stream → ∃ left later,
      lib.next stream state = .some ((items place, left), later) ∧
      ((items place).isSome → At (place + 1) left))
    (start : lib.Stream (Except StoreError α)) (starts : At 0 start)
  | list (items : List α)
  | empty
  | failed (error : StoreError)

namespace Source

/-- The sequence that is made of the source. -/
def sequence : Source lib α → ResultSequence lib α
  | stream _ _ _ start _ => .ofStream start
  | list items => .ofList items
  | empty => .empty
  | failed error => .failed error

/-- What is known of the items of the source. -/
def progress : Source lib α → Progress α
  | stream items _ _ _ _ => .ofItems items 0
  | list items => .whole ⟨items, .finished⟩
  | empty => .whole ⟨[], .finished⟩
  | failed error => .whole ⟨[], .failed error⟩

theorem stream_follows {items : Nat → Option (Except StoreError α)}
    {At : Nat → lib.Stream (Except StoreError α) → Prop}
    (gives : ∀ place stream state, At place stream → ∃ left later,
      lib.next stream state = .some ((items place, left), later) ∧
      ((items place).isSome → At (place + 1) left))
    {place : Nat} {stream : lib.Stream (Except StoreError α)} (here : At place stream)
    (count : Nat) : lib.Follows count (.ofItems items place) stream := by
  induction count generalizing place stream with
  | zero => trivial
  | succ count ih =>
    intro state
    obtain ⟨left, later, pulled, after⟩ := gives place stream state here
    obtain ⟨signal, next⟩ := exists_eq_pulledOf (items place)
    rw [pulled, next]
    refine ⟨fun _ member => ?_, fun time other head => ?_⟩
    · cases Part.mem_some_iff.1 member
      exact ⟨1, signal, Progress.head_ofItems next 0, rfl⟩
    · cases (Progress.ofItems items place).head_unique (Progress.head_ofItems next 0) head
      refine ⟨left, later, Part.mem_some _, ?_⟩
      rintro ⟨item, rfl⟩
      obtain _ | time := time
      · cases head
      · rw [Progress.left_ofItems next]
        exact (ih (after (by rw [next]; rfl))).since time

theorem list_follows (lawful : lib.Lawful) (items : List α) (count : Nat) :
    lib.Follows count (.whole ⟨items, .finished⟩) (lib.iter (items.map .ok)) := by
  induction count generalizing items with
  | zero => trivial
  | succ count ih =>
    intro state
    cases items with
    | nil =>
      obtain ⟨left, pulled⟩ := lawful.next_iter_nil (ι := Except StoreError α) state
      rw [List.map_nil, pulled]
      refine ⟨fun _ member => ?_, fun time signal head => ?_⟩
      · cases Part.mem_some_iff.1 member
        exact ⟨0, .ok none, rfl, rfl⟩
      · cases head
        exact ⟨left, state, Part.mem_some _, nofun⟩
    | cons item rest =>
      rw [List.map_cons, lawful.next_iter_cons]
      refine ⟨fun _ member => ?_, fun time signal head => ?_⟩
      · cases Part.mem_some_iff.1 member
        exact ⟨0, .ok (some item), rfl, rfl⟩
      · cases head
        exact ⟨_, state, Part.mem_some _, fun _ => ih rest⟩

theorem sequence_follows (lawful : lib.Lawful) (source : Source lib α) :
    source.sequence.Follows source.progress := by
  cases source with
  | stream items At gives start starts => exact stream_follows gives starts
  | list items => exact list_follows lawful items
  | empty => exact ResultSequence.follows_empty lawful 0 rfl
  | failed error => exact ResultSequence.follows_failed lawful 0 rfl

/-- A machine that gives numbered items. -/
def ofItems (items : Nat → Option (Except StoreError α)) : Source (machines σ) α :=
  let machine (place : Nat) : Machine σ (Except StoreError α) :=
    { State := Nat, step := fun now state => .some ((items now, now + 1), state), now := place }
  .stream items (fun place stream => stream = machine place)
    (fun place _ state here => ⟨machine (place + 1), state, here ▸ Part.map_some _ _, fun _ => rfl⟩)
    (machine 0) rfl

end Source

/-- Calls of a sequence: items are pulled and stages are added in any order, and at last it may be
consumed. -/
inductive Script (σ : Type) : Type → Type 1 where
  | done {α : Type} : Script σ α
  | next {α : Type} (rest : Script σ α) : Script σ α
  | map {α β : Type} (f : Steady σ α (Except StoreError β)) (rest : Script σ β) : Script σ α
  | filter {α : Type} (p : Steady σ α Bool) (rest : Script σ α) : Script σ α
  | flatMap {α β : Type} (f : Steady σ α (Except StoreError (List β))) (rest : Script σ β) :
    Script σ α
  /-- Makes a sequence of the stream of the sequence. -/
  | again {α : Type} (rest : Script σ α) : Script σ α
  | collect {α : Type} : Script σ α
  | first {α : Type} : Script σ α
  | isNonempty {α : Type} : Script σ α
  | forEach {α : Type} (visit : Steady σ α (Except StoreError Unit)) : Script σ α

namespace Script

/-- The results of the calls. -/
def Answers : {α : Type} → Script σ α → Type
  | _, done => Unit
  | α, next rest => Except StoreError (Option α) × rest.Answers
  | _, map _ rest => rest.Answers
  | _, filter _ rest => rest.Answers
  | _, flatMap _ rest => rest.Answers
  | _, again rest => rest.Answers
  | α, collect => Except StoreError (List α)
  | α, first => Except StoreError (Option α)
  | _, isNonempty => Except StoreError Bool
  | _, forEach _ => Except StoreError Unit

/-- Makes the calls of a sequence. -/
def run : {α : Type} → (script : Script σ α) → ResultSequence lib α → σ → Part (script.Answers × σ)
  | _, done, _, state => .some ((), state)
  | _, next rest, sequence, state => (sequence.next state).bind fun ((result, sequence), state) =>
    (rest.run sequence state).map fun (answers, state) => ((result, answers), state)
  | _, map f rest, sequence, state =>
    let (mapped, state) := sequence.map f.act state
    rest.run mapped state
  | _, filter p rest, sequence, state =>
    let (kept, state) := sequence.filter p.act state
    rest.run kept state
  | _, flatMap f rest, sequence, state =>
    let (flattened, state) := sequence.flatMap f.act state
    rest.run flattened state
  | _, again rest, sequence, state => rest.run (.ofStream sequence.intoStream) state
  | _, collect, sequence, state => sequence.toList state
  | _, first, sequence, state => sequence.first state
  | _, isNonempty, sequence, state => sequence.isNonempty state
  | _, forEach visit, sequence, state => sequence.forEach visit.act state

/-- What a course says, if enough of it is known. -/
def answer : {α : Type} → (script : Script σ α) → Course α → Option script.Answers
  | _, done, _ => some ()
  | _, next rest, course => course.head.bind fun result =>
    (rest.answer course.left).map fun answers => (result, answers)
  | _, map f rest, course => rest.answer (course.map f.value)
  | _, filter p rest, course => rest.answer (course.filter p.value)
  | _, flatMap f rest, course => rest.answer (course.flatMap f.value)
  | _, again rest, course => rest.answer course
  | _, collect, course => course.collect
  | _, first, course => course.head
  | _, isNonempty, course => course.head.map (Except.map Option.isSome)
  | _, forEach visit, course => course.forEach visit.value

/-- Of the results of `next`, whether an item has come, the end, or an error. -/
def signals : {α : Type} → (script : Script σ α) → script.Answers → List (Except StoreError Bool)
  | α, next rest, answers =>
    let (result, others) : Except StoreError (Option α) × rest.Answers := answers
    result.map Option.isSome :: rest.signals others
  | _, map _ rest, answers => rest.signals answers
  | _, filter _ rest, answers => rest.signals answers
  | _, flatMap _ rest, answers => rest.signals answers
  | _, again rest, answers => rest.signals answers
  | _, done, _ => []
  | _, collect, _ => []
  | _, first, _ => []
  | _, isNonempty, _ => []
  | _, forEach _, _ => []

theorem run_iff_of_follows (lawful : lib.Lawful) (script : Script σ α)
    {sequence : ResultSequence lib α} {progress : Progress α} (follows : sequence.Follows progress)
    (state : σ) (answers : script.Answers) :
    (∃ later, (answers, later) ∈ script.run sequence state) ↔
      ∃ time, script.answer (progress.known time) = some answers := by
  induction script generalizing state with
  | done =>
    exact ⟨fun _ => ⟨0, rfl⟩, fun _ => ⟨state, Part.mem_some _⟩⟩
  | next rest ih =>
    constructor
    · rintro ⟨later, member⟩
      obtain ⟨⟨⟨result, left⟩, between⟩, pulled, others⟩ := Part.mem_bind_iff.1 member
      obtain ⟨⟨more, last⟩, ran, same⟩ := (Part.mem_map_iff _).1 others
      cases same
      obtain ⟨time, head, after⟩ := follows.next lawful pulled
      obtain ⟨further, known⟩ := (ih (after time head) between more).1 ⟨_, ran⟩
      have grown := (progress.grows time further).head head
      refine ⟨time + further, ?_⟩
      rw [answer, grown, Option.bind_some]
      exact congrArg (Option.map _) known
    · rintro ⟨time, known⟩
      obtain ⟨result, head, others⟩ := Option.bind_eq_some_iff.1 known
      obtain ⟨more, after, rfl⟩ := Option.map_eq_some_iff.1 others
      obtain ⟨left, between, pulled⟩ := follows.exists_next lawful state head
      obtain ⟨-, -, goes_on⟩ := follows.next lawful pulled
      obtain ⟨later, ran⟩ := (ih (goes_on time head) between more).2 ⟨0, after⟩
      exact ⟨later, Part.mem_bind pulled (Part.mem_map _ ran)⟩
  | map f rest ih =>
    obtain ⟨top, made, follows⟩ := follows.map lawful f state
    simp only [run, made]
    exact ih follows state answers
  | filter p rest ih =>
    obtain ⟨top, made, follows⟩ := follows.filter lawful p state
    simp only [run, made]
    exact ih follows state answers
  | flatMap f rest ih =>
    obtain ⟨top, made, follows⟩ := follows.flatMap lawful f state
    simp only [run, made]
    exact ih follows state answers
  | again rest ih =>
    have again_follows : (ResultSequence.ofStream sequence.intoStream).Follows _ := follows
    exact ih again_follows state answers
  | collect =>
    refine (follows.mem_fold_iff lawful (fun items item => .ok (items ++ [item]))
      fun _ _ _ => rfl).trans (exists_congr fun time => ?_)
    rw [Course.fold_append]
    rfl
  | first => exact follows.mem_first_iff lawful
  | isNonempty =>
    constructor
    · rintro ⟨later, member⟩
      obtain ⟨⟨result, _⟩, first, same⟩ := (Part.mem_map_iff _).1 member
      cases same
      obtain ⟨time, head⟩ := (follows.mem_first_iff lawful).1 ⟨_, first⟩
      exact ⟨time, congrArg (Option.map _) head⟩
    · rintro ⟨time, known⟩
      obtain ⟨result, head, rfl⟩ := Option.map_eq_some_iff.1 known
      obtain ⟨later, first⟩ := (follows.mem_first_iff lawful).2 ⟨time, head⟩
      exact ⟨later, Part.mem_map _ first⟩
  | forEach visit => exact follows.mem_fold_iff lawful _ fun _ => visit.gives

/-- At the end, stages that are added change nothing. -/
theorem signals_of_ended (script : Script σ α) {ending : Sequence.Ending} {answers : script.Answers}
    (known : script.answer ⟨[], ending⟩ = some answers) :
    ∀ signal ∈ script.signals answers, ending.result? false = some signal := by
  induction script with
  | next rest ih =>
    obtain ⟨result, head, others⟩ := Option.bind_eq_some_iff.1 known
    obtain ⟨more, after, rfl⟩ := Option.map_eq_some_iff.1 others
    refine List.forall_mem_cons.2 ⟨?_, ih after⟩
    cases ending <;> cases head <;> rfl
  | map f rest ih => exact ih known
  | filter p rest ih => exact ih known
  | flatMap f rest ih => exact ih known
  | again rest ih => exact ih known
  | done => exact nofun
  | collect => exact nofun
  | first => exact nofun
  | isNonempty => exact nofun
  | forEach visit => exact nofun

theorem pairwise_signals (script : Script σ α) {course : Course α} {answers : script.Answers}
    (known : script.answer course = some answers) :
    (script.signals answers).Pairwise fun earlier later =>
      earlier = .ok true ∨ later = earlier := by
  induction script with
  | next rest ih =>
    obtain ⟨result, head, others⟩ := Option.bind_eq_some_iff.1 known
    obtain ⟨more, after, rfl⟩ := Option.map_eq_some_iff.1 others
    refine .cons (fun later member => ?_) (ih after)
    obtain ⟨_ | ⟨item, items⟩, ending⟩ := course
    · have same := rest.signals_of_ended after later member
      cases ending <;> cases head <;> cases same <;> exact .inr rfl
    · cases head
      exact .inl rfl
  | map f rest ih => exact ih known
  | filter p rest ih => exact ih known
  | flatMap f rest ih => exact ih known
  | again rest ih => exact ih known
  | done => exact .nil
  | collect => exact .nil
  | first => exact .nil
  | isNonempty => exact .nil
  | forEach visit => exact .nil

/-- Whatever calls are made of a sequence from a source, they come to an end with some results just
if these are what the items of the source say, as far as they have to be known; and once `next` has
given no item, it gives the same again, also when stages are added. -/
theorem run_iff_answer (lawful : lib.Lawful) (source : Source lib α) (script : Script σ α)
    (state : σ) (answers : script.Answers) :
    ((∃ later, (answers, later) ∈ script.run source.sequence state) ↔
      ∃ time, script.answer (source.progress.known time) = some answers) ∧
    ((∃ later, (answers, later) ∈ script.run source.sequence state) →
      (script.signals answers).Pairwise fun earlier later =>
        earlier = .ok true ∨ later = earlier) := by
  have same := script.run_iff_of_follows lawful (source.sequence_follows lawful) state answers
  refine ⟨same, fun ran => ?_⟩
  obtain ⟨time, known⟩ := same.1 ran
  exact script.pairwise_signals known

/-- What a negative item fails with. -/
def belowZero : StoreError := .validation "below zero"

/-- An item and ten times it, and a failure instead of what is negative. -/
def withTenfold : Steady σ Int (Except StoreError (List Int)) where
  act item state := (if item < 0 then .error belowZero else .ok [item, 10 * item], state)
  value item := if item < 0 then .error belowZero else .ok [item, 10 * item]
  gives _ _ := rfl

/-- An error comes after what is left of the group before it, and stays under a stage that is added
later; what the source would give after it is never pulled. -/
theorem run_withTenfold :
    (machines Unit).Lawful ∧
    ∃ later, ((.ok (some 1), .ok (some 2), .ok (some 20), .error belowZero, .error belowZero, ()),
        later) ∈
      (Script.next (.flatMap withTenfold (.next (.next (.next (.flatMap withTenfold
        (.next .done)))))) : Script Unit Int).run
        (Source.ofItems fun place => [.ok 1, .ok 2, .ok (-1), .ok 3][place]?).sequence () :=
  ⟨machines_lawful, (run_iff_answer machines_lawful _ _ () _).1.2 ⟨4, rfl⟩⟩

end Script

end KeyStore
