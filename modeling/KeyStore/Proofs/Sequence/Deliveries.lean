import KeyStore.Proofs.Sequence.Layers
import KeyStore.Sequence

/-!
# Deliveries

What stages over a stream are to give, said item by item: the stream is pulled, the item goes
through all stages, each of its images through all that are left before the next image does, and
only then the stream is pulled again (`Stages.deliver`). Every output comes with the state in which
it comes, so whatever the surroundings keep of what is done to them is there to be seen.

A delivery is made of so many pulls. More pulls deliver the same and more (`within_of_le`), so there
are fewest ones for what is wanted (`Stages.Reaches`).
-/

namespace KeyStore

variable {σ : Type} {lib : Streams σ} {α β γ : Type}

/-- Stages, the first one first. -/
inductive Stages (σ : Type) : Type → Type → Type 1 where
  | nil {α : Type} : Stages σ α α
  | cons {α β γ : Type} (stage : Stage σ α β) (rest : Stages σ β γ) : Stages σ α γ

namespace Stages

/-- Puts the stages over a sequence, one after the other. -/
def atop : {α : Type} → Stages σ α β → ResultSequence lib α → Effect σ (ResultSequence lib β)
  | _, nil, sequence => fun state => (sequence, state)
  | _, cons stage rest, sequence => fun state =>
    let (sequence, state) := stage.atop sequence state
    rest.atop sequence state

/-- Other stages after the stages. -/
def append : {α : Type} → Stages σ α β → Stages σ β γ → Stages σ α γ
  | _, nil, more => more
  | _, cons stage rest, more => cons stage (rest.append more)

theorem append_nil (stages : Stages σ α β) : stages.append nil = stages := by
  induction stages with
  | nil => rfl
  | cons stage rest ih => exact congrArg (cons stage) ih

end Stages

/-! ### Deliveries -/

/-- What comes after outputs: an error, the end, or something that is not known yet. -/
def Sequence.Ending.signal (value : α) : Sequence.Ending → Except StoreError α
  | .failed error => .error error
  | _ => .ok value

/-- Outputs, each with the state in which it comes, and how they end. -/
structure Delivery (σ β : Type) where
  outputs : List (β × σ)
  ending : Sequence.Ending
  /-- The state at the end. -/
  last : σ

namespace Delivery

/-- Nothing has come yet. -/
def paused (state : σ) : Delivery σ β := ⟨[], .paused, state⟩

/-- Nothing comes. -/
def finished (state : σ) : Delivery σ β := ⟨[], .finished, state⟩

/-- An error comes. -/
def failed (error : StoreError) (state : σ) : Delivery σ β := ⟨[], .failed error, state⟩

/-- Puts outputs in front. -/
def prepend (outputs : List (β × σ)) (delivery : Delivery σ β) : Delivery σ β :=
  { delivery with outputs := outputs ++ delivery.outputs }

/-- Goes on, unless the outputs have ended. -/
def andThen (first : Delivery σ β) (next : σ → Delivery σ β) : Delivery σ β :=
  match first.ending with
  | .paused => (next first.last).prepend first.outputs
  | _ => first

/-- Goes on, unless the outputs have ended, with what may never come. -/
def goOn (first : Delivery σ β) (next : σ → Part (Delivery σ β)) : Part (Delivery σ β) :=
  match first.ending with
  | .paused => (next first.last).map (prepend first.outputs)
  | _ => .some first

/-- What comes of each item, one after the other. -/
def each (f : α → σ → Delivery σ β) : List α → σ → Delivery σ β
  | [], state => paused state
  | item :: rest, state => (f item state).andThen (each f rest)

/-- The outputs one at a time, each as it comes; then the end, which changes nothing any more. -/
def pulls (ending : Sequence.Ending) (last : σ) :
    List (β × σ) → Nat → List (Except StoreError (Option β) × σ)
  | _, 0 => []
  | [], wanted + 1 => (ending.signal none, last) :: pulls ending last [] wanted
  | (item, state) :: rest, wanted + 1 => (.ok (some item), state) :: pulls ending last rest wanted

/-- What comes of the first pulls, each with the state that it leaves. -/
def nexts (delivery : Delivery σ β) (wanted : Nat) : List (Except StoreError (Option β) × σ) :=
  pulls delivery.ending delivery.last delivery.outputs wanted

/-- What comes of the first pull. -/
def next (delivery : Delivery σ β) : Except StoreError (Option β) × σ :=
  match delivery.outputs with
  | [] => (delivery.ending.signal none, delivery.last)
  | (item, state) :: _ => (.ok (some item), state)

/-- What comes of pulling all. -/
def drained (delivery : Delivery σ β) : Except StoreError Unit × σ :=
  (delivery.ending.signal (), delivery.last)

/-- The delivery decides what comes of that many pulls, whatever is to follow it. -/
def Covers (delivery : Delivery σ β) (wanted : Nat) : Prop :=
  wanted ≤ delivery.outputs.length ∨ delivery.ending ≠ .paused

/-- One delivery is the other, or as much of it as has come so far. -/
def Within (delivery whole : Delivery σ β) : Prop :=
  delivery = whole ∨ delivery.ending = .paused ∧ delivery.outputs <+: whole.outputs

theorem goOn_andThen (first : Delivery σ β) (second : σ → Delivery σ β)
    (next : σ → Part (Delivery σ β)) :
    (first.andThen second).goOn next = first.goOn fun state => (second state).goOn next := by
  obtain ⟨outputs, ending, last⟩ := first
  cases ending with
  | finished => rfl
  | failed error => rfl
  | paused =>
    simp only [andThen, goOn, prepend]
    generalize second last = later
    obtain ⟨more, ending, final⟩ := later
    cases ending with
    | finished => exact (Part.map_some (prepend outputs) ⟨more, .finished, final⟩).symm
    | failed error => exact (Part.map_some (prepend outputs) ⟨more, .failed error, final⟩).symm
    | paused =>
      change Part.map (prepend (outputs ++ more)) (next final)
        = Part.map (prepend outputs) (Part.map (prepend more) (next final))
      rw [Part.map_map]
      congr 1
      funext delivery
      simp [prepend]

theorem mem_goOn_of_paused {first : Delivery σ β} {next : σ → Part (Delivery σ β)}
    (open_ : first.ending = .paused) {delivery : Delivery σ β}
    (member : delivery ∈ next first.last) : delivery.prepend first.outputs ∈ first.goOn next := by
  rw [goOn, open_]
  exact Part.mem_map _ member

theorem goOn_of_ended {first : Delivery σ β} (ended : first.ending ≠ .paused)
    (next : σ → Part (Delivery σ β)) : first.goOn next = .some first := by
  rw [goOn]
  split
  · next open_ => exact absurd open_ ended
  · rfl

/-- What is gone on to comes after the outputs, unless these have ended. -/
theorem mem_goOn_iff {first : Delivery σ β} {next : σ → Part (Delivery σ β)}
    {delivery : Delivery σ β} :
    delivery ∈ first.goOn next ↔
      (first.ending ≠ .paused ∧ delivery = first) ∨
      first.ending = .paused ∧
        ∃ later ∈ next first.last, delivery = later.prepend first.outputs := by
  by_cases open_ : first.ending = .paused
  · simp [goOn, open_, eq_comm]
  · simp [goOn_of_ended open_, open_]

theorem pulls_nil (ending : Sequence.Ending) (last : σ) (wanted : Nat) :
    pulls ending last ([] : List (β × σ)) wanted
      = List.replicate wanted (ending.signal none, last) := by
  induction wanted with
  | zero => rfl
  | succ wanted ih => exact congrArg (_ :: ·) ih

/-- As long as there are outputs, pulls do not see how they end. -/
theorem pulls_append {outputs : List (β × σ)} {wanted : Nat} (enough : wanted ≤ outputs.length)
    (more : List (β × σ)) (ending other : Sequence.Ending) (last ended : σ) :
    pulls ending last (outputs ++ more) wanted = pulls other ended outputs wanted := by
  induction outputs generalizing wanted with
  | nil =>
    cases Nat.le_zero.1 enough
    cases more <;> rfl
  | cons output rest ih =>
    cases wanted with
    | zero => rfl
    | succ wanted => exact congrArg (_ :: ·) (ih (Nat.le_of_succ_le_succ enough))

/-- Once the outputs are over, every pull gives the end again, in the same state. -/
theorem pairwise_nexts (delivery : Delivery σ β) (wanted : Nat) :
    (delivery.nexts wanted).Pairwise fun earlier later =>
      (∃ item, earlier.1 = .ok (some item)) ∨ later = earlier := by
  obtain ⟨outputs, ending, last⟩ := delivery
  rw [nexts]
  induction outputs generalizing wanted with
  | nil =>
    rw [pulls_nil]
    exact List.pairwise_replicate.2 (Or.inr (Or.inr rfl))
  | cons output rest ih =>
    cases wanted with
    | zero => exact .nil
    | succ wanted => exact .cons (fun later _ => Or.inl ⟨output.1, rfl⟩) (ih wanted)

theorem next_eq_nexts (delivery : Delivery σ β) : delivery.nexts 1 = [delivery.next] := by
  obtain ⟨outputs, ending, last⟩ := delivery
  cases outputs <;> rfl

namespace Within

variable {delivery whole other : Delivery σ β}

theorem refl (delivery : Delivery σ β) : delivery.Within delivery := Or.inl rfl

theorem of_paused (state : σ) (whole : Delivery σ β) : (paused state).Within whole :=
  Or.inr ⟨rfl, List.nil_prefix⟩

theorem trans (first : delivery.Within whole) (second : whole.Within other) :
    delivery.Within other := by
  rcases first with rfl | ⟨open_, front⟩
  · exact second
  · rcases second with rfl | ⟨_, others⟩
    · exact Or.inr ⟨open_, front⟩
    · exact Or.inr ⟨open_, front.trans others⟩

theorem prepend (within : delivery.Within whole) (outputs : List (β × σ)) :
    (delivery.prepend outputs).Within (whole.prepend outputs) := by
  rcases within with rfl | ⟨open_, front⟩
  · exact Or.inl rfl
  · exact Or.inr ⟨open_, (List.prefix_append_right_inj outputs).2 front⟩

/-- A delivery that has ended is all there is. -/
theorem eq_of_ended (within : delivery.Within whole) (ended : delivery.ending ≠ .paused) :
    delivery = whole :=
  within.resolve_right fun unended => ended unended.1

theorem covers (within : delivery.Within whole) {wanted : Nat} (covers : delivery.Covers wanted) :
    whole.Covers wanted := by
  rcases within with rfl | ⟨open_, front⟩
  · exact covers
  · exact Or.inl ((covers.resolve_right fun ended => ended open_).trans front.length_le)

theorem nexts (within : delivery.Within whole) {wanted : Nat} (covers : delivery.Covers wanted) :
    whole.nexts wanted = delivery.nexts wanted := by
  rcases within with rfl | ⟨open_, more, front⟩
  · rfl
  · have enough := covers.resolve_right fun ended => ended open_
    rw [Delivery.nexts, ← front]
    exact pulls_append enough _ _ _ _ _

end Within

end Delivery

namespace Stages

/-- Sends an item through the stages, each of its images through all that are left before the next
image. -/
def push : {α : Type} → Stages σ α β → α → σ → Delivery σ β
  | _, nil, item, state => ⟨[(item, state)], .paused, state⟩
  | _, cons stage rest, item, state =>
    match stage.images item state with
    | (.error error, state) => .failed error state
    | (.ok images, state) => .each rest.push images state

/-- Sends what was pulled of a source through the stages; after an item, goes on with the source. -/
def route {S : Type 1} (stages : Stages σ α β) (goesOn : S → σ → Part (Delivery σ β)) :
    Pulled σ S (Except StoreError α) → Part (Delivery σ β)
  | ((none, _), state) => .some (.finished state)
  | ((some (.error error), _), state) => .some (.failed error state)
  | ((some (.ok item), left), state) => (stages.push item state).goOn (goesOn left)

/-- Pulls a source so many times, each item sent through the stages before the next pull; the end or
an error comes earlier. -/
def deliver (lib : Streams σ) (stages : Stages σ α β) :
    Nat → lib.Stream (Except StoreError α) → σ → Part (Delivery σ β)
  | 0, _, state => .some (.paused state)
  | count + 1, source, state =>
    (lib.next source state).bind (stages.route (stages.deliver lib count))

section

variable {stage : Stage σ α β} {rest : Stages σ β γ} {item : α} {new : List β} {state later : σ}

theorem push_of_error {error : StoreError}
    (made : stage.images item state = (.error error, later)) :
    (cons stage rest).push item state = .failed error later := by
  rw [push, made]

theorem push_of_ok (made : stage.images item state = (.ok new, later)) :
    (cons stage rest).push item state = .each rest.push new later := by
  rw [push, made]

end

/-- A shorter delivery is a part of a longer one. -/
theorem within_of_le {stages : Stages σ α β} {fewer pulls : Nat} (le : fewer ≤ pulls)
    {source : lib.Stream (Except StoreError α)} {state : σ} {part whole : Delivery σ β}
    (short : part ∈ stages.deliver lib fewer source state)
    (long : whole ∈ stages.deliver lib pulls source state) : part.Within whole := by
  induction fewer generalizing pulls source state part whole with
  | zero =>
    cases Part.mem_some_iff.1 short
    exact .of_paused _ _
  | succ fewer ih =>
    obtain _ | pulls := pulls
    · exact absurd le (Nat.not_succ_le_zero fewer)
    obtain ⟨pulled, below, short⟩ := Part.mem_bind_iff.1 short
    obtain ⟨_, again, long⟩ := Part.mem_bind_iff.1 long
    cases Part.mem_unique again below
    obtain ⟨⟨_ | _ | item, left⟩, between⟩ := pulled
    · exact Or.inl (Part.mem_unique short long)
    · exact Or.inl (Part.mem_unique short long)
    · rcases Delivery.mem_goOn_iff.1 short with ⟨ended, rfl⟩ | ⟨open_, first, first_short, rfl⟩
      · rw [route, Delivery.goOn_of_ended ended] at long
        exact Or.inl (Part.mem_some_iff.1 long).symm
      · obtain ⟨ended, _⟩ | ⟨_, second, others, rfl⟩ := Delivery.mem_goOn_iff.1 long
        · exact absurd open_ ended
        · exact (ih (Nat.le_of_succ_le_succ le) first_short others).prepend _

/-- So many pulls of the source deliver enough, and fewer do not. -/
structure Reaches (lib : Streams σ) (stages : Stages σ α β)
    (source : lib.Stream (Except StoreError α)) (state : σ) (enough : Delivery σ β → Prop)
    (pulls : Nat) (delivery : Delivery σ β) : Prop where
  delivered : delivery ∈ stages.deliver lib pulls source state
  reached : enough delivery
  least : ∀ fewer < pulls, ∀ other ∈ stages.deliver lib fewer source state, ¬ enough other

theorem exists_reaches {stages : Stages σ α β} {source : lib.Stream (Except StoreError α)}
    {state : σ} (enough : Delivery σ β → Prop) {pulls : Nat} {whole : Delivery σ β}
    (delivered : whole ∈ stages.deliver lib pulls source state) (reached : enough whole) :
    ∃ fewer part, stages.Reaches lib source state enough fewer part ∧ part.Within whole := by
  induction pulls using Nat.strong_induction_on generalizing whole with
  | _ pulls ih =>
    by_cases less : ∃ fewer < pulls, ∃ other ∈ stages.deliver lib fewer source state, enough other
    · obtain ⟨fewer, lt, other, member, enough_⟩ := less
      obtain ⟨least, part, reaches, within⟩ := ih fewer lt member enough_
      exact ⟨least, part, reaches, within.trans (within_of_le lt.le member delivered)⟩
    · push Not at less
      exact ⟨pulls, whole, ⟨delivered, reached, less⟩, .refl _⟩

end Stages

end KeyStore
