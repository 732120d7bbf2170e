import KeyStore.Proofs.Sequence.Deliveries
import KeyStore.Proofs.Sequence.Machines

/-!
# When streams are pulled and stages run

A layer delivers what the stages above it deliver (`Stages.Matches`): a turn of the layer sends the
images of an item on, one at a time. So a stack of stages over a stream delivers what is said item
by item, and what is pulled of it is read off the delivery; the latch of the sequence on top keeps
everything below from being pulled after the end or an error.

`atop_item_by_item`: to put the stages there pulls nothing and calls nothing, and every call of
`next` pulls the stream as often as its output needs.
-/

namespace KeyStore

variable {σ : Type} {lib : Streams σ} {α β γ : Type}

namespace Stages

/-- What comes of the images that are left of an item, and then of the source. -/
def pend (lib : Streams σ) (stage : Stage σ α β) (rest : Stages σ β γ) (count : Nat)
    (group : List β) (source : lib.Stream (Except StoreError α)) (state : σ) :
    Part (Delivery σ γ) :=
  (Delivery.each rest.push group state).goOn ((cons stage rest).deliver lib count source)

section

variable {stage : Stage σ α β} {rest : Stages σ β γ} {count : Nat} {item : α} {image : β}
  {group others new : List β} {source below : lib.Stream (Except StoreError α)}
  {top left : lib.Stream (Except StoreError β)} {state start later : σ}
  {result : Option (Except StoreError β)} {delivery : Delivery σ γ}
  {Over : lib.Stream (Except StoreError β) → List β → lib.Stream (Except StoreError α) → Prop}

theorem pend_nil : pend lib stage rest count [] source state
    = (cons stage rest).deliver lib count source state :=
  Part.map_id' (fun _ => rfl) _

theorem pend_cons : pend lib stage rest count (image :: group) source state
    = (rest.push image state).goOn (pend lib stage rest count group source) :=
  Delivery.goOn_andThen _ _ _

/-- What comes of a turn of the layer is what comes of its group and its source. -/
theorem exists_pend_of_turn {goesOn : lib.Stream (Except StoreError β) → σ → Part (Delivery σ γ)}
    (turn : Turn lib stage.images group source state result others below later)
    (comes : delivery ∈ rest.route goesOn ((result, left), later))
    (follows : ∀ state, ∀ delivery ∈ goesOn left state, ∃ pulls,
      ∃ whole ∈ pend lib stage rest pulls others below state, delivery.Within whole) :
    ∃ pulls, ∃ whole ∈ pend lib stage rest pulls group source state, delivery.Within whole := by
  induction turn with
  | @given item group source state =>
    simp only [pend_cons]
    rcases Delivery.mem_goOn_iff.1 comes with ⟨ended, rfl⟩ | ⟨open_, more, member, rfl⟩
    · exact ⟨0, _, Delivery.goOn_of_ended ended _ ▸ Part.mem_some _, .refl _⟩
    · obtain ⟨pulls, whole, member, within⟩ := follows _ more member
      exact ⟨pulls, _, Delivery.mem_goOn_of_paused open_ member, within.prepend _⟩
  | ended pulled =>
    exact ⟨1, _, pend_nil ▸ Part.mem_bind pulled comes, .refl _⟩
  | failed pulled =>
    exact ⟨1, _, pend_nil ▸ Part.mem_bind pulled comes, .refl _⟩
  | broke pulled made =>
    cases Part.mem_some_iff.1 comes
    refine ⟨1, _, pend_nil ▸ Part.mem_bind pulled ?_, .refl _⟩
    rw [route, push_of_error made]
    exact Part.mem_some _
  | made pulled made _ ih =>
    obtain ⟨pulls, whole, member, within⟩ := ih comes follows
    refine ⟨pulls + 1, whole, pend_nil ▸ Part.mem_bind pulled ?_, within⟩
    rw [route, push_of_ok made]
    exact member

/-- Without a pull, the group is gone through. -/
theorem exists_pend_zero (lib : Streams σ) (stage : Stage σ α β) (rest : Stages σ β γ)
    (group : List β) (source : lib.Stream (Except StoreError α)) (state : σ) :
    ∃ delivery : Delivery σ γ, delivery ∈ pend lib stage rest 0 group source state := by
  by_cases open_ : (Delivery.each rest.push group state).ending = .paused
  · exact ⟨_, Delivery.mem_goOn_of_paused open_ (Part.mem_some _)⟩
  · exact ⟨_, Delivery.goOn_of_ended open_ _ ▸ Part.mem_some _⟩

/-- What the stages above deliver of a layer, the layer delivers of its group and its source. -/
theorem exists_pend_of_deliver (layer : Layer lib stage.images Over) (count : Nat)
    (above : Over top group source) (member : delivery ∈ rest.deliver lib count top state) :
    ∃ pulls, ∃ whole ∈ pend lib stage rest pulls group source state, delivery.Within whole := by
  induction count generalizing top group source state delivery with
  | zero =>
    cases Part.mem_some_iff.1 member
    obtain ⟨whole, member⟩ := exists_pend_zero lib stage rest group source state
    exact ⟨0, whole, member, .of_paused state whole⟩
  | succ count ih =>
    obtain ⟨⟨⟨result, left⟩, later⟩, pulled, comes⟩ := Part.mem_bind_iff.1 member
    obtain ⟨others, below, turn, above⟩ := layer.gives above pulled
    exact exists_pend_of_turn turn comes fun state delivery => ih above

/-- Every turn from here is a pull of the stream over it. -/
def Reads (lib : Streams σ) (stage : Stage σ α β)
    (Over : lib.Stream (Except StoreError β) → List β → lib.Stream (Except StoreError α) → Prop)
    (top : lib.Stream (Except StoreError β)) (start : σ) (group : List β)
    (source : lib.Stream (Except StoreError α)) (state : σ) : Prop :=
  ∀ {result others below later},
    Turn lib stage.images group source state result others below later →
    ∃ left, ((result, left), later) ∈ lib.next top start ∧ Over left others below

/-- What comes of a group comes of pulls of the layer, if what comes after the group does. -/
theorem exists_deliver_of_group (layer : Layer lib stage.images Over)
    (each : ∀ {top start state delivery}, Reads lib stage Over top start [] source state →
      delivery ∈ pend lib stage rest count [] source state →
      ∃ pulls, ∃ whole ∈ rest.deliver lib pulls top start, delivery.Within whole)
    (reads : Reads lib stage Over top start group source state)
    (member : delivery ∈ pend lib stage rest count group source state) :
    ∃ pulls, ∃ whole ∈ rest.deliver lib pulls top start, delivery.Within whole := by
  induction group generalizing top start state delivery with
  | nil => exact each reads member
  | cons image group ih =>
    obtain ⟨left, pulled, above⟩ := reads .given
    rw [pend_cons, Delivery.mem_goOn_iff] at member
    rcases member with ⟨ended, rfl⟩ | ⟨open_, more, others, rfl⟩
    · refine ⟨1, _, Part.mem_bind pulled ?_, .refl _⟩
      rw [route, Delivery.goOn_of_ended ended]
      exact Part.mem_some _
    · obtain ⟨pulls, whole, delivered, within⟩ := ih (layer.comes above) others
      exact ⟨pulls + 1, _, Part.mem_bind pulled (Delivery.mem_goOn_of_paused open_ delivered),
        within.prepend _⟩

/-- What a layer delivers of its group and its source, the stages above deliver of the layer. -/
theorem exists_deliver_of_pend (layer : Layer lib stage.images Over) (count : Nat)
    (reads : Reads lib stage Over top start group source state)
    (member : delivery ∈ pend lib stage rest count group source state) :
    ∃ pulls, ∃ whole ∈ rest.deliver lib pulls top start, delivery.Within whole := by
  induction count generalizing top start group source state delivery with
  | zero =>
    refine exists_deliver_of_group layer (fun _ none => ?_) reads member
    rw [pend_nil] at none
    cases Part.mem_some_iff.1 none
    exact ⟨0, _, Part.mem_some _, .of_paused _ _⟩
  | succ count ih =>
    refine exists_deliver_of_group layer (fun reads member => ?_) reads member
    rw [pend_nil] at member
    obtain ⟨⟨⟨result, left⟩, later⟩, pulled, comes⟩ := Part.mem_bind_iff.1 member
    rcases result with _ | error | item
    · obtain ⟨_, read, _⟩ := reads (.ended pulled)
      exact ⟨1, _, Part.mem_bind read comes, .refl _⟩
    · obtain ⟨_, read, _⟩ := reads (.failed pulled)
      exact ⟨1, _, Part.mem_bind read comes, .refl _⟩
    · rcases made : stage.images item later with ⟨error | new, after⟩
      · obtain ⟨_, read, _⟩ := reads (.broke pulled made)
        rw [route, push_of_error made] at comes
        cases Part.mem_some_iff.1 comes
        exact ⟨1, _, Part.mem_bind read (Part.mem_some _), .refl _⟩
      · rw [route, push_of_ok made] at comes
        exact ih (fun turn => reads (.made pulled made turn)) comes

/-- What stages deliver of a stream, other stages deliver of another one, and vice versa. -/
def Matches (lib : Streams σ) (upper : Stages σ β γ) (lower : Stages σ α γ)
    (top : lib.Stream (Except StoreError β)) (source : lib.Stream (Except StoreError α)) : Prop :=
  ∀ state,
    (∀ count, ∀ delivery ∈ upper.deliver lib count top state,
      ∃ pulls, ∃ whole ∈ lower.deliver lib pulls source state, delivery.Within whole) ∧
    ∀ count, ∀ delivery ∈ lower.deliver lib count source state,
      ∃ pulls, ∃ whole ∈ upper.deliver lib pulls top state, delivery.Within whole

theorem matches_layer (layer : Layer lib stage.images Over) (above : Over top [] source)
    (rest : Stages σ β γ) : Matches lib rest (cons stage rest) top source := by
  intro state
  refine ⟨fun count delivery member => ?_, fun count delivery member => ?_⟩
  · simp only [← pend_nil]
    exact exists_pend_of_deliver layer count above member
  · rw [← pend_nil] at member
    exact exists_deliver_of_pend layer count (fun turn => layer.comes above turn) member

end

/-- Stages that are put over a stream are a stream of its deliveries, and to put them there does
nothing else. -/
theorem exists_matches (lawful : lib.Lawful) (stages : Stages σ α β)
    (source : lib.Stream (Except StoreError α)) (state : σ) :
    ∃ top, stages.atop (.ofStream source) state = (.ofStream top, state) ∧
      ∀ {γ : Type} (more : Stages σ β γ), Matches lib more (stages.append more) top source := by
  induction stages with
  | nil =>
    refine ⟨source, rfl, fun more state => ⟨?_, ?_⟩⟩ <;>
      exact fun count delivery member => ⟨count, delivery, member, .refl _⟩
  | cons stage rest ih =>
    obtain ⟨Over, layer, put⟩ := stage.exists_layer lawful
    obtain ⟨middle, made, above⟩ := put (.ofStream source) state
    obtain ⟨top, others, follows⟩ := ih middle
    refine ⟨top, ?_, fun more later => ?_⟩
    · simp only [atop, made]
      exact others
    · obtain ⟨down, up⟩ := follows more later
      obtain ⟨through, back⟩ := matches_layer layer above (rest.append more) later
      refine ⟨fun count delivery member => ?_, fun count delivery member => ?_⟩
      · obtain ⟨count, middle, member, within⟩ := down count delivery member
        obtain ⟨pulls, whole, member, further⟩ := through count middle member
        exact ⟨pulls, whole, member, within.trans further⟩
      · obtain ⟨count, middle, member, within⟩ := back count delivery member
        obtain ⟨pulls, whole, member, further⟩ := up count middle member
        exact ⟨pulls, whole, member, within.trans further⟩

end Stages

namespace ResultSequence

/-- The results of that many calls of `next`, each with the state that it leaves. -/
def nexts : Nat → ResultSequence lib α → σ → Part (List (Except StoreError (Option α) × σ))
  | 0, _, _ => .some []
  | wanted + 1, sequence, state => (sequence.next state).bind fun ((result, rest), state) =>
    (rest.nexts wanted state).map ((result, state) :: ·)

theorem nexts_empty (wanted : Nat) (state : σ) :
    (empty : ResultSequence lib α).nexts wanted state
      = .some (List.replicate wanted (.ok none, state)) := by
  induction wanted with
  | zero => rfl
  | succ wanted ih =>
    simp only [nexts, next, empty, Part.bind_some] at ih ⊢
    rw [ih, Part.map_some]
    rfl

theorem nexts_failed (error : StoreError) (wanted : Nat) (state : σ) :
    (failed error : ResultSequence lib α).nexts wanted state
      = .some (List.replicate wanted (.error error, state)) := by
  induction wanted with
  | zero => rfl
  | succ wanted ih =>
    simp only [nexts, next, failed, Part.bind_some] at ih ⊢
    rw [ih, Part.map_some]
    rfl

section

variable {stream : lib.Stream (Except StoreError α)} {wanted : Nat} {state : σ}

/-- Calls of `next` give what pulls of the stream deliver. -/
theorem exists_delivery_of_nexts {results : List (Except StoreError (Option α) × σ)}
    (member : results ∈ (ofStream stream).nexts wanted state) :
    ∃ pulls, ∃ delivery ∈ Stages.nil.deliver lib pulls stream state,
      delivery.Covers wanted ∧ delivery.nexts wanted = results := by
  induction wanted generalizing stream state results with
  | zero =>
    cases Part.mem_some_iff.1 member
    exact ⟨0, _, Part.mem_some _, Or.inl (Nat.le_refl 0), rfl⟩
  | succ wanted ih =>
    obtain ⟨_, latched, others⟩ := Part.mem_bind_iff.1 member
    obtain ⟨⟨⟨item, left⟩, later⟩, pulled, rfl⟩ := (Part.mem_map_iff _).1 latched
    rcases item with _ | error | item
    · simp only [latch, nexts_empty, Part.map_some] at others
      cases Part.mem_some_iff.1 others
      refine ⟨1, .finished later, Part.mem_bind pulled (Part.mem_some _), Or.inr nofun, ?_⟩
      exact Delivery.pulls_nil .finished later (wanted + 1)
    · simp only [latch, nexts_failed, Part.map_some] at others
      cases Part.mem_some_iff.1 others
      refine ⟨1, .failed error later, Part.mem_bind pulled (Part.mem_some _), Or.inr nofun, ?_⟩
      exact Delivery.pulls_nil (.failed error) later (wanted + 1)
    · obtain ⟨rest, follows, rfl⟩ := (Part.mem_map_iff _).1 others
      obtain ⟨pulls, delivery, delivered, covers, rfl⟩ := ih follows
      refine ⟨pulls + 1, delivery.prepend [(item, later)], Part.mem_bind pulled ?_, ?_, rfl⟩
      · exact Part.mem_map _ delivered
      · exact covers.imp_left Nat.succ_le_succ

theorem nexts_of_delivery {pulls : Nat} {delivery : Delivery σ α}
    (delivered : delivery ∈ Stages.nil.deliver lib pulls stream state)
    (covers : delivery.Covers wanted) :
    delivery.nexts wanted ∈ (ofStream stream).nexts wanted state := by
  induction wanted generalizing stream state pulls delivery with
  | zero =>
    rw [Delivery.nexts, Delivery.pulls]
    exact Part.mem_some _
  | succ wanted ih =>
    obtain _ | pulls := pulls
    · cases Part.mem_some_iff.1 delivered
      exact absurd covers (by simp [Delivery.Covers, Delivery.paused])
    · obtain ⟨⟨⟨item, left⟩, later⟩, pulled, comes⟩ := Part.mem_bind_iff.1 delivered
      refine Part.mem_bind (Part.mem_map latch pulled) ?_
      rcases item with _ | error | item
      · cases Part.mem_some_iff.1 comes
        simp only [latch, nexts_empty, Part.map_some]
        exact Part.mem_some_iff.2 (Delivery.pulls_nil .finished later (wanted + 1))
      · cases Part.mem_some_iff.1 comes
        simp only [latch, nexts_failed, Part.map_some]
        exact Part.mem_some_iff.2 (Delivery.pulls_nil (.failed error) later (wanted + 1))
      · obtain ⟨rest, others, rfl⟩ := (Part.mem_map_iff _).1 comes
        exact Part.mem_map _ (ih others (covers.imp_left Nat.le_of_succ_le_succ))

theorem mem_nexts_iff {results : List (Except StoreError (Option α) × σ)} :
    results ∈ (ofStream stream).nexts wanted state ↔
      ∃ pulls, ∃ delivery ∈ Stages.nil.deliver lib pulls stream state,
        delivery.Covers wanted ∧ delivery.nexts wanted = results := by
  refine ⟨exists_delivery_of_nexts, ?_⟩
  rintro ⟨pulls, delivery, delivered, covers, rfl⟩
  exact nexts_of_delivery delivered covers

end

theorem mem_first_iff {sequence : ResultSequence lib α} {state : σ}
    {result : Except StoreError (Option α) × σ} :
    result ∈ sequence.first state ↔ [result] ∈ sequence.nexts 1 state := by
  simp only [first, nexts, Part.map_some, Part.mem_bind_iff, Part.mem_map_iff, Part.mem_some_iff,
    List.cons.injEq, and_true]
  exact exists_congr fun _ => and_congr_right' eq_comm

section

variable {visit : α → Effect σ (Except StoreError Unit)} {item : α} {state later : σ}

theorem push_visit_of_error {error : StoreError}
    (ran : visit item state = (.error error, later)) :
    (Stages.cons (.map visit) .nil).push item state = .failed error later :=
  Stages.push_of_error (Stage.images_map_of_error ran)

theorem push_visit_of_ok (ran : visit item state = (.ok (), later)) :
    (Stages.cons (.map visit) .nil).push item state = ⟨[((), later)], .paused, later⟩ :=
  Stages.push_of_ok (Stage.images_map_of_ok ran)

variable {stream : lib.Stream (Except StoreError α)}

/-- A loop that visits the items comes to what a last stage delivers. -/
theorem exists_delivery_of_forEach {result : Except StoreError Unit × σ}
    (member : result ∈ (ofStream stream).forEach visit state) :
    ∃ pulls, ∃ delivery ∈ (Stages.cons (.map visit) .nil).deliver lib pulls stream state,
      delivery.ending ≠ .paused ∧ delivery.drained = result := by
  refine PFun.fixInduction' (C := fun at_ => ∀ stream, at_.1.2 = ofStream stream →
    ∃ pulls, ∃ delivery ∈ (Stages.cons (.map visit) .nil).deliver lib pulls stream at_.2,
      delivery.ending ≠ .paused ∧ delivery.drained = result) member ?_ ?_ stream rfl
  · rintro ⟨⟨_, _⟩, state⟩ stops stream rfl
    obtain ⟨_, latched, same⟩ := (Part.mem_map_iff _).1 stops
    obtain ⟨⟨⟨item, left⟩, later⟩, pulled, rfl⟩ := (Part.mem_map_iff _).1 latched
    rcases item with _ | error | item
    · cases same
      exact ⟨1, _, Part.mem_bind pulled (Part.mem_some _), nofun, rfl⟩
    · cases same
      exact ⟨1, _, Part.mem_bind pulled (Part.mem_some _), nofun, rfl⟩
    · rcases ran : visit item later with ⟨error | ⟨⟩, after⟩
      · simp only [latch, ran] at same
        cases same
        refine ⟨1, .failed error after, Part.mem_bind pulled ?_, nofun, rfl⟩
        rw [Stages.route, push_visit_of_error ran]
        exact Part.mem_some _
      · simp only [latch, ran] at same
        cases same
  · rintro ⟨⟨_, _⟩, state⟩ ⟨⟨_, _⟩, after⟩ - goes_on ih stream rfl
    obtain ⟨_, latched, same⟩ := (Part.mem_map_iff _).1 goes_on
    obtain ⟨⟨⟨item, left⟩, later⟩, pulled, rfl⟩ := (Part.mem_map_iff _).1 latched
    rcases item with _ | error | item
    · cases same
    · cases same
    · rcases ran : visit item later with ⟨error | ⟨⟩, last⟩
      · simp only [latch, ran] at same
        cases same
      · simp only [latch, ran] at same
        cases same
        obtain ⟨pulls, delivery, delivered, ended, drained⟩ := ih left rfl
        refine ⟨pulls + 1, delivery.prepend [((), after)], Part.mem_bind pulled ?_, ended, drained⟩
        rw [Stages.route, push_visit_of_ok ran]
        exact Part.mem_map _ delivered

theorem forEach_of_delivery {pulls : Nat} {delivery : Delivery σ Unit}
    (delivered : delivery ∈ (Stages.cons (.map visit) .nil).deliver lib pulls stream state)
    (ended : delivery.ending ≠ .paused) :
    delivery.drained ∈ (ofStream stream).forEach visit state := by
  induction pulls generalizing stream state delivery with
  | zero =>
    cases Part.mem_some_iff.1 delivered
    exact absurd rfl ended
  | succ pulls ih =>
    obtain ⟨⟨⟨item, left⟩, later⟩, pulled, comes⟩ := Part.mem_bind_iff.1 delivered
    have turned : _ ∈ foldTurn (fun _ item => visit item) (((), ofStream stream), state) :=
      Part.mem_map _ (Part.mem_map latch pulled)
    rcases item with _ | error | item
    · cases Part.mem_some_iff.1 comes
      exact PFun.fix_stop turned
    · cases Part.mem_some_iff.1 comes
      exact PFun.fix_stop turned
    · rcases ran : visit item later with ⟨error | ⟨⟩, after⟩
      · rw [Stages.route, push_visit_of_error ran] at comes
        cases Part.mem_some_iff.1 comes
        simp only [latch, ran] at turned
        exact PFun.fix_stop turned
      · rw [Stages.route, push_visit_of_ok ran] at comes
        obtain ⟨rest, others, rfl⟩ := (Part.mem_map_iff _).1 comes
        simp only [latch, ran] at turned
        have drained : rest.drained ∈ (ofStream left).forEach visit after := ih others ended
        exact PFun.mem_fix_iff.2 (.inr ⟨_, turned, drained⟩)

/-- Visiting the items is a last stage whose images are left alone. -/
theorem mem_forEach_iff {result : Except StoreError Unit × σ} :
    result ∈ (ofStream stream).forEach visit state ↔
      ∃ pulls, ∃ delivery ∈ (Stages.cons (.map visit) .nil).deliver lib pulls stream state,
        delivery.ending ≠ .paused ∧ delivery.drained = result := by
  refine ⟨exists_delivery_of_forEach, ?_⟩
  rintro ⟨pulls, delivery, delivered, ended, rfl⟩
  exact forEach_of_delivery delivered ended

end

end ResultSequence

/-! ### Stacks of stages -/

/-- A sequence gives what the items of a stream come to on their way through stages, one by one. -/
structure Stages.ItemByItem (stages : Stages σ α β) (source : lib.Stream (Except StoreError α))
    (sequence : ResultSequence lib β) (state : σ) : Prop where
  /-- What comes of calls of `next`, and the states that they leave, is decided by the first pulls
  of the source, and these are all that are made. -/
  nexts : ∀ wanted results, results ∈ sequence.nexts wanted state ↔
    ∃ pulls delivery, stages.Reaches lib source state (·.Covers wanted) pulls delivery ∧
      delivery.nexts wanted = results
  /-- After the end, or an error, nothing runs any more, and the result stays. -/
  rests : ∀ wanted, ∀ results ∈ sequence.nexts wanted state,
    results.Pairwise fun earlier later => (∃ item, earlier.1 = .ok (some item)) ∨ later = earlier
  first : ∀ result, result ∈ sequence.first state ↔
    ∃ pulls delivery, stages.Reaches lib source state (·.Covers 1) pulls delivery ∧
      delivery.next = result
  isNonempty : ∀ result, result ∈ sequence.isNonempty state ↔
    ∃ pulls delivery, stages.Reaches lib source state (·.Covers 1) pulls delivery ∧
      (delivery.next.1.map Option.isSome, delivery.next.2) = result
  /-- A visitor is a last stage: it is through with an output before anything else runs, and an
  error of it is the end. -/
  forEach : ∀ (visit : β → Effect σ (Except StoreError Unit)) (result),
    result ∈ sequence.forEach visit state ↔
      ∃ pulls delivery, (stages.append (.cons (.map visit) .nil)).Reaches lib source state
        (·.ending ≠ .paused) pulls delivery ∧ delivery.drained = result

section

variable {stages : Stages σ α β} {source : lib.Stream (Except StoreError α)}
  {top : lib.Stream (Except StoreError β)} {state : σ}

/-- What is read off deliveries of the stream on top is read off those of the source, and of these
the least will do. -/
theorem Stages.Matches.read_iff {upper : Stages σ β γ} {lower : Stages σ α γ}
    (same : Matches lib upper lower top source) {enough : Delivery σ γ → Prop} {ρ : Type}
    {read : Delivery σ γ → ρ} {result : ρ}
    (stays : ∀ {part whole : Delivery σ γ}, part.Within whole → enough part →
      enough whole ∧ read whole = read part) :
    (∃ pulls, ∃ delivery ∈ upper.deliver lib pulls top state,
        enough delivery ∧ read delivery = result) ↔
      ∃ pulls delivery, lower.Reaches lib source state enough pulls delivery ∧
        read delivery = result := by
  constructor
  · rintro ⟨count, delivery, delivered, enough_, rfl⟩
    obtain ⟨pulls, whole, member, within⟩ := (same state).1 count delivery delivered
    obtain ⟨reached, read_eq⟩ := stays within enough_
    obtain ⟨fewer, part, reaches, short⟩ := exists_reaches _ member reached
    exact ⟨fewer, part, reaches, (stays short reaches.reached).2.symm.trans read_eq⟩
  · rintro ⟨count, delivery, reaches, rfl⟩
    obtain ⟨pulls, whole, member, within⟩ := (same state).2 count delivery reaches.delivered
    obtain ⟨reached, read_eq⟩ := stays within reaches.reached
    exact ⟨pulls, whole, member, reached, read_eq⟩

theorem itemByItem_of_matches
    (same : ∀ {γ : Type} (more : Stages σ β γ), Stages.Matches lib more (stages.append more) top
      source) : stages.ItemByItem source (.ofStream top) state := by
  have below := same .nil
  rw [stages.append_nil] at below
  have nexts (wanted : Nat) (results : List (Except StoreError (Option β) × σ)) :
      results ∈ (ResultSequence.ofStream top).nexts wanted state ↔
        ∃ pulls delivery, stages.Reaches lib source state (·.Covers wanted) pulls delivery ∧
          delivery.nexts wanted = results :=
    ResultSequence.mem_nexts_iff.trans <| below.read_iff fun within covers =>
      ⟨within.covers covers, within.nexts covers⟩
  have first (result : Except StoreError (Option β) × σ) :
      result ∈ (ResultSequence.ofStream top).first state ↔
        ∃ pulls delivery, stages.Reaches lib source state (·.Covers 1) pulls delivery ∧
          delivery.next = result := by
    rw [ResultSequence.mem_first_iff, nexts]
    simp only [Delivery.next_eq_nexts, List.cons.injEq, and_true]
  refine ⟨nexts, ?_, first, ?_, ?_⟩
  · intro wanted results member
    obtain ⟨_, delivery, _, rfl⟩ := (nexts wanted results).1 member
    exact delivery.pairwise_nexts wanted
  · intro result
    rw [ResultSequence.isNonempty, Part.mem_map_iff]
    constructor
    · rintro ⟨_, member, rfl⟩
      obtain ⟨pulls, delivery, reaches, rfl⟩ := (first _).1 member
      exact ⟨pulls, delivery, reaches, rfl⟩
    · rintro ⟨pulls, delivery, reaches, rfl⟩
      exact ⟨_, (first _).2 ⟨pulls, delivery, reaches, rfl⟩, rfl⟩
  · intro visit result
    refine ResultSequence.mem_forEach_iff.trans <| (same _).read_iff fun within ended => ?_
    obtain rfl := within.eq_of_ended ended
    exact ⟨ended, rfl⟩

end

/-- To put stages over the sequence of a stream pulls nothing and calls nothing, and what is there
then runs item by item, whatever the stages and the stream do to the surroundings. -/
theorem atop_item_by_item (lawful : lib.Lawful) (stages : Stages σ α β)
    (source : lib.Stream (Except StoreError α)) (state : σ) :
    ∃ sequence, stages.atop (.ofStream source) state = (sequence, state) ∧
      ∀ later, stages.ItemByItem source sequence later := by
  obtain ⟨top, made, same⟩ := stages.exists_matches lawful source state
  exact ⟨.ofStream top, made, fun later => itemByItem_of_matches same⟩

/-- The numbers from one on, without an end; every pull is written down. -/
def countingUp : Machine (List (String × Nat)) (Except StoreError Nat) where
  State := Nat
  step now journal := .some ((some (.ok now), now + 1), journal ++ [("pull", now)])
  now := 1

/-- The even numbers, each with ten times it; every call is written down. -/
def evenPairs : Stages (List (String × Nat)) Nat Nat :=
  .cons (.filter fun item journal => (item % 2 == 0, journal ++ [("even", item)])) <|
    .cons (.flatMap fun item journal => (.ok [item, 10 * item], journal ++ [("pair", item)])) .nil

/-- The second image of a pair is there already: only the third call of `next` goes on to the
source, which never ends. -/
theorem evenPairs_item_by_item :
    (machines (List (String × Nat))).Lawful ∧
    ∃ sequence : ResultSequence (machines _) Nat,
      evenPairs.atop (.ofStream countingUp) [] = (sequence, []) ∧
      let first := [("pull", 1), ("even", 1), ("pull", 2), ("even", 2), ("pair", 2)]
      let more := [("pull", 3), ("even", 3), ("pull", 4), ("even", 4), ("pair", 4)]
      [(.ok (some 2), first), (.ok (some 20), first), (.ok (some 4), first ++ more)]
        ∈ sequence.nexts 3 [] := by
  obtain ⟨sequence, made, runs⟩ := atop_item_by_item machines_lawful evenPairs countingUp []
  refine ⟨machines_lawful, sequence, made, ?_⟩
  let first := [("pull", 1), ("even", 1), ("pull", 2), ("even", 2), ("pair", 2)]
  let more := [("pull", 3), ("even", 3), ("pull", 4), ("even", 4), ("pair", 4)]
  have delivered : ⟨[(2, first), (20, first), (4, first ++ more), (40, first ++ more)], .paused,
      first ++ more⟩ ∈ evenPairs.deliver (machines _) 4 countingUp [] := by
    simp [Stages.deliver, machines, Machine.next, countingUp, Machine.at_, Streams.Pulled.mapLeft,
      Stages.route, Stages.push, evenPairs, Stage.images, Delivery.each, Delivery.andThen,
      Delivery.goOn, Delivery.paused, Delivery.prepend, first, more]
  obtain ⟨pulls, part, reaches, within⟩ :=
    Stages.exists_reaches (·.Covers 3) delivered (.inl (by decide))
  exact ((runs []).nexts 3 _).2 ⟨pulls, part, reaches, (within.nexts reaches.reached).symm⟩

end KeyStore
