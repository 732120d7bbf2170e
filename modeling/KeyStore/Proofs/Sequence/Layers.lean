import KeyStore.ResultSequence

/-!
# Stages are layers over a stream

A stage makes a list of images of each item: `map` one, `filter` one or none, `flatMap` any number.
Put over a sequence it is a stream of its own, which gives what is left of the images of an item and
then pulls the stream below (`Turn`). That is all that the three adapters have in common, and all
that is needed of them: `Stage.exists_layer` derives it from what is documented of the library.

A layer goes on after an error. That a sequence stops at the first one is the work of its latch.
-/

namespace KeyStore

variable {σ : Type} {lib : Streams σ} {α β γ : Type}

/-- A stage of a sequence. -/
inductive Stage (σ : Type) : Type → Type → Type 1 where
  | map {α β : Type} (f : α → Effect σ (Except StoreError β)) : Stage σ α β
  | filter {α : Type} (p : α → Effect σ Bool) : Stage σ α α
  | flatMap {α β : Type} (f : α → Effect σ (Except StoreError (List β))) : Stage σ α β

namespace Stage

/-- Puts the stage over a sequence. -/
def atop : Stage σ α β → ResultSequence lib α → Effect σ (ResultSequence lib β)
  | map f, sequence => sequence.map f
  | filter p, sequence => sequence.filter p
  | flatMap f, sequence => sequence.flatMap f

/-- What the stage makes of one item. -/
def images : Stage σ α β → α → Effect σ (Except StoreError (List β))
  | map f, item => fun state => ((f item state).1.map fun image => [image], (f item state).2)
  | filter p, item => fun state =>
    (.ok (if (p item state).1 then [item] else []), (p item state).2)
  | flatMap f, item => f item

end Stage

/-! ### A pull of a layer -/

/-- A pull of a layer. It gives the next image if a group is left; if not, the stream below is
pulled until it ends, fails, or gives an item of which an image or an error is made. -/
inductive Turn (lib : Streams σ) (images : α → Effect σ (Except StoreError (List β))) :
    List β → lib.Stream (Except StoreError α) → σ →
      Option (Except StoreError β) → List β → lib.Stream (Except StoreError α) → σ → Prop
  | given {item : β} {group : List β} {source : lib.Stream (Except StoreError α)} {state : σ} :
    Turn lib images (item :: group) source state (some (.ok item)) group source state
  | ended {source left : lib.Stream (Except StoreError α)} {state later : σ}
    (pulled : ((none, left), later) ∈ lib.next source state) :
    Turn lib images [] source state none [] left later
  | failed {source left : lib.Stream (Except StoreError α)} {state later : σ} {error : StoreError}
    (pulled : ((some (.error error), left), later) ∈ lib.next source state) :
    Turn lib images [] source state (some (.error error)) [] left later
  | broke {source left : lib.Stream (Except StoreError α)} {state between later : σ} {item : α}
    {error : StoreError} (pulled : ((some (.ok item), left), between) ∈ lib.next source state)
    (made : images item between = (.error error, later)) :
    Turn lib images [] source state (some (.error error)) [] left later
  | made {source left last : lib.Stream (Except StoreError α)} {state between after later : σ}
    {item : α} {new group : List β} {result : Option (Except StoreError β)}
    (pulled : ((some (.ok item), left), between) ∈ lib.next source state)
    (made : images item between = (.ok new, after))
    (goesOn : Turn lib images new left after result group last later) :
    Turn lib images [] source state result group last later

/-- The streams that give a group and then what is made of a stream below. -/
structure Layer (lib : Streams σ) (images : α → Effect σ (Except StoreError (List β)))
    (Over : lib.Stream (Except StoreError β) → List β → lib.Stream (Except StoreError α) → Prop) :
    Prop where
  /-- A pull of such a stream is a turn, -/
  gives {top left : lib.Stream (Except StoreError β)} {group : List β}
    {source : lib.Stream (Except StoreError α)} {state later : σ}
    {result : Option (Except StoreError β)} (above : Over top group source)
    (pulled : ((result, left), later) ∈ lib.next top state) :
    ∃ others rest, Turn lib images group source state result others rest later ∧
      Over left others rest
  /-- and every turn is a pull of it. -/
  comes {top : lib.Stream (Except StoreError β)} {group others : List β}
    {source rest : lib.Stream (Except StoreError α)} {state later : σ}
    {result : Option (Except StoreError β)} (above : Over top group source)
    (turn : Turn lib images group source state result others rest later) :
    ∃ left, ((result, left), later) ∈ lib.next top state ∧ Over left others rest

namespace Stage

variable {f : α → Effect σ (Except StoreError β)} {p : α → Effect σ Bool} {item : α}
  {state later : σ}

theorem images_map_of_ok {image : β} (ran : f item state = (.ok image, later)) :
    (map f).images item state = (.ok [image], later) := by
  simp [images, ran, Except.map]

theorem images_map_of_error {error : StoreError} (ran : f item state = (.error error, later)) :
    (map f).images item state = (.error error, later) := by
  simp [images, ran, Except.map]

theorem images_filter_of_true (ran : p item state = (true, later)) :
    (filter p).images item state = (.ok [item], later) := by
  simp [images, ran]

theorem images_filter_of_false (ran : p item state = (false, later)) :
    (filter p).images item state = (.ok [], later) := by
  simp [images, ran]

/-- A stream that passes each item through a call is a layer of single images. -/
theorem layer_map {above : lib.Stream (Except StoreError α) → lib.Stream (Except StoreError β)}
    (pulls : ∀ source state, lib.next (above source) state
      = (lib.next source state).map fun pulled =>
        Streams.Pulled.mapLeft above (Streams.thenStep (ResultSequence.onItem f) pulled)) :
    Layer lib (map f).images fun top group source => group = [] ∧ top = above source where
  gives := by
    rintro top left group source state later result ⟨rfl, rfl⟩ pulled
    rw [pulls, Part.mem_map_iff] at pulled
    obtain ⟨⟨⟨item, rest⟩, between⟩, below, same⟩ := pulled
    rcases item with _ | error | item
    · cases same
      exact ⟨[], rest, .ended below, rfl, rfl⟩
    · cases same
      exact ⟨[], rest, .failed below, rfl, rfl⟩
    · cases same
      rcases ran : f item between with ⟨error | image, after⟩
      · rw [ResultSequence.onItem, ran]
        exact ⟨[], rest, .broke below (images_map_of_error ran), rfl, rfl⟩
      · rw [ResultSequence.onItem, ran]
        exact ⟨[], rest, .made below (images_map_of_ok ran) .given, rfl, rfl⟩
  comes := by
    rintro top group others source rest state later result ⟨rfl, rfl⟩ turn
    have put {pulled : Pulled σ (lib.Stream (Except StoreError α)) (Except StoreError α)}
        (below : pulled ∈ lib.next source state) :
        Streams.Pulled.mapLeft above (Streams.thenStep (ResultSequence.onItem f) pulled)
          ∈ lib.next (above source) state := pulls source state ▸ Part.mem_map _ below
    refine ⟨above rest, ?_⟩
    cases turn with
    | ended below => exact ⟨put below, rfl, rfl⟩
    | failed below => exact ⟨put below, rfl, rfl⟩
    | @broke _ _ _ between _ item _ below made =>
      have passed := put below
      rcases ran : f item between with ⟨error | image, after⟩
      · rw [images_map_of_error ran] at made
        cases made
        rw [Streams.thenStep, ResultSequence.onItem, ran] at passed
        exact ⟨passed, rfl, rfl⟩
      · rw [images_map_of_ok ran] at made
        cases made
    | @made _ left _ _ between _ _ item _ _ _ below made goesOn =>
      have passed := put below
      rcases ran : f item between with ⟨error | image, after⟩
      · rw [images_map_of_error ran] at made
        cases made
      · rw [images_map_of_ok ran] at made
        cases made
        rw [Streams.thenStep, ResultSequence.onItem, ran] at passed
        cases goesOn
        exact ⟨passed, rfl, rfl⟩

/-- A loop that looks for an item to keep makes one turn of a layer. -/
theorem turn_of_mem_fix {source rest : lib.Stream (Except StoreError α)}
    {result : Option (Except StoreError α)}
    (ends : ((result, rest), later) ∈ (Streams.filterTurn lib.next p).fix (source, state)) :
    Turn lib (filter p).images [] source state result [] rest later := by
  refine PFun.fixInduction' (C := fun at_ => Turn lib (filter p).images [] at_.1 at_.2 result []
    rest later) ends ?_ ?_
  · rintro ⟨source, state⟩ stops
    obtain ⟨⟨⟨item, left⟩, between⟩, below, same⟩ := (Part.mem_map_iff _).1 stops
    rcases item with _ | error | item
    · cases same
      exact .ended below
    · cases same
      exact .failed below
    · rcases ran : p item between with ⟨_ | _, after⟩
      · rw [Streams.filterStep, ran] at same
        cases same
      · rw [Streams.filterStep, ran] at same
        cases same
        exact .made below (images_filter_of_true ran) .given
  · rintro ⟨source, state⟩ ⟨left, after⟩ - goes_on ih
    obtain ⟨⟨⟨item, left⟩, between⟩, below, same⟩ := (Part.mem_map_iff _).1 goes_on
    rcases item with _ | error | item
    · cases same
    · cases same
    · rcases ran : p item between with ⟨_ | _, after⟩
      · rw [Streams.filterStep, ran] at same
        cases same
        exact .made below (images_filter_of_false ran) ih
      · rw [Streams.filterStep, ran] at same
        cases same

/-- One turn of a layer is made by such a loop. -/
theorem mem_fix_of_turn {group others : List α} {source rest : lib.Stream (Except StoreError α)}
    {result : Option (Except StoreError α)}
    (turn : Turn lib (filter p).images group source state result others rest later) :
    group = [] → others = [] ∧
      ((result, rest), later) ∈ (Streams.filterTurn lib.next p).fix (source, state) := by
  induction turn with
  | given => exact nofun
  | ended below => exact fun _ => ⟨rfl, PFun.fix_stop (Part.mem_map _ below)⟩
  | failed below => exact fun _ => ⟨rfl, PFun.fix_stop (Part.mem_map _ below)⟩
  | broke _ made =>
    cases made
  | @made source left _ state between _ _ item _ _ _ below made goesOn ih =>
    have turned := Part.mem_map (Streams.filterStep p) below
    rcases ran : p item between with ⟨_ | _, after⟩
    · rw [images_filter_of_false ran] at made
      cases made
      rw [Streams.filterStep, ran] at turned
      exact fun _ => ⟨(ih rfl).1, PFun.mem_fix_iff.2 (.inr ⟨_, turned, (ih rfl).2⟩)⟩
    · rw [images_filter_of_true ran] at made
      cases made
      cases goesOn
      rw [Streams.filterStep, ran] at turned
      exact fun _ => ⟨rfl, PFun.fix_stop turned⟩

/-- A stream that looks for items to keep is a layer of single images or none. -/
theorem layer_filter {above : lib.Stream (Except StoreError α) → lib.Stream (Except StoreError α)}
    (pulls : ∀ source state, lib.next (above source) state
      = ((Streams.filterTurn lib.next p).fix (source, state)).map (Streams.Pulled.mapLeft above)) :
    Layer lib (filter p).images fun top group source => group = [] ∧ top = above source where
  gives := by
    rintro top left group source state later result ⟨rfl, rfl⟩ pulled
    rw [pulls, Part.mem_map_iff] at pulled
    obtain ⟨⟨⟨item, rest⟩, between⟩, ends, same⟩ := pulled
    cases same
    exact ⟨[], rest, turn_of_mem_fix ends, rfl, rfl⟩
  comes := by
    rintro top group others source rest state later result ⟨rfl, rfl⟩ turn
    obtain ⟨rfl, ends⟩ := mem_fix_of_turn turn rfl
    exact ⟨above rest, pulls source state ▸ Part.mem_map _ ends, rfl, rfl⟩

/-! `flatMap` stands on the groups that a call makes of the items. -/

section

variable {f : α → Effect σ (Except StoreError (List β))}
  {groups : lib.Stream (Except StoreError α) →
    lib.Stream (Except StoreError (List (Except StoreError β)))}

/-- What is pulled of the groups, by what is pulled of the items. -/
def groupStep (f : α → Effect σ (Except StoreError (List β)))
    (groups : lib.Stream (Except StoreError α) →
      lib.Stream (Except StoreError (List (Except StoreError β)))) :
    Pulled σ (lib.Stream (Except StoreError α)) (Except StoreError α) →
      Pulled σ (lib.Stream (Except StoreError (List (Except StoreError β))))
        (Except StoreError (List (Except StoreError β)))
  | ((none, left), state) => ((none, groups left), state)
  | ((some (.error error), left), state) => ((some (.error error), groups left), state)
  | ((some (.ok item), left), state) =>
    ((some ((f item state).1.map fun images => images.map .ok), groups left), (f item state).2)

variable (made : ∀ source state, lib.next (groups source) state
  = (lib.next source state).map (groupStep f groups))

include made

/-- A loop that gives out groups makes one turn of a layer. -/
theorem turn_of_mem_flatten {items : List (Except StoreError β)}
    {stream : lib.Stream (Except StoreError (List (Except StoreError β)))}
    {result : Option (Except StoreError β)}
    {at_ : (List (Except StoreError β) × lib.Stream (Except StoreError
      (List (Except StoreError β)))) × σ}
    (ends : ((result, items, stream), later) ∈ (Streams.flattenTurn lib.next).fix at_) :
    ∀ group source, at_.1 = (group.map .ok, groups source) →
      ∃ others rest, (items, stream) = (others.map .ok, groups rest) ∧
        Turn lib f group source at_.2 result others rest later := by
  refine PFun.fixInduction' ends ?_ ?_
  · rintro ⟨_, state⟩ stops group source rfl
    cases group with
    | cons item group =>
      cases Part.mem_some_iff.1 stops
      exact ⟨group, source, rfl, .given⟩
    | nil =>
      obtain ⟨group, below, same⟩ := (Part.mem_map_iff _).1 stops
      rw [made] at below
      obtain ⟨⟨⟨item, left⟩, between⟩, pulled, rfl⟩ := (Part.mem_map_iff _).1 below
      rcases item with _ | error | item
      · cases same
        exact ⟨[], left, rfl, .ended pulled⟩
      · cases same
        exact ⟨[], left, rfl, .failed pulled⟩
      · rcases ran : f item between with ⟨error | images, after⟩
        · rw [groupStep, ran] at same
          cases same
          exact ⟨[], left, rfl, .broke pulled ran⟩
        · rw [groupStep, ran] at same
          cases same
  · rintro ⟨_, state⟩ ⟨_, after⟩ - goes_on ih group source rfl
    cases group with
    | cons item group => cases Part.mem_some_iff.1 goes_on
    | nil =>
      obtain ⟨group, below, same⟩ := (Part.mem_map_iff _).1 goes_on
      rw [made] at below
      obtain ⟨⟨⟨item, left⟩, between⟩, pulled, rfl⟩ := (Part.mem_map_iff _).1 below
      rcases item with _ | error | item
      · cases same
      · cases same
      · rcases ran : f item between with ⟨error | images, after⟩
        · rw [groupStep, ran] at same
          cases same
        · rw [groupStep, ran] at same
          cases same
          obtain ⟨others, rest, left_over, turn⟩ := ih images left rfl
          exact ⟨others, rest, left_over, .made pulled ran turn⟩

/-- One turn of a layer is made by such a loop. -/
theorem mem_flatten_of_turn {group others : List β} {source rest : lib.Stream (Except StoreError α)}
    {result : Option (Except StoreError β)}
    (turn : Turn lib f group source state result others rest later) :
    ((result, others.map .ok, groups rest), later)
      ∈ (Streams.flattenTurn lib.next).fix ((group.map .ok, groups source), state) := by
  have turned {source : lib.Stream (Except StoreError α)} {state : σ}
      {pulled : Pulled σ (lib.Stream (Except StoreError α)) (Except StoreError α)}
      (below : pulled ∈ lib.next source state) :
      Streams.flattenStep (groupStep f groups pulled)
        ∈ Streams.flattenTurn lib.next (([], groups source), state) :=
    Part.mem_map _ (made source state ▸ Part.mem_map _ below)
  induction turn with
  | given => exact PFun.fix_stop (Part.mem_some _)
  | ended below => exact PFun.fix_stop (turned below)
  | failed below => exact PFun.fix_stop (turned below)
  | broke below ran =>
    have stops := turned below
    rw [groupStep, ran] at stops
    exact PFun.fix_stop stops
  | made below ran _ ih =>
    have goes_on := turned below
    rw [groupStep, ran] at goes_on
    exact PFun.mem_fix_iff.2 (.inr ⟨_, goes_on, ih⟩)

/-- A stream that gives out the groups is a layer of theirs. -/
theorem layer_flatMap {above : List (Except StoreError β) × lib.Stream (Except StoreError
      (List (Except StoreError β))) → lib.Stream (Except StoreError β)}
    (pulls : ∀ source state, lib.next (above source) state
      = ((Streams.flattenTurn lib.next).fix (source, state)).map (Streams.Pulled.mapLeft above)) :
    Layer lib f fun top group source => top = above (group.map .ok, groups source) where
  gives := by
    rintro top left group source state later result rfl pulled
    rw [pulls, Part.mem_map_iff] at pulled
    obtain ⟨⟨⟨item, items, stream⟩, between⟩, ends, same⟩ := pulled
    cases same
    obtain ⟨others, rest, left_over, turn⟩ := turn_of_mem_flatten made ends group source rfl
    exact ⟨others, rest, turn, congrArg above left_over⟩
  comes := by
    rintro top group others source rest state later result rfl turn
    exact ⟨_, pulls _ state ▸ Part.mem_map _ (mem_flatten_of_turn made turn), rfl⟩

end

/-- Over a library that does what is documented, every stage is a layer over the stream of a
sequence, and to put it there does nothing else. -/
theorem exists_layer (lawful : lib.Lawful) (stage : Stage σ α β) :
    ∃ Over, Layer lib stage.images Over ∧ ∀ (sequence : ResultSequence lib α) (state : σ),
      ∃ top, stage.atop sequence state = (.ofStream top, state) ∧
        Over top [] sequence.intoStream := by
  cases stage with
  | map f =>
    obtain ⟨above, made, pulls⟩ := lawful.andThen (ResultSequence.onItem f)
    refine ⟨_, layer_map pulls, fun sequence state => ⟨above sequence.intoStream, ?_, rfl, rfl⟩⟩
    rw [atop, ResultSequence.map, made]
  | filter p =>
    obtain ⟨above, made, pulls⟩ := lawful.tryFilter p
    refine ⟨_, layer_filter pulls, fun sequence state => ⟨above sequence.intoStream, ?_, rfl, rfl⟩⟩
    rw [atop, ResultSequence.filter, made]
  | flatMap f =>
    obtain ⟨mapped, mapped_made, mapped_pulls⟩ := lawful.andThen (ResultSequence.onItem f)
    obtain ⟨groups, groups_made, groups_pulls⟩ :=
      lawful.mapOk fun items : List β => (items.map .ok : List (Except StoreError β))
    obtain ⟨above, above_made, above_pulls⟩ := lawful.tryFlatten (α := β)
    refine ⟨fun top group source => top = above (group.map .ok, groups (mapped source)),
      layer_flatMap ?_ above_pulls,
      fun sequence state => ⟨above ([], groups (mapped sequence.intoStream)), ?_, rfl⟩⟩
    · intro source state
      rw [groups_pulls, mapped_pulls, Part.map_map]
      congr 1
      funext ⟨⟨item, left⟩, between⟩
      rcases item with _ | error | item <;> rfl
    · simp only [atop, ResultSequence.flatMap, ResultSequence.map, ResultSequence.intoStream,
        ResultSequence.ofStream, mapped_made, groups_made, above_made]

end Stage

end KeyStore
