import KeyStore.Proofs.Sequence.Courses
import KeyStore.Proofs.Sequence.Layers

/-!
# Sequences that follow a course

A stream follows a course if it gives what is known of it, whatever the surroundings in which it is
pulled, up to the end or the first error (`Streams.Follows`). What it would give after that is left
open: the adapters go on after an error. So a layer over it follows the course of the images
(`Layer.follows`), and for a sequence the latch does the rest: what is pulled of it is what the
course says for good (`ResultSequence.Follows.next`, `Follows.exists_next`).
-/

namespace KeyStore

variable {σ : Type} {lib : Streams σ} {α β : Type}

/-- Whatever the surroundings in which it is pulled, so many pulls of the stream give what is known
of the course, and nothing else. What follows an error or the end is left open. -/
def Streams.Follows (lib : Streams σ) :
    Nat → Progress α → lib.Stream (Except StoreError α) → Prop
  | 0, _, _ => True
  | count + 1, progress, stream => ∀ state,
    (∀ pulled ∈ lib.next stream state, ∃ time signal,
      (progress.known time).head = some signal ∧ pulled.1.1 = pulledOf signal) ∧
    ∀ time signal, (progress.known time).head = some signal →
      ∃ left later, ((pulledOf signal, left), later) ∈ lib.next stream state ∧
        ((∃ item, signal = .ok (some item)) → lib.Follows count (progress.left time) left)

namespace Streams.Follows

variable {progress : Progress α} {stream rest : lib.Stream (Except StoreError α)} {state later : σ}

theorem since {count : Nat} (follows : lib.Follows count progress stream) (time : Nat) :
    lib.Follows count (progress.since time) stream := by
  induction count generalizing progress stream with
  | zero => trivial
  | succ count ih =>
    intro state
    obtain ⟨gives, comes⟩ := follows state
    refine ⟨fun pulled member => ?_, fun more signal first => ?_⟩
    · obtain ⟨early, signal, first, same⟩ := gives pulled member
      have grown := (progress.grows early time).head first
      rw [Nat.add_comm] at grown
      exact ⟨early, signal, grown, same⟩
    · obtain ⟨left, later, pulled, others⟩ := comes (time + more) signal first
      refine ⟨left, later, pulled, fun item => ?_⟩
      rw [Progress.left_since]
      exact others item

/-- After an item that is known, the stream that is left gives what follows. -/
theorem left {item : α} (follows : ∀ count, lib.Follows count progress stream)
    (pulled : ((some (.ok item), rest), later) ∈ lib.next stream state) :
    ∃ time, (progress.known time).head = some (.ok (some item)) ∧
      ∀ time, (progress.known time).head = some (.ok (some item)) →
        ∀ count, lib.Follows count (progress.left time) rest := by
  obtain ⟨time, signal, first, same⟩ := (follows 1 state).1 _ pulled
  obtain _ | _ | head := signal <;> cases same
  refine ⟨time, first, fun time first count => ?_⟩
  obtain ⟨other, after, again, others⟩ := (follows (count + 1) state).2 time _ first
  cases Part.mem_unique again pulled
  exact others ⟨item, rfl⟩

end Streams.Follows

section

variable {images : α → Effect σ (Except StoreError (List β))}
  {value : α → Except StoreError (List β)} {progress : Progress α} {group others : List β}
  {source rest : lib.Stream (Except StoreError α)} {state later : σ}
  {result : Option (Except StoreError β)}
  (steady : ∀ item state, (images item state).1 = value item)

include steady

/-- What a turn gives is known of the images. -/
theorem exists_head_of_turn
    (turn : Turn lib images group source state result others rest later)
    (follows : ∀ count, lib.Follows count progress source) :
    ∃ time signal, (((progress.known time).flatMap value).prepend group).head = some signal ∧
      result = pulledOf signal := by
  induction turn generalizing progress with
  | given => exact ⟨0, .ok (some _), rfl, rfl⟩
  | ended pulled =>
    obtain ⟨time, _ | _ | _, first, same⟩ := (follows 1 _).1 _ pulled <;> cases same
    exact ⟨time, .ok none, by rw [Course.eq_of_end first]; rfl, rfl⟩
  | failed pulled =>
    obtain ⟨time, _ | _ | _, first, same⟩ := (follows 1 _).1 _ pulled <;> cases same
    exact ⟨time, .error _, by rw [Course.eq_of_failed first]; rfl, rfl⟩
  | @broke _ _ _ between _ item error pulled made =>
    obtain ⟨time, first, -⟩ := Streams.Follows.left follows pulled
    have broke := steady item between
    rw [made] at broke
    refine ⟨time, .error error, ?_, rfl⟩
    rw [Course.flatMap_of_error first broke.symm]
    rfl
  | @made _ _ _ _ between _ _ item _ _ _ pulled made _ ih =>
    obtain ⟨time, first, after⟩ := Streams.Follows.left follows pulled
    have new := steady item between
    rw [made] at new
    obtain ⟨more, signal, head, same⟩ := ih (after time first)
    refine ⟨time + more, signal, ?_, same⟩
    rw [Course.flatMap_of_ok ((progress.grows time more).head first) new.symm]
    exact head

/-- A turn that gives what is known of the images from a time on, and goes on with what follows. -/
def HasTurn (lib : Streams σ) (images : α → Effect σ (Except StoreError (List β)))
    (value : α → Except StoreError (List β)) (progress : Progress α) (group : List β)
    (source : lib.Stream (Except StoreError α)) (state : σ) (time : Nat)
    (signal : Except StoreError (Option β)) : Prop :=
  ∃ others rest later, Turn lib images group source state (pulledOf signal) others rest later ∧
    ((∃ item, signal = .ok (some item)) → ∃ left : Progress α,
      (∀ count, lib.Follows count left rest) ∧
        ((progress.flatMap value).prepend group).left time = (left.flatMap value).prepend others)

omit steady in
theorem hasTurn_of_image (follows : ∀ count, lib.Follows count progress source) (image : β)
    (time : Nat) : HasTurn lib images value progress (image :: group) source state time
      (.ok (some image)) :=
  ⟨group, source, state, .given, fun _ =>
    ⟨progress.since time, fun count => (follows count).since time, rfl⟩⟩

/-- What is known of the images is given by a turn. -/
theorem hasTurn_of_head (state : σ) (follows : ∀ count, lib.Follows count progress source)
    {time : Nat} {signal : Except StoreError (Option β)}
    (head : (((progress.known time).flatMap value).prepend group).head = some signal) :
    HasTurn lib images value progress group source state time signal := by
  induction known : progress.known time using Course.stepwise
    generalizing progress time group source state with
  | unknown =>
    obtain _ | ⟨image, group⟩ := group
    · rw [known] at head
      cases head
    · cases head
      exact hasTurn_of_image follows image time
  | finished =>
    obtain _ | ⟨image, group⟩ := group
    · rw [known] at head
      cases head
      obtain ⟨left, later, pulled, -⟩ := (follows 1 state).2 time (.ok none) (known ▸ rfl)
      exact ⟨[], left, later, .ended pulled, nofun⟩
    · cases head
      exact hasTurn_of_image follows image time
  | failed error =>
    obtain _ | ⟨image, group⟩ := group
    · rw [known] at head
      cases head
      obtain ⟨left, later, pulled, -⟩ := (follows 1 state).2 time (.error error) (known ▸ rfl)
      exact ⟨[], left, later, .failed pulled, nofun⟩
    · cases head
      exact hasTurn_of_image follows image time
  | item item rest ih =>
    obtain _ | ⟨image, group⟩ := group
    · have first : (progress.known time).head = some (.ok (some item)) := known ▸ rfl
      obtain ⟨left, later, pulled, -⟩ := (follows 1 state).2 time _ first
      obtain ⟨-, -, after⟩ := Streams.Follows.left follows pulled
      rcases made : images item later with ⟨error | new, between⟩
      · have broke := steady item later
        rw [made] at broke
        rw [Course.flatMap_of_error first broke.symm] at head
        cases head
        exact ⟨[], left, between, .broke pulled made, nofun⟩
      · have images_item := steady item later
        rw [made] at images_item
        rw [Course.flatMap_of_ok first images_item.symm] at head
        have later_head : ((((progress.left time).known 0).flatMap value).prepend new).head
            = some signal := head
        obtain ⟨others, below, last, turn, goes_on⟩ :=
          ih between (after time first) later_head (congrArg Course.left known)
        refine ⟨others, below, last, .made pulled made turn, fun item => ?_⟩
        obtain ⟨left, follows, same⟩ := goes_on item
        refine ⟨left, follows, Eq.trans (Progress.ext (funext fun more => ?_)) same⟩
        have grown := (progress.grows time more).head first
        change (((progress.known (time + more)).flatMap value).prepend []).left
          = ((((progress.left time).known (0 + more)).flatMap value).prepend new).left
        rw [Course.flatMap_of_ok grown images_item.symm, Nat.zero_add]
        rfl
    · cases head
      exact hasTurn_of_image follows image time

end

/-- A layer gives the images of what its source gives, if these are the same at any time. -/
theorem Layer.follows {images : α → Effect σ (Except StoreError (List β))}
    {value : α → Except StoreError (List β)}
    {Over : lib.Stream (Except StoreError β) → List β → lib.Stream (Except StoreError α) → Prop}
    (layer : Layer lib images Over) (steady : ∀ item state, (images item state).1 = value item)
    {progress : Progress α} {group : List β} {top : lib.Stream (Except StoreError β)}
    {source : lib.Stream (Except StoreError α)} (above : Over top group source)
    (follows : ∀ count, lib.Follows count progress source) (count : Nat) :
    lib.Follows count ((progress.flatMap value).prepend group) top := by
  induction count generalizing progress group top source with
  | zero => trivial
  | succ count ih =>
    refine fun state => ⟨fun pulled member => ?_, fun time signal head => ?_⟩
    · obtain ⟨_, _, turn, _⟩ := layer.gives above member
      exact exists_head_of_turn steady turn follows
    · obtain ⟨others, rest, later, turn, goes_on⟩ := hasTurn_of_head steady state follows head
      obtain ⟨left, pulled, above⟩ := layer.comes above turn
      refine ⟨left, later, pulled, fun item => ?_⟩
      obtain ⟨progress, follows, same⟩ := goes_on item
      exact same ▸ ih above follows

/-! ### Sequences -/

/-- A function whose result for an item is the same at any time, whatever else it does. -/
structure Steady (σ α β : Type) where
  act : α → Effect σ β
  value : α → β
  gives : ∀ item state, (act item state).1 = value item

namespace Streams.Follows

variable {progress : Progress α} {time : Nat}

/-- The stream that gives an error gives what is known to fail. -/
theorem once (lawful : lib.Lawful) {error : StoreError} (time : Nat)
    (head : (progress.known time).head = some (.error error)) (count : Nat) :
    lib.Follows count progress (lib.once (.error error)) := by
  obtain _ | count := count
  · trivial
  · intro state
    obtain ⟨left, gives⟩ := lawful.next_once (ι := Except StoreError α) (.error error) state
    rw [gives]
    refine ⟨fun pulled member => ?_, fun other signal first => ?_⟩
    · cases Part.mem_some_iff.1 member
      exact ⟨time, _, head, rfl⟩
    · cases progress.head_unique head first
      exact ⟨left, state, Part.mem_some _, nofun⟩

/-- The stream that gives nothing gives what is known to have ended. -/
theorem empty (lawful : lib.Lawful) (time : Nat)
    (head : (progress.known time).head = some (.ok none)) (count : Nat) :
    lib.Follows count progress lib.empty := by
  obtain _ | count := count
  · trivial
  · intro state
    obtain ⟨left, gives⟩ := lawful.next_empty (ι := Except StoreError α) state
    rw [gives]
    refine ⟨fun pulled member => ?_, fun other signal first => ?_⟩
    · cases Part.mem_some_iff.1 member
      exact ⟨time, _, head, rfl⟩
    · cases progress.head_unique head first
      exact ⟨left, state, Part.mem_some _, nofun⟩

end Streams.Follows

namespace ResultSequence

/-- The sequence gives what is known of the course, whenever it is pulled. -/
def Follows (sequence : ResultSequence lib α) (progress : Progress α) : Prop :=
  ∀ count, lib.Follows count progress sequence.intoStream

variable {sequence rest : ResultSequence lib α} {progress : Progress α} {state later : σ}
  {signal : Except StoreError (Option α)} {time : Nat}

theorem follows_failed (lawful : lib.Lawful) {error : StoreError} (time : Nat)
    (head : (progress.known time).head = some (.error error)) :
    (failed error : ResultSequence lib α).Follows progress :=
  Streams.Follows.once lawful time head

theorem follows_empty (lawful : lib.Lawful) (time : Nat)
    (head : (progress.known time).head = some (.ok none)) :
    (empty : ResultSequence lib α).Follows progress :=
  Streams.Follows.empty lawful time head

/-- The stream of a sequence after a call of `next` that gave the signal: what is left of the stream
after an item, and nothing else than the signal again after an error or the end. -/
def latched (left : lib.Stream (Except StoreError α)) :
    Except StoreError (Option α) → lib.Stream (Except StoreError α)
  | .ok (some _) => left
  | .ok none => lib.empty
  | .error error => lib.once (.error error)

/-- A call of `next` pulls the stream of the sequence. -/
theorem exists_pulled_of_next (lawful : lib.Lawful)
    (member : ((signal, rest), later) ∈ sequence.next state) :
    ∃ left, ((pulledOf signal, left), later) ∈ lib.next sequence.intoStream state ∧
      rest.intoStream = latched left signal := by
  obtain ⟨source, _ | error⟩ := sequence
  · obtain _ | stream := source
    · cases Part.mem_some_iff.1 member
      obtain ⟨left, gives⟩ := lawful.next_empty (ι := Except StoreError α) state
      exact ⟨left, gives ▸ Part.mem_some _, rfl⟩
    · obtain ⟨⟨⟨item, left⟩, after⟩, pulled, same⟩ := (Part.mem_map_iff _).1 member
      obtain _ | error | item := item <;> cases same <;> exact ⟨left, pulled, rfl⟩
  · cases Part.mem_some_iff.1 member
    obtain ⟨left, gives⟩ := lawful.next_once (ι := Except StoreError α) (.error error) state
    exact ⟨left, gives ▸ Part.mem_some _, rfl⟩

theorem exists_next_of_pulled (lawful : lib.Lawful) (signal : Except StoreError (Option α))
    {left : lib.Stream (Except StoreError α)}
    (pulled : ((pulledOf signal, left), later) ∈ lib.next sequence.intoStream state) :
    ∃ rest, ((signal, rest), later) ∈ sequence.next state ∧
      rest.intoStream = latched left signal := by
  obtain ⟨source, _ | error⟩ := sequence
  · obtain _ | stream := source
    · obtain ⟨_, gives⟩ := lawful.next_empty (ι := Except StoreError α) state
      obtain ⟨same, rfl⟩ := Prod.ext_iff.1 (Part.mem_unique pulled (gives ▸ Part.mem_some _))
      cases pulledOf_injective (.ok none) (congrArg Prod.fst same)
      exact ⟨_, Part.mem_some _, rfl⟩
    · have member := Part.mem_map latch pulled
      obtain _ | _ | item := signal <;> exact ⟨_, member, rfl⟩
  · obtain ⟨_, gives⟩ := lawful.next_once (ι := Except StoreError α) (.error error) state
    obtain ⟨same, rfl⟩ := Prod.ext_iff.1 (Part.mem_unique pulled (gives ▸ Part.mem_some _))
    cases pulledOf_injective (.error error) (congrArg Prod.fst same)
    exact ⟨_, Part.mem_some _, rfl⟩

/-- A call of `next` gives what is known, and what is left gives what follows. -/
theorem Follows.next (lawful : lib.Lawful) (follows : sequence.Follows progress)
    (member : ((signal, rest), later) ∈ sequence.next state) :
    ∃ time, (progress.known time).head = some signal ∧
      ∀ time, (progress.known time).head = some signal → rest.Follows (progress.left time) := by
  obtain ⟨left, pulled, others⟩ := exists_pulled_of_next lawful member
  obtain ⟨time, other, head, same⟩ := (follows 1 state).1 _ pulled
  cases pulledOf_injective _ same
  refine ⟨time, head, fun time head count => ?_⟩
  rw [others]
  obtain error | _ | item := signal
  · exact Streams.Follows.once lawful 0 (Course.head_left head nofun) count
  · exact Streams.Follows.empty lawful 0 (Course.head_left head nofun) count
  · obtain ⟨-, -, after⟩ := Streams.Follows.left follows pulled
    exact after time head count

/-- What is known comes of a call of `next`. -/
theorem Follows.exists_next (lawful : lib.Lawful) (follows : sequence.Follows progress)
    (state : σ) (head : (progress.known time).head = some signal) :
    ∃ rest later, ((signal, rest), later) ∈ sequence.next state := by
  obtain ⟨left, later, pulled, -⟩ := (follows 1 state).2 time signal head
  obtain ⟨rest, member, -⟩ := exists_next_of_pulled lawful _ pulled
  exact ⟨rest, later, member⟩

theorem Follows.mem_first_iff (lawful : lib.Lawful) (follows : sequence.Follows progress) :
    (∃ later, (signal, later) ∈ sequence.first state) ↔
      ∃ time, (progress.known time).head = some signal := by
  constructor
  · rintro ⟨later, member⟩
    obtain ⟨⟨⟨result, rest⟩, _⟩, pulled, same⟩ := (Part.mem_map_iff _).1 member
    cases same
    obtain ⟨time, head, -⟩ := follows.next lawful pulled
    exact ⟨time, head⟩
  · rintro ⟨time, head⟩
    obtain ⟨rest, later, pulled⟩ := follows.exists_next lawful state head
    exact ⟨later, Part.mem_map _ pulled⟩

/-! ### Stages and loops -/

theorem Follows.stage (lawful : lib.Lawful) (stage : Stage σ α β)
    {value : α → Except StoreError (List β)}
    (steady : ∀ item state, (stage.images item state).1 = value item)
    (follows : sequence.Follows progress) (state : σ) :
    ∃ top : ResultSequence lib β, stage.atop sequence state = (top, state) ∧
      top.Follows (progress.flatMap value) := by
  obtain ⟨Over, layer, put⟩ := stage.exists_layer lawful
  obtain ⟨top, made, above⟩ := put sequence state
  exact ⟨ofStream top, made, layer.follows steady above follows⟩

theorem Follows.map (lawful : lib.Lawful) (f : Steady σ α (Except StoreError β))
    (follows : sequence.Follows progress) (state : σ) :
    ∃ top : ResultSequence lib β, sequence.map f.act state = (top, state) ∧
      top.Follows (progress.map f.value) :=
  follows.stage lawful (.map f.act)
    (fun item state => congrArg (Except.map fun image => [image]) (f.gives item state)) state

theorem Follows.filter (lawful : lib.Lawful) (p : Steady σ α Bool)
    (follows : sequence.Follows progress) (state : σ) :
    ∃ top : ResultSequence lib α, sequence.filter p.act state = (top, state) ∧
      top.Follows (progress.filter p.value) :=
  follows.stage lawful (.filter p.act)
    (fun item state => by simp only [Stage.images, p.gives]) state

theorem Follows.flatMap (lawful : lib.Lawful) (f : Steady σ α (Except StoreError (List β)))
    (follows : sequence.Follows progress) (state : σ) :
    ∃ top : ResultSequence lib β, sequence.flatMap f.act state = (top, state) ∧
      top.Follows (progress.flatMap f.value) :=
  follows.stage lawful (.flatMap f.act) f.gives state

section

variable {f : β → α → Effect σ (Except StoreError β)} {value : β → α → Except StoreError β}
  (steady : ∀ so_far item state, (f so_far item state).1 = value so_far item)
  {start : β} {result : Except StoreError β}

include steady

/-- What a loop over the items comes to is said by the course, once enough of it is known. -/
theorem Follows.fold_of_mem (lawful : lib.Lawful) (follows : sequence.Follows progress)
    (member : (result, later) ∈ sequence.fold f start state) :
    ∃ time, (progress.known time).fold value start = some result := by
  refine PFun.fixInduction' (C := fun at_ => ∀ progress, at_.1.2.Follows progress →
    ∃ time, (progress.known time).fold value at_.1.1 = some result) member ?_ ?_ progress follows
  · rintro ⟨⟨so_far, sequence⟩, state⟩ stops progress follows
    obtain ⟨⟨⟨signal, rest⟩, after⟩, pulled, same⟩ := (Part.mem_map_iff _).1 stops
    obtain ⟨time, head, -⟩ := follows.next lawful pulled
    refine ⟨time, ?_⟩
    obtain error | _ | item := signal
    · cases same
      rw [Course.eq_of_failed head]
      rfl
    · cases same
      rw [Course.eq_of_end head]
      rfl
    · have broke := steady so_far item after
      rcases ran : f so_far item after with ⟨error | next, last⟩
      · simp only [ran] at same broke
        cases same
        rw [Course.fold_of_item head, ← broke]
      · simp only [ran] at same
        cases same
  · rintro ⟨⟨so_far, sequence⟩, state⟩ ⟨⟨next, rest⟩, last⟩ - goes_on ih progress follows
    obtain ⟨⟨⟨signal, rest⟩, after⟩, pulled, same⟩ := (Part.mem_map_iff _).1 goes_on
    obtain ⟨time, head, others⟩ := follows.next lawful pulled
    obtain error | _ | item := signal
    · cases same
    · cases same
    · have went := steady so_far item after
      rcases ran : f so_far item after with ⟨error | next, last⟩
      · simp only [ran] at same
        cases same
      · simp only [ran] at same went
        cases same
        obtain ⟨more, known⟩ := ih _ (others time head)
        refine ⟨time + more, ?_⟩
        rw [Course.fold_of_item ((progress.grows time more).head head), ← went]
        exact known

/-- What the course says comes of the loop. -/
theorem Follows.exists_mem_fold (lawful : lib.Lawful) (follows : sequence.Follows progress)
    (fold : (progress.known time).fold value start = some result) :
    ∃ later, (result, later) ∈ sequence.fold f start state := by
  induction known : progress.known time using Course.stepwise
    generalizing progress sequence start state time with
  | unknown =>
    rw [known] at fold
    cases fold
  | finished =>
    rw [known] at fold
    cases fold
    obtain ⟨rest, later, pulled⟩ :=
      follows.exists_next lawful state (known ▸ rfl : (progress.known time).head = some (.ok none))
    exact ⟨later, PFun.fix_stop (Part.mem_map _ pulled)⟩
  | failed error =>
    rw [known] at fold
    cases fold
    obtain ⟨rest, later, pulled⟩ := follows.exists_next lawful state
      (known ▸ rfl : (progress.known time).head = some (.error error))
    exact ⟨later, PFun.fix_stop (Part.mem_map _ pulled)⟩
  | item item course ih =>
    have head : (progress.known time).head = some (.ok (some item)) := known ▸ rfl
    obtain ⟨rest, after, pulled⟩ := follows.exists_next lawful state head
    obtain ⟨-, -, others⟩ := follows.next lawful pulled
    have turned : _ ∈ foldTurn f ((start, sequence), state) := Part.mem_map _ pulled
    have went := steady start item after
    rw [Course.fold_of_item head, ← went] at fold
    rcases ran : f start item after with ⟨error | next, last⟩
    · simp only [ran] at turned fold
      cases fold
      exact ⟨last, PFun.fix_stop turned⟩
    · simp only [ran] at turned fold
      have others_fold : ((progress.left time).known 0).fold value next = some result := fold
      obtain ⟨final, ends⟩ := ih (others time head) others_fold (congrArg Course.left known)
      exact ⟨final, PFun.mem_fix_iff.2 (.inr ⟨_, turned, ends⟩)⟩

end

theorem Follows.mem_fold_iff (lawful : lib.Lawful) {f : β → α → Effect σ (Except StoreError β)}
    (value : β → α → Except StoreError β)
    (steady : ∀ so_far item state, (f so_far item state).1 = value so_far item)
    (follows : sequence.Follows progress) {start : β} {result : Except StoreError β} :
    (∃ later, (result, later) ∈ sequence.fold f start state) ↔
      ∃ time, (progress.known time).fold value start = some result :=
  ⟨fun ⟨_, member⟩ => follows.fold_of_mem steady lawful member,
    fun ⟨_, fold⟩ => follows.exists_mem_fold steady lawful fold⟩

end ResultSequence

end KeyStore
