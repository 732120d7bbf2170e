import Mathlib.Data.List.Infix
import KeyStore.Sequence
import KeyStore.ResultSequence

/-!
# Courses

What is known of the items of a source, and of how they end, is a course. It is the list that a
sequence is to work through: a stage goes over the items in their order and stops at the first
error, which comes after all that was made before it. Of a source that does not end more and more is
known (`Progress`).
-/

namespace KeyStore

variable {σ : Type} {α β : Type}

/-- What comes after items: an error, the end, or something that is not known. -/
def Sequence.Ending.result? (value : α) : Sequence.Ending → Option (Except StoreError α)
  | .failed error => some (.error error)
  | .finished => some (.ok value)
  | .paused => none

/-- What a stream gives where a sequence gives the signal. -/
def pulledOf : Except StoreError (Option α) → Option (Except StoreError α)
  | .error error => some (.error error)
  | .ok none => none
  | .ok (some item) => some (.ok item)

theorem pulledOf_injective {signal : Except StoreError (Option α)}
    (other : Except StoreError (Option α)) (same : pulledOf signal = pulledOf other) :
    signal = other := by
  obtain _ | _ | _ := signal <;> obtain _ | _ | _ := other <;> cases same <;> rfl

theorem exists_eq_pulledOf (item : Option (Except StoreError α)) :
    ∃ signal, item = pulledOf signal := by
  obtain _ | error | item := item
  · exact ⟨.ok none, rfl⟩
  · exact ⟨.error error, rfl⟩
  · exact ⟨.ok (some item), rfl⟩

/-- Items as far as they are known, and what comes after them. -/
structure Course (α : Type) where
  items : List α
  ending : Sequence.Ending

namespace Course

/-- What comes first, if that is known. -/
def head : Course α → Option (Except StoreError (Option α))
  | ⟨[], ending⟩ => ending.result? none
  | ⟨item :: _, _⟩ => some (.ok (some item))

/-- What follows the first item; at the end, the end again. -/
def left (course : Course α) : Course α := ⟨course.items.tail, course.ending⟩

/-- Items in front of a course. -/
def prepend (front : List α) (course : Course α) : Course α :=
  ⟨front ++ course.items, course.ending⟩

/-- A course is unknown from the start, ends at once, or has an item in front of another course. -/
@[elab_as_elim]
theorem stepwise {motive : Course α → Prop} (unknown : motive ⟨[], .paused⟩)
    (finished : motive ⟨[], .finished⟩) (failed : ∀ error, motive ⟨[], .failed error⟩)
    (item : ∀ item rest, motive rest → motive (prepend [item] rest)) (course : Course α) :
    motive course := by
  obtain ⟨items, ending⟩ := course
  induction items with
  | nil =>
    cases ending with
    | paused => exact unknown
    | finished => exact finished
    | failed error => exact failed error
  | cons head rest ih => exact item head ⟨rest, ending⟩ ih

/-- The images of some items in their order, up to the first error. -/
def images (f : α → Except StoreError (List β)) (ending : Sequence.Ending) : List α → Course β
  | [] => ⟨[], ending⟩
  | item :: rest =>
    match f item with
    | .error error => ⟨[], .failed error⟩
    | .ok images => (Course.images f ending rest).prepend images

/-- Replaces each item by its images. -/
def flatMap (f : α → Except StoreError (List β)) (course : Course α) : Course β :=
  images f course.ending course.items

/-- Replaces each item by its image. -/
def map (f : α → Except StoreError β) (course : Course α) : Course β :=
  course.flatMap fun item => (f item).map fun image => [image]

/-- Keeps the items that pass the test. -/
def filter (p : α → Bool) (course : Course α) : Course α :=
  course.flatMap fun item => .ok (if p item then [item] else [])

/-- Passes a value through some items up to the first error. -/
def foldItems (f : β → α → Except StoreError β) (ending : Sequence.Ending) :
    List α → β → Option (Except StoreError β)
  | [], value => ending.result? value
  | item :: rest, value =>
    match f value item with
    | .error error => some (.error error)
    | .ok next => foldItems f ending rest next

/-- Passes a value through the items up to the first error. -/
def fold (f : β → α → Except StoreError β) (course : Course α) (start : β) :
    Option (Except StoreError β) :=
  foldItems f course.ending course.items start

/-- All items, if no error comes after them. -/
def collect (course : Course α) : Option (Except StoreError (List α)) :=
  course.ending.result? course.items

/-- Visits the items up to the first error. -/
def forEach (visit : α → Except StoreError Unit) (course : Course α) :
    Option (Except StoreError Unit) :=
  course.fold (fun _ item => visit item) ()

variable {f : α → Except StoreError (List β)} {course : Course α} {item : α}

theorem eq_of_head (first : course.head = some (.ok (some item))) :
    course = course.left.prepend [item] := by
  obtain ⟨items, ending⟩ := course
  cases items with
  | nil => cases ending <;> cases first
  | cons head rest =>
    cases first
    rfl

theorem eq_of_end (first : course.head = some (.ok none)) : course = ⟨[], .finished⟩ := by
  obtain ⟨_ | ⟨head, rest⟩, _ | error | _⟩ := course <;> cases first
  rfl

theorem eq_of_failed {error : StoreError} (first : course.head = some (.error error)) :
    course = ⟨[], .failed error⟩ := by
  obtain ⟨_ | ⟨head, rest⟩, _ | error | _⟩ := course <;> cases first
  rfl

/-- After the end, or an error, it comes again. -/
theorem head_left {signal : Except StoreError (Option α)} (first : course.head = some signal)
    (ends : ∀ item, signal ≠ .ok (some item)) : course.left.head = some signal := by
  obtain ⟨_ | ⟨head, rest⟩, ending⟩ := course
  · exact first
  · cases first
    exact absurd rfl (ends head)

theorem flatMap_of_error {error : StoreError} (first : course.head = some (.ok (some item)))
    (broke : f item = .error error) : course.flatMap f = ⟨[], .failed error⟩ := by
  rw [eq_of_head first]
  simp only [flatMap, prepend, List.cons_append, images, broke]

theorem flatMap_of_ok {new : List β} (first : course.head = some (.ok (some item)))
    (made : f item = .ok new) : course.flatMap f = (course.left.flatMap f).prepend new := by
  conv_lhs => rw [eq_of_head first]
  simp only [flatMap, prepend, List.cons_append, List.nil_append, images, made]

theorem fold_of_item {f : β → α → Except StoreError β} {value : β}
    (first : course.head = some (.ok (some item))) :
    course.fold f value = match f value item with
      | .error error => some (.error error)
      | .ok next => course.left.fold f next := by
  rw [eq_of_head first]
  rfl

/-- To collect is to put each item behind those before it. -/
theorem fold_append (course : Course α) (front : List α) :
    course.fold (fun items item => .ok (items ++ [item])) front
      = course.ending.result? (front ++ course.items) := by
  obtain ⟨items, ending⟩ := course
  induction items generalizing front with
  | nil => rw [fold, foldItems, List.append_nil]
  | cons item rest ih =>
    rw [List.append_cons]
    exact ih (front ++ [item])

/-- One course is the other, or as much of it as is known. -/
def Within (course whole : Course α) : Prop :=
  course = whole ∨ course.ending = .paused ∧ course.items <+: whole.items

namespace Within

variable {course whole : Course α}

theorem refl (course : Course α) : course.Within course := Or.inl rfl

theorem prepend (within : course.Within whole) (front : List α) :
    (course.prepend front).Within (whole.prepend front) := by
  rcases within with rfl | ⟨open_, start⟩
  · exact Or.inl rfl
  · exact Or.inr ⟨open_, (List.prefix_append_right_inj front).2 start⟩

theorem left (within : course.Within whole) : course.left.Within whole.left := by
  rcases within with rfl | ⟨open_, start⟩
  · exact Or.inl rfl
  · have others := start.drop 1
    rw [List.drop_one, List.drop_one] at others
    exact Or.inr ⟨open_, others⟩

/-- What comes first is known for good. -/
theorem head (within : course.Within whole) {signal : Except StoreError (Option α)}
    (known : course.head = some signal) : whole.head = some signal := by
  obtain ⟨items, ending⟩ := course
  rcases within with rfl | ⟨rfl, start⟩
  · exact known
  · cases items with
    | nil => cases known
    | cons item rest =>
      obtain ⟨more, whole_items⟩ := start
      obtain ⟨_, _⟩ := whole
      cases whole_items
      exact known

theorem flatMap (f : α → Except StoreError (List β)) (within : course.Within whole) :
    (course.flatMap f).Within (whole.flatMap f) := by
  obtain ⟨items, ending⟩ := course
  rcases within with rfl | ⟨rfl, start⟩
  · exact .refl _
  · obtain ⟨more, whole_items⟩ := start
    obtain ⟨_, ended⟩ := whole
    cases whole_items
    induction items with
    | nil => exact Or.inr ⟨rfl, List.nil_prefix⟩
    | cons item rest ih =>
      change Within (images f .paused (item :: rest)) (images f ended (item :: (rest ++ more)))
      rw [images, images]
      cases f item with
      | error error => exact .refl _
      | ok images => exact ih.prepend images

end Within

end Course

/-- What is known of a course as time goes on. -/
@[ext] structure Progress (α : Type) where
  known : Nat → Course α
  grows : ∀ time more, (known time).Within (known (time + more))

namespace Progress

/-- All is known at once. -/
def whole (course : Course α) : Progress α := ⟨fun _ => course, fun _ _ => .refl _⟩

/-- What comes first does not change. -/
theorem head_unique (progress : Progress α) {time other : Nat}
    {first again : Except StoreError (Option α)} (head : (progress.known time).head = some first)
    (known : (progress.known other).head = some again) : first = again := by
  have grown := (progress.grows time other).head head
  rw [Nat.add_comm, (progress.grows other time).head known] at grown
  exact (Option.some.inj grown).symm

/-- What is known from a time on. -/
def since (progress : Progress α) (time : Nat) : Progress α where
  known more := progress.known (time + more)
  grows first more := by
    rw [← Nat.add_assoc]
    exact progress.grows (time + first) more

/-- What is known from a time on of what follows the first item. -/
def left (progress : Progress α) (time : Nat) : Progress α where
  known more := ((progress.since time).known more).left
  grows first more := ((progress.since time).grows first more).left

theorem left_since (progress : Progress α) (time more : Nat) :
    (progress.since time).left more = progress.left (time + more) :=
  Progress.ext <| funext fun later =>
    congrArg (fun time => (progress.known time).left) (Nat.add_assoc time more later).symm

/-- Items in front. -/
def prepend (front : List α) (progress : Progress α) : Progress α where
  known time := (progress.known time).prepend front
  grows time more := (progress.grows time more).prepend front

/-- Replaces each item by its images. -/
def flatMap (f : α → Except StoreError (List β)) (progress : Progress α) : Progress β where
  known time := (progress.known time).flatMap f
  grows time more := (progress.grows time more).flatMap f

/-- Replaces each item by its image. -/
def map (f : α → Except StoreError β) (progress : Progress α) : Progress β :=
  progress.flatMap fun item => (f item).map fun image => [image]

/-- Keeps the items that pass the test. -/
def filter (p : α → Bool) (progress : Progress α) : Progress α :=
  progress.flatMap fun item => .ok (if p item then [item] else [])

/-- What is known of items that are numbered, once so many of them are known. -/
def pulled (items : Nat → Option (Except StoreError α)) : Nat → Nat → Course α
  | _, 0 => ⟨[], .paused⟩
  | start, count + 1 =>
    match items start with
    | none => ⟨[], .finished⟩
    | some (.error error) => ⟨[], .failed error⟩
    | some (.ok item) => (pulled items (start + 1) count).prepend [item]

theorem pulled_within (items : Nat → Option (Except StoreError α)) (start count more : Nat) :
    (pulled items start count).Within (pulled items start (count + more)) := by
  induction count generalizing start with
  | zero => exact Or.inr ⟨rfl, List.nil_prefix⟩
  | succ count ih =>
    rw [Nat.add_right_comm, pulled, pulled]
    rcases items start with _ | error | item
    · exact .refl _
    · exact .refl _
    · exact (ih (start + 1)).prepend [item]

/-- What is known of numbered items, one after the other. -/
def ofItems (items : Nat → Option (Except StoreError α)) (start : Nat) : Progress α :=
  ⟨pulled items start, pulled_within items start⟩

/-- The first item of those that are numbered is known after one pull. -/
theorem head_ofItems {items : Nat → Option (Except StoreError α)} {place : Nat}
    {signal : Except StoreError (Option α)} (next : items place = pulledOf signal) (count : Nat) :
    ((ofItems items place).known (count + 1)).head = some signal := by
  change (pulled items place (count + 1)).head = _
  rw [pulled, next]
  obtain _ | _ | _ := signal <;> rfl

theorem left_ofItems {items : Nat → Option (Except StoreError α)} {place : Nat} {item : α}
    (next : items place = some (.ok item)) (time : Nat) :
    (ofItems items place).left (time + 1) = (ofItems items (place + 1)).since time := by
  refine Progress.ext (funext fun more => ?_)
  change (pulled items place (time + 1 + more)).left = pulled items (place + 1) (time + more)
  rw [Nat.add_right_comm, pulled, next]
  rfl

end Progress

end KeyStore
