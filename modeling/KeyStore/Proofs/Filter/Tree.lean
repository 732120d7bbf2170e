import KeyStore.Filter

/-!
# Filters as trees

Groups hold lists of filters, so the induction that comes with the type does not speak of their
parts. `Filter.tree_induction` does: a property of every part of a group may be used for the group.

`Filter.holdsCustom` says whether a predicate of the caller occurs anywhere in a filter, which is
whether one stands `Within` it.
-/

namespace KeyStore.Filter

/-- A property holds of every filter if each constructor hands it on from its parts. -/
@[elab_as_elim, induction_eliminator]
theorem tree_induction {motive : Filter → Prop}
    (equals : ∀ value, motive (.equals value))
    (equalsIgnoringCase : ∀ text, motive (.equalsIgnoringCase text))
    (containsIgnoringCase : ∀ text, motive (.containsIgnoringCase text))
    (shortId : ∀ digits, motive (.shortId digits))
    (lessThan : ∀ bound, motive (.lessThan bound))
    (atMost : ∀ bound, motive (.atMost bound))
    (greaterThan : ∀ bound, motive (.greaterThan bound))
    (atLeast : ∀ bound, motive (.atLeast bound))
    (not : ∀ inner, motive inner → motive (.not inner))
    (all : ∀ parts, (∀ part ∈ parts, motive part) → motive (.all parts))
    (any : ∀ parts, (∀ part ∈ parts, motive part) → motive (.any parts))
    (custom : ∀ predicate, motive (.custom predicate)) : ∀ filter, motive filter
  | .equals value => equals value
  | .equalsIgnoringCase text => equalsIgnoringCase text
  | .containsIgnoringCase text => containsIgnoringCase text
  | .shortId digits => shortId digits
  | .lessThan bound => lessThan bound
  | .atMost bound => atMost bound
  | .greaterThan bound => greaterThan bound
  | .atLeast bound => atLeast bound
  | .not inner => not inner (tree_induction equals equalsIgnoringCase containsIgnoringCase shortId
      lessThan atMost greaterThan atLeast not all any custom inner)
  | .all parts => all parts fun part _ => tree_induction equals equalsIgnoringCase
      containsIgnoringCase shortId lessThan atMost greaterThan atLeast not all any custom part
  | .any parts => any parts fun part _ => tree_induction equals equalsIgnoringCase
      containsIgnoringCase shortId lessThan atMost greaterThan atLeast not all any custom part
  | .custom predicate => custom predicate

mutual

/-- Whether a predicate of the caller occurs in the filter, at any depth. -/
def holdsCustom : Filter → Bool
  | not inner => holdsCustom inner
  | all parts => anyHoldsCustom parts
  | any parts => anyHoldsCustom parts
  | custom _ => true
  | _ => false

/-- Whether a predicate of the caller occurs in one of the filters. -/
def anyHoldsCustom : List Filter → Bool
  | [] => false
  | part :: rest => holdsCustom part || anyHoldsCustom rest

end

theorem anyHoldsCustom_iff (parts : List Filter) :
    anyHoldsCustom parts = true ↔ ∃ part ∈ parts, part.holdsCustom = true := by
  induction parts with
  | nil => exact ⟨nofun, nofun⟩
  | cons part rest ih =>
    simp only [anyHoldsCustom, Bool.or_eq_true, ih, List.mem_cons, exists_eq_or_imp]

theorem anyHoldsCustom_eq_false_iff (parts : List Filter) :
    anyHoldsCustom parts = false ↔ ∀ part ∈ parts, part.holdsCustom = false := by
  rw [← Bool.not_eq_true, anyHoldsCustom_iff]
  simp only [not_exists, not_and, Bool.not_eq_true]

/-- The part stands somewhere in the filter, at any depth. -/
inductive Within (part : Filter) : Filter → Prop
  | here : Within part part
  | not {inner} (deeper : Within part inner) : Within part (.not inner)
  | all {parts inner} (listed : inner ∈ parts) (deeper : Within part inner) :
    Within part (.all parts)
  | any {parts inner} (listed : inner ∈ parts) (deeper : Within part inner) :
    Within part (.any parts)

/-- A predicate of the caller stands somewhere in the filter. -/
def HasCustom (filter : Filter) : Prop := ∃ predicate, Within (.custom predicate) filter

theorem holdsCustom_of_within {predicate : Predicate} {filter : Filter}
    (within : Within (.custom predicate) filter) : filter.holdsCustom = true := by
  induction within with
  | here => rfl
  | not _ ih => exact ih
  | all listed _ ih => exact (anyHoldsCustom_iff _).2 ⟨_, listed, ih⟩
  | any listed _ ih => exact (anyHoldsCustom_iff _).2 ⟨_, listed, ih⟩

theorem hasCustom_of_holdsCustom (filter : Filter) :
    filter.holdsCustom = true → filter.HasCustom := by
  induction filter with
  | not inner ih => exact fun held => (ih held).imp fun _ => .not
  | all parts ih =>
    intro held
    obtain ⟨part, listed, inside⟩ := (anyHoldsCustom_iff parts).1 held
    exact (ih part listed inside).imp fun _ => .all listed
  | any parts ih =>
    intro held
    obtain ⟨part, listed, inside⟩ := (anyHoldsCustom_iff parts).1 held
    exact (ih part listed inside).imp fun _ => .any listed
  | custom predicate => exact fun _ => ⟨predicate, .here⟩
  | _ => exact nofun

theorem holdsCustom_iff (filter : Filter) : filter.holdsCustom = true ↔ filter.HasCustom :=
  ⟨hasCustom_of_holdsCustom filter, fun ⟨_, within⟩ => holdsCustom_of_within within⟩

end KeyStore.Filter
