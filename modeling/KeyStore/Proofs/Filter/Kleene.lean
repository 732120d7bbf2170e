import Mathlib.Data.Finset.Lattice.Fold
import KeyStore.Proofs.Filter.Agreement

/-!
# Three-valued logic

`Filter.evaluate` walks through a filter and stops as soon as it can. What it answers is the value
of the whole tree in the strong logic of Kleene, where a group is the least or the greatest of its
parts and a negation turns the order around (`Filter.valuation`). So a filter may be rewritten by
the laws of that logic anywhere inside it (`Filter.Rewrites`) without changing an answer.
-/

namespace KeyStore

open Sql

/-- What can be known of a question. -/
inductive Truth where
  | no
  | unknown
  | yes
deriving DecidableEq, Repr

namespace Truth

/-- The place of a truth value among the others. -/
def rank : Truth → Nat
  | no => 0
  | unknown => 1
  | yes => 2

theorem rank_injective : Function.Injective rank := by
  intro a b same
  cases a <;> cases b <;> first | rfl | cases same

instance : LinearOrder Truth := LinearOrder.lift' rank rank_injective

instance : BoundedOrder Truth where
  top := yes
  le_top truth := by cases truth <;> decide
  bot := no
  bot_le truth := by cases truth <;> decide

/-- The truth of the opposite. -/
def reverse : Truth → Truth
  | no => yes
  | unknown => unknown
  | yes => no

/-- What an answer says. -/
def ofAnswer : Option Bool → Truth
  | some true => yes
  | some false => no
  | none => unknown

theorem ofAnswer_injective : Function.Injective ofAnswer := by
  intro a b same
  rcases a with _ | _ | _ <;> rcases b with _ | _ | _ <;> first | rfl | cases same

theorem ofAnswer_map_not (answer : Option Bool) :
    ofAnswer (answer.map (!·)) = (ofAnswer answer).reverse := by
  rcases answer with _ | _ | _ <;> rfl

@[simp] theorem reverse_reverse (truth : Truth) : truth.reverse.reverse = truth := by
  cases truth <;> rfl

end Truth

/-! ### Connectives -/

namespace Sql.Connective

/-- The truth of two parts together. -/
def combine : Connective → Truth → Truth → Truth
  | and => min
  | or => max

/-- The truth of a group: the least truth among its parts for AND, the greatest for OR. -/
def settle : Connective → List Truth → Truth
  | and, truths => truths.toFinset.inf id
  | or, truths => truths.toFinset.sup id

/-- The connective that takes the place of this one below a negation. -/
def dual : Connective → Connective
  | and => or
  | or => and

theorem combine_assoc (connective : Connective) (a b c : Truth) :
    connective.combine (connective.combine a b) c
      = connective.combine a (connective.combine b c) := by
  cases connective
  · exact min_assoc a b c
  · exact max_assoc a b c

theorem reverse_combine (connective : Connective) (a b : Truth) :
    (connective.combine a b).reverse = connective.dual.combine a.reverse b.reverse := by
  cases connective <;> cases a <;> cases b <;> rfl

theorem ofAnswer_apply (connective : Connective) (answer other : Option Bool) :
    Truth.ofAnswer (connective.apply answer other)
      = connective.combine (.ofAnswer answer) (.ofAnswer other) := by
  cases connective <;> rcases answer with _ | _ | _ <;> rcases other with _ | _ | _ <;> rfl

theorem settle_cons (connective : Connective) (truth : Truth) (rest : List Truth) :
    connective.settle (truth :: rest) = connective.combine truth (connective.settle rest) := by
  cases connective with
  | and => rw [settle, List.toFinset_cons, Finset.inf_insert]; rfl
  | or => rw [settle, List.toFinset_cons, Finset.sup_insert]; rfl

theorem settle_append (connective : Connective) (truths others : List Truth) :
    connective.settle (truths ++ others)
      = connective.combine (connective.settle truths) (connective.settle others) := by
  cases connective with
  | and => rw [settle, List.toFinset_append, Finset.inf_union]; rfl
  | or => rw [settle, List.toFinset_append, Finset.sup_union]; rfl

/-- Only which truths occur matters, neither their order nor how often they do. -/
theorem settle_congr (connective : Connective) {truths others : List Truth}
    (same : ∀ truth, truth ∈ truths ↔ truth ∈ others) :
    connective.settle truths = connective.settle others := by
  have sets : truths.toFinset = others.toFinset := List.toFinset.ext same
  cases connective <;> rw [settle, settle, sets]

/-- A group may stand for its parts in a group of the same kind. -/
theorem settle_flatten (connective : Connective) (before inner after : List Truth) :
    connective.settle (before ++ connective.settle inner :: after)
      = connective.settle (before ++ inner ++ after) := by
  rw [settle_append, settle_cons, settle_append, settle_append, combine_assoc]

theorem reverse_settle (connective : Connective) (truths : List Truth) :
    (connective.settle truths).reverse = connective.dual.settle (truths.map Truth.reverse) := by
  induction truths with
  | nil => cases connective <;> rfl
  | cons truth rest ih => rw [settle_cons, reverse_combine, ih, List.map_cons, settle_cons]

theorem ofAnswer_fold (connective : Connective) (answers : List (Option Bool)) :
    Truth.ofAnswer (connective.fold answers) = connective.settle (answers.map Truth.ofAnswer) := by
  induction answers with
  | nil => cases connective <;> rfl
  | cons answer rest ih => rw [fold, ofAnswer_apply, ih, List.map_cons, settle_cons]

end Sql.Connective

/-! ### Valuation -/

namespace Filter

mutual

/-- The truth of a filter in strong Kleene logic, where `leaf` says how true the questions are that
are no groups and no negations. -/
def valuation (leaf : Filter → Truth) : Filter → Truth
  | not inner => (valuation leaf inner).reverse
  | all parts => Connective.and.settle (valuations leaf parts)
  | any parts => Connective.or.settle (valuations leaf parts)
  | filter => leaf filter

/-- The truths of several filters. -/
def valuations (leaf : Filter → Truth) : List Filter → List Truth
  | [] => []
  | part :: rest => valuation leaf part :: valuations leaf rest

end

/-- The group of some parts. -/
def group : Connective → List Filter → Filter
  | .and => all
  | .or => any

variable (leaf : Filter → Truth)

theorem valuations_eq_map (parts : List Filter) :
    valuations leaf parts = parts.map (valuation leaf) := by
  induction parts with
  | nil => rfl
  | cons part rest ih => rw [valuations, ih, List.map_cons]

theorem valuation_group (connective : Connective) (parts : List Filter) :
    valuation leaf (group connective parts)
      = connective.settle (parts.map (valuation leaf)) := by
  rw [← valuations_eq_map]
  cases connective <;> rfl

/-- How true the answer of a filter that stands for itself is. -/
def answerTruth (value : Value) (filter : Filter) : Truth := .ofAnswer (filter.evaluate value)

/-- The walk through the parts of a group ends with the truth of the group. -/
theorem answerTruth_group (value : Value) (connective : Connective) {parts : List Filter}
    (each : ∀ part ∈ parts, part.answerTruth value = part.valuation (answerTruth value)) :
    (group connective parts).answerTruth value
      = (group connective parts).valuation (answerTruth value) := by
  have walk : (group connective parts).evaluate value
      = evaluateUntil connective.decisive parts value false := by cases connective <;> rfl
  rw [answerTruth, walk, evaluateUntil_eq_fold, if_neg Bool.false_ne_true, Connective.unit_apply,
    Connective.ofAnswer_fold, List.map_map, valuation_group]
  exact congrArg connective.settle (List.map_congr_left each)

/-- The answer of a filter is as true as the tree. -/
theorem answerTruth_eq_valuation (value : Value) (filter : Filter) :
    filter.answerTruth value = filter.valuation (answerTruth value) := by
  induction filter with
  | not inner ih =>
    rw [answerTruth, evaluate, Truth.ofAnswer_map_not, valuation, ← ih, answerTruth]
  | all parts ih => exact answerTruth_group value .and ih
  | any parts ih => exact answerTruth_group value .or ih
  | _ => rfl

/-! ### Rewriting -/

/-- The laws by which a filter may be rewritten at its root. -/
inductive Law : Filter → Filter → Prop
  | reorder (connective) {parts others} (same : parts.Perm others) :
    Law (group connective parts) (group connective others)
  | duplicate (connective) {part parts} (listed : part ∈ parts) :
    Law (group connective parts) (group connective (part :: parts))
  | flatten (connective before inner after) :
    Law (group connective (before ++ group connective inner :: after))
      (group connective (before ++ inner ++ after))
  | doubleNegation (filter) : Law (.not (.not filter)) filter
  | deMorgan (connective parts) :
    Law (.not (group connective parts)) (group connective.dual (parts.map .not))

/-- One filter becomes the other by laws, used in either direction anywhere in the tree. -/
inductive Rewrites : Filter → Filter → Prop
  | law {filter other} (used : Law filter other) : Rewrites filter other
  | refl (filter) : Rewrites filter filter
  | symm {filter other} (back : Rewrites other filter) : Rewrites filter other
  | trans {filter between other} (first : Rewrites filter between)
    (second : Rewrites between other) : Rewrites filter other
  | not {inner other} (inside : Rewrites inner other) : Rewrites (.not inner) (.not other)
  | group (connective before after) {part other} (inside : Rewrites part other) :
    Rewrites (group connective (before ++ part :: after))
      (group connective (before ++ other :: after))

theorem Law.valuation_eq {filter other : Filter} (law : Law filter other) :
    filter.valuation leaf = other.valuation leaf := by
  cases law with
  | reorder connective same =>
    rw [valuation_group, valuation_group]
    exact connective.settle_congr fun truth => (same.map _).mem_iff
  | duplicate connective listed =>
    rw [valuation_group, valuation_group, List.map_cons]
    refine connective.settle_congr fun truth => (or_iff_right_of_imp ?_).symm.trans List.mem_cons.symm
    rintro rfl
    exact List.mem_map_of_mem listed
  | flatten connective before inner after =>
    simp only [valuation_group, List.map_append, List.map_cons, Connective.settle_flatten]
  | doubleNegation => rw [valuation, valuation, Truth.reverse_reverse]
  | deMorgan connective parts =>
    rw [valuation, valuation_group, valuation_group, Connective.reverse_settle, List.map_map,
      List.map_map]
    rfl

theorem Rewrites.valuation_eq {filter other : Filter} (rewrites : Rewrites filter other) :
    filter.valuation leaf = other.valuation leaf := by
  induction rewrites with
  | law used => exact used.valuation_eq leaf
  | refl => rfl
  | symm _ ih => exact ih.symm
  | trans _ _ first second => exact first.trans second
  | not _ ih => rw [valuation, valuation, ih]
  | group connective before after _ ih =>
    simp only [valuation_group, List.map_append, List.map_cons, ih]

/-- The answer of a filter is the value of its tree in strong Kleene logic, and rewriting by the
laws of that logic changes no answer. -/
theorem evaluate_kleene (value : Value) :
    (∀ filter : Filter, Truth.ofAnswer (filter.evaluate value)
      = filter.valuation fun leaf => .ofAnswer (leaf.evaluate value)) ∧
    ∀ filter other, Rewrites filter other → filter.evaluate value = other.evaluate value := by
  refine ⟨answerTruth_eq_valuation value, fun filter other rewrites => ?_⟩
  apply Truth.ofAnswer_injective
  calc filter.answerTruth value = filter.valuation (answerTruth value) :=
        answerTruth_eq_valuation value filter
    _ = other.valuation (answerTruth value) := rewrites.valuation_eq _
    _ = other.answerTruth value := (answerTruth_eq_valuation value other).symm

/-- Denies that the value is known, and greater than one, and known. -/
def notKnownAbove : Filter :=
  .not (.all [.not isNull, .all [.greaterThan (.int 1), .not isNull]])

/-- Unknown, or not greater than one. -/
def unknownOrNotAbove : Filter := .any [isNull, .not (.greaterThan (.int 1))]

theorem notKnownAbove_rewrites : Rewrites notKnownAbove unknownOrNotAbove := by
  have flat : Rewrites (.all [.not isNull, .all [.greaterThan (.int 1), .not isNull]])
      (.all [.not isNull, .greaterThan (.int 1), .not isNull]) :=
    .law (.flatten .and [.not isNull] [.greaterThan (.int 1), .not isNull] [])
  have sorted : Rewrites (.all [.not isNull, .greaterThan (.int 1), .not isNull])
      (.all [.not isNull, .not isNull, .greaterThan (.int 1)]) :=
    .law (.reorder .and ((List.Perm.swap _ _ []).cons _))
  have once : Rewrites (.all [.not isNull, .not isNull, .greaterThan (.int 1)])
      (.all [.not isNull, .greaterThan (.int 1)]) :=
    .symm (.law (.duplicate .and List.mem_cons_self))
  have apart : Rewrites (.not (.all [.not isNull, .greaterThan (.int 1)]))
      (.any [.not (.not isNull), .not (.greaterThan (.int 1))]) :=
    .law (.deMorgan .and [.not isNull, .greaterThan (.int 1)])
  have plain : Rewrites (.any [.not (.not isNull), .not (.greaterThan (.int 1))])
      unknownOrNotAbove :=
    .group .or [] [.not (.greaterThan (.int 1))] (.law (.doubleNegation isNull))
  exact (Rewrites.not (flat.trans (sorted.trans once))).trans (apart.trans plain)

/-- The two filters say the same of NULL, and the tree of the first says it too. -/
theorem evaluate_kleene_null :
    Rewrites notKnownAbove unknownOrNotAbove ∧
    notKnownAbove.evaluate .null = unknownOrNotAbove.evaluate .null ∧
    Truth.ofAnswer (notKnownAbove.evaluate .null)
      = notKnownAbove.valuation fun leaf => .ofAnswer (leaf.evaluate .null) :=
  ⟨notKnownAbove_rewrites, (evaluate_kleene .null).2 _ _ notKnownAbove_rewrites,
    (evaluate_kleene .null).1 notKnownAbove⟩

end Filter

end KeyStore
