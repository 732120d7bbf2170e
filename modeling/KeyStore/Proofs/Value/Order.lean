import Mathlib.Data.Int.Order.Basic
import KeyStore.Proofs.Value.Rounding
import KeyStore.Value

/-!
# The order of numbers

Integers are compared exactly, and an integer is compared with a binary64 number after rounding, so
the comparison of numbers is nearly an order. Any two of them compare, and alike from both sides.
What can fail is the step from `a ≤ b` and `b ≤ c` to `a ≤ c`, for two integers that round to one
number between them (`Blurs`): both equal that number and still differ.
-/

namespace KeyStore.Value

/-- An integer, or a binary64 number. -/
inductive IsNumber : Value → Prop
  | int (n : Int64) : IsNumber (.int n)
  | real {x : Binary64} (known : x.isNaN = false) : IsNumber (.real x)

/-- The value compares as less than the other, or as equal to it. -/
def AtMost (a b : Value) : Prop := (a.compare? b).any Ordering.isLE = true

instance (a b : Value) : Decidable (a.AtMost b) := inferInstanceAs (Decidable (_ = true))

/-- The values compare as equal. -/
def Equal (a b : Value) : Prop := a.compare? b = some .eq

instance (a b : Value) : Decidable (a.Equal b) := inferInstanceAs (Decidable (_ = some _))

/-- Two integers that differ, and a binary64 number that both are equal to. -/
inductive Blurs : Value → Value → Value → Prop
  | between {i k : Int64} {x : Binary64} (apart : i ≠ k) (before : Equal (.int i) (.real x))
    (after : Equal (.real x) (.int k)) : Blurs (.int i) (.real x) (.int k)

/-- The place on the number line where a number stands in comparisons with binary64 numbers. -/
def place : Value → Int
  | int n => (Binary64.ofInt n).position
  | real x => x.position
  | _ => 0

variable {a b c : Value}

/-! ### Two numbers -/

theorem compare?_real {x y : Binary64} (known : x.isNaN = false) (known' : y.isNaN = false) :
    x.compare? y = some (compare x.position y.position) := by
  rw [Binary64.compare?, known, known']
  rfl

/-- Only two integers are compared by anything but their places. -/
theorem compare?_of_numbers (left : IsNumber a) (right : IsNumber b) :
    a.compare? b = some (compare a.place b.place) ∨ ∃ i k, a = .int i ∧ b = .int k := by
  cases left with
  | int i =>
    cases right with
    | int k => exact Or.inr ⟨i, k, rfl, rfl⟩
    | real known => exact Or.inl (compare?_real (Binary64.isNaN_ofInt i) known)
  | real known =>
    cases right with
    | int k => exact Or.inl (compare?_real known (Binary64.isNaN_ofInt k))
    | real known' => exact Or.inl (compare?_real known known')

/-- Two numbers compare, and alike from both sides. -/
theorem compare?_swap (left : IsNumber a) (right : IsNumber b) :
    ∃ order, a.compare? b = some order ∧ b.compare? a = some order.swap := by
  have integers (i k : Int64) : (int k).compare? (int i) = some (compare i k).swap :=
    congrArg some Std.OrientedOrd.eq_swap
  rcases compare?_of_numbers left right with compared | ⟨i, k, rfl, rfl⟩
  · rcases compare?_of_numbers right left with back | ⟨k, i, rfl, rfl⟩
    · exact ⟨_, compared, by rw [back, Std.OrientedOrd.eq_swap]⟩
    · exact ⟨_, rfl, integers i k⟩
  · exact ⟨_, rfl, integers i k⟩

theorem atMost_int_iff {i k : Int64} : AtMost (.int i) (.int k) ↔ i ≤ k := by
  rw [AtMost, compare?, Option.any_some, Std.isLE_compare]

theorem atMost_iff_place_le (compared : a.compare? b = some (compare a.place b.place)) :
    a.AtMost b ↔ a.place ≤ b.place := by
  rw [AtMost, compared, Option.any_some, Std.isLE_compare]

theorem equal_iff_place_eq (compared : a.compare? b = some (compare a.place b.place)) :
    a.Equal b ↔ a.place = b.place := by
  rw [Equal, compared, Option.some_inj, Std.compare_eq_iff_eq]

theorem place_le_of_atMost (left : IsNumber a) (right : IsNumber b) (le : a.AtMost b) :
    a.place ≤ b.place := by
  rcases compare?_of_numbers left right with compared | ⟨i, k, rfl, rfl⟩
  · exact (atMost_iff_place_le compared).1 le
  · exact Binary64.position_ofInt_mono (atMost_int_iff.1 le)

theorem equal_int_real_iff {i : Int64} {x : Binary64} (known : x.isNaN = false) :
    Equal (.int i) (.real x) ↔ (Binary64.ofInt i).position = x.position :=
  equal_iff_place_eq (compare?_real (Binary64.isNaN_ofInt i) known)

/-- Numbers are equal if neither is greater. -/
theorem equal_iff (left : IsNumber a) (right : IsNumber b) :
    a.Equal b ↔ a.AtMost b ∧ b.AtMost a := by
  obtain ⟨order, compared, back⟩ := compare?_swap left right
  rw [Equal, AtMost, AtMost, compared, back]
  cases order <;> simp

theorem Equal.symm (same : a.Equal b) (left : IsNumber a) (right : IsNumber b) : b.Equal a :=
  (equal_iff right left).2 ((equal_iff left right).1 same).symm

/-! ### Three numbers -/

theorem Blurs.symm (blurs : Blurs a b c) (second : IsNumber b) : Blurs c b a := by
  cases blurs with
  | @between i k x apart before after =>
    exact .between apart.symm (after.symm second (.int k)) (before.symm (.int i) second)

/-- Integers that would cross on their way over a binary64 number meet there. -/
theorem blurs_of_lt {i k : Int64} {x : Binary64} (known : x.isNaN = false) (lt : k < i)
    (low : (Binary64.ofInt i).position ≤ x.position)
    (high : x.position ≤ (Binary64.ofInt k).position) : Blurs (.int i) (.real x) (.int k) := by
  have rounded := Binary64.position_ofInt_mono (Int64.le_of_lt lt)
  have before := (equal_int_real_iff known).2 (le_antisymm low (high.trans rounded))
  have after := (equal_int_real_iff known).2 (le_antisymm (rounded.trans low) high)
  exact .between (Int64.ne_of_lt lt).symm before (after.symm (.int k) (.real known))

/-- The step from two comparisons to a third fails only between integers that blur. -/
theorem atMost_or_blurs (first : IsNumber a) (second : IsNumber b) (third : IsNumber c)
    (le : a.AtMost b) (le' : b.AtMost c) : a.AtMost c ∨ Blurs a b c := by
  have low := place_le_of_atMost first second le
  have high := place_le_of_atMost second third le'
  rcases compare?_of_numbers first third with compared | ⟨i, k, rfl, rfl⟩
  · exact Or.inl ((atMost_iff_place_le compared).2 (low.trans high))
  · rw [atMost_int_iff]
    cases second with
    | int j => exact Or.inl (Int64.le_trans (atMost_int_iff.1 le) (atMost_int_iff.1 le'))
    | real known => exact (Int64.le_or_lt i k).imp_right fun lt => blurs_of_lt known lt low high

/-- Integers that blur differ, and are 2⁵³ or more away from zero. -/
theorem Blurs.far (blurs : Blurs a b c) (second : IsNumber b) : ¬ a.Equal c ∧
    ∃ i k : Int64, a = .int i ∧ c = .int k ∧
      2 ^ 53 ≤ i.toInt.natAbs ∧ 2 ^ 53 ≤ k.toInt.natAbs := by
  cases blurs with
  | @between i k x apart before after =>
    cases second with
    | real known =>
      have places := ((equal_int_real_iff known).1 before).trans
        ((equal_int_real_iff known).1 (after.symm (.real known) (.int k))).symm
      exact ⟨fun same => apart (Std.compare_eq_iff_eq.1 (Option.some_inj.1 same)), i, k, rfl, rfl,
        Binary64.far_of_position_ofInt_eq apart places⟩

/-- The comparison of numbers is a total preorder but for integers that blur: any two numbers
compare, and alike from both sides; comparing and being equal are passed on over a number between,
unless that is a binary64 number that two different integers, both far from zero, round to. -/
theorem numbers_ordered (first : IsNumber a) (second : IsNumber b) (third : IsNumber c) :
    (∃ order, a.compare? b = some order ∧ b.compare? a = some order.swap) ∧
    (a.AtMost b → b.AtMost c → a.AtMost c ∨ Blurs a b c) ∧
    (a.Equal b → b.Equal c → (a.Equal c ↔ ¬ Blurs a b c)) ∧
    (Blurs a b c → ∃ i k : Int64, a = .int i ∧ c = .int k ∧
      2 ^ 53 ≤ i.toInt.natAbs ∧ 2 ^ 53 ≤ k.toInt.natAbs) := by
  refine ⟨compare?_swap first second, atMost_or_blurs first second third, fun same same' => ?_,
    fun blurs => (blurs.far second).2⟩
  constructor
  · exact fun equal blurs => (blurs.far second).1 equal
  · intro clear
    obtain ⟨le, ge⟩ := (equal_iff first second).1 same
    obtain ⟨le', ge'⟩ := (equal_iff second third).1 same'
    have up := (atMost_or_blurs first second third le le').resolve_right clear
    have down := (atMost_or_blurs third second first ge' ge).resolve_right
      fun blurs => clear (blurs.symm second)
    exact (equal_iff first third).2 ⟨up, down⟩

/-- 2⁶⁰ as a binary64 number. -/
def farNumber : Value := .real ⟨0x43B0000000000000⟩

/-- 2⁶⁰ and its successor round to one number and keep their order. -/
theorem numbers_ordered_far :
    IsNumber (.int 1152921504606846976) ∧ IsNumber farNumber ∧
    IsNumber (.int 1152921504606846977) ∧
    AtMost (.int 1152921504606846976) farNumber ∧ AtMost farNumber (.int 1152921504606846977) ∧
    (AtMost (.int 1152921504606846976) (.int 1152921504606846977) ∨
      Blurs (.int 1152921504606846976) farNumber (.int 1152921504606846977)) ∧
    Equal (.int 1152921504606846976) farNumber ∧ Equal farNumber (.int 1152921504606846977) ∧
    (Equal (.int 1152921504606846976) (.int 1152921504606846977) ↔
      ¬ Blurs (.int 1152921504606846976) farNumber (.int 1152921504606846977)) ∧
    Blurs (.int 1152921504606846976) farNumber (.int 1152921504606846977) ∧
    ∃ i k : Int64, int 1152921504606846976 = .int i ∧ int 1152921504606846977 = .int k ∧
      2 ^ 53 ≤ i.toInt.natAbs ∧ 2 ^ 53 ≤ k.toInt.natAbs := by
  have number : IsNumber farNumber := .real (by decide +kernel)
  have before : Equal (.int 1152921504606846976) farNumber := by decide +kernel
  have after : Equal farNumber (.int 1152921504606846977) := by decide +kernel
  have low := ((equal_iff (.int _) number).1 before).1
  have high := ((equal_iff number (.int _)).1 after).1
  have blurs : Blurs (.int 1152921504606846976) farNumber (.int 1152921504606846977) :=
    .between (by decide) before after
  have ordered := numbers_ordered (.int 1152921504606846976) number (.int 1152921504606846977)
  exact ⟨.int _, number, .int _, low, high, ordered.2.1 low high, before, after,
    ordered.2.2.1 before after, blurs, ordered.2.2.2 blurs⟩

/-- The successor of 2⁵³ is at most the binary64 number 2⁵³, and equal to it, and that is so for the
integer 2⁵³; neither is passed on from the successor to the integer. -/
theorem order_not_passed_on :
    IsNumber (.int 9007199254740993) ∧ IsNumber (.real ⟨0x4340000000000000⟩) ∧
    IsNumber (.int 9007199254740992) ∧
    (AtMost (.int 9007199254740993) (.real ⟨0x4340000000000000⟩) ∧
      AtMost (.real ⟨0x4340000000000000⟩) (.int 9007199254740992) ∧
      ¬ AtMost (.int 9007199254740993) (.int 9007199254740992)) ∧
    Equal (.int 9007199254740993) (.real ⟨0x4340000000000000⟩) ∧
    Equal (.real ⟨0x4340000000000000⟩) (.int 9007199254740992) ∧
    ¬ Equal (.int 9007199254740993) (.int 9007199254740992) :=
  ⟨.int _, .real (by decide +kernel), .int _, by decide +kernel, by decide +kernel,
    by decide +kernel, by decide +kernel⟩

end KeyStore.Value
