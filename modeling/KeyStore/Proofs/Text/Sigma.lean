import Mathlib.Data.List.Forall2
import Mathlib.Data.List.Infix
import KeyStore.Text.Case
import KeyStore.Text.Search

/-!
# Lower case inside a longer text

Letters are put into lower case one by one, except for the capital sigma, which looks for the end
of a word around it. So the lower-case form of a part of a text is that of the part by itself as
long as its sigmas see the same (`lowerBetween_congr`), and a part whose sigmas have seen enough
within the part is the same everywhere (`standsAlike_of_settled`). Any other part is changed by one
letter put before it or behind it, and then it is nowhere in the longer text
(`settled_of_found`).
-/

namespace KeyStore.Text

/-! ### What a sigma sees -/

/-- Whether the nearest character that counts is a letter with case, if there is such a
character. -/
def nearest (s : List Char) : Option Bool := (s.find? (!isCaseIgnorable ·)).map isCased

theorem nearest_append (s t : List Char) : nearest (s ++ t) = (nearest s).or (nearest t) := by
  rw [nearest, List.find?_append, Option.map_or]
  rfl

theorem meetsCased_eq (s : List Char) : meetsCased s = (nearest s == some true) := by
  induction s with
  | nil => rfl
  | cons c s ih =>
    unfold meetsCased nearest at *
    rw [List.dropWhile_cons, List.find?_cons]
    cases isCaseIgnorable c with
    | true => exact ih
    | false => simp

/-- The lower-case form of a capital sigma between two texts; `before` begins with its last
character. -/
def sigmaForm (before after : List Char) : Char :=
  if meetsCased before && !meetsCased after then 'ς' else 'σ'

/-- The lower-case form of a capital sigma that sees this on its two sides. -/
def sigmaSeeing (earlier later : Option Bool) : Char :=
  if earlier = some true ∧ later ≠ some true then 'ς' else 'σ'

/-- What a sigma does not see within its own part of a text, it sees in what is around the part. -/
theorem sigmaForm_append (left before right after : List Char) :
    sigmaForm (left ++ before) (right ++ after)
      = sigmaSeeing ((nearest left).or (nearest before)) ((nearest right).or (nearest after)) := by
  simp [sigmaForm, sigmaSeeing, meetsCased_eq, nearest_append]

theorem sigmaForm_alone (left right : List Char) :
    sigmaForm left right = sigmaSeeing (nearest left) (nearest right) := by
  simp [sigmaForm, sigmaSeeing, meetsCased_eq]

/-! ### Lower case in context -/

/-- The lower-case form of a text between two others; `before` begins with its last character. -/
def lowerBetween : (before text after : List Char) → List Char
  | _, [], _ => []
  | before, c :: rest, after =>
    (if c = 'Σ' then [sigmaForm before (rest ++ after)] else lowerChar c)
      ++ lowerBetween (c :: before) rest after

theorem lowerAfter_eq (before text : List Char) :
    lowerAfter before text = lowerBetween before text [] := by
  induction text generalizing before with
  | nil => rfl
  | cons c rest ih =>
    rw [lowerAfter, lowerBetween, ih, List.append_nil]
    rfl

theorem lower_eq (text : List Char) : lower text = lowerBetween [] text [] := lowerAfter_eq [] text

theorem lowerBetween_append (before first second after : List Char) :
    lowerBetween before (first ++ second) after
      = lowerBetween before first (second ++ after)
        ++ lowerBetween (first.reverse ++ before) second after := by
  induction first generalizing before with
  | nil => rfl
  | cons c first ih =>
    rw [List.cons_append, lowerBetween, ih, lowerBetween, List.append_assoc, List.append_assoc,
      List.reverse_cons, List.append_assoc]
    rfl

/-- Where the sigmas are related, the texts are related character by character. -/
theorem forall₂_lowerBetween {R : Char → Char → Prop} (same : ∀ c, R c c) {text : List Char}
    {before after before' after' : List Char}
    (sigmas : ∀ left right, text = left ++ 'Σ' :: right →
      R (sigmaForm (left.reverse ++ before) (right ++ after))
        (sigmaForm (left.reverse ++ before') (right ++ after'))) :
    List.Forall₂ R (lowerBetween before text after) (lowerBetween before' text after') := by
  induction text generalizing before before' with
  | nil => exact .nil
  | cons c rest ih =>
    have others : List.Forall₂ R (lowerBetween (c :: before) rest after)
        (lowerBetween (c :: before') rest after') := by
      apply ih
      intro left right split
      have moved := sigmas (c :: left) right (by rw [split, List.cons_append])
      simpa only [List.reverse_cons, List.append_assoc, List.singleton_append] using moved
    rw [lowerBetween, lowerBetween]
    refine List.rel_append ?_ others
    split
    · next sigma =>
      exact .cons (sigmas [] rest (by rw [sigma, List.nil_append])) .nil
    · exact List.forall₂_same.2 fun c _ => same c

theorem length_lowerBetween (before text after before' after' : List Char) :
    (lowerBetween before text after).length = (lowerBetween before' text after').length :=
  (forall₂_lowerBetween (R := fun _ _ => True) (fun _ => trivial) fun _ _ _ => trivial).length_eq

/-- Texts with one lower-case form have one form of each sigma. -/
theorem sigmaForm_eq_of_lowerBetween_eq {before after before' after' left right : List Char}
    (same : lowerBetween before (left ++ 'Σ' :: right) after
      = lowerBetween before' (left ++ 'Σ' :: right) after') :
    sigmaForm (left.reverse ++ before) (right ++ after)
      = sigmaForm (left.reverse ++ before') (right ++ after') := by
  rw [lowerBetween_append, lowerBetween_append] at same
  have behind := (List.append_inj same (length_lowerBetween ..)).2
  rw [lowerBetween, lowerBetween] at behind
  exact List.head_eq_of_cons_eq behind

/-- The sigmas of a text, each with what is before it and what is behind it, by their positions. -/
theorem forall_sigmas_iff (text : List Char) (test : List Char → List Char → Prop) :
    (∀ left right, text = left ++ 'Σ' :: right → test left right) ↔
      ∀ i : Fin text.length, text[i] = 'Σ' → test (text.take i) (text.drop (i + 1)) := by
  constructor
  · intro tested i sigma
    refine tested _ _ ?_
    rw [← sigma, Fin.getElem_fin, ← List.drop_eq_getElem_cons, List.take_append_drop]
  · rintro tested left right rfl
    have here := tested ⟨left.length, by simp⟩ (by simp)
    simpa [List.drop_length_add_append] using here

/-! ### Parts that look alike where they stand -/

/-- Each sigma of the text has the form that it has in the text by itself; `before` begins with its
last character. -/
def StandsAlike (before text after : List Char) : Prop :=
  ∀ left right, text = left ++ 'Σ' :: right →
    sigmaForm (left.reverse ++ before) (right ++ after) = sigmaForm left.reverse right

instance (before text after : List Char) : Decidable (StandsAlike before text after) :=
  decidable_of_iff' _ (forall_sigmas_iff text _)

theorem lowerBetween_congr {before text after : List Char}
    (alike : StandsAlike before text after) : lowerBetween before text after = lower text := by
  have related : List.Forall₂ (· = ·) (lowerBetween before text after)
      (lowerBetween [] text []) :=
    forall₂_lowerBetween (fun _ => rfl) fun left right split => by
      rw [List.append_nil, List.append_nil]
      exact alike left right split
  rw [lower_eq]
  rwa [List.forall₂_eq_eq_eq] at related

theorem lower_between (before text after : List Char) :
    lower (before ++ text ++ after) = lowerBetween [] before (text ++ after)
      ++ lowerBetween before.reverse text after
      ++ lowerBetween (text.reverse ++ before.reverse) after [] := by
  rw [lower_eq, List.append_assoc, lowerBetween_append, lowerBetween_append, List.append_nil,
    List.append_nil, List.append_nil, List.append_assoc]

/-- A part that looks alike where it stands is found there in lower case. -/
theorem occursIn_of_standsAlike {before text after : List Char}
    (alike : StandsAlike before.reverse text after) :
    occursIn (lower text) (lower (before ++ text ++ after)) = true := by
  rw [occursIn_iff_isPart, lower_between, lowerBetween_congr alike]
  exact ⟨_, _, rfl⟩

/-! ### Parts that look alike everywhere -/

/-- Each sigma of the text sees enough of the text to have one form wherever the text stands: a
letter behind it, something else than a letter before it, or anything on both sides. -/
def Settled (text : List Char) : Prop :=
  ∀ left right, text = left ++ 'Σ' :: right →
    nearest right = some true ∨ nearest left.reverse = some false ∨
      (nearest left.reverse).isSome ∧ (nearest right).isSome

instance (text : List Char) : Decidable (Settled text) :=
  decidable_of_iff' _ (forall_sigmas_iff text _)

theorem settled_of_notMem {text : List Char} (plain : 'Σ' ∉ text) : Settled text := by
  rintro left right rfl
  exact absurd (List.mem_append_right left List.mem_cons_self) plain

theorem standsAlike_of_settled {text : List Char} (settled : Settled text)
    (before after : List Char) : StandsAlike before text after := by
  intro left right split
  have seen := settled left right split
  rw [sigmaForm_append, sigmaForm_alone]
  generalize nearest left.reverse = earlier, nearest right = later at seen ⊢
  rcases earlier with _ | _ | _ <;> rcases later with _ | _ | _ <;> simp_all [sigmaSeeing]

/-! ### Parts that a letter changes -/

/-- Two texts are one but for places where the first has `x` and the second `y`. -/
def Turned (x y : Char) (text other : List Char) : Prop :=
  List.Forall₂ (fun c d => c = d ∨ c = x ∧ d = y) text other

theorem Turned.count_le {x y : Char} (apart : x ≠ y) {text other : List Char}
    (turned : Turned x y text other) : other.count x ≤ text.count x := by
  induction turned with
  | nil => exact le_refl _
  | cons head _ ih =>
    rw [List.count_cons, List.count_cons]
    rcases head with rfl | ⟨rfl, rfl⟩
    · exact Nat.add_le_add_right ih _
    · simp [apart.symm]
      omega

theorem Turned.eq_of_count_le {x y : Char} (apart : x ≠ y) {text other : List Char}
    (turned : Turned x y text other) (le : text.count x ≤ other.count x) : text = other := by
  induction turned with
  | nil => rfl
  | cons head tail ih =>
    have fewer := Turned.count_le apart tail
    rw [List.count_cons, List.count_cons] at le
    rcases head with rfl | ⟨rfl, rfl⟩
    · rw [ih (Nat.le_of_add_le_add_right le)]
    · simp [apart.symm] at le
      omega

/-- A text that is found in lower case, though a context can only have turned some of its `x` into
`y`, has not been turned. -/
theorem lowerBetween_eq_of_found {x y : Char} (apart : x ≠ y) {before text after : List Char}
    (turned : Turned x y (lower text) (lowerBetween before.reverse text after))
    (front : x ∉ lowerBetween [] before (text ++ after))
    (back : x ∉ lowerBetween (text.reverse ++ before.reverse) after [])
    (found : occursIn (lower text) (lower (before ++ text ++ after)) = true) :
    lower text = lowerBetween before.reverse text after := by
  have fits := ((occursIn_iff_isPart _ _).1 found).count_le x
  rw [lower_between, List.count_append, List.count_append, List.count_eq_zero_of_not_mem front,
    List.count_eq_zero_of_not_mem back, Nat.zero_add, Nat.add_zero] at fits
  exact turned.eq_of_count_le apart fits

theorem nearest_letter : nearest ['a'] = some true := by decide +kernel

theorem lowerBetween_letter (before after : List Char) :
    lowerBetween before ['a'] after = ['a'] := by
  have plain : lowerChar 'a' = ['a'] := by decide +kernel
  rw [lowerBetween, if_neg (by decide), plain]
  rfl

/-- A letter before the text turns the sigmas that see nothing before them. -/
theorem turned_before (text : List Char) :
    Turned 'σ' 'ς' (lower text) (lowerBetween ['a'] text []) := by
  rw [lower_eq]
  refine forall₂_lowerBetween (fun _ => Or.inl rfl) fun left right _ => ?_
  rw [sigmaForm_append, sigmaForm_append, nearest_letter]
  rcases nearest left.reverse with _ | _ | _ <;> rcases nearest right with _ | _ | _ <;> decide

/-- A letter behind the text turns the sigmas that see nothing behind them. -/
theorem turned_after (text : List Char) :
    Turned 'ς' 'σ' (lower text) (lowerBetween [] text ['a']) := by
  rw [lower_eq]
  refine forall₂_lowerBetween (fun _ => Or.inl rfl) fun left right _ => ?_
  rw [sigmaForm_append, sigmaForm_append, nearest_letter]
  rcases nearest left.reverse with _ | _ | _ <;> rcases nearest right with _ | _ | _ <;> decide

/-- A text is settled if it is found in lower case behind a letter and before one. -/
theorem settled_of_found {text : List Char}
    (behind : occursIn (lower text) (lower (['a'] ++ text ++ [])) = true)
    (ahead : occursIn (lower text) (lower ([] ++ text ++ ['a'])) = true) : Settled text := by
  have same_behind := lowerBetween_eq_of_found (by decide) (turned_before text)
    (by rw [lowerBetween_letter]; decide) List.not_mem_nil behind
  have same_ahead := lowerBetween_eq_of_found (by decide) (turned_after text)
    List.not_mem_nil (by rw [lowerBetween_letter]; decide) ahead
  intro left right split
  rw [lower_eq, split] at same_behind same_ahead
  have before := sigmaForm_eq_of_lowerBetween_eq same_behind
  have after := sigmaForm_eq_of_lowerBetween_eq same_ahead
  simp only [List.reverse_cons, List.reverse_nil, List.nil_append] at before after
  rw [sigmaForm_append, sigmaForm_append, nearest_letter] at before after
  generalize nearest left.reverse = earlier, nearest right = later at before after ⊢
  revert before after
  rcases earlier with _ | _ | _ <;> rcases later with _ | _ | _ <;> decide

end KeyStore.Text
