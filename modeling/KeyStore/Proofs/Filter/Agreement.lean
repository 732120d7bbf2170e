import KeyStore.Proofs.Filter.Binding
import KeyStore.Proofs.Sql.Meaning

/-!
# Filters in a statement and in process

The condition that is made for a filter is answered by the database as `Filter.evaluate` answers the
filter (`Filter.bindsAlike`), as long as the value suits the filter: texts are compared with texts
in ASCII, and other values with NULL or with values of a kind that they compare with. Which database
it is does not matter then, and neither do the values that were bound before or are bound later.
-/

namespace KeyStore

open Sql

/-- One of the values is NULL, or the values compare. -/
def Value.ComparableWith (cell operand : Value) : Prop :=
  cell = .null ∨ operand = .null ∨ (cell.compare? operand).isSome = true

/-- NULL, or a text that passes the test. -/
def Value.IsTextWith (cell : Value) (test : List Char → Prop) : Prop :=
  cell = .null ∨ ∃ s, cell = .text s ∧ test s.toList

namespace Filter

/-- The filter has no predicate of the caller, and what it compares with the value has the kind that
it needs. -/
inductive Suits (cell : Value) : Filter → Prop
  | equals {expected} (kinds : cell.ComparableWith expected) : Suits cell (.equals expected)
  | equalsIgnoringCase {text : String} (known : cell.IsTextWith Text.IsAscii)
    (ascii : Text.IsAscii text.toList) : Suits cell (.equalsIgnoringCase text)
  | containsIgnoringCase {text : String} (known : cell.IsTextWith Text.IsAscii)
    (ascii : Text.IsAscii text.toList) : Suits cell (.containsIgnoringCase text)
  | shortId {digits} (known : cell.IsTextWith fun _ => True) : Suits cell (.shortId digits)
  | lessThan {bound} (kinds : cell.ComparableWith bound) : Suits cell (.lessThan bound)
  | atMost {bound} (kinds : cell.ComparableWith bound) : Suits cell (.atMost bound)
  | greaterThan {bound} (kinds : cell.ComparableWith bound) : Suits cell (.greaterThan bound)
  | atLeast {bound} (kinds : cell.ComparableWith bound) : Suits cell (.atLeast bound)
  | not {inner} (suits : Suits cell inner) : Suits cell (.not inner)
  | all {parts} (each : ∀ part ∈ parts, Suits cell part) : Suits cell (.all parts)
  | any {parts} (each : ∀ part ∈ parts, Suits cell part) : Suits cell (.any parts)

variable (db : Engine) (record : Record)

/-! ### Values -/

theorem compare_eq_comparison (comparison : Comparison) {cell operand : Value}
    (kinds : cell.ComparableWith operand) :
    db.compare comparison cell operand = Filter.comparison cell operand comparison.accepts := by
  rw [Engine.compare, Filter.comparison]
  split
  · rfl
  · next known =>
    rcases kinds with rfl | rfl | compares
    · exact absurd rfl known
    · exact absurd (by simp [Value.isNull]) known
    · obtain ⟨order, found⟩ := Option.isSome_iff_exists.1 compares
      rw [found]
      rfl

/-- What stands for a value in a statement has that value, whatever is bound later. -/
theorem push_value (args : Arguments) (value : Value) (later : List Value) :
    (args.push value).1.scalar.value db record ((args.push value).2.values ++ later)
      = some value := by
  unfold Arguments.push
  split
  · next isNull =>
    cases value with
    | null => rfl
    | _ => cases isNull
  · have here : (args.values ++ [value] ++ later)[args.size]? = some value := by
      rw [List.append_assoc, Arguments.size, List.getElem?_append_right (Nat.le_refl _),
        Nat.sub_self]
      rfl
    exact here

theorem compare_texts (left right : List Char) :
    db.compare .equal (.text (String.ofList left)) (.text (String.ofList right))
      = some (decide (left = right)) := by
  have same : (Ord.compare (String.ofList left) (String.ofList right) = .eq) ↔ left = right := by
    rw [Std.compare_eq_iff_eq, String.ofList_inj]
  exact congrArg some (decide_eq_decide.2 same)

/-! ### One filter -/

/-- The condition that is made for a filter is answered as the filter is, whatever is bound before
it and after it. -/
def BindsAlike (column : String) (filter : Filter) : Prop :=
  ∀ args : Arguments, ∃ condition bound,
    filter.bind column args = (some condition, args.extend bound) ∧
      ∀ later, (condition.formula args.dialect).answer db record (args.values ++ bound ++ later)
        = some (filter.evaluate (Record.value record column))

variable {db record} {column : String}

/-- A filter that binds one value binds alike if it answers alike wherever that value stands. -/
theorem bindsAlike_of_bindOne {filter : Filter} {value : Value} {condition : Operand → Condition}
    (binds : ∀ args, filter.bind column args = bindOne args value condition)
    (answers : ∀ dialect (operand : Operand) values,
      operand.scalar.value db record values = some value →
        ((condition operand).formula dialect).answer db record values
          = some (filter.evaluate (Record.value record column))) :
    BindsAlike db record column filter := by
  intro args
  refine ⟨condition (args.push value).1, if value.isNull then [] else [value], ?_,
    fun later => ?_⟩
  · rw [binds, bindOne, Arguments.push_snd]
  · have bound := push_value db record args value later
    rw [Arguments.push_snd] at bound
    exact answers _ _ _ bound

theorem compare_bindsAlike {filter : Filter} {bound : Value} {comparison : Comparison}
    (kinds : (Record.value record column).ComparableWith bound)
    (binds : ∀ args, filter.bind column args = bindOne args bound (.compare column comparison))
    (evaluates : filter.evaluate (Record.value record column)
      = Filter.comparison (Record.value record column) bound comparison.accepts) :
    BindsAlike db record column filter := by
  refine bindsAlike_of_bindOne binds fun dialect operand values has => ?_
  rw [Condition.formula, Formula.answer, has, evaluates,
    ← compare_eq_comparison db comparison kinds]
  rfl

theorem equals_bindsAlike {expected : Value}
    (kinds : (Record.value record column).ComparableWith expected) :
    BindsAlike db record column (.equals expected) := by
  cases expected with
  | null =>
    intro args
    refine ⟨.isNull column, [], ?_, fun later => ?_⟩
    · rw [Arguments.extend_nil]
      rfl
    · rfl
  | _ => exact compare_bindsAlike kinds (fun _ => rfl) rfl

theorem equalsIgnoringCase_bindsAlike {text : String}
    (known : (Record.value record column).IsTextWith Text.IsAscii)
    (ascii : Text.IsAscii text.toList) :
    BindsAlike db record column (.equalsIgnoringCase text) := by
  refine bindsAlike_of_bindOne (fun _ => rfl) fun dialect operand values has => ?_
  rw [Condition.formula, Formula.answer, Scalar.value, Scalar.value, Scalar.value, has]
  rcases known with cell | ⟨s, cell, plain⟩
  · rw [cell]
    rfl
  · rw [cell, evaluate, textTest, Text.lower_ascii plain, Text.lower_ascii ascii]
    exact congrArg some (compare_texts db _ _)

theorem containsIgnoringCase_bindsAlike {text : String}
    (known : (Record.value record column).IsTextWith Text.IsAscii)
    (ascii : Text.IsAscii text.toList) :
    BindsAlike db record column (.containsIgnoringCase text) := by
  refine bindsAlike_of_bindOne (fun _ => rfl) fun dialect operand values has => ?_
  have subject : (Scalar.column column).value db record values
      = some (Record.value record column) := rfl
  rcases known with cell | ⟨s, cell, plain⟩
  · cases dialect <;>
      simp [Condition.formula, Formula.answer, Scalar.value, has, cell, Engine.text?,
        Engine.ofText?, evaluate, textTest]
  · have text_cell : db.text? (.text s) = some s.toList := rfl
    have text_pattern : db.text? (.text (containsPattern text))
        = some (containsPattern text).toList := rfl
    rw [cell] at subject ⊢
    rw [evaluate, textTest, Text.lower_ascii plain, Text.lower_ascii ascii]
    cases dialect with
    | postgres =>
      rw [Condition.formula, like_answer subject text_cell has text_pattern, containsPattern_toList]
      exact congrArg (Option.map some) (matchesPattern_contains Char.toLower _ _)
    | sqlite =>
      obtain ⟨lowered, has_lower, holds⟩ := lower_value subject text_cell
      obtain ⟨pattern, has_pattern, holds_pattern⟩ := lower_value has text_pattern
      have matched :=
        matchesPattern_contains id (text.toList.map Char.toLower) (s.toList.map Char.toLower)
      rw [List.map_id, List.map_id] at matched
      rw [Condition.formula, like_answer has_lower holds has_pattern holds_pattern,
        containsPattern_toList, List.map_cons, List.map_append, pattern_toLower ascii]
      exact congrArg (Option.map some) matched

theorem shortId_bindsAlike {digits : String}
    (known : (Record.value record column).IsTextWith fun _ => True) :
    BindsAlike db record column (.shortId digits) := by
  refine bindsAlike_of_bindOne (fun _ => rfl) fun dialect operand values has => ?_
  rw [Condition.formula, Formula.answer, Scalar.value, Scalar.value, has]
  rcases known with cell | ⟨s, cell, plain⟩
  · rw [cell]
    rfl
  · have segment : (s.toList.take (shortIdStart + shortIdLength - 1)).drop (shortIdStart - 1)
        = (s.toList.drop (shortIdStart - 1)).take shortIdLength := List.drop_take ..
    rw [cell, evaluate, textTest, ← segment]
    exact congrArg some (compare_texts db _ _)

/-! ### Groups -/

/-- Asking the parts one after the other is folding their answers, with what is known so far. -/
theorem evaluateUntil_eq_fold (connective : Connective) (parts : List Filter) (value : Value)
    (unknown : Bool) :
    evaluateUntil connective.decisive parts value unknown
      = connective.apply (if unknown then none else some (!connective.decisive))
          (connective.fold (parts.map (·.evaluate value))) := by
  induction parts generalizing unknown with
  | nil => rw [evaluateUntil, List.map_nil, Connective.fold, Connective.apply_unit]
  | cons part rest ih =>
    rw [evaluateUntil, List.map_cons, Connective.fold]
    generalize connective.fold (rest.map (·.evaluate value)) = others at ih
    cases part.evaluate value with
    | none =>
      rw [ih]
      cases connective <;> cases unknown <;> rcases others with _ | _ | _ <;> rfl
    | some answer =>
      simp only [ih]
      cases connective <;> cases unknown <;> cases answer <;> rcases others with _ | _ | _ <;> rfl

theorem bindParts_alike {parts : List Filter}
    (each : ∀ part ∈ parts, BindsAlike db record column part) :
    ∀ args : Arguments, ∃ conditions bound,
      bindParts column parts args = (some conditions, args.extend bound) ∧
        ∀ later, List.Forall₂
          (fun formula answer =>
            formula.answer db record (args.values ++ bound ++ later) = some answer)
          (Condition.formulas args.dialect conditions)
          (parts.map (·.evaluate (Record.value record column))) := by
  induction parts with
  | nil =>
    exact fun args => ⟨[], [], by rw [bindParts, Arguments.extend_nil], fun _ => .nil⟩
  | cons part rest ih =>
    intro args
    obtain ⟨condition, bound, binds, answers⟩ := each part List.mem_cons_self args
    obtain ⟨conditions, more, binds_rest, answers_rest⟩ :=
      ih (fun part member => each part (List.mem_cons_of_mem _ member)) (args.extend bound)
    refine ⟨condition :: conditions, bound ++ more, ?_, fun later => ?_⟩
    · simp [bindParts, binds, binds_rest]
    · have first := answers (more ++ later)
      have others := answers_rest later
      rw [Arguments.extend_values] at others
      rw [← List.append_assoc] at first
      rw [← List.append_assoc]
      refine .cons first others

theorem not_bindsAlike {inner : Filter} (alike : BindsAlike db record column inner) :
    BindsAlike db record column (.not inner) := by
  intro args
  obtain ⟨condition, bound, binds, answers⟩ := alike args
  refine ⟨.not condition, bound, by simp [bind, binds], fun later => ?_⟩
  rw [Condition.formula, Formula.answer, answers later]
  rfl

theorem group_bindsAlike {connective : Connective} {filter : Filter} {parts : List Filter}
    {condition : List Condition → Condition}
    (binds : ∀ args,
      filter.bind column args = bindGroup args condition (bindParts column parts args))
    (evaluates : filter.evaluate (Record.value record column)
      = evaluateUntil connective.decisive parts (Record.value record column) false)
    (means : ∀ dialect conditions, (condition conditions).formula dialect
      = .chain connective (Condition.formulas dialect conditions))
    (each : ∀ part ∈ parts, BindsAlike db record column part) :
    BindsAlike db record column filter := by
  intro args
  obtain ⟨conditions, bound, binds_parts, answers⟩ := bindParts_alike each args
  refine ⟨condition conditions, bound, by rw [binds, binds_parts, bindGroup], fun later => ?_⟩
  rw [means, chain_answer connective (answers later), evaluates, evaluateUntil_eq_fold,
    if_neg Bool.false_ne_true, Connective.unit_apply]

/-! ### All filters and all conditions -/

/-- The condition that is made for a filter is answered as the filter is. -/
theorem bindsAlike (db : Engine) {filter : Filter}
    (suits : Suits (Record.value record column) filter) : BindsAlike db record column filter := by
  induction suits with
  | equals kinds => exact equals_bindsAlike kinds
  | equalsIgnoringCase known ascii => exact equalsIgnoringCase_bindsAlike known ascii
  | containsIgnoringCase known ascii => exact containsIgnoringCase_bindsAlike known ascii
  | shortId known => exact shortId_bindsAlike known
  | lessThan kinds => exact compare_bindsAlike kinds (fun _ => rfl) rfl
  | atMost kinds => exact compare_bindsAlike kinds (fun _ => rfl) rfl
  | greaterThan kinds => exact compare_bindsAlike kinds (fun _ => rfl) rfl
  | atLeast kinds => exact compare_bindsAlike kinds (fun _ => rfl) rfl
  | not suits ih => exact not_bindsAlike ih
  | all each ih => exact group_bindsAlike (fun _ => rfl) rfl (fun _ _ => rfl) ih
  | any each ih => exact group_bindsAlike (fun _ => rfl) rfl (fun _ _ => rfl) ih

end Filter

end KeyStore
