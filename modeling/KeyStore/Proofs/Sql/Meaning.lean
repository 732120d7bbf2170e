import Mathlib.Algebra.Group.Nat.Defs
import Mathlib.Data.List.Forall2
import KeyStore.Proofs.Sql.Writing
import KeyStore.Proofs.Sql.Matching
import KeyStore.Record

/-!
# What a database answers

A formula is true, false or unknown of a row, given the values of the parameters. Comparing with
NULL is unknown, `LOWER` changes the letters of ASCII only, and the connectives follow the tables of
three-valued logic. A statement fails if it names a parameter without a value, or has a pattern that
is none.

Where databases differ, nothing is assumed: how values of kinds that do not mix compare, and which
text a value of another kind counts as, are parameters of the meaning.
-/

namespace KeyStore.Sql

/-- What depends on the database. -/
structure Engine where
  /-- The answer to a comparison of values that do not compare. -/
  mixed : Comparison → Value → Value → Option Bool
  /-- The text that a value of another kind counts as. -/
  cast : Value → Option String

/-- The orders that a comparison accepts. -/
def Comparison.accepts : Comparison → Ordering → Bool
  | equal, order => order = .eq
  | less, order => order = .lt
  | atMost, order => order ≠ .gt
  | greater, order => order = .gt
  | atLeast, order => order ≠ .lt

namespace Engine

/-- Compares two values. -/
def compare (db : Engine) (comparison : Comparison) (left right : Value) : Option Bool :=
  if left.isNull || right.isNull then none
  else match left.compare? right with
    | some order => some (comparison.accepts order)
    | none => db.mixed comparison left right

/-- The text of a value, nothing for NULL. -/
def text? (db : Engine) : Value → Option (List Char)
  | .null => none
  | .text s => some s.toList
  | value => (db.cast value).map String.toList

/-- A text, or NULL. -/
def ofText? : Option (List Char) → Value
  | some text => .text (String.ofList text)
  | none => .null

end Engine

namespace Connective

/-- AND and OR in three-valued logic. -/
def apply : Connective → Option Bool → Option Bool → Option Bool
  | and, some false, _ | and, _, some false => some false
  | and, some true, some true => some true
  | or, some true, _ | or, _, some true => some true
  | or, some false, some false => some false
  | _, _, _ => none

/-- The answer that decides a chain whatever the others are. -/
def decisive : Connective → Bool
  | and => false
  | or => true

/-- The answer of a chain. -/
def fold (connective : Connective) : List (Option Bool) → Option Bool
  | [] => some (!connective.decisive)
  | answer :: rest => connective.apply answer (connective.fold rest)

theorem apply_unit (connective : Connective) (answer : Option Bool) :
    connective.apply answer (some (!connective.decisive)) = answer := by
  cases connective <;> rcases answer with _ | _ | _ <;> rfl

theorem unit_apply (connective : Connective) (answer : Option Bool) :
    connective.apply (some (!connective.decisive)) answer = answer := by
  cases connective <;> rcases answer with _ | _ | _ <;> rfl

end Connective

section
variable (db : Engine) (record : Record) (values : List Value)

/-- The value that a scalar stands for in a row, if its parameters have values. -/
def Scalar.value : Scalar → Option Value
  | column name => some (Record.value record name)
  | parameter 0 => none
  | parameter (index + 1) => values[index]?
  | null => some .null
  | number value => if value < 2 ^ 63 then some (.int (Int64.ofNat value)) else none
  | text literal => some (.text literal)
  | lower inner =>
    inner.value.map fun value => Engine.ofText? ((db.text? value).map (·.map Char.toLower))
  | segment inner start count =>
    inner.value.map fun value => Engine.ofText?
      ((db.text? value).map fun text => (text.take (start + count - 1)).drop (start - 1))

/-- The letters that a match takes for one. -/
def foldCase (caseless : Bool) : Char → Char := if caseless then Char.toLower else id

/-- Whether a formula is true, false or unknown of a row, if it can be answered. -/
def Formula.answer : Formula → Option (Option Bool)
  | isNull subject => (subject.value db record values).map fun value => some value.isNull
  | compare comparison left right => do
    let first ← left.value db record values
    let second ← right.value db record values
    some (db.compare comparison first second)
  | like caseless subject pattern escape => do
    let first ← subject.value db record values
    let second ← pattern.value db record values
    match db.text? first, db.text? second with
    | some text, some pattern =>
      (matchesPattern (foldCase caseless) escape pattern text).map some
    | _, _ => some none
  | not inner => inner.answer.map (·.map (!·))
  | join connective left right => do
    let first ← left.answer
    let second ← right.answer
    some (connective.apply first second)

/-- What the database says of a row when it is asked a condition in words. -/
def Engine.ask (dialect : Dialect) (text : String) : Option (Option Bool) :=
  (parse dialect text).bind (Formula.answer db record values)

end

variable {db : Engine} {record : Record} {values : List Value}

theorem like_answer {caseless : Bool} {subject pattern : Scalar} {escape : Char}
    {first second : Value} {text read : List Char}
    (has : subject.value db record values = some first) (holds : db.text? first = some text)
    (has_pattern : pattern.value db record values = some second)
    (holds_pattern : db.text? second = some read) :
    (Formula.like caseless subject pattern escape).answer db record values
      = (matchesPattern (foldCase caseless) escape read text).map some := by
  rw [Formula.answer, has, has_pattern]
  simp only [Option.bind_eq_bind, Option.bind_some, holds, holds_pattern]

theorem lower_value {inner : Scalar} {value : Value} {text : List Char}
    (has : inner.value db record values = some value) (holds : db.text? value = some text) :
    ∃ lowered, (Scalar.lower inner).value db record values = some lowered ∧
      db.text? lowered = some (text.map Char.toLower) := by
  refine ⟨_, by rw [Scalar.value, has, Option.map_some, holds], ?_⟩
  rw [Option.map_some, Engine.ofText?, Engine.text?, String.toList_ofList]

theorem empty_answer (connective : Connective) :
    connective.empty.answer db record values = some (some (!connective.decisive)) := by
  cases connective <;> rfl

theorem chain_answer (connective : Connective) {formulas : List Formula}
    {answers : List (Option Bool)}
    (each : List.Forall₂ (fun formula answer => formula.answer db record values = some answer)
      formulas answers) :
    (Formula.chain connective formulas).answer db record values
      = some (connective.fold answers) := by
  induction each with
  | nil => exact empty_answer connective
  | @cons formula answer formulas answers first others ih =>
    cases others with
    | nil =>
      rw [Formula.chain, first, Connective.fold, Connective.fold, Connective.apply_unit]
    | cons second others =>
      rw [Formula.chain, Formula.answer, first, ih]
      · rfl
      · exact List.cons_ne_nil _ _

end KeyStore.Sql
