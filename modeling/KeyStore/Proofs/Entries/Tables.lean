import Mathlib.Logic.Function.Basic
import KeyStore.Proofs.Conditions.Agreement
import KeyStore.Session

/-!
# Databases that do what statements say

A database of tables. A DELETE takes away the rows that satisfy its conditions, an UPDATE gives them
new values, and a SELECT streams them as they are at that moment, in an order of its own. Which rows
satisfy the conditions of a statement is for the database to say; `Conditions.UnderstoodBy` says
that it agrees with the process about a record. An engine that reads the text of a WHERE clause
agrees wherever values suit the filters (`understoodBy_of_suit`).
-/

namespace KeyStore

open Sql

/-- The rows of every table. -/
abbrev Tables : Type := String → List Record

namespace Sql

/-- Which records satisfy the conditions of a statement with these arguments. -/
abbrev Test : Type := List Condition → List Value → Record → Bool

/-- The value that an operand stands for. -/
def Operand.resolve (args : List Value) : Operand → Value
  | .parameter index => args[index - 1]?.getD .null
  | .null => .null

/-- Gives columns of a row new values. -/
def assign (assignments : List (String × Operand)) (args : List Value) (row : Record) : Record :=
  assignments.foldl (fun row entry => row.insert entry.1 (entry.2.resolve args)) row

end Sql

/-- What the database says of a record under these conditions is what the process says, whatever was
bound before them. -/
def Conditions.UnderstoodBy (holds : Test) (dialect : Dialect) (conditions : Conditions)
    (record : Record) : Prop :=
  ∀ before parts bound, conditions.bind ⟨dialect, before⟩ = (.ok parts, bound) →
    holds parts bound.values record = conditions.accepts record

/-- The database does what statements say. What else its state holds is left open. -/
structure Backend.Executes {σ : Type} (backend : Backend σ) (tables : σ → Tables) (holds : Test) :
    Prop where
  begins : ∀ state, ∃ count later,
    backend.execute ⟨.control .begin, []⟩ state = (.ok count, later) ∧ tables later = tables state
  deletes : ∀ name conditions args state, ∃ later,
    backend.execute ⟨.delete name conditions, args⟩ state
      = (.ok (UInt64.ofNat ((tables state name).countP (holds conditions args))), later) ∧
    tables later = Function.update (tables state) name
      ((tables state name).filter fun row => !holds conditions args row)
  updates : ∀ name assignments conditions args state, ∃ later,
    backend.execute ⟨.update name assignments conditions, args⟩ state
      = (.ok (UInt64.ofNat ((tables state name).countP (holds conditions args))), later) ∧
    tables later = Function.update (tables state) name
      ((tables state name).map fun row =>
        if holds conditions args row then assign assignments args row else row)
  streams : ∀ columns name conditions args shape state, ∃ (rows : List Record) (later : σ),
    backend.stream ⟨.select (.columns columns) name conditions none, args⟩ shape state
      = (.ok (rows.map .ok), later) ∧
    tables later = tables state ∧
    rows.Perm (((tables state name).filter (holds conditions args)).map (·.project columns))

/-! ### An engine with tables -/

namespace Sql.Engine

variable (db : Engine) (dialect : Dialect)

/-- A row satisfies conditions if the text of their WHERE clause is true of it. -/
def holds : Test := fun conditions args row =>
  db.askWhere row args dialect (Condition.conjunction dialect conditions) = some (some true)

/-- A database that holds tables and reads the text of conditions. -/
def backend : Backend Tables where
  dialect := dialect
  execute query tables :=
    match query.statement with
    | .insert name row =>
      (.ok 1, Function.update tables name (tables name ++ [assign row query.args .empty]))
    | .delete name conditions =>
      (.ok (UInt64.ofNat ((tables name).countP (db.holds dialect conditions query.args))),
        Function.update tables name
          ((tables name).filter fun row => !db.holds dialect conditions query.args row))
    | .update name assignments conditions =>
      (.ok (UInt64.ofNat ((tables name).countP (db.holds dialect conditions query.args))),
        Function.update tables name ((tables name).map fun row =>
          if db.holds dialect conditions query.args row then assign assignments query.args row
          else row))
    | _ => (.ok 0, tables)
  fetch _ _ tables := (.ok [], tables)
  stream query _ tables :=
    match query.statement with
    | .select (.columns columns) name conditions none =>
      (.ok ((((tables name).filter (db.holds dialect conditions query.args)).map
        (·.project columns)).map .ok), tables)
    | _ => (.ok [], tables)

theorem backend_executes : (db.backend dialect).Executes id (db.holds dialect) where
  begins tables := ⟨0, tables, rfl, rfl⟩
  deletes _ _ _ _ := ⟨_, rfl, rfl⟩
  updates _ _ _ _ _ := ⟨_, rfl, rfl⟩
  streams _ _ _ _ _ tables := ⟨_, tables, rfl, rfl, .refl _⟩

/-- An engine understands conditions whose filters it answers as the process does. -/
theorem understoodBy_of_alike {conditions : Conditions} {record : Record}
    (alike : ∀ entry ∈ conditions.toList, Filter.BindsAlike db record entry.1 entry.2) :
    conditions.UnderstoodBy (db.holds dialect) dialect record := by
  intro before parts bound binds
  obtain ⟨conditions_bound, values, bound_eq, answers⟩ :=
    Conditions.bindEntries_alike alike ⟨dialect, before⟩
  rw [Conditions.bind, bound_eq] at binds
  cases binds
  have asked := Conditions.askWhere_conjunction (answers [])
  rw [List.append_nil] at asked
  rw [holds, Arguments.extend_values, asked, Bool.eq_iff_iff, decide_eq_true_eq,
    Option.some_inj, Conditions.accepts_iff_fold]

/-- An engine understands conditions whose filters suit the values of the record. -/
theorem understoodBy_of_suit {conditions : Conditions} {record : Record}
    (suit : conditions.Suit record) : conditions.UnderstoodBy (db.holds dialect) dialect record :=
  db.understoodBy_of_alike dialect fun entry member => Filter.bindsAlike db (suit entry member)

end Sql.Engine

end KeyStore
