import KeyStore.Error
import KeyStore.Filter
import KeyStore.Record

/-!
# Conditions

Filters by field, all of which must hold. Part of them may go to the database and the rest be tested
in process: `Conditions.split` makes the two halves.
-/

namespace KeyStore

/-- A filter for each of some fields. -/
abbrev Conditions := FieldMap Filter

namespace Conditions

/-- Asks for `filter` on `field` besides what is asked for already. -/
def restrict (conditions : Conditions) (field : String) (filter : Filter) : Conditions :=
  match conditions.get? field with
  | some present => conditions.insert field (.all [present, filter])
  | none => conditions.insert field filter

/-- Asks for everything that `scope` asks for besides what is asked for already. -/
def within (conditions scope : Conditions) : Conditions :=
  scope.toList.foldl (fun all entry => restrict all entry.1 entry.2) conditions

/-- Whether the record satisfies every filter. -/
def accepts (conditions : Conditions) (record : Record) : Bool :=
  conditions.toList.all fun entry => entry.2.accepts (Record.value record entry.1)

/-- Whether the database can answer the filter of `field`. -/
def isAnswerable (dialect : Sql.Dialect) (isColumn : String → Bool) (field : String)
    (filter : Filter) : Bool :=
  isColumn field && (filter.bind field (.empty dialect)).1.isSome

/-- The half that the database answers and the half that is tested in process. -/
def split (conditions : Conditions) (dialect : Sql.Dialect) (isColumn : String → Bool) :
    Conditions × Conditions :=
  (conditions.filter (isAnswerable dialect isColumn),
    conditions.filter fun field filter => !isAnswerable dialect isColumn field filter)

/-- Binds filters from left to right. The first without a form in SQL is an error, and what was
bound before it stays bound. -/
def bindEntries : List (String × Filter) → Sql.Arguments →
    Except StoreError (List Sql.Condition) × Sql.Arguments
  | [], args => (.ok [], args)
  | (field, filter) :: rest, args =>
    match filter.bind field args with
    | (none, args) => (.error (.filterUnrenderable field), args)
    | (some condition, args) =>
      let (result, args) := bindEntries rest args
      (result.map (condition :: ·), args)

/-- The conditions of a WHERE clause in the order of the fields, and the arguments after them. -/
def bind (conditions : Conditions) (args : Sql.Arguments) :
    Except StoreError (List Sql.Condition) × Sql.Arguments :=
  bindEntries conditions.toList args

/-- The text of a WHERE clause, `none` if nothing is asked for, and the arguments after it. -/
def render (conditions : Conditions) (args : Sql.Arguments) :
    Except StoreError (Option String) × Sql.Arguments :=
  let (result, bound) := bind conditions args
  (result.map (Sql.Condition.conjunction args.dialect), bound)

end Conditions

end KeyStore
