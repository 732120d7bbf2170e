/-!
# Dialects

The two databases agree on most of SQL. They differ in how parameters are numbered, how a text is
searched without regard to case, and how a part of a text is taken.
-/

namespace KeyStore.Sql

/-- The database that a statement is written for. -/
inductive Dialect where
  | postgres
  | sqlite
deriving DecidableEq, Repr, Inhabited

namespace Dialect

/-- The name of the database. -/
def name : Dialect → String
  | postgres => "postgres"
  | sqlite => "sqlite"

/-- The marker of the parameter with the given number, counted from one. -/
def placeholder : Dialect → Nat → String
  | postgres, index => "$" ++ toString index
  | sqlite, index => "?" ++ toString index

/-- The condition that `column` matches the pattern `operand` in any letter case. -/
def matchesIgnoringCase : Dialect → (column operand : String) → String
  | postgres, column, operand => column ++ " ILIKE " ++ operand ++ " ESCAPE '\\'"
  | sqlite, column, operand =>
    "LOWER(" ++ column ++ ") LIKE LOWER(" ++ operand ++ ") ESCAPE '\\'"

/-- The part of `column` from the character `start`, counted from one, with `count` characters. -/
def segment : Dialect → (column : String) → (start count : Nat) → String
  | postgres, column, start, count =>
    "SUBSTRING(" ++ column ++ " FROM " ++ toString start ++ " FOR " ++ toString count ++ ")"
  | sqlite, column, start, count =>
    "SUBSTR(" ++ column ++ ", " ++ toString start ++ ", " ++ toString count ++ ")"

end Dialect

end KeyStore.Sql
