import KeyStore.Sql.Arguments
import KeyStore.Sql.Identifier

/-!
# Conditions of a statement

A `Condition` is the Boolean expression over columns and operands that a WHERE clause holds;
`render` writes it down. Groups and negations stand in parentheses, so the text says the same
whatever it is joined with.
-/

namespace KeyStore.Sql

/-- An order that a column is compared by. -/
inductive Comparison where
  | equal
  | less
  | atMost
  | greater
  | atLeast
deriving DecidableEq, Repr, Inhabited

/-- The operator of a comparison. -/
def Comparison.operator : Comparison → String
  | equal => "="
  | less => "<"
  | atMost => "<="
  | greater => ">"
  | atLeast => ">="

/-- A Boolean expression of a statement. -/
inductive Condition where
  /-- The column is NULL. -/
  | isNull (column : String)
  /-- The column compares with the operand. -/
  | compare (column : String) (comparison : Comparison) (operand : Operand)
  /-- The column is the operand in some letter case. -/
  | equalsIgnoringCase (column : String) (operand : Operand)
  /-- The column matches the pattern in some letter case. -/
  | matchesIgnoringCase (column : String) (pattern : Operand)
  /-- The part of the column from the character `start` on is the operand. -/
  | segmentEquals (column : String) (start count : Nat) (operand : Operand)
  | not (inner : Condition)
  | all (parts : List Condition)
  | any (parts : List Condition)
deriving Repr, Inhabited

namespace Condition

/-- Parts in parentheses, or `absent` where there are none. -/
def group (joiner absent : String) (parts : List String) : String :=
  if parts.isEmpty then absent else "( " ++ joiner.intercalate parts ++ " )"

mutual

/-- The text of a condition. -/
def render (dialect : Dialect) : Condition → String
  | isNull column => quoteIdentifier column ++ " IS NULL"
  | compare column comparison operand =>
    quoteIdentifier column ++ " " ++ comparison.operator ++ " " ++ operand.render dialect
  | equalsIgnoringCase column operand =>
    "LOWER(" ++ quoteIdentifier column ++ ") = LOWER(" ++ operand.render dialect ++ ")"
  | matchesIgnoringCase column pattern =>
    dialect.matchesIgnoringCase (quoteIdentifier column) (pattern.render dialect)
  | segmentEquals column start count operand =>
    dialect.segment (quoteIdentifier column) start count ++ " = " ++ operand.render dialect
  | not inner => "NOT ( " ++ render dialect inner ++ " )"
  | all parts => group " AND " "1 = 1" (renderList dialect parts)
  | any parts => group " OR " "1 = 0" (renderList dialect parts)

/-- The texts of a list of conditions. -/
def renderList (dialect : Dialect) : List Condition → List String
  | [] => []
  | part :: rest => render dialect part :: renderList dialect rest

end

/-- Conditions that must all hold, joined without parentheses; nothing if there are none. -/
def conjunction (dialect : Dialect) (parts : List Condition) : Option String :=
  if parts.isEmpty then none else some (" AND ".intercalate (renderList dialect parts))

end Condition

end KeyStore.Sql
