import KeyStore.Sql.Dialect
import KeyStore.Value

/-!
# Arguments of a statement

Values are bound in the order in which the statement mentions them, and parameters are numbered in
that order. NULL is written as a keyword and binds nothing.
-/

namespace KeyStore.Sql

/-- What stands for a value in a statement. -/
inductive Operand where
  /-- The parameter with this number, counted from one. -/
  | parameter (index : Nat)
  /-- The keyword NULL. -/
  | null
deriving DecidableEq, Repr, Inhabited

/-- The text of an operand. -/
def Operand.render (dialect : Dialect) : Operand → String
  | parameter index => dialect.placeholder index
  | null => "NULL"

/-- The values bound so far. -/
structure Arguments where
  dialect : Dialect
  values : List Value
deriving DecidableEq, Inhabited

namespace Arguments

/-- No values. -/
def empty (dialect : Dialect) : Arguments := ⟨dialect, []⟩

/-- The number of bound values. -/
def size (args : Arguments) : Nat := args.values.length

/-- Binds a value and gives what stands for it. -/
def push (args : Arguments) (value : Value) : Operand × Arguments :=
  if value.isNull then (.null, args)
  else (.parameter (args.size + 1), { args with values := args.values ++ [value] })

/-- Binds a list of values from left to right. -/
def pushAll (args : Arguments) : List Value → List Operand × Arguments
  | [] => ([], args)
  | value :: rest =>
    let (operands, bound) := (args.push value).2.pushAll rest
    ((args.push value).1 :: operands, bound)

/-- Takes back every value bound after the first `mark`. -/
def rewind (args : Arguments) (mark : Nat) : Arguments :=
  { args with values := args.values.take mark }

end Arguments

end KeyStore.Sql
