import KeyStore.Sql.Condition
import KeyStore.Sql.Pattern
import KeyStore.Text.Case
import KeyStore.Text.Search
import KeyStore.Value

/-!
# Filters

A filter asks something about one value and answers yes, no, or unknown. Most filters have a form in
SQL; a predicate of the caller has none, and neither has a filter that holds one.

`Filter.evaluate` answers in process. `Filter.bind` builds the condition of a statement and binds
what it mentions. A group with a part that has no form in SQL takes back what the parts before it
bound, so that a filter without a condition leaves the arguments as they were.
-/

namespace KeyStore

/-- A question about a value that only the caller knows how to answer. -/
structure Predicate where
  /-- What the caller calls it. -/
  name : String
  /-- The answer, `none` for unknown. -/
  evaluate : Value → Option Bool

/-- A question about the value of one field. -/
inductive Filter where
  | equals (value : Value)
  | equalsIgnoringCase (text : String)
  | containsIgnoringCase (text : String)
  /-- The eight characters after the first eight of a key id are the given ones. -/
  | shortId (digits : String)
  | lessThan (bound : Value)
  | atMost (bound : Value)
  | greaterThan (bound : Value)
  | atLeast (bound : Value)
  | not (inner : Filter)
  | all (parts : List Filter)
  | any (parts : List Filter)
  | custom (predicate : Predicate)

namespace Filter

/-- Where the short id starts in a key id, counted from one. -/
def shortIdStart : Nat := 9

/-- How many characters a short id has. -/
def shortIdLength : Nat := 8

/-- Asks for NULL. -/
def isNull : Filter := equals .null

/-- Asks for one of the values. -/
def anyOf (values : List Value) : Filter := any (values.map equals)

/-! ### In process -/

/-- Compares two values that are both known; kinds that do not mix compare as no. -/
def comparison (value bound : Value) (accept : Ordering → Bool) : Option Bool :=
  if value.isNull || bound.isNull then none
  else some ((value.compare? bound).elim false accept)

/-- Tests a text; a value of another kind fails. -/
def textTest (value : Value) (accept : List Char → Bool) : Option Bool :=
  match value with
  | .null => none
  | .text s => some (accept s.toList)
  | _ => some false

mutual

/-- The answer for a value, `none` for unknown. -/
def evaluate : Filter → Value → Option Bool
  | equals expected, value =>
    if expected.isNull then some value.isNull
    else comparison value expected (· = .eq)
  | equalsIgnoringCase expected, value =>
    textTest value fun actual => Text.lower actual = Text.lower expected.toList
  | containsIgnoringCase needle, value =>
    textTest value fun actual => Text.occursIn (Text.lower needle.toList) (Text.lower actual)
  | shortId digits, value =>
    textTest value fun actual =>
      (actual.drop (shortIdStart - 1)).take shortIdLength = Text.upper digits.toList
  | lessThan bound, value => comparison value bound (· = .lt)
  | atMost bound, value => comparison value bound (· ≠ .gt)
  | greaterThan bound, value => comparison value bound (· = .gt)
  | atLeast bound, value => comparison value bound (· ≠ .lt)
  | not inner, value => (evaluate inner value).map (!·)
  | all parts, value => evaluateUntil false parts value false
  | any parts, value => evaluateUntil true parts value false
  | custom predicate, value => predicate.evaluate value

/-- Asks the parts in turn until one gives the decisive answer. Without one the answer is the other,
or unknown if some part did not know. -/
def evaluateUntil (decisive : Bool) : List Filter → Value → (unknown : Bool) → Option Bool
  | [], _, unknown => if unknown then none else some (!decisive)
  | part :: rest, value, unknown =>
    match evaluate part value with
    | none => evaluateUntil decisive rest value true
    | some answer =>
      if answer = decisive then some decisive else evaluateUntil decisive rest value unknown

end

/-- Whether the answer is a definite yes. -/
def accepts (filter : Filter) (value : Value) : Bool := filter.evaluate value = some true

/-! ### In a statement -/

/-- A condition on one bound value. -/
def bindOne (args : Sql.Arguments) (value : Value) (condition : Sql.Operand → Sql.Condition) :
    Option Sql.Condition × Sql.Arguments :=
  (some (condition (args.push value).1), (args.push value).2)

/-- A group of the parts; without them, the arguments bound since `before` are taken back. -/
def bindGroup (before : Sql.Arguments) (condition : List Sql.Condition → Sql.Condition) :
    Option (List Sql.Condition) × Sql.Arguments → Option Sql.Condition × Sql.Arguments
  | (some parts, args) => (some (condition parts), args)
  | (none, args) => (none, args.rewind before.size)

mutual

/-- The condition that asks the question about `column`, and the arguments with the values that it
mentions. A filter without a form in SQL gives none. -/
def bind (column : String) : Filter → Sql.Arguments → Option Sql.Condition × Sql.Arguments
  | equals value, args =>
    if value.isNull then (some (.isNull column), args)
    else bindOne args value (.compare column .equal)
  | equalsIgnoringCase text, args => bindOne args (.text text) (.equalsIgnoringCase column)
  | containsIgnoringCase text, args =>
    bindOne args (.text (Sql.containsPattern text)) (.matchesIgnoringCase column)
  | shortId digits, args =>
    bindOne args (.text (String.ofList (Text.upper digits.toList)))
      (.segmentEquals column shortIdStart shortIdLength)
  | lessThan bound, args => bindOne args bound (.compare column .less)
  | atMost bound, args => bindOne args bound (.compare column .atMost)
  | greaterThan bound, args => bindOne args bound (.compare column .greater)
  | atLeast bound, args => bindOne args bound (.compare column .atLeast)
  | not inner, args =>
    let (condition, args) := bind column inner args
    (condition.map .not, args)
  | all parts, args => bindGroup args .all (bindParts column parts args)
  | any parts, args => bindGroup args .any (bindParts column parts args)
  | custom _, args => (none, args)

/-- The conditions of all parts, bound from left to right up to the first part that has none. -/
def bindParts (column : String) :
    List Filter → Sql.Arguments → Option (List Sql.Condition) × Sql.Arguments
  | [], args => (some [], args)
  | part :: rest, args =>
    match bind column part args with
    | (none, args) => (none, args)
    | (some condition, args) =>
      let (conditions, args) := bindParts column rest args
      (conditions.map (condition :: ·), args)

end

end Filter

end KeyStore
