import KeyStore.Proofs.Sql.Lexer

/-!
# The grammar of conditions

The tokens of a WHERE clause are read by recursive descent. A comparison binds tighter than NOT, NOT
tighter than AND, and AND tighter than OR; parentheses make one operand of what stands inside.
Chains of one connective nest to the right, which says the same, since AND and OR are associative.
-/

namespace KeyStore.Sql

/-- An expression that stands for a value. -/
inductive Scalar where
  | column (name : String)
  | parameter (index : Nat)
  | null
  | number (value : Nat)
  | text (text : String)
  | lower (inner : Scalar)
  /-- So many characters from the given one on, counted from one. -/
  | segment (inner : Scalar) (start count : Nat)
deriving DecidableEq, Repr

/-- AND or OR. -/
inductive Connective where
  | and
  | or
deriving DecidableEq, Repr

def Connective.keyword : Connective → String
  | and => "AND"
  | or => "OR"

/-- An expression that is true, false or unknown. -/
inductive Formula where
  | isNull (subject : Scalar)
  | compare (comparison : Comparison) (left right : Scalar)
  /-- The subject matches the pattern, in any letter case if `caseless`. -/
  | like (caseless : Bool) (subject pattern : Scalar) (escape : Char)
  | not (inner : Formula)
  | join (connective : Connective) (left right : Formula)
deriving DecidableEq, Repr

/-- The value at the front of some tokens, and the tokens behind it. -/
def readScalar : List Token → Option (Scalar × List Token)
  | .name name :: rest => some (.column name, rest)
  | .parameter index :: rest => some (.parameter index, rest)
  | .number value :: rest => some (.number value, rest)
  | .text text :: rest => some (.text text, rest)
  | .word "NULL" :: rest => some (.null, rest)
  | .word "LOWER" :: .symbol '(' :: rest =>
    match readScalar rest with
    | some (inner, .symbol ')' :: rest) => some (.lower inner, rest)
    | _ => none
  | .word "SUBSTR" :: .symbol '(' :: rest =>
    match readScalar rest with
    | some (inner, .symbol ',' :: .number start :: .symbol ',' :: .number count ::
        .symbol ')' :: rest) => some (.segment inner start count, rest)
    | _ => none
  | .word "SUBSTRING" :: .symbol '(' :: rest =>
    match readScalar rest with
    | some (inner, .word "FROM" :: .number start :: .word "FOR" :: .number count ::
        .symbol ')' :: rest) => some (.segment inner start count, rest)
    | _ => none
  | _ => none

/-- What follows LIKE or ILIKE: a pattern and its escape character. -/
def readPattern (caseless : Bool) (subject : Scalar) (tokens : List Token) :
    Option (Formula × List Token) :=
  match readScalar tokens with
  | some (pattern, .word "ESCAPE" :: .text escape :: rest) =>
    match escape.toList with
    | [c] => some (.like caseless subject pattern c, rest)
    | _ => none
  | _ => none

/-- A comparison at the front of some tokens. -/
def readComparison (tokens : List Token) : Option (Formula × List Token) :=
  match readScalar tokens with
  | some (left, .operator comparison :: rest) =>
    (readScalar rest).map fun (right, rest) => (.compare comparison left right, rest)
  | some (left, .word "IS" :: .word "NULL" :: rest) => some (.isNull left, rest)
  | some (left, .word "LIKE" :: rest) => readPattern false left rest
  | some (left, .word "ILIKE" :: rest) => readPattern true left rest
  | _ => none

/-- How tight an expression binds: a chain of one connective, or an operand of AND. -/
inductive Level where
  | chain (connective : Connective)
  | operand
deriving DecidableEq, Repr

/-- What a connective stands between. -/
def Connective.operands : Connective → Level
  | or => .chain .and
  | and => .operand

/-- An expression of the given level at the front of some tokens, and the tokens behind it. Every
call takes one from `fuel`. -/
def readFormula : (fuel : Nat) → Level → List Token → Option (Formula × List Token)
  | 0, _, _ => none
  | fuel + 1, .chain connective, tokens =>
    match readFormula fuel connective.operands tokens with
    | some (left, .word letters :: rest) =>
      if letters = connective.keyword then
        (readFormula fuel (.chain connective) rest).map fun (right, rest) =>
          (.join connective left right, rest)
      else some (left, .word letters :: rest)
    | other => other
  | fuel + 1, .operand, .word "NOT" :: tokens =>
    (readFormula fuel .operand tokens).map fun (inner, rest) => (.not inner, rest)
  | fuel + 1, .operand, .symbol '(' :: tokens =>
    match readFormula fuel (.chain .or) tokens with
    | some (inner, .symbol ')' :: rest) => some (inner, rest)
    | _ => none
  | _ + 1, .operand, tokens => readComparison tokens

/-- The formula that a text stands for, if it is one. A token takes three calls at most. -/
def parse (dialect : Dialect) (text : String) : Option Formula :=
  match lex dialect text.toList with
  | none => none
  | some tokens =>
    match readFormula (3 * tokens.length + 3) (.chain .or) tokens with
    | some (formula, []) => some formula
    | _ => none

example :
    parse .sqlite "\"a\" = ?1 OR NOT \"b\" IS NULL AND \"c\" < ?2"
      = some (.join .or (.compare .equal (.column "a") (.parameter 1))
          (.join .and (.not (.isNull (.column "b")))
            (.compare .less (.column "c") (.parameter 2)))) := by
  decide

end KeyStore.Sql
