import Mathlib.Data.List.Forall2
import KeyStore.Proofs.Sql.Lexer
import KeyStore.Statement

/-!
# The tokens of a statement

What is written for an operand is one token, whatever it stands for. The tokens of a condition and
of the statements that write rows are told here without their text, and the text is read as these
tokens: `Condition.lex_render`, `Statement.lex_insert` and `Statement.lex_update`.
-/

namespace KeyStore

namespace Sql

variable {dialect : Dialect}

/-! ### Operands and lists -/

/-- The token that is written for an operand. -/
def Operand.token : Operand → Token
  | parameter index => .parameter index
  | null => .word "NULL"

theorem lex_operand (operand : Operand) :
    lex dialect (operand.render dialect).toList = some [operand.token] := by
  cases operand with
  | parameter index => exact lex_placeholder index
  | null =>
    rw [Operand.render]
    rfl

/-- Texts that are joined are read one after the other if two that are joined are. -/
theorem lex_intercalate {joiner : List Char} {between : List Token}
    (joins : ∀ {before rest tokens more}, lex dialect before = some tokens →
      lex dialect rest = some more →
      lex dialect (before ++ joiner ++ rest) = some (tokens ++ between ++ more))
    {texts : List (List Char)} {lists : List (List Token)}
    (each : List.Forall₂ (fun text tokens => lex dialect text = some tokens) texts lists) :
    lex dialect (joiner.intercalate texts) = some (between.intercalate lists) := by
  induction each with
  | nil => rfl
  | @cons text tokens texts lists first others ih =>
    cases others with
    | nil => simpa using first
    | cons second others =>
      rw [List.intercalate_cons_cons, List.intercalate_cons_cons]
      exact joins first ih

/-- The tokens of items with commas between them. -/
def commas (items : List (List Token)) : List Token := [.symbol ','].intercalate items

theorem lex_commas {α : Type} {items : List α} {write : α → String} {tokens : α → List Token}
    (each : ∀ item, lex dialect (write item).toList = some (tokens item)) :
    lex dialect (", ".intercalate (items.map write)).toList = some (commas (items.map tokens)) := by
  rw [String.toList_intercalate, List.map_map]
  refine lex_intercalate (fun first others => ?_) ?_
  · have parted := lex_spaced (lex_concat first (Or.inr rfl)) others
    simpa using parted
  · rw [List.forall₂_map_left_iff, List.forall₂_map_right_iff, List.forall₂_same]
    exact fun item _ => each item

/-! ### Conditions -/

/-- The tokens of LOWER. -/
def lowered (inside : Token) : List Token := [.word "LOWER", .symbol '(', inside, .symbol ')']

theorem lex_lowered {text : List Char} {inside : Token} (lexed : lex dialect text = some [inside]) :
    lex dialect ("LOWER(".toList ++ (text ++ [')'])) = some (lowered inside) := by
  have opens : read dialect .nothing "LOWER(".toList
      = some ([.word "LOWER", .symbol '('], .nothing) := rfl
  exact lex_append opens (lex_concat lexed (Or.inl rfl))

namespace Dialect

/-- The tokens of a match in any letter case. -/
def matchTokens (column : String) (operand : Token) : Dialect → List Token
  | .postgres => [.name column, .word "ILIKE", operand, .word "ESCAPE", .text "\\"]
  | .sqlite =>
    lowered (.name column) ++ .word "LIKE" :: (lowered operand ++ [.word "ESCAPE", .text "\\"])

/-- The tokens of a part of a column. -/
def segmentTokens (column : String) (start count : Nat) : Dialect → List Token
  | .postgres =>
    [.word "SUBSTRING", .symbol '(', .name column, .word "FROM", .number start, .word "FOR",
      .number count, .symbol ')']
  | .sqlite =>
    [.word "SUBSTR", .symbol '(', .name column, .symbol ',', .number start, .symbol ',',
      .number count, .symbol ')']

theorem lex_match (column : String) (operand : Operand) :
    lex dialect (dialect.matchesIgnoringCase (quoteIdentifier column)
        (operand.render dialect)).toList
      = some (dialect.matchTokens column operand.token) := by
  have escape : lex dialect "ESCAPE '\\'".toList = some [.word "ESCAPE", .text "\\"] := rfl
  cases dialect with
  | postgres =>
    have keyword : lex .postgres "ILIKE".toList = some [.word "ILIKE"] := rfl
    have lexed := lex_spaced (lex_identifier column)
      (lex_spaced keyword (lex_spaced (lex_operand operand) escape))
    unfold matchesIgnoringCase
    refine (congrArg (lex .postgres) ?_).trans lexed
    simp
  | sqlite =>
    have keyword : lex .sqlite "LIKE".toList = some [.word "LIKE"] := rfl
    have lexed := lex_spaced (lex_lowered (lex_identifier column))
      (lex_spaced keyword (lex_spaced (lex_lowered (lex_operand operand)) escape))
    unfold matchesIgnoringCase
    refine (congrArg (lex .sqlite) ?_).trans lexed
    simp

theorem lex_segment (column : String) (start count : Nat) :
    lex dialect (dialect.segment (quoteIdentifier column) start count).toList
      = some (dialect.segmentTokens column start count) := by
  cases dialect with
  | postgres =>
    have opens : read .postgres .nothing "SUBSTRING(".toList
        = some ([.word "SUBSTRING", .symbol '('], .nothing) := rfl
    have from_ : lex .postgres "FROM".toList = some [.word "FROM"] := rfl
    have for_ : lex .postgres "FOR".toList = some [.word "FOR"] := rfl
    have lexed := lex_spaced (lex_append opens (lex_identifier column))
      (lex_spaced from_ (lex_spaced (lex_number start)
        (lex_spaced for_ (lex_concat (lex_number count) (Or.inl rfl)))))
    unfold segment
    refine (congrArg (lex .postgres) ?_).trans lexed
    simp
  | sqlite =>
    have opens : read .sqlite .nothing "SUBSTR(".toList
        = some ([.word "SUBSTR", .symbol '('], .nothing) := rfl
    have lexed := lex_spaced
      (lex_append opens (lex_concat (lex_identifier column) (Or.inr rfl)))
      (lex_spaced (lex_concat (lex_number start) (Or.inr rfl))
        (lex_concat (lex_number count) (Or.inl rfl)))
    unfold segment
    refine (congrArg (lex .sqlite) ?_).trans lexed
    simp

end Dialect

namespace Condition

/-- The tokens of a group, where `absent` stands for no parts. -/
def groupTokens (keyword : String) (absent : Nat) (parts : List (List Token)) : List Token :=
  if parts.isEmpty then [.number 1, .operator .equal, .number absent]
  else .symbol '(' :: ([.word keyword].intercalate parts ++ [.symbol ')'])

mutual

/-- The tokens of a condition. -/
def tokens (dialect : Dialect) : Condition → List Token
  | isNull column => [.name column, .word "IS", .word "NULL"]
  | compare column comparison operand => [.name column, .operator comparison, operand.token]
  | equalsIgnoringCase column operand =>
    lowered (.name column) ++ .operator .equal :: lowered operand.token
  | matchesIgnoringCase column pattern => dialect.matchTokens column pattern.token
  | segmentEquals column start count operand =>
    dialect.segmentTokens column start count ++ [.operator .equal, operand.token]
  | not inner => .word "NOT" :: .symbol '(' :: (tokens dialect inner ++ [.symbol ')'])
  | all parts => groupTokens "AND" 1 (tokensOf dialect parts)
  | any parts => groupTokens "OR" 0 (tokensOf dialect parts)

/-- The tokens of each of some conditions. -/
def tokensOf (dialect : Dialect) : List Condition → List (List Token)
  | [] => []
  | part :: rest => tokens dialect part :: tokensOf dialect rest

end

/-- Parts with a keyword between them. -/
theorem lex_joined {keyword : String} (word : lex dialect keyword.toList = some [.word keyword])
    {joiner : String} (joins : joiner.toList = ' ' :: (keyword.toList ++ [' ']))
    {texts : List (List Char)} {lists : List (List Token)}
    (each : List.Forall₂ (fun text tokens => lex dialect text = some tokens) texts lists) :
    lex dialect (joiner.toList.intercalate texts) = some ([.word keyword].intercalate lists) := by
  rw [joins]
  refine lex_intercalate (fun first others => ?_) each
  have parted := lex_spaced first (lex_spaced word others)
  simpa using parted

theorem lex_group {keyword joiner absent : String} {unit : Nat}
    (word : lex dialect keyword.toList = some [.word keyword])
    (joins : joiner.toList = ' ' :: (keyword.toList ++ [' ']))
    (empty : lex dialect absent.toList = some [.number 1, .operator .equal, .number unit])
    {texts : List String} {lists : List (List Token)}
    (each : List.Forall₂ (fun text tokens => lex dialect text = some tokens)
      (texts.map String.toList) lists) :
    lex dialect (group joiner absent texts).toList = some (groupTokens keyword unit lists) := by
  cases texts with
  | nil =>
    cases each
    exact empty
  | cons text texts =>
    have opens : read dialect .nothing "( ".toList = some ([.symbol '('], .nothing) := rfl
    have closes : lex dialect ")".toList = some [.symbol ')'] := rfl
    have lexed := lex_append opens (lex_spaced (lex_joined word joins each) closes)
    have same : (group joiner absent (text :: texts)).toList
        = "( ".toList ++ (List.intercalate joiner.toList ((text :: texts).map String.toList)
          ++ ' ' :: ")".toList) := by
      unfold group
      rw [List.isEmpty_cons, if_neg Bool.false_ne_true, String.toList_append, String.toList_append,
        String.toList_intercalate, List.append_assoc]
      rfl
    rw [same, lexed]
    cases each
    rfl

mutual

/-- The text of a condition is read as its tokens. -/
theorem lex_render (dialect : Dialect) : ∀ condition : Condition,
    lex dialect (condition.render dialect).toList = some (condition.tokens dialect)
  | .isNull column => by
    have behind : lex dialect "IS NULL".toList = some [.word "IS", .word "NULL"] := rfl
    rw [render, String.toList_append]
    exact lex_spaced (lex_identifier column) behind
  | .compare column comparison operand => by
    have operator : lex dialect comparison.operator.toList = some [.operator comparison] := by
      cases comparison <;> rfl
    have lexed := lex_spaced (lex_identifier column) (lex_spaced operator (lex_operand operand))
    unfold render
    refine (congrArg (lex dialect) ?_).trans lexed
    simp
  | .equalsIgnoringCase column operand => by
    have operator : lex dialect "=".toList = some [.operator .equal] := rfl
    have lexed := lex_spaced (lex_lowered (lex_identifier column))
      (lex_spaced operator (lex_lowered (lex_operand operand)))
    unfold render
    refine (congrArg (lex dialect) ?_).trans lexed
    simp
  | .matchesIgnoringCase column pattern => Dialect.lex_match column pattern
  | .segmentEquals column start count operand => by
    have operator : lex dialect "=".toList = some [.operator .equal] := rfl
    have lexed := lex_spaced (Dialect.lex_segment column start count)
      (lex_spaced operator (lex_operand operand))
    unfold render
    refine (congrArg (lex dialect) ?_).trans lexed
    simp
  | .not inner => by
    have opens : read dialect .nothing "NOT ( ".toList
        = some ([.word "NOT", .symbol '('], .nothing) := rfl
    have closes : lex dialect ")".toList = some [.symbol ')'] := rfl
    have lexed := lex_append opens (lex_spaced (lex_render dialect inner) closes)
    unfold render
    refine (congrArg (lex dialect) ?_).trans lexed
    simp
  | .all parts => by
    unfold render tokens
    exact lex_group rfl rfl rfl (lex_renderList dialect parts)
  | .any parts => by
    unfold render tokens
    exact lex_group rfl rfl rfl (lex_renderList dialect parts)

theorem lex_renderList (dialect : Dialect) : ∀ parts : List Condition,
    List.Forall₂ (fun text tokens => lex dialect text = some tokens)
      ((renderList dialect parts).map String.toList) (tokensOf dialect parts)
  | [] => .nil
  | part :: rest => .cons (lex_render dialect part) (lex_renderList dialect rest)

end

/-- The tokens of conditions that must all hold; nothing if there are none. -/
def conjunctionTokens (dialect : Dialect) (parts : List Condition) : Option (List Token) :=
  if parts.isEmpty then none else some ([.word "AND"].intercalate (tokensOf dialect parts))

theorem lex_conjunction (dialect : Dialect) (parts : List Condition) :
    (conjunction dialect parts).map (fun text => lex dialect text.toList)
      = (conjunctionTokens dialect parts).map some := by
  rw [conjunction, conjunctionTokens]
  split
  · rfl
  · rw [Option.map_some, Option.map_some, String.toList_intercalate]
    exact congrArg some (lex_joined rfl rfl (lex_renderList dialect parts))

end Condition

end Sql

open Sql

namespace Statement

variable {dialect : Dialect}

/-- The tokens of an INSERT. -/
def insertTokens (relation : String) (row : List (String × Operand)) : List Token :=
  [.word "INSERT", .word "INTO", .name relation, .symbol '(']
    ++ (commas (row.map fun entry => [.name entry.1])
      ++ ([.symbol ')', .word "VALUES", .symbol '(']
        ++ (commas (row.map fun entry => [entry.2.token]) ++ [.symbol ')'])))

/-- The tokens of an UPDATE, with those of its condition if it has one. -/
def updateTokens (relation : String) (assignments : List (String × Operand))
    (condition : Option (List Token)) : List Token :=
  [.word "UPDATE", .name relation, .word "SET"]
    ++ (commas (assignments.map fun entry => [.name entry.1, .operator .equal, entry.2.token])
      ++ (condition.map (.word "WHERE" :: ·)).getD [])

theorem lex_insert (relation : String) (row : List (String × Operand)) :
    lex dialect (render dialect (.insert relation row)).toList
      = some (insertTokens relation row) := by
  have opens : lex dialect "INSERT INTO".toList = some [.word "INSERT", .word "INTO"] := rfl
  have first : lex dialect "(".toList = some [.symbol '('] := rfl
  have between : lex dialect ") VALUES (".toList
      = some [.symbol ')', .word "VALUES", .symbol '('] := rfl
  have last : lex dialect ")".toList = some [.symbol ')'] := rfl
  have names : lex dialect (", ".intercalate (row.map fun entry => quoteIdentifier entry.1)).toList
      = some (commas (row.map fun entry => [.name entry.1])) :=
    lex_commas fun entry => lex_identifier entry.1
  have operands : lex dialect (", ".intercalate
      (row.map fun entry => entry.2.render dialect)).toList
      = some (commas (row.map fun entry => [entry.2.token])) :=
    lex_commas fun entry => lex_operand entry.2
  have lexed := lex_spaced opens (lex_spaced (lex_identifier relation) (lex_spaced first
    (lex_spaced names (lex_spaced between (lex_spaced operands last)))))
  unfold render
  refine (congrArg (lex dialect) ?_).trans lexed
  simp

theorem lex_update (relation : String) (assignments : List (String × Operand))
    (conditions : List Condition) :
    lex dialect (render dialect (.update relation assignments conditions)).toList
      = some (updateTokens relation assignments
          (Condition.conjunctionTokens dialect conditions)) := by
  have opens : lex dialect "UPDATE".toList = some [.word "UPDATE"] := rfl
  have sets : lex dialect "SET".toList = some [.word "SET"] := rfl
  have rows : lex dialect (", ".intercalate (assignments.map fun entry =>
      quoteIdentifier entry.1 ++ " = " ++ entry.2.render dialect)).toList
      = some (commas (assignments.map fun entry =>
        [.name entry.1, .operator .equal, entry.2.token])) := by
    refine lex_commas fun entry => ?_
    have operator : lex dialect "=".toList = some [.operator .equal] := rfl
    have lexed := lex_spaced (lex_identifier entry.1) (lex_spaced operator (lex_operand entry.2))
    refine (congrArg (lex dialect) ?_).trans lexed
    simp
  have written := Condition.lex_conjunction dialect conditions
  unfold render whereClause
  cases joined : Condition.conjunction dialect conditions with
  | none =>
    rw [joined, Option.map_none, eq_comm, Option.map_eq_none_iff] at written
    have lexed := lex_spaced opens (lex_spaced (lex_identifier relation) (lex_spaced sets rows))
    rw [written, updateTokens, Option.map_none, Option.getD_none, List.append_nil]
    refine (congrArg (lex dialect) ?_).trans lexed
    simp [joined]
  | some text =>
    rw [joined, Option.map_some, eq_comm, Option.map_eq_some_iff] at written
    obtain ⟨tokens, listed, said⟩ := written
    have where_ : lex dialect "WHERE".toList = some [.word "WHERE"] := rfl
    have lexed := lex_spaced opens (lex_spaced (lex_identifier relation) (lex_spaced sets
      (lex_spaced rows (lex_spaced where_ said.symm))))
    rw [listed, updateTokens, Option.map_some, Option.getD_some]
    refine (congrArg (lex dialect) ?_).trans lexed
    simp [joined]

end Statement

end KeyStore
