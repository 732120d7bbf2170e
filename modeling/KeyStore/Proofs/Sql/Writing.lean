import Mathlib.Data.List.Forall2
import KeyStore.Proofs.Sql.Grammar

/-!
# Conditions are read as they were meant

`Condition.formula` is what a condition means to say. `parse_render`: reading the text of a
condition gives it back, and `parse_conjunction`: so does reading several conditions joined by AND
without parentheses.
-/

namespace KeyStore.Sql

def Operand.scalar : Operand → Scalar
  | parameter index => .parameter index
  | null => .null

def Connective.unit : Connective → Nat
  | and => 1
  | or => 0

/-- What a chain without parts says: that one is one, or that one is zero. -/
def Connective.empty (connective : Connective) : Formula :=
  .compare .equal (.number 1) (.number connective.unit)

/-- A chain of one connective. -/
def Formula.chain (connective : Connective) : List Formula → Formula
  | [] => connective.empty
  | [formula] => formula
  | formula :: rest => .join connective formula (chain connective rest)

namespace Condition

mutual

/-- What a condition says. -/
def formula (dialect : Dialect) : Condition → Formula
  | isNull column => .isNull (.column column)
  | compare column comparison operand => .compare comparison (.column column) operand.scalar
  | equalsIgnoringCase column operand =>
    .compare .equal (.lower (.column column)) (.lower operand.scalar)
  | matchesIgnoringCase column pattern =>
    match dialect with
    | .postgres => .like true (.column column) pattern.scalar '\\'
    | .sqlite => .like false (.lower (.column column)) (.lower pattern.scalar) '\\'
  | segmentEquals column start count operand =>
    .compare .equal (.segment (.column column) start count) operand.scalar
  | not inner => .not (formula dialect inner)
  | all parts => .chain .and (formulas dialect parts)
  | any parts => .chain .or (formulas dialect parts)

def formulas (dialect : Dialect) : List Condition → List Formula
  | [] => []
  | part :: rest => formula dialect part :: formulas dialect rest

end

end Condition

variable {dialect : Dialect}

/-! ### Values -/

/-- The text is read as the value, whatever follows. -/
def Scalar.WrittenAs (dialect : Dialect) (text : List Char) (scalar : Scalar) : Prop :=
  ∃ tokens, lex dialect text = some tokens ∧
    ∀ rest, readScalar (tokens ++ rest) = some (scalar, rest)

theorem column_written (column : String) :
    Scalar.WrittenAs dialect (quoteIdentifier column).toList (.column column) :=
  ⟨[.name column], lex_identifier column, fun _ => rfl⟩

theorem operand_written (operand : Operand) :
    Scalar.WrittenAs dialect (operand.render dialect).toList operand.scalar := by
  cases operand with
  | parameter index => exact ⟨[.parameter index], lex_placeholder index, fun _ => rfl⟩
  | null =>
    refine ⟨[.word "NULL"], ?_, fun _ => rfl⟩
    rw [Operand.render]
    rfl

theorem lower_written {text : List Char} {inner : Scalar}
    (written : Scalar.WrittenAs dialect text inner) :
    Scalar.WrittenAs dialect ("LOWER(".toList ++ (text ++ [')'])) (.lower inner) := by
  obtain ⟨tokens, lexed, reads⟩ := written
  have opens : read dialect .nothing "LOWER(".toList
      = some ([.word "LOWER", .symbol '('], .nothing) := rfl
  refine ⟨_, lex_append opens (lex_concat lexed (Or.inl rfl)), fun rest => ?_⟩
  have inside := reads (.symbol ')' :: rest)
  have shape : [.word "LOWER", .symbol '('] ++ (tokens ++ [.symbol ')']) ++ rest
      = .word "LOWER" :: .symbol '(' :: (tokens ++ .symbol ')' :: rest) := by
    rw [List.append_assoc, List.append_assoc]
    rfl
  rw [shape, readScalar, inside]
  rfl

theorem segment_written (column : String) (start count : Nat) :
    Scalar.WrittenAs dialect (dialect.segment (quoteIdentifier column) start count).toList
      (.segment (.column column) start count) := by
  cases dialect with
  | postgres =>
    have opens : read .postgres .nothing "SUBSTRING(".toList
        = some ([.word "SUBSTRING", .symbol '('], .nothing) := rfl
    have from_ : lex .postgres "FROM".toList = some [.word "FROM"] := rfl
    have for_ : lex .postgres "FOR".toList = some [.word "FOR"] := rfl
    have lexed := lex_spaced (lex_append opens (lex_identifier column))
      (lex_spaced from_ (lex_spaced (lex_number start)
        (lex_spaced for_ (lex_concat (lex_number count) (Or.inl rfl)))))
    refine ⟨_, (congrArg (lex .postgres) ?_).trans lexed, fun rest => rfl⟩
    unfold Dialect.segment
    simp only [String.toList_append, List.append_assoc]
    rfl
  | sqlite =>
    have opens : read .sqlite .nothing "SUBSTR(".toList
        = some ([.word "SUBSTR", .symbol '('], .nothing) := rfl
    have lexed := lex_spaced
      (lex_append opens (lex_concat (lex_identifier column) (Or.inr rfl)))
      (lex_spaced (lex_concat (lex_number start) (Or.inr rfl))
        (lex_concat (lex_number count) (Or.inl rfl)))
    refine ⟨_, (congrArg (lex .sqlite) ?_).trans lexed, fun rest => rfl⟩
    unfold Dialect.segment
    simp only [String.toList_append, List.append_assoc]
    rfl

/-! ### Comparisons -/

/-- The text is read as the formula where one operand is read, whatever follows. -/
def Formula.WrittenAs (dialect : Dialect) (text : List Char) (formula : Formula) : Prop :=
  ∃ tokens, lex dialect text = some tokens ∧
    ∀ fuel rest, 3 * tokens.length ≤ fuel →
      readFormula fuel .operand (tokens ++ rest) = some (formula, rest)

/-- What starts with a value is neither a negation nor in parentheses. -/
theorem readFormula_of_readScalar {tokens rest : List Token} {scalar : Scalar}
    (reads : readScalar tokens = some (scalar, rest)) (fuel : Nat) :
    readFormula (fuel + 1) .operand tokens = readComparison tokens := by
  rw [readFormula]
  · rintro inner rfl
    have fails : readScalar (.word "NOT" :: inner) = none := rfl
    rw [fails] at reads
    cases reads
  · rintro inner rfl
    have fails : readScalar (.symbol '(' :: inner) = none := rfl
    rw [fails] at reads
    cases reads

theorem comparison_written {text : List Char} {tokens more : List Token} {scalar : Scalar}
    {formula : Formula} (lexed : lex dialect text = some (tokens ++ more))
    (reads : ∀ rest, readScalar (tokens ++ rest) = some (scalar, rest))
    (compares : ∀ rest, readComparison (tokens ++ (more ++ rest)) = some (formula, rest)) :
    Formula.WrittenAs dialect text formula := by
  refine ⟨tokens ++ more, lexed, fun fuel rest enough => ?_⟩
  rw [List.append_assoc]
  cases fuel with
  | zero =>
    have none_left : tokens = [] := by
      rw [List.length_append] at enough
      exact List.length_eq_zero_iff.1 (by omega)
    have nothing := reads []
    rw [none_left] at nothing
    cases nothing
  | succ fuel => rw [readFormula_of_readScalar (reads _), compares]

theorem compare_written {left right : List Char} {first second : Scalar} (comparison : Comparison)
    (one : Scalar.WrittenAs dialect left first) (two : Scalar.WrittenAs dialect right second) :
    Formula.WrittenAs dialect (left ++ ' ' :: (comparison.operator.toList ++ ' ' :: right))
      (.compare comparison first second) := by
  obtain ⟨tokens, lexed, reads⟩ := one
  obtain ⟨others, lexed_right, reads_right⟩ := two
  have operator : lex dialect comparison.operator.toList = some [.operator comparison] := by
    cases comparison <;> rfl
  refine comparison_written (lex_spaced lexed (lex_spaced operator lexed_right)) reads
    fun rest => ?_
  unfold readComparison
  rw [reads, List.append_assoc]
  simp only [List.singleton_append, reads_right, Option.map_some]

theorem number_written (value : Nat) :
    Scalar.WrittenAs dialect (toString value).toList (.number value) :=
  ⟨[.number value], lex_number value, fun _ => rfl⟩

theorem empty_written (connective : Connective) :
    Formula.WrittenAs dialect ("1 = ".toList ++ (toString connective.unit).toList)
      connective.empty :=
  compare_written .equal (number_written 1) (number_written connective.unit)

theorem isNull_written {text : List Char} {scalar : Scalar}
    (written : Scalar.WrittenAs dialect text scalar) :
    Formula.WrittenAs dialect (text ++ " IS NULL".toList) (.isNull scalar) := by
  obtain ⟨tokens, lexed, reads⟩ := written
  have behind : lex dialect "IS NULL".toList = some [.word "IS", .word "NULL"] := rfl
  refine comparison_written (lex_spaced lexed behind) reads fun rest => ?_
  unfold readComparison
  rw [reads]
  rfl

/-- The word of a match. -/
def likeKeyword : (caseless : Bool) → String
  | true => "ILIKE"
  | false => "LIKE"

theorem like_written (caseless : Bool) {subject pattern : List Char} {first second : Scalar}
    (one : Scalar.WrittenAs dialect subject first) (two : Scalar.WrittenAs dialect pattern second) :
    Formula.WrittenAs dialect
      (subject ++ ' ' :: ((likeKeyword caseless).toList
        ++ ' ' :: (pattern ++ " ESCAPE '\\'".toList)))
      (.like caseless first second '\\') := by
  obtain ⟨tokens, lexed, reads⟩ := one
  obtain ⟨others, lexed_right, reads_right⟩ := two
  have behind : lex dialect "ESCAPE '\\'".toList = some [.word "ESCAPE", .text "\\"] := rfl
  have keyword : lex dialect (likeKeyword caseless).toList
      = some [.word (likeKeyword caseless)] := by
    cases caseless <;> rfl
  refine comparison_written
    (lex_spaced lexed (lex_spaced keyword (lex_spaced lexed_right behind))) reads fun rest => ?_
  have escape : readPattern caseless first (others ++ ([.word "ESCAPE", .text "\\"] ++ rest))
      = some (.like caseless first second '\\', rest) := by
    unfold readPattern
    rw [reads_right]
    rfl
  unfold readComparison
  rw [reads, List.append_assoc, List.append_assoc]
  cases caseless <;> exact escape

/-! ### Chains -/

/-- No word stands at the front. -/
def Ends (rest : List Token) : Prop := ∀ letters more, rest ≠ .word letters :: more

section
variable {connective : Connective} {fuel : Nat} {tokens more rest : List Token}
  {first others : Formula}

theorem readFormula_chain_one
    (reads : readFormula fuel connective.operands tokens = some (first, rest))
    (ends : ∀ more, rest ≠ .word connective.keyword :: more) :
    readFormula (fuel + 1) (.chain connective) tokens = some (first, rest) := by
  rw [readFormula, reads]
  split
  · next left letters behind same =>
    cases same
    rw [if_neg]
    rintro rfl
    exact ends behind rfl
  · rfl

theorem readFormula_chain_more
    (reads : readFormula fuel connective.operands tokens
      = some (first, .word connective.keyword :: more))
    (reads_more : readFormula fuel (.chain connective) more = some (others, rest)) :
    readFormula (fuel + 1) (.chain connective) tokens
      = some (.join connective first others, rest) := by
  rw [readFormula, reads]
  simp only [if_true, reads_more, Option.map_some]

/-- An operand is also an operand of OR, unless AND follows it. -/
theorem readFormula_operands
    (reads : ∀ fuel rest, 3 * tokens.length ≤ fuel →
      readFormula fuel .operand (tokens ++ rest) = some (first, rest))
    (enough : 3 * tokens.length + 1 ≤ fuel)
    (apart : connective = .or → ∀ more, rest ≠ .word Connective.and.keyword :: more) :
    readFormula fuel connective.operands (tokens ++ rest) = some (first, rest) := by
  cases connective with
  | and => exact reads fuel rest (by omega)
  | or =>
    obtain ⟨fuel, rfl⟩ : ∃ less, fuel = less + 1 := ⟨fuel - 1, by omega⟩
    exact readFormula_chain_one (reads fuel rest (by omega)) (apart rfl)

/-- A chain is read at the outermost level, too. -/
theorem readFormula_disjunction
    (reads : ∀ fuel rest, 3 * tokens.length + 2 ≤ fuel → Ends rest →
      readFormula fuel (.chain connective) (tokens ++ rest) = some (first, rest))
    (enough : 3 * tokens.length + 3 ≤ fuel) (ends : Ends rest) :
    readFormula fuel (.chain .or) (tokens ++ rest) = some (first, rest) := by
  cases connective with
  | or => exact reads fuel rest (by omega) ends
  | and =>
    obtain ⟨fuel, rfl⟩ : ∃ less, fuel = less + 1 := ⟨fuel - 1, by omega⟩
    exact readFormula_chain_one (reads fuel rest (by omega) ends) (ends _)

end

/-- What stands between the parts of a chain. -/
def Connective.joiner (connective : Connective) : List Char :=
  ' ' :: (connective.keyword.toList ++ [' '])

theorem chain_written (connective : Connective) {texts : List (List Char)}
    {formulas : List Formula} (written : List.Forall₂ (Formula.WrittenAs dialect) texts formulas)
    (inhabited : texts ≠ []) :
    ∃ tokens, lex dialect (List.intercalate connective.joiner texts) = some tokens ∧
      ∀ fuel rest, 3 * tokens.length + 2 ≤ fuel → Ends rest →
        readFormula fuel (.chain connective) (tokens ++ rest)
          = some (.chain connective formulas, rest) := by
  induction written with
  | nil => exact absurd rfl inhabited
  | @cons text formula texts formulas first others ih =>
    obtain ⟨tokens, lexed, reads⟩ := first
    cases others with
    | nil =>
      refine ⟨tokens, by rw [List.intercalate_singleton]; exact lexed,
        fun fuel rest enough ends => ?_⟩
      obtain ⟨fuel, rfl⟩ : ∃ less, fuel = less + 1 := ⟨fuel - 1, by omega⟩
      exact readFormula_chain_one
        (readFormula_operands reads (by omega) fun _ => ends _) (ends _)
    | @cons text' formula' texts' formulas' second others =>
      obtain ⟨later, lexed_later, reads_later⟩ := ih (List.cons_ne_nil _ _)
      have keyword : lex dialect connective.keyword.toList = some [.word connective.keyword] := by
        cases connective <;> rfl
      refine ⟨tokens ++ ([.word connective.keyword] ++ later), ?_, fun fuel rest enough ends => ?_⟩
      · rw [List.intercalate_cons_cons, ← lex_spaced lexed (lex_spaced keyword lexed_later)]
        simp [Connective.joiner]
      · simp only [List.length_append, List.length_singleton] at enough
        obtain ⟨fuel, rfl⟩ : ∃ less, fuel = less + 1 := ⟨fuel - 1, by omega⟩
        rw [List.append_assoc, List.append_assoc]
        refine readFormula_chain_more (readFormula_operands reads (by omega) ?_)
          (reads_later fuel rest (by omega) ends)
        rintro rfl more same
        simp [Connective.keyword] at same

/-- A chain in parentheses is an operand. -/
theorem group_written (connective : Connective) {texts : List (List Char)}
    {formulas : List Formula} (written : List.Forall₂ (Formula.WrittenAs dialect) texts formulas)
    (inhabited : texts ≠ []) :
    Formula.WrittenAs dialect
      ("( ".toList ++ (List.intercalate connective.joiner texts ++ " )".toList))
      (.chain connective formulas) := by
  obtain ⟨tokens, lexed, reads⟩ := chain_written connective written inhabited
  have opens : read dialect .nothing "( ".toList = some ([.symbol '('], .nothing) := rfl
  have closes : lex dialect ")".toList = some [.symbol ')'] := rfl
  refine ⟨_, lex_append opens (lex_spaced lexed closes), fun fuel rest enough => ?_⟩
  simp only [List.length_append, List.length_singleton] at enough
  obtain ⟨fuel, rfl⟩ : ∃ less, fuel = less + 1 := ⟨fuel - 1, by omega⟩
  have shape : [.symbol '('] ++ (tokens ++ [.symbol ')']) ++ rest
      = .symbol '(' :: (tokens ++ .symbol ')' :: rest) := by
    rw [List.append_assoc, List.append_assoc]
    rfl
  rw [shape, readFormula, readFormula_disjunction reads (by omega)]
  · rfl
  · rintro letters more same
    cases same

theorem not_written {text : List Char} {formula : Formula}
    (written : Formula.WrittenAs dialect text formula) :
    Formula.WrittenAs dialect ("NOT ( ".toList ++ (text ++ " )".toList)) (.not formula) := by
  obtain ⟨tokens, lexed, reads⟩ :=
    group_written .and (.cons written .nil) (List.cons_ne_nil _ _)
  have negates : read dialect .nothing "NOT ".toList = some ([.word "NOT"], .nothing) := rfl
  have split : "NOT ( ".toList = "NOT ".toList ++ "( ".toList := rfl
  rw [List.intercalate_singleton] at lexed
  rw [split, List.append_assoc]
  refine ⟨_, lex_append negates lexed, fun fuel rest enough => ?_⟩
  simp only [List.length_append, List.length_singleton] at enough
  obtain ⟨fuel, rfl⟩ : ∃ less, fuel = less + 1 := ⟨fuel - 1, by omega⟩
  rw [List.append_assoc, List.singleton_append, readFormula, reads fuel rest (by omega)]
  rfl

/-! ### Conditions -/

namespace Condition

theorem matches_written (column : String) (pattern : Operand) :
    Formula.WrittenAs dialect (render dialect (.matchesIgnoringCase column pattern)).toList
      (formula dialect (.matchesIgnoringCase column pattern)) := by
  have subject : Scalar.WrittenAs dialect (quoteIdentifier column).toList (.column column) :=
    column_written column
  have operand : Scalar.WrittenAs dialect (pattern.render dialect).toList pattern.scalar :=
    operand_written pattern
  cases dialect with
  | postgres =>
    have same : (render .postgres (.matchesIgnoringCase column pattern)).toList
        = (quoteIdentifier column).toList ++ ' ' :: ("ILIKE".toList
          ++ ' ' :: ((pattern.render .postgres).toList ++ " ESCAPE '\\'".toList)) := by
      unfold render Dialect.matchesIgnoringCase
      simp only [String.toList_append, List.append_assoc]
      rfl
    rw [same]
    exact like_written true subject operand
  | sqlite =>
    have same : (render .sqlite (.matchesIgnoringCase column pattern)).toList
        = ("LOWER(".toList ++ ((quoteIdentifier column).toList ++ [')'])) ++ ' ' :: ("LIKE".toList
          ++ ' ' :: (("LOWER(".toList ++ ((pattern.render .sqlite).toList ++ [')']))
            ++ " ESCAPE '\\'".toList)) := by
      unfold render Dialect.matchesIgnoringCase
      simp only [String.toList_append, List.append_assoc]
      rfl
    rw [same]
    exact like_written false (lower_written subject) (lower_written operand)

/-- The text of a group is read as the chain of its parts. -/
theorem group_render_written (connective : Connective) {texts : List String}
    {formulas : List Formula}
    (written : List.Forall₂ (Formula.WrittenAs dialect) (texts.map String.toList) formulas)
    {joiner absent : String} (joins : joiner.toList = connective.joiner)
    (empty : Formula.WrittenAs dialect absent.toList connective.empty) :
    Formula.WrittenAs dialect (group joiner absent texts).toList
      (.chain connective formulas) := by
  cases texts with
  | nil =>
    cases written
    exact empty
  | cons text texts =>
    have same : (group joiner absent (text :: texts)).toList
        = "( ".toList ++ (List.intercalate connective.joiner ((text :: texts).map String.toList)
          ++ " )".toList) := by
      unfold group
      rw [List.isEmpty_cons, if_neg Bool.false_ne_true, String.toList_append, String.toList_append,
        String.toList_intercalate, joins, List.append_assoc]
    rw [same]
    exact group_written connective written (List.cons_ne_nil _ _)

mutual

/-- The text of a condition is read as what the condition says. -/
theorem render_written (dialect : Dialect) : ∀ condition : Condition,
    Formula.WrittenAs dialect (condition.render dialect).toList (condition.formula dialect)
  | .isNull column => by
    rw [render, String.toList_append]
    exact isNull_written (column_written column)
  | .compare column comparison operand => by
    have same : (render dialect (.compare column comparison operand)).toList
        = (quoteIdentifier column).toList ++ ' ' :: (comparison.operator.toList
          ++ ' ' :: (operand.render dialect).toList) := by
      unfold render
      simp only [String.toList_append, List.append_assoc]
      rfl
    rw [same]
    exact compare_written comparison (column_written column) (operand_written operand)
  | .equalsIgnoringCase column operand => by
    have same : (render dialect (.equalsIgnoringCase column operand)).toList
        = ("LOWER(".toList ++ ((quoteIdentifier column).toList ++ [')'])) ++ ' ' ::
          (Comparison.equal.operator.toList
            ++ ' ' :: ("LOWER(".toList ++ ((operand.render dialect).toList ++ [')']))) := by
      unfold render
      simp only [String.toList_append, List.append_assoc]
      rfl
    rw [same]
    exact compare_written .equal (lower_written (column_written column))
      (lower_written (operand_written operand))
  | .matchesIgnoringCase column pattern => matches_written column pattern
  | .segmentEquals column start count operand => by
    have same : (render dialect (.segmentEquals column start count operand)).toList
        = (dialect.segment (quoteIdentifier column) start count).toList ++ ' ' ::
          (Comparison.equal.operator.toList ++ ' ' :: (operand.render dialect).toList) := by
      unfold render
      simp only [String.toList_append, List.append_assoc]
      rfl
    rw [same]
    exact compare_written .equal (segment_written column start count) (operand_written operand)
  | .not inner => by
    have same : (render dialect (.not inner)).toList
        = "NOT ( ".toList ++ ((render dialect inner).toList ++ " )".toList) := by
      rw [render]
      simp only [String.toList_append, List.append_assoc]
    rw [same]
    exact not_written (render_written dialect inner)
  | .all parts => by
    unfold render formula
    exact group_render_written .and (renderList_written dialect parts) rfl (empty_written .and)
  | .any parts => by
    unfold render formula
    exact group_render_written .or (renderList_written dialect parts) rfl (empty_written .or)

theorem renderList_written (dialect : Dialect) : ∀ parts : List Condition,
    List.Forall₂ (Formula.WrittenAs dialect) ((renderList dialect parts).map String.toList)
      (formulas dialect parts)
  | [] => .nil
  | part :: rest => .cons (render_written dialect part) (renderList_written dialect rest)

end

theorem parse_eq {text : String} {tokens : List Token} {said : Formula}
    (lexed : lex dialect text.toList = some tokens)
    (reads : readFormula (3 * tokens.length + 3) (.chain .or) (tokens ++ []) = some (said, [])) :
    parse dialect text = some said := by
  rw [List.append_nil] at reads
  rw [parse, lexed]
  simp only [reads]

/-- Reading the text of a condition gives back what it says. -/
theorem parse_render (dialect : Dialect) (condition : Condition) :
    parse dialect (condition.render dialect) = some (condition.formula dialect) := by
  obtain ⟨tokens, lexed, reads⟩ :=
    chain_written .and (.cons (render_written dialect condition) .nil) (List.cons_ne_nil _ _)
  rw [List.intercalate_singleton] at lexed
  exact parse_eq lexed
    (readFormula_disjunction reads (Nat.le_refl _) fun _ _ same => by cases same)

/-- Reading the text of several conditions without parentheses around them gives back all of them,
joined by AND. -/
theorem parse_conjunction (dialect : Dialect) {parts : List Condition} {text : String}
    (joined : conjunction dialect parts = some text) :
    parse dialect text = some (.chain .and (formulas dialect parts)) := by
  cases parts with
  | nil => cases joined
  | cons part parts =>
    have joiner : " AND ".toList = Connective.and.joiner := rfl
    obtain ⟨tokens, lexed, reads⟩ :=
      chain_written .and (renderList_written dialect (part :: parts)) (List.cons_ne_nil _ _)
    rw [← joiner, ← String.toList_intercalate] at lexed
    cases joined
    exact parse_eq lexed
      (readFormula_disjunction reads (Nat.le_refl _) fun _ _ same => by cases same)

end Condition

end KeyStore.Sql
