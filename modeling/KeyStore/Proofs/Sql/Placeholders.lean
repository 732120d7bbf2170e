import Mathlib.Data.List.Forall2
import KeyStore.Proofs.Sql.Lexer
import KeyStore.Statement

/-!
# Parameters in the text of a statement

`placeholders` reads any text, also one that is no statement, and lists the parameters in it from
left to right. A marker between double quotes belongs to a name and one between single quotes to a
text; neither is a parameter.

Texts are put together from pieces. A piece that ends in a parameter would change if a digit came
behind it (`Mentions`), other pieces stay what they are whatever comes (`Encloses`). Main statements:
the text of a condition mentions the parameters of its operands in their order
(`Condition.render_mentions`), and so do the clauses of statements.
-/

namespace KeyStore

namespace Sql

/-- What a character of a statement belongs to. -/
inductive Quoting where
  | code
  | name
  | text
deriving DecidableEq, Repr

/-- The number that digits write, if there are any. -/
def number? (digits : List Char) : Option Nat :=
  if digits.isEmpty then none else some (Nat.ofDigitChars 10 digits 0)

/-- The numbers of the parameters from left to right. A marker without digits is a parameter
without a number. A doubled quote ends what is quoted and starts it again. -/
def placeholders (dialect : Dialect) : Quoting → List Char → List (Option Nat)
  | _, [] => []
  | .code, c :: rest =>
    if c = dialect.marker then
      number? (rest.takeWhile Char.isDigit) :: placeholders dialect .code rest
    else if c = '"' then placeholders dialect .name rest
    else if c = '\'' then placeholders dialect .text rest
    else placeholders dialect .code rest
  | .name, c :: rest => placeholders dialect (if c = '"' then .code else .name) rest
  | .text, c :: rest => placeholders dialect (if c = '\'' then .code else .text) rest

example :
    placeholders .postgres .code "\"$1\" = $2 AND \"a\"\"$3\" = '$4' OR $10$".toList
      = [some 2, some 10, none] := by
  decide

variable {dialect : Dialect} {text before behind : List Char} {numbers more : List Nat}

/-! ### Pieces of a text -/

/-- Wherever the piece stands, it mentions these parameters and does not change what others do. -/
def Encloses (dialect : Dialect) (text : List Char) (numbers : List Nat) : Prop :=
  ∀ rest, placeholders dialect .code (text ++ rest)
    = numbers.map some ++ placeholders dialect .code rest

/-- No digit stands at the front. -/
def Apart (rest : List Char) : Prop := ∀ c ∈ rest.head?, c.isDigit = false

/-- The piece mentions these parameters wherever no digit comes behind it. -/
def Mentions (dialect : Dialect) (text : List Char) (numbers : List Nat) : Prop :=
  ∀ rest, Apart rest → placeholders dialect .code (text ++ rest)
    = numbers.map some ++ placeholders dialect .code rest

/-- Something else than a digit stands at the front. -/
def Parts (text : List Char) : Prop := text.head?.any (fun c => !c.isDigit) = true

instance (text : List Char) : Decidable (Parts text) := inferInstanceAs (Decidable (_ = true))

theorem Apart.append {rest : List Char} (first : Apart behind) (others : Apart rest) :
    Apart (behind ++ rest) := by
  cases behind with
  | nil => exact others
  | cons c behind => exact first

theorem Parts.apart_append (parts : Parts behind) (rest : List Char) : Apart (behind ++ rest) := by
  cases behind with
  | nil => cases parts
  | cons c behind =>
    rintro d member
    cases member
    simpa [Parts] using parts

theorem Encloses.mentions (encloses : Encloses dialect text numbers) :
    Mentions dialect text numbers :=
  fun rest _ => encloses rest

theorem Mentions.placeholders_eq (mentions : Mentions dialect text numbers) :
    placeholders dialect .code text = numbers.map some := by
  have alone := mentions [] nofun
  rwa [List.append_nil, placeholders, List.append_nil] at alone

theorem Encloses.append (first : Encloses dialect before numbers)
    (second : Encloses dialect behind more) :
    Encloses dialect (before ++ behind) (numbers ++ more) := by
  intro rest
  rw [List.append_assoc, first, second, List.map_append, List.append_assoc]

theorem Encloses.append_mentions (first : Encloses dialect before numbers)
    (second : Mentions dialect behind more) :
    Mentions dialect (before ++ behind) (numbers ++ more) := by
  intro rest apart
  rw [List.append_assoc, first, second rest apart, List.map_append, List.append_assoc]

/-- A piece that starts with something else than a digit can come behind any other. -/
theorem Mentions.append (first : Mentions dialect before numbers) (parted : Apart behind)
    (second : Mentions dialect behind more) :
    Mentions dialect (before ++ behind) (numbers ++ more) := by
  intro rest apart
  rw [List.append_assoc, first _ (parted.append apart), second rest apart, List.map_append,
    List.append_assoc]

theorem Mentions.append_encloses (first : Mentions dialect before numbers) (parts : Parts behind)
    (second : Encloses dialect behind more) :
    Encloses dialect (before ++ behind) (numbers ++ more) := by
  intro rest
  rw [List.append_assoc, first _ (parts.apart_append rest), second, List.map_append,
    List.append_assoc]

/-- The character opens no quotes and marks no parameter. -/
def Unmarked (c : Char) : Prop := c ≠ '$' ∧ c ≠ '?' ∧ c ≠ '"' ∧ c ≠ '\''

instance (c : Char) : Decidable (Unmarked c) := inferInstanceAs (Decidable (_ ∧ _))

/-- No character of the text opens quotes or marks a parameter. -/
def Inert (text : List Char) : Prop := ∀ c ∈ text, Unmarked c

-- Tested character by character of the text; an instance for statements on all characters would
-- go through those.
instance (text : List Char) : Decidable (Inert text) := List.decidableBAll Unmarked text

theorem Unmarked.ne_marker {c : Char} (unmarked : Unmarked c) (dialect : Dialect) :
    c ≠ dialect.marker := by
  cases dialect with
  | postgres => exact unmarked.1
  | sqlite => exact unmarked.2.1

theorem encloses_of_inert (inert : Inert text) : Encloses dialect text [] := by
  intro rest
  induction text with
  | nil => rfl
  | cons c text ih =>
    obtain ⟨first, others⟩ := List.forall_mem_cons.1 inert
    rw [List.cons_append, placeholders, if_neg (first.ne_marker dialect), if_neg first.2.2.1,
      if_neg first.2.2.2, ih others]

theorem mentions_nil : Mentions dialect [] [] :=
  (encloses_of_inert (by decide)).mentions

/-- A piece between two others without parameters. -/
theorem Mentions.between (inside : Mentions dialect text numbers) {first last : List Char}
    (opens : Encloses dialect first []) (parts : Parts last) (closes : Encloses dialect last []) :
    Encloses dialect (first ++ (text ++ last)) numbers := by
  have closed := opens.append (inside.append_encloses parts closes)
  rwa [List.nil_append, List.append_nil] at closed

theorem placeholders_name (name rest : List Char) :
    placeholders dialect .name (name.flatMap identifierChar ++ '"' :: rest)
      = placeholders dialect .code rest := by
  induction name with
  | nil => rw [List.flatMap_nil, List.nil_append, placeholders, if_pos rfl]
  | cons c name ih =>
    rw [List.flatMap_cons, List.append_assoc]
    by_cases quote : c = '"'
    · subst quote
      have other : ('"' : Char) ≠ dialect.marker := by cases dialect <;> decide
      refine Eq.trans ?_ ih
      simp only [identifierChar, if_true, List.cons_append, List.nil_append, placeholders,
        if_neg other]
    · rw [identifierChar, if_neg quote, List.singleton_append, placeholders, if_neg quote, ih]

/-- Whatever a name is, no parameter is read in it. -/
theorem encloses_identifier (name : String) :
    Encloses dialect (quoteIdentifier name).toList [] := by
  intro rest
  have other : ('"' : Char) ≠ dialect.marker := by cases dialect <;> decide
  rw [quoteIdentifier, String.toList_ofList, List.cons_append, List.cons_append, placeholders,
    if_neg other, if_pos rfl, List.append_assoc, List.singleton_append, placeholders_name]
  rfl

theorem unmarked_of_isDigit {c : Char} (digit : c.isDigit = true) : Unmarked c := by
  refine ⟨?_, ?_, ?_, ?_⟩ <;> (rintro rfl; cases digit)

theorem encloses_number (value : Nat) : Encloses dialect (toString value).toList [] := by
  obtain ⟨c, digits, written, first, all, _⟩ := toString_digits value
  rw [written]
  exact encloses_of_inert fun d member =>
    unmarked_of_isDigit ((List.mem_cons.1 member).elim (fun same => same ▸ first) (all d))

theorem takeWhile_digits {digits rest : List Char} (all : ∀ c ∈ digits, c.isDigit = true)
    (apart : Apart rest) : (digits ++ rest).takeWhile Char.isDigit = digits := by
  rw [List.takeWhile_append_of_pos all]
  cases rest with
  | nil => rw [List.takeWhile_nil, List.append_nil]
  | cons c rest =>
    rw [List.takeWhile_cons_of_neg (by rw [apart c rfl]; exact Bool.false_ne_true),
      List.append_nil]

theorem mentions_placeholder (index : Nat) :
    Mentions dialect (dialect.placeholder index).toList [index] := by
  intro rest apart
  obtain ⟨c, digits, written, first, others, back⟩ := toString_digits index
  have split : (dialect.placeholder index).toList = dialect.marker :: (toString index).toList := by
    cases dialect <;> simp [Dialect.placeholder, Dialect.marker]
  have all : ∀ d ∈ c :: digits, d.isDigit = true := List.forall_mem_cons.2 ⟨first, others⟩
  have value : number? (c :: digits) = some index := by
    rw [number?, List.isEmpty_cons, if_neg Bool.false_ne_true, ← back, ← List.singleton_append,
      Nat.ofDigitChars_append]
  rw [split, List.cons_append, placeholders, if_pos rfl, encloses_number index, written,
    takeWhile_digits all apart, value]
  rfl

/-! ### Conditions -/

/-- The parameter that stands for a value, if it is none but NULL. -/
def Operand.parameters : Operand → List Nat
  | parameter index => [index]
  | null => []

theorem operand_mentions (operand : Operand) :
    Mentions dialect (operand.render dialect).toList operand.parameters := by
  cases operand with
  | parameter index => exact mentions_placeholder index
  | null => exact (encloses_of_inert (by rw [Operand.render]; decide)).mentions

/-- Pieces of a list, with something between them that starts with a blank or a comma. -/
theorem mentions_intercalate {joiner : List Char} (parts : Parts joiner)
    (between : Encloses dialect joiner []) {texts : List (List Char)}
    {lists : List (List Nat)} (each : List.Forall₂ (Mentions dialect) texts lists) :
    Mentions dialect (List.intercalate joiner texts) lists.flatten := by
  induction each with
  | nil => exact mentions_nil
  | @cons text numbers texts lists first others ih =>
    cases others with
    | nil => simpa using first
    | cons second others =>
      have later := first.append_encloses parts between
      rw [List.append_nil] at later
      rw [List.intercalate_cons_cons, List.flatten_cons]
      exact later.append_mentions ih

namespace Condition

mutual

/-- The parameters of a condition from left to right. -/
def parameters : Condition → List Nat
  | isNull _ => []
  | compare _ _ operand => operand.parameters
  | equalsIgnoringCase _ operand => operand.parameters
  | matchesIgnoringCase _ pattern => pattern.parameters
  | segmentEquals _ _ _ operand => operand.parameters
  | not inner => parameters inner
  | all parts => (parametersOf parts).flatten
  | any parts => (parametersOf parts).flatten

/-- The parameters of each of some conditions. -/
def parametersOf : List Condition → List (List Nat)
  | [] => []
  | part :: rest => parameters part :: parametersOf rest

end

theorem matches_mentions (column : String) (pattern : Operand) :
    Mentions dialect (render dialect (.matchesIgnoringCase column pattern)).toList
      pattern.parameters := by
  have subject : Mentions dialect (quoteIdentifier column).toList [] :=
    (encloses_identifier column).mentions
  have operand : Mentions dialect (pattern.render dialect).toList pattern.parameters :=
    operand_mentions pattern
  -- The backslash stands between single quotes.
  have escape : Encloses dialect " ESCAPE '\\'".toList [] := by
    intro rest
    cases dialect <;> rfl
  cases dialect with
  | postgres =>
    have same : (render .postgres (.matchesIgnoringCase column pattern)).toList
        = ([] ++ ((quoteIdentifier column).toList ++ " ILIKE ".toList))
          ++ ((pattern.render .postgres).toList ++ " ESCAPE '\\'".toList) := by
      unfold render Dialect.matchesIgnoringCase
      simp only [String.toList_append, List.append_assoc, List.nil_append]
    have opens : Encloses .postgres ([] ++ ((quoteIdentifier column).toList ++ " ILIKE ".toList))
        [] := subject.between (fun _ => rfl) (by decide) (encloses_of_inert (by decide))
    rw [same]
    exact (operand.between opens (by decide) escape).mentions
  | sqlite =>
    have same : (render .sqlite (.matchesIgnoringCase column pattern)).toList
        = ("LOWER(".toList ++ ((quoteIdentifier column).toList ++ ") LIKE LOWER(".toList))
          ++ ((pattern.render .sqlite).toList ++ (")".toList ++ " ESCAPE '\\'".toList)) := by
      unfold render Dialect.matchesIgnoringCase
      simp only [String.toList_append, List.append_assoc]
      rfl
    have opens : Encloses .sqlite
        ("LOWER(".toList ++ ((quoteIdentifier column).toList ++ ") LIKE LOWER(".toList)) [] :=
      subject.between (encloses_of_inert (by decide)) (by decide)
        (encloses_of_inert (by decide))
    have closes : Encloses .sqlite (")".toList ++ " ESCAPE '\\'".toList) [] :=
      (encloses_of_inert (by decide)).append escape
    rw [same]
    exact (operand.between opens (by decide) closes).mentions

theorem segment_encloses (column : String) (start count : Nat) :
    Encloses dialect (dialect.segment (quoteIdentifier column) start count).toList [] := by
  have subject : Mentions dialect (quoteIdentifier column).toList [] :=
    (encloses_identifier column).mentions
  cases dialect with
  | postgres =>
    have same : (Dialect.postgres.segment (quoteIdentifier column) start count).toList
        = ("SUBSTRING(".toList ++ ((quoteIdentifier column).toList ++ " FROM ".toList))
          ++ ((toString start).toList ++ (" FOR ".toList
            ++ ((toString count).toList ++ ")".toList))) := by
      unfold Dialect.segment
      simp only [String.toList_append, List.append_assoc]
    rw [same]
    exact (subject.between (encloses_of_inert (by decide)) (by decide)
      (encloses_of_inert (by decide))).append ((encloses_number start).append
        ((encloses_of_inert (by decide)).append
          ((encloses_number count).append (encloses_of_inert (by decide)))))
  | sqlite =>
    have same : (Dialect.sqlite.segment (quoteIdentifier column) start count).toList
        = ("SUBSTR(".toList ++ ((quoteIdentifier column).toList ++ ", ".toList))
          ++ ((toString start).toList ++ (", ".toList
            ++ ((toString count).toList ++ ")".toList))) := by
      unfold Dialect.segment
      simp only [String.toList_append, List.append_assoc]
    rw [same]
    exact (subject.between (encloses_of_inert (by decide)) (by decide)
      (encloses_of_inert (by decide))).append ((encloses_number start).append
        ((encloses_of_inert (by decide)).append
          ((encloses_number count).append (encloses_of_inert (by decide)))))

/-- A group mentions what its parts mention. -/
theorem group_mentions {joiner absent : String} {texts : List String} {lists : List (List Nat)}
    (each : List.Forall₂ (Mentions dialect) (texts.map String.toList) lists)
    (parts : Parts joiner.toList) (between : Inert joiner.toList)
    (empty : Inert absent.toList) :
    Mentions dialect (group joiner absent texts).toList lists.flatten := by
  cases texts with
  | nil =>
    cases each
    exact (encloses_of_inert empty).mentions
  | cons text texts =>
    have same : (group joiner absent (text :: texts)).toList
        = "( ".toList ++ (List.intercalate joiner.toList ((text :: texts).map String.toList)
          ++ " )".toList) := by
      unfold group
      rw [List.isEmpty_cons, if_neg Bool.false_ne_true, String.toList_append, String.toList_append,
        String.toList_intercalate, List.append_assoc]
    have inside := mentions_intercalate parts (encloses_of_inert between) each
    rw [same]
    exact (inside.between (encloses_of_inert (by decide)) (by decide)
      (encloses_of_inert (by decide))).mentions

mutual

/-- The text of a condition mentions the parameters of its operands from left to right. -/
theorem render_mentions (dialect : Dialect) : ∀ condition : Condition,
    Mentions dialect (condition.render dialect).toList condition.parameters
  | .isNull column => by
    rw [render, String.toList_append]
    exact ((encloses_identifier column).append (encloses_of_inert (by decide))).mentions
  | .compare column comparison operand => by
    have operator : Encloses dialect (" " ++ comparison.operator ++ " ").toList [] := by
      cases comparison <;> exact encloses_of_inert (by decide)
    have same : (render dialect (.compare column comparison operand)).toList
        = ((quoteIdentifier column).toList ++ (" " ++ comparison.operator ++ " ").toList)
          ++ (operand.render dialect).toList := by
      unfold render
      simp only [String.toList_append, List.append_assoc]
    rw [same]
    exact ((encloses_identifier column).append operator).append_mentions (operand_mentions operand)
  | .equalsIgnoringCase column operand => by
    have same : (render dialect (.equalsIgnoringCase column operand)).toList
        = ("LOWER(".toList ++ ((quoteIdentifier column).toList ++ ") = LOWER(".toList))
          ++ ((operand.render dialect).toList ++ ")".toList) := by
      unfold render
      simp only [String.toList_append, List.append_assoc]
    have opens : Encloses dialect
        ("LOWER(".toList ++ ((quoteIdentifier column).toList ++ ") = LOWER(".toList)) [] :=
      (encloses_identifier column).mentions.between (encloses_of_inert (by decide)) (by decide)
        (encloses_of_inert (by decide))
    rw [same]
    exact ((operand_mentions operand).between opens (by decide)
      (encloses_of_inert (by decide))).mentions
  | .matchesIgnoringCase column pattern => matches_mentions column pattern
  | .segmentEquals column start count operand => by
    have same : (render dialect (.segmentEquals column start count operand)).toList
        = ((dialect.segment (quoteIdentifier column) start count).toList ++ " = ".toList)
          ++ (operand.render dialect).toList := by
      unfold render
      simp only [String.toList_append]
    rw [same]
    exact ((segment_encloses column start count).append
      (encloses_of_inert (by decide))).append_mentions (operand_mentions operand)
  | .not inner => by
    have same : (render dialect (.not inner)).toList
        = "NOT ( ".toList ++ ((render dialect inner).toList ++ " )".toList) := by
      rw [render]
      simp only [String.toList_append, List.append_assoc]
    rw [same]
    exact ((render_mentions dialect inner).between (encloses_of_inert (by decide)) (by decide)
      (encloses_of_inert (by decide))).mentions
  | .all parts => by
    unfold render parameters
    exact group_mentions (renderList_mentions dialect parts) (by decide) (by decide) (by decide)
  | .any parts => by
    unfold render parameters
    exact group_mentions (renderList_mentions dialect parts) (by decide) (by decide) (by decide)

theorem renderList_mentions (dialect : Dialect) : ∀ parts : List Condition,
    List.Forall₂ (Mentions dialect) ((renderList dialect parts).map String.toList)
      (parametersOf parts)
  | [] => .nil
  | part :: rest => .cons (render_mentions dialect part) (renderList_mentions dialect rest)

end

end Condition

end Sql

namespace Statement

open Sql

variable {dialect : Dialect}

/-- The assignments of an UPDATE. -/
def setClause (dialect : Dialect) (assignments : List (String × Operand)) : String :=
  ", ".intercalate (assignments.map fun (column, operand) =>
    quoteIdentifier column ++ " = " ++ operand.render dialect)

/-- The parameters in a row of new values. -/
def rowParameters (row : List (String × Operand)) : List Nat :=
  (row.map fun entry => entry.2.parameters).flatten

theorem list_mentions {α : Type} {items : List α} {write : α → String}
    {numbers : α → List Nat} (each : ∀ item, Mentions dialect (write item).toList (numbers item)) :
    Mentions dialect (", ".intercalate (items.map write)).toList (items.map numbers).flatten := by
  rw [String.toList_intercalate, List.map_map]
  refine mentions_intercalate (by decide) (encloses_of_inert (by decide)) ?_
  rw [List.forall₂_map_left_iff, List.forall₂_map_right_iff, List.forall₂_same]
  exact fun item _ => each item

theorem names_mention (names : List String) :
    Mentions dialect (", ".intercalate (names.map quoteIdentifier)).toList [] := by
  have each : Mentions dialect (", ".intercalate (names.map quoteIdentifier)).toList
      (names.map fun _ => []).flatten :=
    list_mentions fun name => (encloses_identifier name).mentions
  rwa [List.flatten_eq_nil_iff.2 (by simp)] at each

theorem setClause_mentions (assignments : List (String × Operand)) :
    Mentions dialect (setClause dialect assignments).toList (rowParameters assignments) := by
  refine list_mentions fun entry => ?_
  rw [String.toList_append, String.toList_append]
  exact ((encloses_identifier entry.1).append
    (encloses_of_inert (by decide))).append_mentions (operand_mentions entry.2)

theorem whereClause_mentions (dialect : Dialect) (conditions : List Condition) :
    Mentions dialect (whereClause dialect conditions).toList
        (Condition.parametersOf conditions).flatten ∧
      Apart (whereClause dialect conditions).toList := by
  cases conditions with
  | nil => exact ⟨mentions_nil, nofun⟩
  | cons part rest =>
    have same : (whereClause dialect (part :: rest)).toList
        = " WHERE ".toList ++ List.intercalate " AND ".toList
          ((Condition.renderList dialect (part :: rest)).map String.toList) := by
      unfold whereClause Condition.conjunction
      rw [List.isEmpty_cons, if_neg Bool.false_ne_true, String.toList_append,
        String.toList_intercalate]
    have between : Parts " AND ".toList := by decide
    have joined := mentions_intercalate between (encloses_of_inert (by decide))
      (Condition.renderList_mentions dialect (part :: rest))
    have opens : Encloses dialect " WHERE ".toList [] := encloses_of_inert (by decide)
    have parts : Parts " WHERE ".toList := by decide
    rw [same]
    exact ⟨opens.append_mentions joined, parts.apart_append _⟩

theorem projection_mentions (names : List String) :
    Mentions dialect (Projection.columns names).render.toList [] := by
  rw [Projection.render]
  split
  · exact (encloses_of_inert (by decide)).mentions
  · exact names_mention names

theorem select_mentions (names : List String) (relation : String) (conditions : List Condition) :
    Mentions dialect (render dialect (.select (.columns names) relation conditions none)).toList
      (Condition.parametersOf conditions).flatten := by
  obtain ⟨clause, apart⟩ := whereClause_mentions dialect conditions
  have same : (render dialect (.select (.columns names) relation conditions none)).toList
      = ("SELECT ".toList ++ ((Projection.columns names).render.toList ++ " FROM ".toList))
        ++ ((quoteIdentifier relation).toList ++ (whereClause dialect conditions).toList) := by
    unfold render
    simp only [Option.map_none, Option.getD_none, String.append_empty, String.toList_append,
      List.append_assoc]
  have opens : Encloses dialect
      ("SELECT ".toList ++ ((Projection.columns names).render.toList ++ " FROM ".toList)) [] :=
    (projection_mentions names).between (encloses_of_inert (by decide)) (by decide)
      (encloses_of_inert (by decide))
  rw [same]
  exact opens.append_mentions ((encloses_identifier relation).append_mentions clause)

/-- What comes at the end of a SELECT is read for itself. -/
theorem placeholders_select (names : List String) (relation : String)
    (conditions : List Condition) (suffix : Option String) :
    placeholders dialect .code
        (render dialect (.select (.columns names) relation conditions suffix)).toList
      = ((Condition.parametersOf conditions).flatten).map some
        ++ (suffix.map fun text => placeholders dialect .code text.toList).getD [] := by
  have core : Mentions dialect
      (render dialect (.select (.columns names) relation conditions none)).toList _ :=
    select_mentions names relation conditions
  cases suffix with
  | none =>
    rw [core.placeholders_eq, Option.map_none, Option.getD_none, List.append_nil]
  | some text =>
    have same : (render dialect (.select (.columns names) relation conditions (some text))).toList
        = (render dialect (.select (.columns names) relation conditions none)).toList
          ++ (" ".toList ++ text.toList) := by
      unfold render
      simp only [Option.map_some, Option.map_none, Option.getD_some, Option.getD_none,
        String.append_empty, String.toList_append, List.append_assoc]
    have blank : Encloses dialect " ".toList [] := encloses_of_inert (by decide)
    have parts : Parts " ".toList := by decide
    rw [same, core _ (parts.apart_append _), blank]
    rfl

theorem insert_mentions (relation : String) (row : List (String × Operand)) :
    Mentions dialect (render dialect (.insert relation row)).toList (rowParameters row) := by
  have same : (render dialect (.insert relation row)).toList
      = (("INSERT INTO ".toList ++ ((quoteIdentifier relation).toList ++ " ( ".toList))
        ++ (", ".intercalate ((row.map (·.1)).map quoteIdentifier)).toList
          ++ " ) VALUES ( ".toList)
        ++ ((", ".intercalate (row.map fun entry => entry.2.render dialect)).toList
          ++ " )".toList) := by
    unfold render
    simp only [String.toList_append, List.append_assoc, List.map_map]
    rfl
  have opens : Encloses dialect
      ("INSERT INTO ".toList ++ ((quoteIdentifier relation).toList ++ " ( ".toList)) [] :=
    (encloses_identifier relation).mentions.between (encloses_of_inert (by decide)) (by decide)
      (encloses_of_inert (by decide))
  have named : Mentions dialect _ _ := names_mention (row.map (·.1))
  have columns := named.between opens (by decide : Parts " ) VALUES ( ".toList)
    (encloses_of_inert (by decide))
  have operands : Mentions dialect
      (", ".intercalate (row.map fun entry => entry.2.render dialect)).toList (rowParameters row) :=
    list_mentions fun entry => operand_mentions entry.2
  rw [same, List.append_assoc _ _ " ) VALUES ( ".toList]
  exact (operands.between columns (by decide) (encloses_of_inert (by decide))).mentions

theorem update_mentions (relation : String) (assignments : List (String × Operand))
    (conditions : List Condition) :
    Mentions dialect (render dialect (.update relation assignments conditions)).toList
      (rowParameters assignments ++ (Condition.parametersOf conditions).flatten) := by
  obtain ⟨clause, apart⟩ := whereClause_mentions dialect conditions
  have same : (render dialect (.update relation assignments conditions)).toList
      = ("UPDATE ".toList ++ ((quoteIdentifier relation).toList ++ " SET ".toList))
        ++ ((setClause dialect assignments).toList
          ++ (whereClause dialect conditions).toList) := by
    unfold render setClause
    simp only [String.toList_append, List.append_assoc]
  have opens : Encloses dialect
      ("UPDATE ".toList ++ ((quoteIdentifier relation).toList ++ " SET ".toList)) [] :=
    (encloses_identifier relation).mentions.between (encloses_of_inert (by decide)) (by decide)
      (encloses_of_inert (by decide))
  rw [same]
  exact opens.append_mentions ((setClause_mentions assignments).append apart clause)

theorem delete_mentions (relation : String) (conditions : List Condition) :
    Mentions dialect (render dialect (.delete relation conditions)).toList
      (Condition.parametersOf conditions).flatten := by
  have clause := (whereClause_mentions dialect conditions).1
  have same : (render dialect (.delete relation conditions)).toList
      = ("DELETE FROM ".toList ++ (quoteIdentifier relation).toList)
        ++ (whereClause dialect conditions).toList := by
    unfold render
    simp only [String.toList_append]
  have opens : Encloses dialect ("DELETE FROM ".toList ++ (quoteIdentifier relation).toList) [] :=
    (encloses_of_inert (by decide)).append (encloses_identifier relation)
  rw [same]
  exact opens.append_mentions clause

end Statement

end KeyStore
