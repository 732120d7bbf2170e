import KeyStore.Proofs.Sql.Lexer
import KeyStore.Proofs.Sql.Numbering

/-!
# Reading names back

A quoted name is read up to the first quote that is not doubled, and a list of columns as names with
a comma and a blank between them. A name is read where its written form stands and no quote follows,
and nowhere else (`readIdentifier_eq_some_iff`), so whatever the names are made of, none ends early
and none runs into the next.

Main statement: `Query.columns_read_back`.
-/

namespace KeyStore

namespace Sql

/-- The name that goes on here, up to the quote that ends it, and what is behind that quote. A
doubled quote stands for one. -/
def readName : List Char → Option (List Char × List Char)
  | [] => none
  | '"' :: '"' :: text => (readName text).map fun (name, rest) => ('"' :: name, rest)
  | '"' :: rest => some ([], rest)
  | c :: text => (readName text).map fun (name, rest) => (c :: name, rest)

/-- The quoted name at the start of a text, and what is behind it. -/
def readIdentifier : List Char → Option (String × List Char)
  | '"' :: text => (readName text).map fun (name, rest) => (String.ofList name, rest)
  | _ => none

/-! ### One name -/

/-- A quote that no other follows ends the name. -/
theorem readName_quote {rest : List Char} (closed : rest.head? ≠ some '"') :
    readName ('"' :: rest) = some ([], rest) := by
  cases rest with
  | nil => rfl
  | cons c rest =>
    rw [readName]
    rintro more same
    exact closed (by rw [same]; rfl)

theorem readName_cons {c : Char} (plain : c ≠ '"') (text : List Char) :
    readName (c :: text) = (readName text).map fun (name, rest) => (c :: name, rest) := by
  rw [readName]
  · exact fun _ same => absurd same plain
  · exact plain

theorem readName_written (name : List Char) {rest : List Char} (closed : rest.head? ≠ some '"') :
    readName (name.flatMap identifierChar ++ '"' :: rest) = some (name, rest) := by
  induction name with
  | nil => exact readName_quote closed
  | cons c name ih =>
    rw [List.flatMap_cons, List.append_assoc, identifierChar]
    split
    · next quote =>
      rw [quote, List.cons_append, List.cons_append, List.nil_append, readName, ih]
      rfl
    · next plain =>
      rw [List.cons_append, List.nil_append, readName_cons plain, ih]
      rfl

theorem written_of_readName {text name rest : List Char}
    (read : readName text = some (name, rest)) :
    text = name.flatMap identifierChar ++ '"' :: rest ∧ rest.head? ≠ some '"' := by
  fun_induction readName text generalizing name with
  | case1 => cases read
  | case2 text ih =>
    obtain ⟨⟨others, left⟩, before, same⟩ := Option.map_eq_some_iff.1 read
    cases same
    obtain ⟨rfl, closed⟩ := ih before
    exact ⟨rfl, closed⟩
  | case3 left single =>
    -- the name ended here because no second quote was there
    cases read
    refine ⟨rfl, fun quote => ?_⟩
    obtain ⟨more, same⟩ := List.head?_eq_some_iff.1 quote
    exact single more same
  | case4 c text _ plain ih =>
    obtain ⟨⟨others, left⟩, before, same⟩ := Option.map_eq_some_iff.1 read
    cases same
    obtain ⟨rfl, closed⟩ := ih before
    rw [List.flatMap_cons, identifierChar, if_neg plain]
    exact ⟨rfl, closed⟩

theorem quoteIdentifier_append (name : String) (rest : List Char) :
    (quoteIdentifier name).toList ++ rest
      = '"' :: (name.toList.flatMap identifierChar ++ '"' :: rest) := by
  simp [quoteIdentifier]

/-- A name is read where its written form stands and no quote follows, and nowhere else. -/
theorem readIdentifier_eq_some_iff {text rest : List Char} {name : String} :
    readIdentifier text = some (name, rest) ↔
      text = (quoteIdentifier name).toList ++ rest ∧ rest.head? ≠ some '"' := by
  rw [quoteIdentifier_append]
  constructor
  · intro read
    unfold readIdentifier at read
    split at read
    · obtain ⟨⟨letters, left⟩, inside, same⟩ := Option.map_eq_some_iff.1 read
      cases same
      obtain ⟨rfl, closed⟩ := written_of_readName inside
      rw [String.toList_ofList]
      exact ⟨rfl, closed⟩
    · cases read
  · rintro ⟨rfl, closed⟩
    rw [readIdentifier, readName_written name.toList closed, Option.map_some]
    simp only [String.ofList_toList]

/-! ### Lists of names -/

theorem length_of_readIdentifier {text rest : List Char} {name : String}
    (read : readIdentifier text = some (name, rest)) : rest.length < text.length := by
  have written := (readIdentifier_eq_some_iff.1 read).1
  rw [written, quoteIdentifier_append]
  simp only [List.length_cons, List.length_append]
  omega

/-- The names at the start of a text, with a comma and a blank between them, and what is behind
them. -/
def readColumns (text : List Char) : Option (List String × List Char) :=
  match read : readIdentifier text with
  | some (name, ',' :: ' ' :: others) =>
    have _ : others.length < text.length := by
      have shorter := length_of_readIdentifier read
      simp only [List.length_cons] at shorter
      omega
    (readColumns others).map fun (names, rest) => (name :: names, rest)
  | some (name, rest) => some ([name], rest)
  | none => none
termination_by text.length

/-- Behind a name the list goes on if a comma and a blank follow, and ends there if not. -/
theorem readColumns_of_readIdentifier {text rest : List Char} {name : String} :
    readIdentifier text = some (name, rest) →
      readColumns text = match rest with
        | ',' :: ' ' :: others =>
          (readColumns others).map fun (names, rest) => (name :: names, rest)
        | rest => some ([name], rest) := by
  intro read
  fun_cases readColumns text with
  | case1 next others found =>
    cases read.symm.trans found
    rfl
  | case2 next left ends found =>
    cases read.symm.trans found
    split
    · exact absurd rfl (ends _)
    · rfl
  | case3 found => cases read.symm.trans found

theorem readColumns_cons (name : String) (others : List Char) :
    readColumns ((quoteIdentifier name).toList ++ ',' :: ' ' :: others)
      = (readColumns others).map fun (names, rest) => (name :: names, rest) := by
  have quote : (',' :: ' ' :: others).head? ≠ some '"' := by simp
  exact readColumns_of_readIdentifier (readIdentifier_eq_some_iff.2 ⟨rfl, quote⟩)

/-- Neither a quote nor a comma comes next. -/
def Parted (rest : List Char) : Prop := rest.head? ≠ some '"' ∧ rest.head? ≠ some ','

theorem parted_append {text : List Char} (blank : text.head? = some ' ') (rest : List Char) :
    Parted (text ++ rest) := by
  obtain ⟨others, rfl⟩ := List.head?_eq_some_iff.1 blank
  simp [Parted]

theorem readColumns_last (name : String) {rest : List Char} (parted : Parted rest) :
    readColumns ((quoteIdentifier name).toList ++ rest) = some ([name], rest) := by
  obtain ⟨quote, comma⟩ := parted
  rw [readColumns_of_readIdentifier (readIdentifier_eq_some_iff.2 ⟨rfl, quote⟩)]
  split
  · exact absurd rfl comma
  · rfl

/-- Names with commas between them are read as these names, in their order. -/
theorem readColumns_written {names : List String} (inhabited : names ≠ []) {rest : List Char}
    (parted : Parted rest) :
    readColumns ((", ".intercalate (names.map quoteIdentifier)).toList ++ rest)
      = some (names, rest) := by
  rw [String.toList_intercalate, List.map_map]
  induction names with
  | nil => exact absurd rfl inhabited
  | cons first names ih =>
    cases names with
    | nil =>
      rw [List.map_singleton, List.intercalate_singleton]
      exact readColumns_last first parted
    | cons second names =>
      have later := ih (List.cons_ne_nil _ _)
      rw [List.map_cons, List.map_cons, List.intercalate_cons_cons, ← List.map_cons,
        List.append_assoc, List.append_assoc]
      exact (readColumns_cons first _).trans (congrArg (Option.map _) later)

/-- The columns of a SELECT, where the number one stands for none, and what is behind them. -/
def readProjection : List Char → Option (List String × List Char)
  | '1' :: rest => some ([], rest)
  | text => readColumns text

theorem readProjection_of_readColumns {text rest : List Char} {names : List String}
    (read : readColumns text = some (names, rest)) :
    readProjection text = some (names, rest) := by
  unfold readProjection
  split
  · rw [readColumns] at read
    cases read
  · exact read

/-- The columns of a SELECT are read as these names, in their order, also if there are none. -/
theorem readProjection_render (names : List String) {rest : List Char} (parted : Parted rest) :
    readProjection ((Projection.columns names).render.toList ++ rest) = some (names, rest) := by
  cases names with
  | nil => rfl
  | cons name names =>
    have inhabited := List.cons_ne_nil name names
    exact readProjection_of_readColumns (readColumns_written inhabited parted)

end Sql

namespace Query

open Sql

variable {dialect : Dialect} {relation : Relation} {query : Query}

/-! ### Statements -/

theorem bindFields_names (args : Arguments) (record : Record) :
    (bindFields args record).1.map (·.1) = record.fields := by
  obtain ⟨operands, bound, length, -⟩ :=
    Arguments.pushAll_numbered (record.toList.map (·.2)) args
  have sizes : record.fields.length = operands.length := by
    rw [length, FieldMap.fields, List.length_map, List.length_map]
  rw [bindFields, bound]
  exact List.map_fst_zip (Nat.le_of_eq sizes)

theorem select_columns {names : List String} {conditions : Conditions} {suffix : Option String}
    (written : select dialect relation (.columns names) conditions suffix = .ok query) :
    ∃ list rest, (query.sql dialect).toList = "SELECT ".toList ++ list ∧
      readProjection list = some (names, " FROM ".toList ++ rest) := by
  unfold select onRows at written
  split at written
  · cases written
  · next parts args bound =>
    cases written
    refine ⟨_, (quoteIdentifier relation.name).toList
      ++ ((Statement.whereClause dialect parts).toList
        ++ ((suffix.map (" " ++ ·)).getD "").toList), ?_,
      readProjection_render names (parted_append rfl _)⟩
    unfold sql Statement.render
    simp only [String.toList_append, List.append_assoc]

theorem insert_columns {record : Record}
    (written : insert dialect relation record = .ok query) :
    ∃ text list rest, (query.sql dialect).toList = "INSERT INTO ".toList ++ text ∧
      readIdentifier text = some (relation.name, " ( ".toList ++ list) ∧
      readColumns list
        = some ((relation.storable record).fields, " ) VALUES ( ".toList ++ rest) := by
  unfold insert at written
  dsimp only at written
  split at written
  · cases written
  · next inhabited =>
    cases written
    have some_names : (relation.storable record).fields ≠ [] := by
      rw [FieldMap.fields, ne_eq, List.map_eq_nil_iff]
      exact fun none => inhabited (by rw [FieldMap.isEmpty, none]; rfl)
    have names := bindFields_names (.empty dialect) (relation.storable record)
    generalize bindFields (.empty dialect) (relation.storable record) = made at names ⊢
    have columns : (made.1.map fun entry => quoteIdentifier entry.1)
        = (relation.storable record).fields.map quoteIdentifier := by
      rw [← names, List.map_map]
      rfl
    refine ⟨_, _, (", ".intercalate (made.1.map fun entry => entry.2.render dialect)).toList
      ++ " )".toList, ?_, readIdentifier_eq_some_iff.2 ⟨rfl, (parted_append rfl _).1⟩,
      readColumns_written some_names (parted_append rfl _)⟩
    unfold sql Statement.render
    simp only [← columns, String.toList_append, List.append_assoc]

/-- A name is read back where it is written and no quote follows, and nowhere else, and where a
whole text is read it is one token. The columns of a SELECT are read back as they are, in their
order, and so are those of an INSERT. -/
theorem columns_read_back (dialect : Dialect) :
    (∀ (text rest : List Char) (name : String), readIdentifier text = some (name, rest) ↔
      text = (quoteIdentifier name).toList ++ rest ∧ rest.head? ≠ some '"') ∧
    (∀ (name : String) (rest : List Char), rest.head? ≠ some '"' →
      lex dialect ((quoteIdentifier name).toList ++ rest)
        = (lex dialect rest).map (.name name :: ·)) ∧
    (∀ (names : List String) (rest : List Char), Parted rest →
      readProjection ((Projection.columns names).render.toList ++ rest) = some (names, rest)) ∧
    (∀ relation names conditions suffix query,
      select dialect relation (.columns names) conditions suffix = .ok query →
        ∃ list rest, (query.sql dialect).toList = "SELECT ".toList ++ list ∧
          readProjection list = some (names, " FROM ".toList ++ rest)) ∧
    ∀ relation record query, insert dialect relation record = .ok query →
      ∃ text list rest, (query.sql dialect).toList = "INSERT INTO ".toList ++ text ∧
        readIdentifier text = some (relation.name, " ( ".toList ++ list) ∧
        readColumns list
          = some ((relation.storable record).fields, " ) VALUES ( ".toList ++ rest) :=
  ⟨fun _ _ _ => readIdentifier_eq_some_iff, fun name _ => lex_identifier_append name,
    fun names _ => readProjection_render names, fun _ _ _ _ _ => select_columns,
    fun _ _ _ => insert_columns⟩

/-- Columns with names made of what stands between names. -/
def separated : Relation where
  name := "\"r"
  form := .table
  kind := .key
  columns := [⟨"\", \"", .text⟩, ⟨",", .int⟩, ⟨"", .text⟩]
  primaryKey := []
  payload := .absent

theorem columns_read_back_separated :
    (", ".toList.head? ≠ some '"' ∧
      lex .sqlite ((quoteIdentifier "\", \"").toList ++ ", ".toList)
        = (lex .sqlite ", ".toList).map (.name "\", \"" :: ·)) ∧
    (Parted " FROM".toList ∧
      readProjection ((Projection.columns ["\", \"", ","]).render.toList ++ " FROM".toList)
        = some (["\", \"", ","], " FROM".toList)) ∧
    (∃ query list rest,
      select .sqlite separated (.columns ["", "\", \""]) .empty none = .ok query ∧
      (query.sql .sqlite).toList = "SELECT ".toList ++ list ∧
      readProjection list = some (["", "\", \""], " FROM ".toList ++ rest)) ∧
    ∃ query text list rest,
      insert .postgres separated (.ofList [(",", .int 1), ("\", \"", .null), ("x", .null)])
        = .ok query ∧
      (query.sql .postgres).toList = "INSERT INTO ".toList ++ text ∧
      readIdentifier text = some ("\"r", " ( ".toList ++ list) ∧
      readColumns list = some (["\", \"", ","], " ) VALUES ( ".toList ++ rest) := by
  have read := columns_read_back .sqlite
  have comma : ", ".toList.head? ≠ some '"' := by decide
  have parted : Parted " FROM".toList := by simp [Parted]
  obtain ⟨list, rest, chosen, columns⟩ :=
    read.2.2.2.1 separated ["", "\", \""] .empty none _ rfl
  obtain ⟨text, row, behind, added, name, fields⟩ :=
    (columns_read_back .postgres).2.2.2.2 separated
      (.ofList [(",", .int 1), ("\", \"", .null), ("x", .null)]) _ rfl
  exact ⟨⟨comma, read.2.1 _ _ comma⟩, ⟨parted, read.2.2.1 _ _ parted⟩,
    ⟨_, list, rest, rfl, chosen, columns⟩, _, text, row, behind, rfl, added, name, fields⟩

end Query

end KeyStore
