import KeyStore.Proofs.Filter.Binding
import KeyStore.Proofs.Sql.Placeholders
import KeyStore.Query

/-!
# Parameters and arguments

Binding puts values behind the arguments that are there and numbers the operands that stand for
them on. What is bound depends on neither the dialect nor the arguments before, so one list of
values is named first and every statement below speaks of it for all arguments: `bind_numbered` of
a filter, `bindEntries_numbered` of conditions, `bindFields_numbered` of a row.

Main statement: `Query.statements_numbered`.
-/

namespace KeyStore

namespace Sql

/-- The numbers that follow the bound values, one for each of `values`. -/
def Arguments.numbers (args : Arguments) (values : List Value) : List Nat :=
  List.range' (args.size + 1) values.length

namespace Arguments

theorem numbers_append (args : Arguments) (first second : List Value) :
    args.numbers (first ++ second) = args.numbers first ++ (args.extend first).numbers second := by
  have length : (args.extend first).size + 1 = args.size + 1 + 1 * first.length := by
    rw [size, extend_values, List.length_append, Nat.one_mul, size]
    omega
  rw [numbers, numbers, numbers, List.length_append, length, List.range'_append]

theorem numbers_empty (dialect : Dialect) (values : List Value) :
    (empty dialect).numbers values = List.range' 1 values.length := rfl

/-- The value itself, unless it is NULL. -/
def bindable (value : Value) : List Value := if value.isNull then [] else [value]

theorem push_numbered (args : Arguments) (value : Value) :
    (args.push value).1.parameters = args.numbers (bindable value) := by
  unfold push bindable numbers
  split <;> rfl

/-- What stands for a list of values has the next numbers. -/
theorem pushAll_numbered (values : List Value) : ∀ args : Arguments, ∃ operands,
    args.pushAll values = (operands, args.extend (values.flatMap bindable)) ∧
      operands.length = values.length ∧
      (operands.map Operand.parameters).flatten = args.numbers (values.flatMap bindable) := by
  induction values with
  | nil => exact fun args => ⟨[], by simp [pushAll], rfl, rfl⟩
  | cons value rest ih =>
    intro args
    have pushed : (args.push value).2 = args.extend (bindable value) := push_snd args value
    obtain ⟨operands, bound, length, numbered⟩ := ih (args.extend (bindable value))
    refine ⟨(args.push value).1 :: operands, ?_, congrArg (· + 1) length, ?_⟩
    · rw [pushAll, pushed, bound, List.flatMap_cons, extend_extend]
    · rw [List.map_cons, List.flatten_cons, push_numbered, numbered, List.flatMap_cons,
        numbers_append]

end Arguments

end Sql

open Sql

/-- No NULL is among the values. -/
def Known (values : List Value) : Prop := ∀ value ∈ values, value ≠ .null

theorem Known.append {first second : List Value} (left : Known first) (right : Known second) :
    Known (first ++ second) :=
  fun value member => (List.mem_append.1 member).elim (left value) (right value)

theorem known_bindable (value : Value) : Known (Arguments.bindable value) := by
  cases value <;> simp [Arguments.bindable, Value.isNull, Known]

theorem known_flatMap_bindable (values : List Value) : Known (values.flatMap Arguments.bindable) := by
  intro value member
  obtain ⟨bound, _, inside⟩ := List.mem_flatMap.1 member
  exact known_bindable bound value inside

namespace Filter

/-- The filter binds these values behind any arguments, and its condition mentions them in their
order. -/
def Binds (column : String) (filter : Filter) (values : List Value) : Prop :=
  ∀ args : Arguments, ∃ condition, bind column filter args = (some condition, args.extend values) ∧
    condition.parameters = args.numbers values

theorem bindOne_numbered (args : Arguments) (value : Value) {condition : Operand → Condition}
    (mentions : ∀ operand, (condition operand).parameters = operand.parameters) :
    ∃ built, bindOne args value condition = (some built, args.extend (Arguments.bindable value)) ∧
      built.parameters = args.numbers (Arguments.bindable value) := by
  refine ⟨_, congrArg (Prod.mk _) (Arguments.push_snd args value), ?_⟩
  rw [mentions, Arguments.push_numbered]

theorem bindParts_numbered (column : String) (parts : List Filter)
    (each : ∀ part ∈ parts, ∃ values, Known values ∧ Binds column part values) :
    ∃ values, Known values ∧ ∀ args : Arguments, ∃ conditions,
      bindParts column parts args = (some conditions, args.extend values) ∧
        (Condition.parametersOf conditions).flatten = args.numbers values := by
  induction parts with
  | nil => exact ⟨[], nofun, fun args => ⟨[], by simp [bindParts], rfl⟩⟩
  | cons part rest ih =>
    obtain ⟨first, firstKnown, binds⟩ := each part List.mem_cons_self
    obtain ⟨others, othersKnown, bindsOthers⟩ :=
      ih fun part member => each part (List.mem_cons_of_mem _ member)
    refine ⟨first ++ others, firstKnown.append othersKnown, fun args => ?_⟩
    obtain ⟨condition, bound, numbered⟩ := binds args
    obtain ⟨conditions, boundOthers, numberedOthers⟩ := bindsOthers (args.extend first)
    refine ⟨condition :: conditions, ?_, ?_⟩
    · rw [bindParts, bound]
      simp only [boundOthers, Option.map_some, Arguments.extend_extend]
    · rw [Condition.parametersOf, List.flatten_cons, numbered, numberedOthers,
        Arguments.numbers_append]

/-- The parameters of a filter's condition are numbered on from the arguments before it. -/
theorem bind_numbered (column : String) (filter : Filter) (plain : filter.holdsCustom = false) :
    ∃ values, Known values ∧ Binds column filter values := by
  induction filter with
  | equals value =>
    refine ⟨_, known_bindable value, fun args => ?_⟩
    rw [bind]
    split
    · next null =>
      rw [Arguments.bindable, if_pos null]
      exact ⟨.isNull column, by simp, rfl⟩
    · exact bindOne_numbered args value fun _ => rfl
  | equalsIgnoringCase _ | containsIgnoringCase _ | shortId _ | lessThan _ | atMost _
  | greaterThan _ | atLeast _ =>
    exact ⟨_, known_bindable _, fun args => bindOne_numbered args _ fun _ => rfl⟩
  | not inner ih =>
    obtain ⟨values, known, binds⟩ := ih plain
    refine ⟨values, known, fun args => ?_⟩
    obtain ⟨condition, bound, numbered⟩ := binds args
    exact ⟨.not condition, by simp [bind, bound], numbered⟩
  | all parts ih =>
    obtain ⟨values, known, binds⟩ := bindParts_numbered column parts fun part member =>
      ih part member ((anyHoldsCustom_eq_false_iff parts).1 plain part member)
    refine ⟨values, known, fun args => ?_⟩
    obtain ⟨conditions, bound, numbered⟩ := binds args
    exact ⟨.all conditions, by rw [bind, bound, bindGroup], numbered⟩
  | any parts ih =>
    obtain ⟨values, known, binds⟩ := bindParts_numbered column parts fun part member =>
      ih part member ((anyHoldsCustom_eq_false_iff parts).1 plain part member)
    refine ⟨values, known, fun args => ?_⟩
    obtain ⟨conditions, bound, numbered⟩ := binds args
    exact ⟨.any conditions, by rw [bind, bound, bindGroup], numbered⟩
  | custom predicate => cases plain

end Filter

namespace Conditions

/-- Either the conditions cannot be bound, behind whatever arguments, or the parameters of their
parts are numbered on from the arguments before them. -/
theorem bindEntries_numbered (entries : List (String × Filter)) :
    (∃ failure, ∀ args, (bindEntries entries args).1 = .error failure) ∨
      ∃ values, Known values ∧ ∀ args : Arguments, ∃ parts,
        bindEntries entries args = (.ok parts, args.extend values) ∧
          (Condition.parametersOf parts).flatten = args.numbers values := by
  induction entries with
  | nil => exact Or.inr ⟨[], nofun, fun args => ⟨[], by simp [bindEntries], rfl⟩⟩
  | cons entry rest ih =>
    obtain ⟨field, filter⟩ := entry
    cases held : filter.holdsCustom with
    | true =>
      refine Or.inl ⟨.filterUnrenderable field, fun args => ?_⟩
      have unbound : (filter.bind field args).1 = none := by
        rw [← Option.not_isSome_iff_eq_none, Filter.isSome_bind, held]
        exact Bool.false_ne_true
      rw [bindEntries, ← Prod.eta (filter.bind field args), unbound]
    | false =>
      obtain ⟨first, firstKnown, binds⟩ := filter.bind_numbered field held
      rcases ih with ⟨failure, fails⟩ | ⟨others, othersKnown, bindsOthers⟩
      · refine Or.inl ⟨failure, fun args => ?_⟩
        obtain ⟨condition, bound, _⟩ := binds args
        rw [bindEntries, bound]
        simp only [fails, Except.map]
      · refine Or.inr ⟨first ++ others, firstKnown.append othersKnown, fun args => ?_⟩
        obtain ⟨condition, bound, numbered⟩ := binds args
        obtain ⟨parts, boundOthers, numberedOthers⟩ := bindsOthers (args.extend first)
        refine ⟨condition :: parts, ?_, ?_⟩
        · rw [bindEntries, bound]
          simp only [boundOthers, Except.map, Arguments.extend_extend]
        · rw [Condition.parametersOf, List.flatten_cons, numbered, numberedOthers,
            Arguments.numbers_append]

end Conditions

namespace Query

theorem flatMap_numbers_zip {names : List String} {operands : List Operand}
    (length : names.length = operands.length) :
    Statement.rowParameters (names.zip operands)
      = (operands.map Operand.parameters).flatten := by
  have seconds : (names.zip operands).map Prod.snd = operands := List.map_snd_zip (by omega)
  rw [Statement.rowParameters, ← seconds, List.map_map, seconds]
  rfl

/-- What a row binds: the values of its fields without the NULLs. -/
def known (record : Record) : List Value :=
  (record.toList.map (·.2)).flatMap Arguments.bindable

theorem bindFields_numbered (args : Arguments) (record : Record) : ∃ row,
    bindFields args record = (row, args.extend (known record)) ∧
      Statement.rowParameters row = args.numbers (known record) := by
  obtain ⟨operands, bound, length, numbered⟩ :=
    Arguments.pushAll_numbered (record.toList.map (·.2)) args
  have sizes : record.fields.length = operands.length := by
    rw [length, FieldMap.fields, List.length_map, List.length_map]
  refine ⟨record.fields.zip operands, ?_, ?_⟩
  · rw [bindFields, bound, known]
  · rw [flatMap_numbers_zip sizes, numbered, known]

/-- The text mentions each argument once and in their order, and no argument is NULL. -/
structure Numbered (query : Query) (dialect : Dialect) : Prop where
  parameters : placeholders dialect .code (query.sql dialect).toList
    = (List.range' 1 query.args.length).map some
  known : Known query.args

/-- The first arguments are the values of the row and stand in the assignments; the conditions
mention the others. -/
def Continues (query : Query) (dialect : Dialect) (relation : String) (row : Record) : Prop :=
  ∃ assignments parts, query.statement = .update relation assignments parts ∧
    query.sql dialect = "UPDATE " ++ quoteIdentifier relation ++ " SET "
      ++ Statement.setClause dialect assignments ++ Statement.whereClause dialect parts ∧
    query.args.take (known row).length = known row ∧
    placeholders dialect .code (Statement.setClause dialect assignments).toList
      = (List.range' 1 (known row).length).map some ∧
    placeholders dialect .code (Statement.whereClause dialect parts).toList
      = (List.range' ((known row).length + 1) (query.args.length - (known row).length)).map some

/-- Binds the same values in every dialect, or fails in the same way. -/
def Agrees (write : Dialect → Except StoreError Query) : Prop :=
  ∀ first second, (write first).map (·.args) = (write second).map (·.args)

/-- Either there is no statement on the rows, whatever the arguments before, or its conditions
mention the arguments behind them. -/
theorem onRows_numbered (conditions : Conditions) :
    (∃ failure, ∀ args statement, onRows args conditions statement = .error failure) ∨
      ∃ values, Known values ∧ ∀ args : Arguments, ∃ parts,
        (Condition.parametersOf parts).flatten = args.numbers values ∧
          ∀ statement, onRows args conditions statement
            = .ok ⟨statement parts, args.values ++ values⟩ := by
  rcases Conditions.bindEntries_numbered conditions.toList with
    ⟨failure, fails⟩ | ⟨values, known, binds⟩
  · refine Or.inl ⟨failure, fun args statement => ?_⟩
    rw [onRows, Conditions.bind, ← Prod.eta (Conditions.bindEntries conditions.toList args), fails]
  · refine Or.inr ⟨values, known, fun args => ?_⟩
    obtain ⟨parts, bound, numbered⟩ := binds args
    refine ⟨parts, numbered, fun statement => ?_⟩
    rw [onRows, Conditions.bind, bound]
    rfl

section

variable {dialect : Dialect} {relation : Relation} {record : Record} {conditions : Conditions}
  {names : List String} {suffix : Option String} {query : Query}

theorem select_numbered (free : ∀ text ∈ suffix, placeholders dialect .code text.toList = [])
    (written : select dialect relation (.columns names) conditions suffix = .ok query) :
    query.Numbered dialect := by
  rcases onRows_numbered conditions with ⟨failure, fails⟩ | ⟨values, known, binds⟩
  · rw [select, fails] at written
    cases written
  · obtain ⟨parts, numbered, result⟩ := binds (.empty dialect)
    rw [select, result] at written
    cases written
    refine ⟨?_, known⟩
    have behind : (suffix.map fun text => placeholders dialect .code text.toList).getD [] = [] := by
      cases suffix with
      | none => rfl
      | some text => exact free text rfl
    rw [sql, Statement.placeholders_select, numbered, behind, List.append_nil,
      Arguments.numbers_empty]
    rfl

theorem delete_numbered (written : delete dialect relation conditions = .ok query) :
    query.Numbered dialect := by
  rcases onRows_numbered conditions with ⟨failure, fails⟩ | ⟨values, known, binds⟩
  · rw [delete, fails] at written
    cases written
  · obtain ⟨parts, numbered, result⟩ := binds (.empty dialect)
    rw [delete, result] at written
    cases written
    refine ⟨?_, known⟩
    rw [sql, (Statement.delete_mentions _ _).placeholders_eq, numbered, Arguments.numbers_empty]
    rfl

theorem insert_numbered (written : insert dialect relation record = .ok query) :
    query.Numbered dialect := by
  obtain ⟨row, bound, numbered⟩ :=
    bindFields_numbered (.empty dialect) (relation.storable record)
  rw [insert] at written
  split at written
  · cases written
  · rw [bound] at written
    cases written
    refine ⟨?_, known_flatMap_bindable _⟩
    rw [sql, (Statement.insert_mentions _ _).placeholders_eq, numbered, Arguments.numbers_empty]
    rfl

/-- The conditions of an UPDATE are numbered on from its assignments. -/
theorem update_numbered (written : update dialect relation record conditions = .ok query) :
    query.Numbered dialect ∧
      query.Continues dialect relation.name (relation.storable record) := by
  obtain ⟨row, bound, numbered⟩ :=
    bindFields_numbered (.empty dialect) (relation.storable record)
  rw [update] at written
  split at written
  · cases written
  · rcases onRows_numbered conditions with ⟨failure, fails⟩ | ⟨values, valuesKnown, binds⟩
    · simp only [fails] at written
      cases written
    · obtain ⟨parts, later, result⟩ := binds (bindFields (.empty dialect)
        (relation.storable record)).2
      simp only [result] at written
      cases written
      rw [bound] at later ⊢
      have all : (Arguments.empty dialect).numbers (known (relation.storable record) ++ values)
          = Statement.rowParameters row ++ (Condition.parametersOf parts).flatten := by
        rw [Arguments.numbers_append, numbered, later]
      have count : ((Arguments.empty dialect).extend (known (relation.storable record))).size
          = (known (relation.storable record)).length := rfl
      refine ⟨⟨?_, (known_flatMap_bindable _).append valuesKnown⟩, row, parts, rfl, rfl,
        List.take_left, ?_, ?_⟩
      · rw [sql, (Statement.update_mentions _ _ _).placeholders_eq, ← all, Arguments.numbers_empty]
        rfl
      · rw [(Statement.setClause_mentions _).placeholders_eq, numbered, Arguments.numbers_empty]
      · have rest : (known (relation.storable record) ++ values).length
            - (known (relation.storable record)).length = values.length := by
          rw [List.length_append, Nat.add_sub_cancel_left]
        rw [(Statement.whereClause_mentions _ _).1.placeholders_eq, later, Arguments.numbers, count,
          ← rest]
        rfl

end

theorem onRows_agrees (conditions : Conditions) (before : Dialect → Arguments)
    (statement : Dialect → List Condition → Statement)
    (same : ∀ first second, (before first).values = (before second).values) :
    Agrees fun dialect => onRows (before dialect) conditions (statement dialect) := by
  intro first second
  rcases onRows_numbered conditions with ⟨failure, fails⟩ | ⟨values, _, binds⟩
  · simp only [fails]
  · obtain ⟨_, _, left⟩ := binds (before first)
    obtain ⟨_, _, right⟩ := binds (before second)
    simp only [left, right, Except.map, same first second]

theorem bindFields_values (dialect : Dialect) (record : Record) :
    (bindFields (.empty dialect) record).2.values = known record := by
  obtain ⟨row, bound, _⟩ := bindFields_numbered (.empty dialect) record
  rw [bound]
  rfl

theorem insert_agrees (relation : Relation) (record : Record) :
    Agrees fun dialect => insert dialect relation record := by
  intro first second
  simp only [insert]
  split
  · rfl
  · simp only [Except.map, bindFields_values]

theorem update_agrees (relation : Relation) (record : Record) (conditions : Conditions) :
    Agrees fun dialect => update dialect relation record conditions := by
  intro first second
  simp only [update]
  split
  · rfl
  · exact onRows_agrees conditions
      (fun dialect => (bindFields (.empty dialect) (relation.storable record)).2)
      (fun dialect => .update relation.name
        (bindFields (.empty dialect) (relation.storable record)).1)
      (fun left right => by rw [bindFields_values, bindFields_values]) first second

/-- Each statement mentions exactly its arguments, in their order, and binds no NULL. An update
numbers the new values first, and the arguments do not depend on the dialect. A clause at the end
of a SELECT must not mention parameters itself. -/
theorem statements_numbered (dialect : Dialect) (relation : Relation) (record : Record)
    (conditions : Conditions) (names : List String) (suffix : Option String)
    (free : ∀ text ∈ suffix, placeholders dialect .code text.toList = []) :
    (∀ query, select dialect relation (.columns names) conditions suffix = .ok query →
      query.Numbered dialect) ∧
    (∀ query, insert dialect relation record = .ok query → query.Numbered dialect) ∧
    (∀ query, update dialect relation record conditions = .ok query →
      query.Numbered dialect ∧
        query.Continues dialect relation.name (relation.storable record)) ∧
    (∀ query, delete dialect relation conditions = .ok query → query.Numbered dialect) ∧
    (Agrees fun dialect => select dialect relation (.columns names) conditions suffix) ∧
    (Agrees fun dialect => insert dialect relation record) ∧
    (Agrees fun dialect => update dialect relation record conditions) ∧
    (Agrees fun dialect => delete dialect relation conditions) :=
  ⟨fun _ => select_numbered free, fun _ => insert_numbered, fun _ => update_numbered,
    fun _ => delete_numbered,
    onRows_agrees conditions .empty
      (fun _ parts => .select (.columns names) relation.name parts suffix) (fun _ _ => rfl),
    insert_agrees relation record, update_agrees relation record conditions,
    onRows_agrees conditions .empty (fun _ => .delete relation.name) (fun _ _ => rfl)⟩

/-- Columns with names that look like parameters. -/
def marked : Relation where
  name := "$1"
  form := .table
  kind := .key
  columns := [⟨"?1", .text⟩, ⟨"a\"$2", .int⟩, ⟨"b", .text⟩]
  primaryKey := []
  payload := .absent

theorem statements_numbered_marked :
    let record : Record := .ofList [("?1", .text "$7"), ("a\"$2", .null), ("b", .int 3)]
    let conditions : Conditions := .ofList
      [("b", .any [.isNull, .not (.containsIgnoringCase "x"), .lessThan .null, .equals (.int 4)])]
    (∃ query, select .sqlite marked (.columns ["?1"]) conditions (some "LIMIT 1") = .ok query ∧
      query.Numbered .sqlite ∧ query.args.length = 2) ∧
    ∃ query, update .postgres marked record conditions = .ok query ∧
      query.sql .postgres = "UPDATE \"$1\" SET \"?1\" = $1, \"a\"\"$2\" = NULL, \"b\" = $2"
        ++ " WHERE ( \"b\" IS NULL OR NOT ( \"b\" ILIKE $3 ESCAPE '\\' )"
        ++ " OR \"b\" < NULL OR \"b\" = $4 )" ∧
      query.Numbered .postgres ∧ query.Continues .postgres "$1" (marked.storable record) :=
  let record : Record := .ofList [("?1", .text "$7"), ("a\"$2", .null), ("b", .int 3)]
  let conditions : Conditions := .ofList
    [("b", .any [.isNull, .not (.containsIgnoringCase "x"), .lessThan .null, .equals (.int 4)])]
  have free : ∀ text ∈ some "LIMIT 1", placeholders .sqlite .code text.toList = [] := by decide
  have read := statements_numbered .sqlite marked record conditions ["?1"] (some "LIMIT 1") free
  have changed := statements_numbered .postgres marked record conditions [] none nofun
  ⟨⟨_, rfl, read.1 _ rfl, rfl⟩, _, rfl, by decide, changed.2.2.1 _ rfl⟩

end Query

end KeyStore
