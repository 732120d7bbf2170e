import KeyStore.Proofs.Sql.Numbering
import KeyStore.Proofs.Sql.Tokens

/-!
# What a statement says with its arguments

The parameters of a statement are resolved token by token: each gives way to the argument of its
number, and nothing else changes (`reading`). What is left says of an INSERT which columns get
which values, the first column the first value and so on (`insertion?`), and of an UPDATE which
column gets which value and under which condition (`change?`).

NULLs are written as keywords and take no number, so the number of a parameter is not the place of
its column, and the conditions of an UPDATE have other numbers than they have alone. A row is bound
behind any arguments (`bindFields_resolved`), and so are conditions, which say the same behind all
of them (`bindEntries_said`).

Main statement: `Query.writes_say_record`.
-/

namespace KeyStore

namespace Sql

/-! ### Resolving parameters -/

/-- A token of a statement whose parameters are resolved. -/
inductive Resolved where
  | token (token : Token)
  | bound (value : Value)
deriving DecidableEq

/-- What a token says. Parameters are counted from one; one without an argument says nothing. -/
def Token.resolve (args : List Value) : Token → Option Resolved
  | .parameter 0 => none
  | .parameter (index + 1) => args[index]?.map .bound
  | token => some (.token token)

/-- What a text says with these arguments. -/
def reading (dialect : Dialect) (args : List Value) (text : String) : Option (List Resolved) :=
  (lex dialect text.toList).bind fun tokens => tokens.mapM (Token.resolve args)

namespace Resolved

/-- How a value is said: as itself, NULL as the keyword. -/
def ofValue (value : Value) : Resolved :=
  if value.isNull then .token (.word "NULL") else .bound value

/-- The value that stands here. -/
def value? : Resolved → Option Value
  | bound value => some value
  | token (.word "NULL") => some .null
  | _ => none

/-- The name that stands here. -/
def name? : Resolved → Option String
  | token (.name name) => some name
  | _ => none

/-- The items of a list with commas between them, and what is behind it. -/
def readList {α : Type} (item : Resolved → Option α) :
    List Resolved → Option (List α × List Resolved)
  | [] => none
  | first :: .token (.symbol ',') :: rest => do
    let read ← item first
    let (others, rest) ← readList item rest
    some (read :: others, rest)
  | first :: rest => (item first).map fun read => ([read], rest)

/-- The assignments of an UPDATE, and what is behind them. -/
def readAssignments : List Resolved → Option (List (String × Value) × List Resolved)
  | .token (.name column) :: .token (.operator .equal) :: first ::
      .token (.symbol ',') :: rest => do
    let value ← first.value?
    let (others, rest) ← readAssignments rest
    some ((column, value) :: others, rest)
  | .token (.name column) :: .token (.operator .equal) :: first :: rest =>
    first.value?.map fun value => ([(column, value)], rest)
  | _ => none

end Resolved

open Resolved

/-- The relation of an INSERT, and its columns with their values: the i-th column gets the i-th
value, and there are as many of one as of the other. -/
def insertion? : List Resolved → Option (String × List (String × Value))
  | .token (.word "INSERT") :: .token (.word "INTO") :: .token (.name relation) ::
      .token (.symbol '(') :: rest =>
    match readList name? rest with
    | some (columns, .token (.symbol ')') :: .token (.word "VALUES") :: .token (.symbol '(') ::
        rest) =>
      match readList value? rest with
      | some (values, [.token (.symbol ')')]) =>
        if columns.length = values.length then some (relation, columns.zip values) else none
      | _ => none
    | _ => none
  | _ => none

/-- The relation of an UPDATE, its columns with their new values, and its condition if it has
one. -/
def change? :
    List Resolved → Option (String × List (String × Value) × Option (List Resolved))
  | .token (.word "UPDATE") :: .token (.name relation) :: .token (.word "SET") :: rest =>
    match readAssignments rest with
    | some (assignments, []) => some (relation, assignments, none)
    | some (assignments, .token (.word "WHERE") :: condition) =>
      some (relation, assignments, some condition)
    | _ => none
  | _ => none

example :
    (reading .sqlite [.int 7] "INSERT INTO \"r\" ( \"a\", \"b?1\" ) VALUES ( NULL, ?1 )").bind
        insertion?
      = some ("r", [("a", .null), ("b?1", .int 7)]) := by
  decide

variable {dialect : Dialect} {args : List Value} {tokens more : List Token}
  {said further : List Resolved}

/-! ### Saying lists of tokens -/

/-- With these arguments the tokens say this. -/
def Resolves (args : List Value) (tokens : List Token) (said : List Resolved) : Prop :=
  tokens.mapM (Token.resolve args) = some said

theorem Resolves.append (first : Resolves args tokens said) (second : Resolves args more further) :
    Resolves args (tokens ++ more) (said ++ further) := by
  rw [Resolves] at first second ⊢
  rw [List.mapM_append, first, second]
  rfl

theorem resolves_singleton {token : Token} {one : Resolved}
    (resolves : token.resolve args = some one) : Resolves args [token] [one] := by
  simp [Resolves, resolves]

/-- Tokens without parameters say themselves. -/
def Plain (tokens : List Token) : Prop := ∀ args, Resolves args tokens (tokens.map .token)

theorem Plain.between {before behind : List Token} (first : Plain before) (last : Plain behind)
    {token : Token} {one : Resolved} (resolves : token.resolve args = some one) :
    Resolves args (before ++ token :: behind)
      (before.map .token ++ one :: behind.map .token) :=
  (first args).append ((resolves_singleton resolves).append (last args))

theorem resolves_intercalate {between : List Token} (plain : Plain between)
    {lists : List (List Token)} {saids : List (List Resolved)}
    (each : List.Forall₂ (Resolves args) lists saids) :
    Resolves args (between.intercalate lists) ((between.map .token).intercalate saids) := by
  induction each with
  | nil => rfl
  | @cons tokens said lists saids first others ih =>
    cases others with
    | nil => simpa using first
    | cons second others =>
      rw [List.intercalate_cons_cons, List.intercalate_cons_cons]
      exact (first.append (plain args)).append ih

/-- What items with commas between them say. -/
def saidCommas (items : List (List Resolved)) : List Resolved :=
  [.token (.symbol ',')].intercalate items

theorem resolves_commas {α β : Type} {write : α → List Token} {say : β → List Resolved}
    {items : List α} {others : List β}
    (each : List.Forall₂ (fun item other => Resolves args (write item) (say other)) items others) :
    Resolves args (commas (items.map write)) (saidCommas (others.map say)) := by
  have comma : Plain [.symbol ','] := fun _ => rfl
  refine resolves_intercalate comma ?_
  rwa [List.forall₂_map_left_iff, List.forall₂_map_right_iff]

/-! ### Reading lists -/

theorem value?_ofValue (value : Value) : (ofValue value).value? = some value := by
  rw [ofValue]
  split
  · next null =>
    cases value with
    | null => rfl
    | _ => cases null
  · rfl

/-- Something else than a comma comes next, or nothing. -/
def Closed (rest : List Resolved) : Prop := rest.head? ≠ some (.token (.symbol ','))

theorem readList_saidCommas {α : Type} {item : Resolved → Option α} {say : α → Resolved}
    (reads : ∀ a, item (say a) = some a) {items : List α} (inhabited : items ≠ [])
    {rest : List Resolved} (closed : Closed rest) :
    readList item (saidCommas (items.map fun a => [say a]) ++ rest) = some (items, rest) := by
  induction items with
  | nil => exact absurd rfl inhabited
  | cons first items ih =>
    cases items with
    | nil =>
      cases rest with
      | nil => simp [saidCommas, readList, reads]
      | cons next rest =>
        rw [saidCommas, List.map_singleton, List.intercalate_singleton, List.singleton_append,
          readList, reads]
        · rfl
        · rintro more same
          exact closed (by rw [(List.cons.inj same).1]; rfl)
    | cons second items =>
      have later := ih (List.cons_ne_nil _ _)
      have split : saidCommas ((first :: second :: items).map fun a => [say a])
          = say first :: .token (.symbol ',') ::
            saidCommas ((second :: items).map fun a => [say a]) :=
        List.intercalate_cons_cons
      rw [split, List.cons_append, List.cons_append, readList, reads, later]
      rfl

theorem readAssignments_saidCommas {items : List (String × Value)} (inhabited : items ≠ [])
    {rest : List Resolved} (closed : Closed rest) :
    readAssignments (saidCommas (items.map fun entry =>
        [.token (.name entry.1), .token (.operator .equal), ofValue entry.2]) ++ rest)
      = some (items, rest) := by
  induction items with
  | nil => exact absurd rfl inhabited
  | cons first items ih =>
    cases items with
    | nil =>
      cases rest with
      | nil => simp [saidCommas, readAssignments, value?_ofValue]
      | cons next rest =>
        rw [saidCommas, List.map_singleton, List.intercalate_singleton, List.cons_append,
          List.cons_append, List.cons_append, List.nil_append, readAssignments, value?_ofValue]
        · rfl
        · rintro more same
          exact closed (by rw [(List.cons.inj same).1]; rfl)
    | cons second items =>
      have later := ih (List.cons_ne_nil _ _)
      have split : saidCommas ((first :: second :: items).map fun entry =>
            [.token (.name entry.1), .token (.operator .equal), ofValue entry.2])
          = .token (.name first.1) :: .token (.operator .equal) :: ofValue first.2 ::
            .token (.symbol ',') :: saidCommas ((second :: items).map fun entry =>
              [.token (.name entry.1), .token (.operator .equal), ofValue entry.2]) :=
        List.intercalate_cons_cons
      rw [split, List.cons_append, List.cons_append, List.cons_append, List.cons_append,
        readAssignments, value?_ofValue, later]
      rfl

/-! ### Rows -/

/-- With these arguments the row says the fields, one after the other. -/
def SaysRow (args : List Value) (row : List (String × Operand)) (fields : List (String × Value)) :
    Prop :=
  List.Forall₂ (fun entry field =>
    entry.1 = field.1 ∧ entry.2.token.resolve args = some (ofValue field.2)) row fields

theorem saysRow_zip {fields : List (String × Value)} {operands : List Operand}
    (values : List.Forall₂ (fun operand value =>
      operand.token.resolve args = some (ofValue value)) operands (fields.map (·.2))) :
    SaysRow args ((fields.map (·.1)).zip operands) fields := by
  induction fields generalizing operands with
  | nil => exact .nil
  | cons field fields ih =>
    cases values with
    | cons first others => exact .cons ⟨rfl, first⟩ (ih others)

/-- An INSERT gives the columns of its row their values. -/
theorem insertion?_insertTokens (relation : String) {row : List (String × Operand)}
    {fields : List (String × Value)} (inhabited : fields ≠ [])
    (row_said : SaysRow args row fields) :
    ((Statement.insertTokens relation row).mapM (Token.resolve args)).bind insertion?
      = some (relation, fields) := by
  have names : Resolves args (commas (row.map fun entry => [.name entry.1]))
      (saidCommas (fields.map fun field => [.token (.name field.1)])) :=
    resolves_commas (row_said.imp fun entry field same => by
      rw [same.1]
      exact resolves_singleton rfl)
  have values : Resolves args (commas (row.map fun entry => [entry.2.token]))
      (saidCommas (fields.map fun field => [ofValue field.2])) :=
    resolves_commas (row_said.imp fun entry field same => resolves_singleton same.2)
  have opens : Plain [.word "INSERT", .word "INTO", .name relation, .symbol '('] := fun _ => rfl
  have between : Plain [.symbol ')', .word "VALUES", .symbol '('] := fun _ => rfl
  have last : Plain [.symbol ')'] := fun _ => rfl
  have whole : (Statement.insertTokens relation row).mapM (Token.resolve args) = some _ :=
    (opens args).append (names.append ((between args).append (values.append (last args))))
  have readNames (rest : List Resolved) (closed : Closed rest) :=
    @readList_saidCommas _ name? (fun name => .token (.name name)) (fun _ => rfl)
      (fields.map (·.1)) (by simpa using inhabited) rest closed
  have readValues (rest : List Resolved) (closed : Closed rest) :=
    @readList_saidCommas _ value? ofValue value?_ofValue
      (fields.map (·.2)) (by simpa using inhabited) rest closed
  simp only [List.map_map, Function.comp_def] at readNames readValues
  have paired : (fields.map (·.1)).zip (fields.map (·.2)) = fields := by
    rw [List.zip_map']
    exact List.map_id _
  rw [whole, Option.bind_some]
  simp only [List.map_cons, List.map_nil, List.cons_append, List.nil_append, insertion?]
  rw [readNames _ (by simp [Closed])]
  simp only
  rw [readValues _ (by simp [Closed])]
  simp only [List.length_map, if_true, paired]

/-- An UPDATE gives the columns of its row their values, under its condition. -/
theorem change?_updateTokens (relation : String) {row : List (String × Operand)}
    {fields : List (String × Value)} (inhabited : fields ≠ []) (row_said : SaysRow args row fields)
    {condition : Option (List Token)} {said : Option (List Resolved)}
    (conditions : condition.map (·.mapM (Token.resolve args)) = said.map some) :
    ((Statement.updateTokens relation row condition).mapM (Token.resolve args)).bind change?
      = some (relation, fields, said) := by
  have assignments : Resolves args (commas (row.map fun entry =>
        [.name entry.1, .operator .equal, entry.2.token]))
      (saidCommas (fields.map fun field =>
        [.token (.name field.1), .token (.operator .equal), ofValue field.2])) := by
    refine resolves_commas (row_said.imp fun entry field same => ?_)
    have named : Plain [.name entry.1, .operator .equal] := fun _ => rfl
    rw [← same.1]
    exact (named args).append (resolves_singleton same.2)
  have opens : Plain [.word "UPDATE", .name relation, .word "SET"] := fun _ => rfl
  have behind : Resolves args ((condition.map (.word "WHERE" :: ·)).getD [])
      ((said.map (.token (.word "WHERE") :: ·)).getD []) := by
    have keyword : Plain [.word "WHERE"] := fun _ => rfl
    cases condition with
    | none =>
      cases said with
      | none => rfl
      | some said => cases conditions
    | some tokens =>
      cases said with
      | none => cases conditions
      | some said => exact (keyword args).append (Option.some.inj conditions)
  have whole : (Statement.updateTokens relation row condition).mapM (Token.resolve args) = some _ :=
    (opens args).append (assignments.append behind)
  have closed : Closed ((said.map (.token (.word "WHERE") :: ·)).getD []) := by
    cases said <;> simp [Closed]
  rw [whole, Option.bind_some]
  simp only [List.map_cons, List.map_nil, List.cons_append, List.nil_append, change?]
  rw [readAssignments_saidCommas inhabited closed]
  cases said <;> rfl

/-! ### Binding -/

theorem Arguments.resolve_push_token (args : Arguments) (value : Value) (later : List Value) :
    (args.push value).1.token.resolve (args.values ++ bindable value ++ later)
      = some (ofValue value) := by
  unfold push bindable ofValue
  split
  · rfl
  · simp [Operand.token, Token.resolve, size]

/-- What stands for a list of values says these values, whatever is bound behind them. -/
theorem Arguments.pushAll_resolved (values : List Value) : ∀ args : Arguments, ∃ operands,
    args.pushAll values = (operands, args.extend (values.flatMap bindable)) ∧
      ∀ later, List.Forall₂ (fun operand value =>
        operand.token.resolve (args.values ++ values.flatMap bindable ++ later)
          = some (ofValue value)) operands values := by
  induction values with
  | nil => exact fun args => ⟨[], by simp [pushAll], fun _ => .nil⟩
  | cons value rest ih =>
    intro args
    have pushed : (args.push value).2 = args.extend (bindable value) := push_snd args value
    obtain ⟨operands, bound, resolved⟩ := ih (args.extend (bindable value))
    refine ⟨(args.push value).1 :: operands, ?_, fun later => ?_⟩
    · rw [pushAll, pushed, bound, List.flatMap_cons, extend_extend]
    · have first := args.resolve_push_token value (rest.flatMap bindable ++ later)
      have others := resolved later
      rw [extend_values] at others
      rw [List.flatMap_cons]
      simp only [List.append_assoc] at first others ⊢
      exact .cons first others

end Sql

open Sql Resolved

/-- A row is bound behind any arguments, and its operands say its values. -/
theorem Query.bindFields_resolved (args : Arguments) (record : Record) : ∃ row,
    bindFields args record = (row, args.extend (known record)) ∧
      ∀ later, SaysRow (args.values ++ known record ++ later) row record.toList := by
  obtain ⟨operands, bound, resolved⟩ :=
    Arguments.pushAll_resolved (record.toList.map (·.2)) args
  refine ⟨record.fields.zip operands, ?_, fun later => ?_⟩
  · rw [bindFields, bound, known]
  · exact saysRow_zip (resolved later)

/-! ### Conditions -/

/-- What is said first and what is said behind it, with the values of both. -/
theorem Sql.resolves_cons {args : Arguments} {first others : List Value} {tokens : List Token}
    {said : List Resolved} {lists : List (List Token)} {saids : List (List Resolved)}
    (head : ∀ later, Resolves (args.values ++ first ++ later) tokens said)
    (tail : ∀ later, List.Forall₂ (Resolves ((args.extend first).values ++ others ++ later))
      lists saids) (later : List Value) :
    List.Forall₂ (Resolves (args.values ++ (first ++ others) ++ later)) (tokens :: lists)
      (said :: saids) := by
  have here := head (others ++ later)
  have behind := tail later
  rw [Arguments.extend_values] at behind
  simp only [List.append_assoc] at here behind ⊢
  exact .cons here behind

namespace Filter

variable {dialect : Dialect}

/-- The filter binds these values behind any arguments, and its condition says this with them,
whatever is bound behind them. -/
def SaysBound (dialect : Dialect) (column : String) (filter : Filter) (values : List Value)
    (said : List Resolved) : Prop :=
  ∀ args : Arguments, ∃ condition, bind column filter args = (some condition, args.extend values) ∧
    ∀ later, Resolves (args.values ++ values ++ later) (condition.tokens dialect) said

/-- The condition on an operand is plain but for the operand. -/
def Frames (dialect : Dialect) (condition : Operand → Condition) : Prop :=
  ∃ before behind : List Token, Plain before ∧ Plain behind ∧
    ∀ operand, (condition operand).tokens dialect = before ++ operand.token :: behind

theorem compare_frames (column : String) (comparison : Comparison) :
    Frames dialect (.compare column comparison) := by
  refine ⟨[.name column, .operator comparison], [], ?_, ?_, fun _ => rfl⟩ <;> exact fun _ => rfl

theorem equalsIgnoringCase_frames (column : String) :
    Frames dialect (.equalsIgnoringCase column) := by
  refine ⟨lowered (.name column) ++ [.operator .equal, .word "LOWER", .symbol '('], [.symbol ')'],
    ?_, ?_, fun _ => rfl⟩ <;> exact fun _ => rfl

theorem matchesIgnoringCase_frames (column : String) :
    Frames dialect (.matchesIgnoringCase column) := by
  cases dialect with
  | postgres =>
    refine ⟨[.name column, .word "ILIKE"], [.word "ESCAPE", .text "\\"], ?_, ?_, fun _ => rfl⟩ <;>
      exact fun _ => rfl
  | sqlite =>
    refine ⟨lowered (.name column) ++ [.word "LIKE", .word "LOWER", .symbol '('],
      [.symbol ')', .word "ESCAPE", .text "\\"], ?_, ?_, fun _ => rfl⟩ <;> exact fun _ => rfl

theorem segmentEquals_frames (column : String) (start count : Nat) :
    Frames dialect (.segmentEquals column start count) := by
  refine ⟨dialect.segmentTokens column start count ++ [.operator .equal], [], ?_, fun _ => rfl,
    fun _ => ?_⟩
  · cases dialect <;> exact fun _ => rfl
  · rw [Condition.tokens, List.append_assoc]
    rfl

theorem bindOne_said {condition : Operand → Condition} (frames : Frames dialect condition)
    (value : Value) : ∃ said, ∀ args : Arguments, ∃ built,
      bindOne args value condition = (some built, args.extend (Arguments.bindable value)) ∧
        ∀ later, Resolves (args.values ++ Arguments.bindable value ++ later) (built.tokens dialect)
          said := by
  obtain ⟨before, behind, first, last, split⟩ := frames
  refine ⟨before.map .token ++ ofValue value :: behind.map .token, fun args => ⟨_,
    congrArg (Prod.mk (some (condition (args.push value).1))) (Arguments.push_snd args value),
    fun later => ?_⟩⟩
  rw [split]
  exact first.between last (args.resolve_push_token value later)

theorem bindParts_said (column : String) (parts : List Filter)
    (each : ∀ part ∈ parts, ∃ values said, SaysBound dialect column part values said) :
    ∃ values said, ∀ args : Arguments, ∃ conditions,
      bindParts column parts args = (some conditions, args.extend values) ∧
        ∀ later, List.Forall₂ (Resolves (args.values ++ values ++ later))
          (Condition.tokensOf dialect conditions) said := by
  induction parts with
  | nil => exact ⟨[], [], fun args => ⟨[], by simp [bindParts], fun _ => .nil⟩⟩
  | cons part rest ih =>
    obtain ⟨first, said, binds⟩ := each part List.mem_cons_self
    obtain ⟨others, saids, bindsOthers⟩ :=
      ih fun part member => each part (List.mem_cons_of_mem _ member)
    refine ⟨first ++ others, said :: saids, fun args => ?_⟩
    obtain ⟨condition, bound, resolved⟩ := binds args
    obtain ⟨conditions, boundOthers, resolvedOthers⟩ := bindsOthers (args.extend first)
    refine ⟨condition :: conditions, ?_, fun later => ?_⟩
    · rw [bindParts, bound]
      simp only [boundOthers, Option.map_some, Arguments.extend_extend]
    · exact resolves_cons resolved resolvedOthers later

/-- What a group says, where `absent` stands for no parts. -/
def groupSaid (keyword : String) (absent : Nat) (saids : List (List Resolved)) : List Resolved :=
  if saids.isEmpty then
    [.token (.number 1), .token (.operator .equal), .token (.number absent)]
  else .token (.symbol '(') :: ([.token (.word keyword)].intercalate saids
    ++ [.token (.symbol ')')])

theorem groupTokens_said (keyword : String) (absent : Nat) {args : List Value}
    {lists : List (List Token)} {saids : List (List Resolved)}
    (each : List.Forall₂ (Resolves args) lists saids) :
    Resolves args (Condition.groupTokens keyword absent lists)
      (groupSaid keyword absent saids) := by
  cases each with
  | nil => rfl
  | @cons tokens said lists saids first others =>
    have opens : Plain [.symbol '('] := fun _ => rfl
    have between : Plain [.word keyword] := fun _ => rfl
    have closes : Plain [.symbol ')'] := fun _ => rfl
    exact (opens args).append
      ((resolves_intercalate between (.cons first others)).append (closes args))

/-- A filter that has a form in SQL says the same behind any arguments. -/
theorem bind_said (dialect : Dialect) (column : String) (filter : Filter)
    (plain : filter.holdsCustom = false) :
    ∃ values said, SaysBound dialect column filter values said := by
  -- Values and what is said are chosen before the arguments, so that they are the same behind all.
  induction filter with
  | equals value =>
    by_cases null : value.isNull = true
    · refine ⟨[], [.token (.name column), .token (.word "IS"), .token (.word "NULL")],
        fun args => ⟨.isNull column, ?_, fun _ => rfl⟩⟩
      rw [bind, if_pos null, Arguments.extend_nil]
    · obtain ⟨said, binds⟩ := bindOne_said (@compare_frames dialect column .equal) value
      refine ⟨Arguments.bindable value, said, fun args => ?_⟩
      rw [bind, if_neg null]
      exact binds args
  | equalsIgnoringCase text => exact ⟨_, bindOne_said (equalsIgnoringCase_frames column) _⟩
  | containsIgnoringCase text => exact ⟨_, bindOne_said (matchesIgnoringCase_frames column) _⟩
  | shortId digits => exact ⟨_, bindOne_said (segmentEquals_frames column _ _) _⟩
  | lessThan bound => exact ⟨_, bindOne_said (compare_frames column _) _⟩
  | atMost bound => exact ⟨_, bindOne_said (compare_frames column _) _⟩
  | greaterThan bound => exact ⟨_, bindOne_said (compare_frames column _) _⟩
  | atLeast bound => exact ⟨_, bindOne_said (compare_frames column _) _⟩
  | not inner ih =>
    obtain ⟨values, said, binds⟩ := ih plain
    have opens : Plain [.word "NOT", .symbol '('] := fun _ => rfl
    have closes : Plain [.symbol ')'] := fun _ => rfl
    refine ⟨values,
      [.token (.word "NOT"), .token (.symbol '(')] ++ (said ++ [.token (.symbol ')')]),
      fun args => ?_⟩
    obtain ⟨condition, bound, resolved⟩ := binds args
    exact ⟨.not condition, by simp [bind, bound], fun later =>
      (opens _).append ((resolved later).append (closes _))⟩
  | all parts ih =>
    obtain ⟨values, saids, binds⟩ := bindParts_said column parts fun part member =>
      ih part member ((anyHoldsCustom_eq_false_iff parts).1 plain part member)
    refine ⟨values, groupSaid "AND" 1 saids, fun args => ?_⟩
    obtain ⟨conditions, bound, resolved⟩ := binds args
    exact ⟨.all conditions, by rw [bind, bound, bindGroup], fun later =>
      groupTokens_said "AND" 1 (resolved later)⟩
  | any parts ih =>
    obtain ⟨values, saids, binds⟩ := bindParts_said column parts fun part member =>
      ih part member ((anyHoldsCustom_eq_false_iff parts).1 plain part member)
    refine ⟨values, groupSaid "OR" 0 saids, fun args => ?_⟩
    obtain ⟨conditions, bound, resolved⟩ := binds args
    exact ⟨.any conditions, by rw [bind, bound, bindGroup], fun later =>
      groupTokens_said "OR" 0 (resolved later)⟩
  | custom predicate => cases plain

end Filter

namespace Conditions

/-- Either the conditions cannot be bound, behind whatever arguments, or they say the same behind
all of them. -/
theorem bindEntries_said (dialect : Dialect) (entries : List (String × Filter)) :
    (∃ failure, ∀ args, (bindEntries entries args).1 = .error failure) ∨
      ∃ values said, ∀ args : Arguments, ∃ parts,
        bindEntries entries args = (.ok parts, args.extend values) ∧
          ∀ later, List.Forall₂ (Resolves (args.values ++ values ++ later))
            (Condition.tokensOf dialect parts) said := by
  induction entries with
  | nil => exact Or.inr ⟨[], [], fun args => ⟨[], by simp [bindEntries], fun _ => .nil⟩⟩
  | cons entry rest ih =>
    obtain ⟨field, filter⟩ := entry
    cases held : filter.holdsCustom with
    | true =>
      refine Or.inl ⟨.filterUnrenderable field, fun args => ?_⟩
      have unbound : (filter.bind field args).1 = none := by
        rw [← Option.not_isSome_iff_eq_none, Filter.isSome_bind, held]
        exact Bool.false_ne_true
      rw [bindEntries, ← Prod.eta (filter.bind field args), unbound]
    | false =>
      obtain ⟨first, said, binds⟩ := filter.bind_said dialect field held
      rcases ih with ⟨failure, fails⟩ | ⟨others, saids, bindsOthers⟩
      · refine Or.inl ⟨failure, fun args => ?_⟩
        obtain ⟨condition, bound, _⟩ := binds args
        rw [bindEntries, bound]
        simp only [fails, Except.map]
      · refine Or.inr ⟨first ++ others, said :: saids, fun args => ?_⟩
        obtain ⟨condition, bound, resolved⟩ := binds args
        obtain ⟨parts, boundOthers, resolvedOthers⟩ := bindsOthers (args.extend first)
        refine ⟨condition :: parts, ?_, fun later => ?_⟩
        · rw [bindEntries, bound]
          simp only [boundOthers, Except.map, Arguments.extend_extend]
        · exact resolves_cons resolved resolvedOthers later

/-- What conditions say together; nothing if there are none. -/
def conjunctionSaid (saids : List (List Resolved)) : Option (List Resolved) :=
  if saids.isEmpty then none else some ([.token (.word "AND")].intercalate saids)

theorem conjunctionTokens_said {dialect : Dialect} {args : List Value} {parts : List Condition}
    {saids : List (List Resolved)}
    (each : List.Forall₂ (Resolves args) (Condition.tokensOf dialect parts) saids) :
    (Condition.conjunctionTokens dialect parts).map (·.mapM (Token.resolve args))
      = (conjunctionSaid saids).map some := by
  cases parts with
  | nil =>
    cases each
    rfl
  | cons part parts =>
    have between : Plain [.word "AND"] := fun _ => rfl
    have joined : List.mapM (Token.resolve args) _ = _ := resolves_intercalate between each
    cases each
    exact congrArg some joined

/-- The text of conditions says what their tokens say. -/
theorem reading_conjunction (dialect : Dialect) (args : List Value) (parts : List Condition) :
    (Condition.conjunction dialect parts).map (reading dialect args)
      = (Condition.conjunctionTokens dialect parts).map (·.mapM (Token.resolve args)) := by
  have lexed := congrArg (Option.map (Option.bind · fun tokens => tokens.mapM (Token.resolve args)))
    (Condition.lex_conjunction dialect parts)
  rw [Option.map_map, Option.map_map] at lexed
  exact lexed

end Conditions

namespace Query

/-- With its arguments, an INSERT says the fields of the record that are stored, and an UPDATE
assigns them, under a condition that says what the conditions say alone. -/
theorem writes_say_record (dialect : Dialect) (relation : Relation) (record : Record)
    (stored : (relation.storable record).isEmpty = false) :
    (relation.storable record).fields.Nodup ∧
    (∃ query, insert dialect relation record = .ok query ∧
      (reading dialect query.args (query.sql dialect)).bind insertion?
        = some (relation.name, (relation.storable record).toList)) ∧
    ∀ (conditions : Conditions) (text : Option String) (bound : Arguments),
      conditions.render (.empty dialect) = (.ok text, bound) →
      ∃ query condition, update dialect relation record conditions = .ok query ∧
        (reading dialect query.args (query.sql dialect)).bind change?
          = some (relation.name, (relation.storable record).toList, condition) ∧
        text.map (reading dialect bound.values) = condition.map some := by
  have inhabited : (relation.storable record).toList ≠ [] := List.isEmpty_eq_false_iff.1 stored
  obtain ⟨row, written, resolved⟩ :=
    bindFields_resolved (.empty dialect) (relation.storable record)
  refine ⟨?_, ?_, fun conditions text bound rendered => ?_⟩
  · exact ((relation.storable record).sorted.imp FieldMap.ne_of_lt).map _ fun _ _ => id
  · refine ⟨⟨.insert relation.name row, known (relation.storable record)⟩, ?_, ?_⟩
    · rw [insert, stored, if_neg Bool.false_ne_true, written]
      rfl
    · have row_said := resolved []
      rw [List.append_nil] at row_said
      rw [reading, sql, Statement.lex_insert, Option.bind_some]
      exact insertion?_insertTokens relation.name inhabited row_said
  · rcases Conditions.bindEntries_said dialect conditions.toList with
      ⟨failure, fails⟩ | ⟨values, saids, binds⟩
    · rw [Conditions.render, Conditions.bind,
        ← Prod.eta (Conditions.bindEntries conditions.toList _), fails] at rendered
      cases rendered
    · -- Alone the conditions are bound behind nothing, in the UPDATE behind the row.
      obtain ⟨alone, boundAlone, saidAlone⟩ := binds (.empty dialect)
      rw [Conditions.render, Conditions.bind, boundAlone] at rendered
      cases rendered
      obtain ⟨parts, boundParts, saidParts⟩ :=
        binds ((Arguments.empty dialect).extend (known (relation.storable record)))
      have here := saidParts []
      have fresh := saidAlone []
      rw [List.append_nil] at here fresh
      refine ⟨⟨.update relation.name row parts, known (relation.storable record) ++ values⟩,
        Conditions.conjunctionSaid saids, ?_, ?_, ?_⟩
      · rw [update, stored, if_neg Bool.false_ne_true, written]
        simp only [onRows, Conditions.bind, boundParts]
        rfl
      · rw [reading, sql, Statement.lex_update, Option.bind_some]
        exact change?_updateTokens relation.name inhabited (resolved values)
          (Conditions.conjunctionTokens_said here)
      · exact (Conditions.reading_conjunction dialect _ alone).trans
          (Conditions.conjunctionTokens_said fresh)

theorem writes_say_record_marked :
    let record : Record :=
      .ofList [("?1", .text "$7"), ("a\"$2", .null), ("b", .int 3), ("no column", .int 4)]
    let fields : List (String × Value) := [("?1", .text "$7"), ("a\"$2", .null), ("b", .int 3)]
    let conditions : Conditions := .ofList [("b", .any [.isNull, .lessThan (.int 4)])]
    (marked.storable record).isEmpty = false ∧
    (∃ query, insert .postgres marked record = .ok query ∧
      query.sql .postgres
        = "INSERT INTO \"$1\" ( \"?1\", \"a\"\"$2\", \"b\" ) VALUES ( $1, NULL, $2 )" ∧
      (reading .postgres query.args (query.sql .postgres)).bind insertion? = some ("$1", fields)) ∧
    ∃ query condition, update .postgres marked record conditions = .ok query ∧
      query.sql .postgres = "UPDATE \"$1\" SET \"?1\" = $1, \"a\"\"$2\" = NULL, \"b\" = $2"
        ++ " WHERE ( \"b\" IS NULL OR \"b\" < $3 )" ∧
      (reading .postgres query.args (query.sql .postgres)).bind change?
        = some ("$1", fields, condition) ∧
      (some "( \"b\" IS NULL OR \"b\" < $1 )").map (reading .postgres [.int 4])
        = condition.map some := by
  intro record fields conditions
  have stored : (marked.storable record).isEmpty = false := by decide
  obtain ⟨-, ⟨query, written, read⟩, updates⟩ :=
    writes_say_record .postgres marked record stored
  obtain ⟨changed, condition, changes, assigned, alone⟩ := updates conditions _ _ rfl
  obtain rfl := Except.ok.inj written
  obtain rfl := Except.ok.inj changes
  exact ⟨stored, ⟨_, rfl, by decide, read⟩, _, condition, rfl, by decide, assigned, alone⟩

end Query

end KeyStore
