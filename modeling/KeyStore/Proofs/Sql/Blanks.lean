import KeyStore.Proofs.Filter.Tree
import KeyStore.Query
import KeyStore.Relation.Catalogue

/-!
# Texts without the values

A statement is written from the names and the shape of what is asked, and from where the NULLs are;
what the caller gives as a value goes into the arguments and nowhere else. To say so, records and
conditions are blanked: every value that is not NULL, every text of a filter and every predicate is
replaced by one and the same. The functions that bind fields and filters do with the blanked data
what they do with the data, and leave as many arguments (`Agree`).

`outline_eq_of_blank_eq` is what follows for the four statements: calls that differ in blanked
places only have one text, equally many arguments, and fail alike.
-/

namespace KeyStore

namespace FieldMap

variable {α β : Type}

/-- The same fields with other values. -/
def mapValues (f : α → β) (map : FieldMap α) : FieldMap β :=
  ⟨map.toList.map fun entry => (entry.1, f entry.2), List.pairwise_map.2 map.sorted⟩

theorem fields_mapValues (f : α → β) (map : FieldMap α) :
    (map.mapValues f).fields = map.fields := by
  simp [fields, mapValues]

theorem isEmpty_mapValues (f : α → β) (map : FieldMap α) :
    (map.mapValues f).isEmpty = map.isEmpty := by
  simp [isEmpty, mapValues]

end FieldMap

/-! ### Blanking -/

/-- One value for all that are not NULL. -/
def Value.blank : Value → Value
  | null => null
  | _ => bool false

theorem Value.isNull_blank (value : Value) : value.blank.isNull = value.isNull := by
  cases value <;> rfl

/-- The record with every value blanked. -/
def Record.blank (record : Record) : Record := record.mapValues Value.blank

namespace Filter

mutual

/-- The filter with every value, text and predicate blanked. -/
def blank : Filter → Filter
  | equals value => equals value.blank
  | equalsIgnoringCase _ => equalsIgnoringCase ""
  | containsIgnoringCase _ => containsIgnoringCase ""
  | shortId _ => shortId ""
  | lessThan bound => lessThan bound.blank
  | atMost bound => atMost bound.blank
  | greaterThan bound => greaterThan bound.blank
  | atLeast bound => atLeast bound.blank
  | not inner => not (blank inner)
  | all parts => all (blankAll parts)
  | any parts => any (blankAll parts)
  | custom _ => custom ⟨"", fun _ => none⟩

/-- The filters with every value, text and predicate blanked. -/
def blankAll : List Filter → List Filter
  | [] => []
  | part :: rest => blank part :: blankAll rest

end

end Filter

/-- The conditions with every filter blanked. -/
def Conditions.blank (conditions : Conditions) : Conditions := conditions.mapValues Filter.blank

/-! ### Binding what is blanked -/

/-- Two results of binding write the same and leave equally many arguments. -/
def Agree {α : Type} (left right : α × Sql.Arguments) : Prop :=
  left.1 = right.1 ∧ left.2.size = right.2.size

theorem Agree.same {α : Type} {left right : α × Sql.Arguments} (agree : Agree left right) :
    ∃ written args others, left = (written, args) ∧ right = (written, others) ∧
      args.size = others.size :=
  ⟨left.1, left.2, right.2, rfl, by rw [agree.1], agree.2⟩

section Binding

variable {args others : Sql.Arguments}

theorem push_agree (sizes : args.size = others.size) {value other : Value}
    (nulls : value.isNull = other.isNull) : Agree (args.push value) (others.push other) := by
  unfold Sql.Arguments.push
  rw [nulls]
  split
  · exact ⟨rfl, sizes⟩
  · refine ⟨by rw [sizes], ?_⟩
    simp only [Sql.Arguments.size, List.length_append] at sizes ⊢
    rw [sizes]
    rfl

theorem pushAll_agree (sizes : args.size = others.size) (values : List Value) :
    Agree (args.pushAll values) (others.pushAll (values.map Value.blank)) := by
  induction values generalizing args others with
  | nil => exact ⟨rfl, sizes⟩
  | cons value rest ih =>
    obtain ⟨operand, bound, bounds, left, right, sizes⟩ :=
      (push_agree sizes value.isNull_blank.symm).same
    obtain ⟨operands, sizes⟩ := ih sizes
    rw [List.map_cons, Sql.Arguments.pushAll, Sql.Arguments.pushAll, left, right]
    exact ⟨congrArg (operand :: ·) operands, sizes⟩

namespace Filter

theorem bindOne_agree (sizes : args.size = others.size) {value other : Value}
    (nulls : value.isNull = other.isNull) (condition : Sql.Operand → Sql.Condition) :
    Agree (bindOne args value condition) (bindOne others other condition) := by
  obtain ⟨operand, sizes⟩ := push_agree sizes nulls
  exact ⟨congrArg (some ∘ condition) operand, sizes⟩

theorem bindText_agree (sizes : args.size = others.size) (text other : String)
    (condition : Sql.Operand → Sql.Condition) :
    Agree (bindOne args (.text text) condition) (bindOne others (.text other) condition) := by
  refine bindOne_agree sizes ?_ condition
  rfl

/-- A group is taken back from both to the same size. -/
theorem bindGroup_agree (sizes : args.size = others.size)
    {left right : Option (List Sql.Condition) × Sql.Arguments} (agree : Agree left right)
    (condition : List Sql.Condition → Sql.Condition) :
    Agree (bindGroup args condition left) (bindGroup others condition right) := by
  obtain ⟨parts, bound, bounds, rfl, rfl, ends⟩ := agree.same
  cases parts with
  | some parts => exact ⟨rfl, ends⟩
  | none =>
    refine ⟨rfl, ?_⟩
    simp only [Sql.Arguments.size] at sizes ends
    simp only [bindGroup, Sql.Arguments.rewind, Sql.Arguments.size, List.length_take, sizes, ends]

theorem bindParts_agree (column : String) (parts : List Filter)
    (each : ∀ part ∈ parts, ∀ args others : Sql.Arguments, args.size = others.size →
      Agree (bind column part args) (bind column part.blank others))
    (sizes : args.size = others.size) :
    Agree (bindParts column parts args) (bindParts column (blankAll parts) others) := by
  induction parts generalizing args others with
  | nil => exact ⟨rfl, sizes⟩
  | cons part rest ih =>
    have tail {args others : Sql.Arguments} (sizes : args.size = others.size) :=
      ih (fun part member => each part (List.mem_cons_of_mem _ member)) sizes
    obtain ⟨built, bound, bounds, left, right, sizes⟩ :=
      (each part List.mem_cons_self args others sizes).same
    rw [blankAll, bindParts, bindParts, left, right]
    cases built with
    | none => exact ⟨rfl, sizes⟩
    | some condition =>
      obtain ⟨conditions, sizes⟩ := tail sizes
      exact ⟨congrArg (Option.map (condition :: ·)) conditions, sizes⟩

/-- A filter is bound as the blanked one is. -/
theorem bind_agree (column : String) (filter : Filter) :
    ∀ args others : Sql.Arguments, args.size = others.size →
      Agree (bind column filter args) (bind column filter.blank others) := by
  induction filter with
  | equals value =>
    intro args others sizes
    rw [blank, bind, bind, value.isNull_blank]
    split
    · exact ⟨rfl, sizes⟩
    · exact bindOne_agree sizes value.isNull_blank.symm _
  | equalsIgnoringCase text => exact fun _ _ sizes => bindText_agree sizes _ _ _
  | containsIgnoringCase text => exact fun _ _ sizes => bindText_agree sizes _ _ _
  | shortId digits => exact fun _ _ sizes => bindText_agree sizes _ _ _
  | lessThan bound => exact fun _ _ sizes => bindOne_agree sizes bound.isNull_blank.symm _
  | atMost bound => exact fun _ _ sizes => bindOne_agree sizes bound.isNull_blank.symm _
  | greaterThan bound => exact fun _ _ sizes => bindOne_agree sizes bound.isNull_blank.symm _
  | atLeast bound => exact fun _ _ sizes => bindOne_agree sizes bound.isNull_blank.symm _
  | not inner ih =>
    intro args others sizes
    obtain ⟨condition, sizes⟩ := ih args others sizes
    exact ⟨congrArg (Option.map Sql.Condition.not) condition, sizes⟩
  | all parts ih =>
    exact fun _ _ sizes => bindGroup_agree sizes (bindParts_agree column parts ih sizes) .all
  | any parts ih =>
    exact fun _ _ sizes => bindGroup_agree sizes (bindParts_agree column parts ih sizes) .any
  | custom predicate => exact fun _ _ sizes => ⟨rfl, sizes⟩

end Filter

theorem Conditions.bindEntries_agree (entries : List (String × Filter))
    (sizes : args.size = others.size) :
    Agree (bindEntries entries args)
      (bindEntries (entries.map fun entry => (entry.1, entry.2.blank)) others) := by
  induction entries generalizing args others with
  | nil => exact ⟨rfl, sizes⟩
  | cons entry rest ih =>
    obtain ⟨field, filter⟩ := entry
    obtain ⟨built, bound, bounds, left, right, sizes⟩ :=
      (filter.bind_agree field args others sizes).same
    rw [List.map_cons, bindEntries, bindEntries, left, right]
    cases built with
    | none => exact ⟨rfl, sizes⟩
    | some condition =>
      obtain ⟨conditions, sizes⟩ := ih sizes
      exact ⟨congrArg (Except.map (condition :: ·)) conditions, sizes⟩

theorem Relation.storable_blank (relation : Relation) (record : Record) :
    relation.storable record.blank = (relation.storable record).blank := by
  simp only [storable, Record.blank, FieldMap.mapValues, FieldMap.filter, List.filter_map,
    Function.comp_def]

namespace Query

theorem bindFields_agree (sizes : args.size = others.size) (record : Record) :
    Agree (bindFields args record) (bindFields others record.blank) := by
  have values : record.blank.toList.map (·.2) = (record.toList.map (·.2)).map Value.blank := by
    simp [Record.blank, FieldMap.mapValues]
  have names : record.blank.fields = record.fields := FieldMap.fields_mapValues _ _
  obtain ⟨operands, bound, bounds, left, right, sizes⟩ :=
    (pushAll_agree sizes (record.toList.map (·.2))).same
  rw [bindFields, bindFields, left, values, right, names]
  exact ⟨rfl, sizes⟩

/-- What is seen of a statement without its values: its text and how many arguments it has, or the
error instead of it. -/
def outline (dialect : Sql.Dialect) (made : Except StoreError Query) :
    Except StoreError (String × Nat) :=
  made.map fun query => (query.sql dialect, query.args.length)

variable (dialect : Sql.Dialect) (relation : Relation)

theorem outline_of_sizes (statement : Statement) (sizes : args.size = others.size) :
    outline dialect (.ok ⟨statement, args.values⟩)
      = outline dialect (.ok ⟨statement, others.values⟩) :=
  congrArg (fun size => Except.ok (statement.render dialect, size)) sizes

theorem onRows_blank (sizes : args.size = others.size) (conditions : Conditions)
    (statement : List Sql.Condition → Statement) :
    outline dialect (onRows args conditions statement)
      = outline dialect (onRows others conditions.blank statement) := by
  have agree : Agree (conditions.bind args) (conditions.blank.bind others) :=
    Conditions.bindEntries_agree conditions.toList sizes
  obtain ⟨result, bound, bounds, left, right, sizes⟩ := agree.same
  rw [onRows, onRows, left, right]
  cases result with
  | error error => rfl
  | ok parts => exact outline_of_sizes dialect (statement parts) sizes

theorem insert_blank (record : Record) :
    outline dialect (insert dialect relation record)
      = outline dialect (insert dialect relation record.blank) := by
  obtain ⟨row, bound, bounds, left, right, sizes⟩ := (bindFields_agree
    (rfl : (Sql.Arguments.empty dialect).size = _) (relation.storable record)).same
  have same : (relation.storable record).blank.isEmpty = (relation.storable record).isEmpty :=
    FieldMap.isEmpty_mapValues _ _
  rw [insert, insert, relation.storable_blank, left, right, same]
  split
  · rfl
  · exact outline_of_sizes dialect (.insert relation.name row) sizes

theorem update_blank (record : Record) (conditions : Conditions) :
    outline dialect (update dialect relation record conditions)
      = outline dialect (update dialect relation record.blank conditions.blank) := by
  obtain ⟨row, bound, bounds, left, right, sizes⟩ := (bindFields_agree
    (rfl : (Sql.Arguments.empty dialect).size = _) (relation.storable record)).same
  have same : (relation.storable record).blank.isEmpty = (relation.storable record).isEmpty :=
    FieldMap.isEmpty_mapValues _ _
  rw [update, update, relation.storable_blank, left, right, same]
  split
  · rfl
  · exact onRows_blank dialect sizes conditions _

/-- No value of the caller gets into a text: two calls of a statement whose records and conditions
have the same fields, the same filters and NULL in the same places, with whatever other values,
texts and predicates, give the same text with equally many arguments, or the same error. -/
theorem outline_eq_of_blank_eq (projection : Projection) (suffix : Option String)
    {record other : Record} {conditions others : Conditions} (records : record.blank = other.blank)
    (filters : conditions.blank = others.blank) :
    outline dialect (select dialect relation projection conditions suffix)
        = outline dialect (select dialect relation projection others suffix) ∧
      outline dialect (insert dialect relation record)
        = outline dialect (insert dialect relation other) ∧
      outline dialect (update dialect relation record conditions)
        = outline dialect (update dialect relation other others) ∧
      outline dialect (delete dialect relation conditions)
        = outline dialect (delete dialect relation others) := by
  refine ⟨?_, ?_, ?_, ?_⟩
  · rw [select, select, onRows_blank dialect rfl conditions, filters,
      ← onRows_blank dialect rfl others]
  · rw [insert_blank, records, ← insert_blank]
  · rw [update_blank, records, filters, ← update_blank]
  · rw [delete, delete, onRows_blank dialect rfl conditions, filters,
      ← onRows_blank dialect rfl others]

/-- Values that would go on as SQL give the text that a harmless date and id give. -/
theorem outline_eq_of_quotes :
    outline .sqlite (update .sqlite .keys (.insert .empty "date" (.text "0, \"id\" = 1 --"))
        (.insert .empty "id" (.any [.equals (.text "' OR 1 = 1"), .containsIgnoringCase "%"])))
      = .ok ("UPDATE \"keys\" SET \"date\" = ?1 "
          ++ "WHERE ( \"id\" = ?2 OR LOWER(\"id\") LIKE LOWER(?3) ESCAPE '\\' )", 3) := by
  have records : Record.blank (.insert .empty "date" (.text "0, \"id\" = 1 --"))
      = Record.blank (.insert .empty "date" (.int 4)) := rfl
  have filters : Conditions.blank (.insert .empty "id"
        (.any [.equals (.text "' OR 1 = 1"), .containsIgnoringCase "%"]))
      = Conditions.blank (.insert .empty "id"
        (.any [.equals (.text "0A"), .containsIgnoringCase "0b"])) := rfl
  obtain ⟨_, _, updates, _⟩ :=
    outline_eq_of_blank_eq .sqlite .keys (.columns []) none records filters
  exact updates.trans rfl

end Query

end Binding

end KeyStore
