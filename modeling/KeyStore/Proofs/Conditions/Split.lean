import KeyStore.Conditions
import KeyStore.Proofs.Filter.Binding

/-!
# The two halves of conditions

The database answers the filters on columns that hold no predicate of the caller, and its half can
always be bound. A record satisfies the conditions exactly if it satisfies both halves. `Divides`
says all of this about two halves, and `split_divides` that the halves that are made are such.
-/

namespace KeyStore.Conditions

variable {dialect : Sql.Dialect} {isColumn : String → Bool}

theorem isAnswerable_eq (field : String) (filter : Filter) :
    isAnswerable dialect isColumn field filter = (isColumn field && !filter.holdsCustom) := by
  rw [isAnswerable, Filter.isSome_bind]

/-- What conditions say of a record depends on the values of their own fields only. -/
theorem accepts_congr (conditions : Conditions) {left right : Record}
    (same : ∀ field, conditions.contains field = true →
      Record.value left field = Record.value right field) :
    conditions.accepts left = conditions.accepts right := by
  unfold accepts
  rw [Bool.eq_iff_iff, List.all_eq_true, List.all_eq_true]
  refine forall₂_congr fun entry mem => ?_
  have found : conditions.get? entry.1 = some entry.2 :=
    (conditions.mem_toList_iff entry.1 entry.2).1 mem
  rw [same entry.1 (by rw [FieldMap.contains, found, Option.isSome_some])]

/-- The half of the database asks about columns only. -/
theorem isColumn_of_contains_split_fst (conditions : Conditions) (field : String)
    (asked : (split conditions dialect isColumn).1.contains field = true) :
    isColumn field = true := by
  rw [split, FieldMap.contains, FieldMap.get?_filter] at asked
  obtain ⟨filter, found⟩ := Option.isSome_iff_exists.1 asked
  have answerable := (Option.filter_eq_some_iff.1 found).2
  rw [isAnswerable_eq, Bool.and_eq_true] at answerable
  exact answerable.1

theorem all_split {α : Type} (p q : α → Bool) (items : List α) :
    items.all q = ((items.filter p).all q && (items.filter fun item => !p item).all q) := by
  induction items with
  | nil => rfl
  | cons item rest ih =>
    cases kept : p item with
    | true => simp [kept, ih, Bool.and_assoc]
    | false => simp [kept, ih, Bool.and_left_comm]

/-- A record satisfies the conditions exactly if it satisfies both halves. -/
theorem accepts_eq_split (conditions : Conditions) (record : Record) :
    conditions.accepts record
      = ((split conditions dialect isColumn).1.accepts record
          && (split conditions dialect isColumn).2.accepts record) :=
  all_split _ _ conditions.toList

theorem bindEntries_ok (entries : List (String × Filter))
    (plain : ∀ entry ∈ entries, entry.2.holdsCustom = false) :
    ∀ args, ∃ conditions bound, bindEntries entries args = (.ok conditions, args.extend bound) := by
  induction entries with
  | nil => exact fun args => ⟨[], [], by simp [bindEntries]⟩
  | cons head rest ih =>
    intro args
    obtain ⟨field, filter⟩ := head
    have unheld : filter.holdsCustom = false := plain (field, filter) List.mem_cons_self
    rcases filter.bind_bound field args with ⟨_, condition, bound, first⟩ | ⟨held, _⟩
    · obtain ⟨conditions, more, others⟩ :=
        ih (fun entry mem => plain entry (List.mem_cons_of_mem _ mem)) (args.extend bound)
      exact ⟨condition :: conditions, bound ++ more,
        by simp [bindEntries, first, others, Except.map]⟩
    · rw [held] at unheld
      cases unheld

/-- No predicate of the caller is left to the database. -/
theorem plain_split_fst (conditions : Conditions) (dialect : Sql.Dialect)
    (isColumn : String → Bool) :
    ∀ entry ∈ (split conditions dialect isColumn).1.toList, entry.2.holdsCustom = false := by
  intro entry mem
  have answerable := (List.mem_filter.1 mem).2
  rw [isAnswerable_eq, Bool.and_eq_true, Bool.not_eq_true'] at answerable
  exact answerable.2

/-! ### What each half holds -/

theorem get?_split_fst (conditions : Conditions) (field : String) :
    (split conditions dialect isColumn).1.get? field
      = (conditions.get? field).filter (isAnswerable dialect isColumn field) :=
  FieldMap.get?_filter conditions _ field

theorem get?_split_snd (conditions : Conditions) (field : String) :
    (split conditions dialect isColumn).2.get? field
      = (conditions.get? field).filter fun filter => !isAnswerable dialect isColumn field filter :=
  FieldMap.get?_filter conditions _ field

/-- The half of the database can be bound behind any arguments. -/
theorem bind_split_fst (conditions : Conditions) (dialect : Sql.Dialect)
    (isColumn : String → Bool) (args : Sql.Arguments) :
    ∃ parts bound, Conditions.bind (split conditions dialect isColumn).1 args
      = (.ok parts, args.extend bound) :=
  bindEntries_ok _ (plain_split_fst conditions dialect isColumn) args

/-- Two halves divide conditions between the database and the process. -/
structure Divides (conditions : Conditions) (isColumn : String → Bool) (sql app : Conditions) :
    Prop where
  /-- What is asked about a field is asked in one half, unchanged, and not in the other. -/
  parted : ∀ field filter, conditions.get? field = some filter →
    (sql.get? field = some filter ∧ app.get? field = none) ∨
      (sql.get? field = none ∧ app.get? field = some filter)
  /-- Nothing is asked about any other field. -/
  nothingElse : ∀ field, conditions.get? field = none →
    sql.get? field = none ∧ app.get? field = none
  /-- The database has the filters on columns that hold no predicate of the caller. -/
  answerable : ∀ field filter, sql.get? field = some filter ↔
    conditions.get? field = some filter ∧ isColumn field = true ∧ filter.holdsCustom = false
  accepted : ∀ record : Record,
    conditions.accepts record = true ↔ sql.accepts record = true ∧ app.accepts record = true
  /-- The half of the database has a text behind any arguments, in any dialect. -/
  rendered : ∀ args : Sql.Arguments,
    ∃ text bound, sql.render args = (.ok text, args.extend bound)

theorem split_divides (conditions : Conditions) (dialect : Sql.Dialect)
    (isColumn : String → Bool) :
    Divides conditions isColumn (split conditions dialect isColumn).1
      (split conditions dialect isColumn).2 where
  parted field filter asked := by
    rw [get?_split_fst, get?_split_snd, asked]
    cases answerable : isAnswerable dialect isColumn field filter with
    | true => exact Or.inl ⟨by simp [answerable], by simp [answerable]⟩
    | false => exact Or.inr ⟨by simp [answerable], by simp [answerable]⟩
  nothingElse field unasked := by
    rw [get?_split_fst, get?_split_snd, unasked]
    exact ⟨rfl, rfl⟩
  answerable field filter := by
    rw [get?_split_fst, Option.filter_eq_some_iff, isAnswerable_eq, Bool.and_eq_true,
      Bool.not_eq_true']
  accepted record := by
    rw [accepts_eq_split conditions record, Bool.and_eq_true]
  rendered args := by
    obtain ⟨parts, bound, binds⟩ := bind_split_fst conditions dialect isColumn args
    exact ⟨_, bound, by rw [render, binds]; rfl⟩

end KeyStore.Conditions
