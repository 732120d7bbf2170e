import Mathlib.Order.Bounds.Basic
import KeyStore.Proofs.Conditions.Split

/-!
# What rendering does to the arguments

A filter either has a text, and then its values stand behind the arguments that were there, or a
predicate of the caller stands somewhere in it, and then the arguments are as they were, whatever
the parts before that predicate had bound. Conditions fail at the first field with such a filter and
name it; the values of the fields before it stay bound.
-/

namespace KeyStore

/-- The text of the condition that asks the filter of `column`, and the arguments after it. -/
def Filter.render (column : String) (filter : Filter) (args : Sql.Arguments) :
    Option String × Sql.Arguments :=
  let (condition, bound) := filter.bind column args
  (condition.map (Sql.Condition.render args.dialect), bound)

/-- A filter either has a text and binds its values, or holds a predicate and binds nothing. -/
theorem Filter.render_cases (column : String) (filter : Filter) (args : Sql.Arguments) :
    (¬ filter.HasCustom ∧ ∃ text values,
      filter.render column args = (some text, args.extend values)) ∨
    (filter.HasCustom ∧ filter.render column args = (none, args)) := by
  rw [← filter.holdsCustom_iff]
  rcases filter.bind_bound column args with ⟨plain, condition, values, result⟩ | ⟨held, result⟩
  · have text : filter.render column args
        = (some (condition.render args.dialect), args.extend values) := by
      rw [Filter.render, result]
      rfl
    exact Or.inl ⟨by simp [plain], _, values, text⟩
  · refine Or.inr ⟨held, ?_⟩
    rw [Filter.render, result]
    rfl

namespace Conditions

theorem mem_toList_of_get? {conditions : Conditions} {field : String} {filter : Filter}
    (found : conditions.get? field = some filter) : (field, filter) ∈ conditions.toList :=
  (conditions.mem_toList_iff field filter).2 found

/-- The fields whose filter has no form in SQL. -/
def unrenderable (conditions : Conditions) : Set String :=
  {field | ∃ filter, conditions.get? field = some filter ∧ filter.HasCustom}

theorem unrenderable_eq_empty {conditions : Conditions}
    (plain : ∀ entry ∈ conditions.toList, entry.2.holdsCustom = false) :
    conditions.unrenderable = ∅ := by
  refine Set.eq_empty_iff_forall_notMem.2 ?_
  rintro field ⟨filter, found, custom⟩
  have unheld := plain _ (mem_toList_of_get? found)
  rw [(filter.holdsCustom_iff).2 custom] at unheld
  cases unheld

/-- Either all filters are plain, or one is the first that is not. -/
theorem plain_or_first (entries : List (String × Filter)) :
    (∀ entry ∈ entries, entry.2.holdsCustom = false) ∨
      ∃ before field filter after, entries = before ++ (field, filter) :: after ∧
        (∀ entry ∈ before, entry.2.holdsCustom = false) ∧ filter.holdsCustom = true := by
  induction entries with
  | nil => exact Or.inl nofun
  | cons entry rest ih =>
    obtain ⟨field, filter⟩ := entry
    cases held : filter.holdsCustom with
    | true => exact Or.inr ⟨[], field, filter, rest, rfl, nofun, held⟩
    | false =>
      refine ih.imp (fun plain => List.forall_mem_cons.2 ⟨held, plain⟩) ?_
      rintro ⟨before, first, asked, after, rfl, plain, custom⟩
      exact ⟨(field, filter) :: before, first, asked, after, rfl,
        List.forall_mem_cons.2 ⟨held, plain⟩, custom⟩

/-- Binding stops at the first filter that is not plain. -/
theorem bindEntries_error (field : String) (after : List (String × Filter))
    {before : List (String × Filter)} {filter : Filter}
    (plain : ∀ entry ∈ before, entry.2.holdsCustom = false) (held : filter.holdsCustom = true)
    (args : Sql.Arguments) :
    ∃ bound, bindEntries (before ++ (field, filter) :: after) args
      = (.error (.filterUnrenderable field), args.extend bound) := by
  induction before generalizing args with
  | nil =>
    rcases filter.bind_bound field args with ⟨unheld, _⟩ | ⟨_, result⟩
    · rw [held] at unheld
      cases unheld
    · exact ⟨[], by simp [bindEntries, result]⟩
  | cons entry before ih =>
    obtain ⟨name, asked⟩ := entry
    obtain ⟨here, others⟩ := List.forall_mem_cons.1 plain
    rcases asked.bind_bound name args with ⟨_, condition, bound, first⟩ | ⟨custom, _⟩
    · obtain ⟨more, stops⟩ := ih others (args.extend bound)
      exact ⟨bound ++ more, by simp [bindEntries, first, stops, Except.map]⟩
    · rw [here] at custom
      cases custom

/-- In ascending order, the first field that cannot be rendered is the least. -/
theorem isLeast_unrenderable {conditions : Conditions} {before after : List (String × Filter)}
    {field : String} {filter : Filter}
    (entries : conditions.toList = before ++ (field, filter) :: after)
    (plain : ∀ entry ∈ before, entry.2.holdsCustom = false) (held : filter.holdsCustom = true) :
    IsLeast conditions.unrenderable field := by
  have sorted := conditions.sorted
  rw [entries, List.pairwise_append, List.pairwise_cons] at sorted
  constructor
  · refine ⟨filter, (conditions.mem_toList_iff field filter).1 ?_, (filter.holdsCustom_iff).1 held⟩
    rw [entries]
    exact List.mem_append_right _ List.mem_cons_self
  · rintro other ⟨asked, found, custom⟩
    have listed := mem_toList_of_get? found
    rw [entries] at listed
    rcases List.mem_append.1 listed with earlier | later
    · have unheld := plain _ earlier
      rw [(asked.holdsCustom_iff).2 custom] at unheld
      cases unheld
    · rcases List.mem_cons.1 later with same | later
      · cases same
        exact String.le_refl _
      · exact Std.le_of_lt (sorted.2.1.1 _ later)

/-- Conditions either have a text and bind their values, or fail at the least field to blame. -/
theorem render_cases (conditions : Conditions) (args : Sql.Arguments) :
    (conditions.unrenderable = ∅ ∧ ∃ text values,
      conditions.render args = (.ok text, args.extend values)) ∨
    ∃ field values, IsLeast conditions.unrenderable field ∧
      conditions.render args = (.error (.filterUnrenderable field), args.extend values) := by
  rcases plain_or_first conditions.toList with plain | ⟨before, field, filter, after, entries,
    plain, held⟩
  · obtain ⟨parts, values, binds⟩ := bindEntries_ok _ plain args
    refine Or.inl ⟨unrenderable_eq_empty plain,
      Sql.Condition.conjunction args.dialect parts, values, ?_⟩
    rw [render, bind, binds]
    rfl
  · obtain ⟨values, binds⟩ := bindEntries_error field after plain held args
    refine Or.inr ⟨field, values, isLeast_unrenderable entries plain held, ?_⟩
    rw [render, bind, entries, binds]
    rfl

/-- A filter that cannot be rendered leaves the arguments as they were, and conditions that cannot
be rendered name the least field to blame. Everything else is rendered, and every value is bound
behind those that were there. -/
theorem rendered_or_untouched (args : Sql.Arguments) :
    (∀ column filter,
      (¬ filter.HasCustom ∧ ∃ text values,
        Filter.render column filter args = (some text, args.extend values)) ∨
      (filter.HasCustom ∧ Filter.render column filter args = (none, args))) ∧
    ∀ conditions : Conditions,
      (conditions.unrenderable = ∅ ∧ ∃ text values,
        conditions.render args = (.ok text, args.extend values)) ∨
      ∃ field values, IsLeast conditions.unrenderable field ∧
        conditions.render args = (.error (.filterUnrenderable field), args.extend values) :=
  ⟨fun column filter => filter.render_cases column args,
    fun conditions => conditions.render_cases args⟩

end Conditions

end KeyStore
