import KeyStore.Proofs.Filter.Tree

/-!
# What binding a filter does

A filter either has a condition, and then its values are added behind the arguments that were there,
or it holds a predicate of the caller, and then the arguments are as they were (`bind_bound`). The
arguments themselves never decide between the two.
-/

namespace KeyStore

/-- The same arguments with more values behind them. -/
def Sql.Arguments.extend (args : Sql.Arguments) (values : List Value) : Sql.Arguments :=
  { args with values := args.values ++ values }

namespace Sql.Arguments

@[simp] theorem extend_nil (args : Arguments) : args.extend [] = args := by simp [extend]

@[simp] theorem extend_extend (args : Arguments) (first second : List Value) :
    (args.extend first).extend second = args.extend (first ++ second) := by
  simp [extend, List.append_assoc]

@[simp] theorem extend_rewind (args : Arguments) (values : List Value) :
    (args.extend values).rewind args.size = args := by
  simp [extend, rewind, size]

@[simp] theorem extend_dialect (args : Arguments) (values : List Value) :
    (args.extend values).dialect = args.dialect := rfl

@[simp] theorem extend_values (args : Arguments) (values : List Value) :
    (args.extend values).values = args.values ++ values := rfl

/-- Binding a value adds it behind the others, unless it is NULL. -/
theorem push_snd (args : Arguments) (value : Value) :
    (args.push value).2 = args.extend (if value.isNull then [] else [value]) := by
  unfold push
  split <;> simp [extend]

end Sql.Arguments

namespace Filter

theorem bindOne_extends (args : Sql.Arguments) (value : Value)
    (condition : Sql.Operand → Sql.Condition) :
    ∃ built bound, bindOne args value condition = (some built, args.extend bound) :=
  ⟨_, _, by rw [bindOne, Sql.Arguments.push_snd]⟩

/-- Without a predicate of the caller there is a condition, and its values are behind the arguments;
with one there is none, and the arguments are as they were. -/
def Bound (held : Bool) (args : Sql.Arguments) (result : Option Sql.Condition × Sql.Arguments) :
    Prop :=
  (held = false ∧ ∃ condition bound, result = (some condition, args.extend bound)) ∨
    (held = true ∧ result = (none, args))

/-- As `Bound` for the parts of a group, where the values of the parts before the one that has no
condition are still behind the arguments. -/
def PartsBound (held : Bool) (args : Sql.Arguments)
    (result : Option (List Sql.Condition) × Sql.Arguments) : Prop :=
  (held = false ∧ ∃ conditions bound, result = (some conditions, args.extend bound)) ∨
    (held = true ∧ ∃ bound, result = (none, args.extend bound))

theorem bindParts_bound (column : String) (parts : List Filter)
    (each : ∀ part ∈ parts, ∀ args, Bound part.holdsCustom args (bind column part args)) :
    ∀ args, PartsBound (anyHoldsCustom parts) args (bindParts column parts args) := by
  induction parts with
  | nil =>
    intro args
    exact Or.inl ⟨rfl, [], [], by simp [bindParts]⟩
  | cons part rest ih =>
    intro args
    have tail := ih fun part mem => each part (List.mem_cons_of_mem _ mem)
    rcases each part List.mem_cons_self args with ⟨plain, condition, bound, first⟩ | ⟨held, first⟩
    · rcases tail (args.extend bound) with
        ⟨plains, conditions, more, others⟩ | ⟨helds, more, others⟩
      · refine Or.inl ⟨by simp [anyHoldsCustom, plain, plains], condition :: conditions,
          bound ++ more, ?_⟩
        simp [bindParts, first, others]
      · refine Or.inr ⟨by simp [anyHoldsCustom, helds], bound ++ more, ?_⟩
        simp [bindParts, first, others]
    · exact Or.inr ⟨by simp [anyHoldsCustom, held], [], by simp [bindParts, first]⟩

/-- A group takes back what its parts left behind the arguments. -/
theorem bindGroup_bound {held : Bool} {args : Sql.Arguments}
    {result : Option (List Sql.Condition) × Sql.Arguments} (parts : PartsBound held args result)
    (condition : List Sql.Condition → Sql.Condition) :
    Bound held args (bindGroup args condition result) := by
  rcases parts with ⟨plain, conditions, values, rfl⟩ | ⟨held, values, rfl⟩
  · exact Or.inl ⟨plain, condition conditions, values, rfl⟩
  · refine Or.inr ⟨held, ?_⟩
    rw [bindGroup, Sql.Arguments.extend_rewind]

/-- A filter without a predicate of the caller is bound behind the arguments; one with such a
predicate has no condition and leaves the arguments alone. -/
theorem bind_bound (column : String) (filter : Filter) :
    ∀ args, Bound filter.holdsCustom args (bind column filter args) := by
  induction filter with
  | equals value =>
    intro args
    refine Or.inl ⟨rfl, ?_⟩
    rw [bind]
    split
    · exact ⟨.isNull column, [], by simp⟩
    · exact bindOne_extends _ _ _
  | equalsIgnoringCase text => exact fun args => Or.inl ⟨rfl, bindOne_extends _ _ _⟩
  | containsIgnoringCase text => exact fun args => Or.inl ⟨rfl, bindOne_extends _ _ _⟩
  | shortId digits => exact fun args => Or.inl ⟨rfl, bindOne_extends _ _ _⟩
  | lessThan bound => exact fun args => Or.inl ⟨rfl, bindOne_extends _ _ _⟩
  | atMost bound => exact fun args => Or.inl ⟨rfl, bindOne_extends _ _ _⟩
  | greaterThan bound => exact fun args => Or.inl ⟨rfl, bindOne_extends _ _ _⟩
  | atLeast bound => exact fun args => Or.inl ⟨rfl, bindOne_extends _ _ _⟩
  | not inner ih =>
    intro args
    rcases ih args with ⟨plain, condition, bound, result⟩ | ⟨held, result⟩
    · exact Or.inl ⟨plain, .not condition, bound, by simp [bind, result]⟩
    · exact Or.inr ⟨held, by simp [bind, result]⟩
  | all parts ih =>
    intro args
    exact bindGroup_bound (bindParts_bound column parts ih args) .all
  | any parts ih =>
    intro args
    exact bindGroup_bound (bindParts_bound column parts ih args) .any
  | custom predicate => exact fun args => Or.inr ⟨rfl, by rw [bind]⟩

/-- Whether a filter has a condition depends on neither the column nor the arguments. -/
theorem isSome_bind (column : String) (filter : Filter) (args : Sql.Arguments) :
    (bind column filter args).1.isSome = !filter.holdsCustom := by
  rcases bind_bound column filter args with ⟨plain, condition, bound, result⟩ | ⟨held, result⟩
  · simp [result, plain]
  · simp [result, held]

end Filter

end KeyStore
