import KeyStore.Proofs.Conditions.Split
import KeyStore.Proofs.Entries.Tables

/-!
# What the statements of a write do

A DELETE replaces each row that it hits by nothing, an UPDATE replaces it by the row with new
values. Either statement hits the rows that its conditions accept and counts them
(`delete_replaces`, `update_replaces`). Statements put one after the other replace rows as one
statement would, if the later ones leave alone what the earlier ones have put there
(`replace_replace`).
-/

namespace KeyStore

open Sql

/-! ### Replacing rows -/

/-- The rows after those that are hit have been replaced. -/
def replace (edit : Record → List Record) (hits : Record → Bool) (rows : List Record) :
    List Record :=
  rows.flatMap fun row => if hits row then edit row else [row]

section

variable {edit : Record → List Record} {hits first second : Record → Bool} {rows : List Record}

theorem replace_cons (row : Record) (rest : List Record) :
    replace edit hits (row :: rest)
      = (if hits row then edit row else [row]) ++ replace edit hits rest := rfl

theorem replace_congr (same : ∀ row ∈ rows, first row = second row) :
    replace edit first rows = replace edit second rows := by
  induction rows with
  | nil => rfl
  | cons row rest ih =>
    rw [replace_cons, replace_cons, same row List.mem_cons_self,
      ih fun other member => same other (List.mem_cons_of_mem _ member)]

theorem replace_none (hits : Record → Bool) (rows : List Record) :
    replace (fun _ => []) hits rows = rows.filter fun row => !hits row := by
  induction rows with
  | nil => rfl
  | cons row rest ih =>
    rw [replace_cons, ih]
    cases hit : hits row <;> simp [hit]

theorem replace_one (edit : Record → Record) (hits : Record → Bool) (rows : List Record) :
    replace (fun row => [edit row]) hits rows
      = rows.map fun row => if hits row then edit row else row := by
  induction rows with
  | nil => rfl
  | cons row rest ih =>
    rw [replace_cons, ih]
    cases hit : hits row <;> simp [hit]

theorem replace_of_missed (edit : Record → List Record) (missed : ∀ row ∈ rows, hits row = false) :
    replace edit hits rows = rows := by
  induction rows with
  | nil => rfl
  | cons row rest ih =>
    rw [replace_cons, missed row List.mem_cons_self,
      ih fun other member => missed other (List.mem_cons_of_mem _ member)]
    rfl

theorem replace_append (left right : List Record) :
    replace edit hits (left ++ right) = replace edit hits left ++ replace edit hits right :=
  List.flatMap_append

/-- Rows that were replaced are not replaced again. -/
theorem replace_replace
    (spares : ∀ row ∈ rows, first row = true → ∀ changed ∈ edit row, second changed = false) :
    replace edit second (replace edit first rows)
      = replace edit (fun row => first row || second row) rows := by
  induction rows with
  | nil => rfl
  | cons row rest ih =>
    have others := ih fun other member => spares other (List.mem_cons_of_mem _ member)
    rw [replace_cons, replace_append, others, replace_cons]
    cases hit : first row with
    | true =>
      have left := replace_of_missed edit (spares row List.mem_cons_self hit)
      simp only [if_true, Bool.true_or, left]
    | false => simp [replace]

/-- Of the rows after a replacement, the next one hits those that were there before. -/
theorem countP_replace
    (spares : ∀ row ∈ rows, first row = true → ∀ changed ∈ edit row, second changed = false) :
    (replace edit first rows).countP second
      = rows.countP fun row => !first row && second row := by
  induction rows with
  | nil => rfl
  | cons row rest ih =>
    have others := ih fun other member => spares other (List.mem_cons_of_mem _ member)
    rw [replace_cons, List.countP_append, others, List.countP_cons]
    cases hit : first row with
    | true =>
      have left : (edit row).countP second = 0 :=
        List.countP_eq_zero.2 fun changed member => by
          simp [spares row List.mem_cons_self hit changed member]
      simp [left]
    | false => simp [List.countP_singleton, Nat.add_comm]

end

/-! ### Binding values -/

namespace Sql.Arguments

/-- What stands for a value keeps standing for it, whatever is bound later. -/
theorem resolve_push (args : Arguments) (value : Value) (later : List Value) :
    (args.push value).1.resolve ((args.push value).2.values ++ later) = value := by
  unfold push
  split
  · next isNull =>
    cases value with
    | null => rfl
    | _ => cases isNull
  · simp [Operand.resolve, size]

theorem pushAll_resolve (values : List Value) :
    ∀ args : Arguments, ∃ bound, (args.pushAll values).2 = args.extend bound ∧
      ∀ later,
        (args.pushAll values).1.map (·.resolve (args.values ++ bound ++ later)) = values := by
  induction values with
  | nil =>
    intro args
    exact ⟨[], (args.extend_nil).symm, fun _ => rfl⟩
  | cons value rest ih =>
    intro args
    obtain ⟨bound, pushed, resolved⟩ := ih (args.push value).2
    have one := args.push_snd value
    refine ⟨(if value.isNull then [] else [value]) ++ bound, ?_, fun later => ?_⟩
    · rw [pushAll, pushed, one, extend_extend]
    · have first := args.resolve_push value (bound ++ later)
      have others := resolved later
      rw [one, extend_values] at first others
      rw [← List.append_assoc] at first
      rw [← List.append_assoc, pushAll, List.map_cons, first]
      exact congrArg (value :: ·) (one ▸ others)

end Sql.Arguments

/-- The assignments of an update give a row the fields of the record. -/
theorem Query.assign_bindFields (args : Arguments) (record : Record) :
    ∃ bound, (bindFields args record).2 = args.extend bound ∧
      ∀ later row, assign (bindFields args record).1 (args.values ++ bound ++ later) row
        = record.overlay row := by
  obtain ⟨bound, pushed, resolved⟩ := Arguments.pushAll_resolve (record.toList.map (·.2)) args
  refine ⟨bound, pushed, fun later row => ?_⟩
  have entries : (bindFields args record).1.map
      (fun entry => (entry.1, entry.2.resolve (args.values ++ bound ++ later)))
        = record.toList := by
    have paired : record.fields.zip (record.toList.map (·.2)) = record.toList := by
      rw [FieldMap.fields, List.zip_map']
      exact List.map_id _
    rw [← resolved later, List.zip_map_right] at paired
    exact paired
  rw [FieldMap.overlay, ← entries, List.foldl_map]
  rfl

/-! ### Statements -/

variable {σ : Type} {backend : Backend σ} {tables : σ → Tables} {holds : Test}

/-- Put to the database, the statement for some conditions replaces the rows that they accept and
counts them, as long as the database understands them. -/
def Replaces (backend : Backend σ) (tables : σ → Tables) (holds : Test) (relation : Relation)
    (edit : Record → List Record) (statement : Conditions → Except StoreError Query) : Prop :=
  ∀ target : Conditions, (∀ entry ∈ target.toList, entry.2.holdsCustom = false) →
    ∃ query, statement target = .ok query ∧ ∀ state,
      (∀ row ∈ tables state relation.name, target.UnderstoodBy holds backend.dialect row) →
      ∃ later, backend.execute query state
          = (.ok (UInt64.ofNat ((tables state relation.name).countP target.accepts)), later) ∧
        tables later = Function.update (tables state) relation.name
          (replace edit target.accepts (tables state relation.name))

/-- A statement on rows replaces what its conditions accept if it replaces what the database finds
under them. -/
theorem onRows_replaces {relation : Relation} {edit : Record → List Record} (args : Arguments)
    (speaks : args.dialect = backend.dialect) {statement : List Condition → Statement}
    (effects : ∀ parts bound state, ∃ later,
      backend.execute ⟨statement parts, args.values ++ bound⟩ state
        = (.ok (UInt64.ofNat
            ((tables state relation.name).countP (holds parts (args.values ++ bound)))), later) ∧
      tables later = Function.update (tables state) relation.name
        (replace edit (holds parts (args.values ++ bound)) (tables state relation.name))) :
    Replaces backend tables holds relation edit (Query.onRows args · statement) := by
  intro target plain
  obtain ⟨parts, bound, binds⟩ := Conditions.bindEntries_ok target.toList plain args
  have made : Query.onRows args target statement
      = .ok ⟨statement parts, args.values ++ bound⟩ := by
    rw [Query.onRows, Conditions.bind, binds]
    rfl
  refine ⟨_, made, fun state understood => ?_⟩
  obtain ⟨later, executed, left⟩ := effects parts bound state
  have hits : ∀ row ∈ tables state relation.name,
      holds parts (args.values ++ bound) row = target.accepts row := by
    intro row member
    have agrees := understood row member args.values parts (args.extend bound)
    rw [← speaks] at agrees
    exact agrees binds
  refine ⟨later, ?_, ?_⟩
  · rw [executed, List.countP_congr fun row member => by rw [hits row member]]
  · rw [left, replace_congr hits]

theorem delete_replaces (executes : backend.Executes tables holds) (relation : Relation) :
    Replaces backend tables holds relation (fun _ => [])
      (Query.delete backend.dialect relation) := by
  apply onRows_replaces (.empty backend.dialect) rfl
  intro parts bound state
  obtain ⟨later, executed, left⟩ := executes.deletes relation.name parts bound state
  exact ⟨later, executed, by rw [left, ← replace_none]; rfl⟩

/-- Of a record, an update writes what is stored. -/
theorem update_replaces (executes : backend.Executes tables holds) (relation : Relation)
    {record : Record} (some_stored : (relation.storable record).isEmpty = false) :
    Replaces backend tables holds relation (fun row => [(relation.storable record).overlay row])
      (Query.update backend.dialect relation record) := by
  obtain ⟨first, pushed, assigned⟩ :=
    Query.assign_bindFields (.empty backend.dialect) (relation.storable record)
  have made : Query.update backend.dialect relation record = (Query.onRows
      (Arguments.extend (.empty backend.dialect) first) · (.update relation.name
        (Query.bindFields (.empty backend.dialect) (relation.storable record)).1)) := by
    funext target
    rw [Query.update, some_stored, if_neg Bool.false_ne_true]
    exact congrArg (Query.onRows · target _) pushed
  rw [made]
  apply onRows_replaces _ rfl
  intro parts bound state
  obtain ⟨later, executed, left⟩ := executes.updates relation.name
    (Query.bindFields (.empty backend.dialect) (relation.storable record)).1 parts
    ((Arguments.extend (.empty backend.dialect) first).values ++ bound) state
  refine ⟨later, executed, ?_⟩
  rw [left, replace_one]
  simp only [Arguments.extend_values, assigned bound]
  rfl

end KeyStore
