import KeyStore.Conditions

/-!
# Narrowing conditions

`Conditions.restrict` adds a filter to what is asked of a field, and `Conditions.within` adds a
whole scope. Whatever was asked before, on the same field or on others, the narrowed conditions are
satisfied by the records that satisfy what was asked and what was added (`accepts_restrict`,
`accepts_within`).
-/

namespace KeyStore

namespace Filter

variable {value : Value}

/-- A group asks its parts for a definite yes until one of them does not give it. -/
theorem evaluateUntil_false_iff (parts : List Filter) (unknown : Bool) :
    evaluateUntil false parts value unknown = some true ↔
      unknown = false ∧ ∀ part ∈ parts, part.accepts value = true := by
  induction parts generalizing unknown with
  | nil => cases unknown <;> simp [evaluateUntil]
  | cons part rest ih =>
    rw [evaluateUntil, List.forall_mem_cons, accepts, decide_eq_true_eq]
    cases answer : evaluate part value with
    | none => simp [ih]
    | some decided => cases decided <;> simp [ih]

theorem evaluateUntil_true_iff (parts : List Filter) (unknown : Bool) :
    evaluateUntil true parts value unknown = some true ↔
      ∃ part ∈ parts, part.accepts value = true := by
  induction parts generalizing unknown with
  | nil => cases unknown <;> simp [evaluateUntil]
  | cons part rest ih =>
    rw [evaluateUntil]
    cases answer : evaluate part value with
    | none => simp [ih, accepts, answer]
    | some decided => cases decided <;> simp [ih, accepts, answer]

theorem accepts_all_iff (parts : List Filter) :
    (Filter.all parts).accepts value = true ↔ ∀ part ∈ parts, part.accepts value = true := by
  rw [accepts, decide_eq_true_eq, evaluate, evaluateUntil_false_iff]
  exact and_iff_right rfl

theorem accepts_any_iff (parts : List Filter) :
    (Filter.any parts).accepts value = true ↔ ∃ part ∈ parts, part.accepts value = true := by
  rw [accepts, decide_eq_true_eq, evaluate, evaluateUntil_true_iff]

end Filter

namespace Conditions

/-- A record satisfies conditions if its values satisfy what is asked of each field. -/
theorem accepts_iff (conditions : Conditions) (record : Record) :
    conditions.accepts record = true ↔ ∀ field filter, conditions.get? field = some filter →
      filter.accepts (Record.value record field) = true := by
  rw [accepts, List.all_eq_true, Prod.forall]
  simp only [FieldMap.mem_toList_iff]

theorem accepts_insert_iff {conditions : Conditions} {field : String} {filter : Filter}
    {record : Record} :
    Conditions.accepts (conditions.insert field filter) record = true ↔
      filter.accepts (Record.value record field) = true ∧
        ∀ other asked, other ≠ field → conditions.get? other = some asked →
          asked.accepts (Record.value record other) = true := by
  simp only [accepts_iff, FieldMap.get?_insert]
  constructor
  · intro all
    refine ⟨all field filter (if_pos rfl), fun other asked differs found => ?_⟩
    exact all other asked (by rw [if_neg differs.symm, found])
  · rintro ⟨first, others⟩ wanted asked found
    split at found
    · next same =>
      cases found
      exact same ▸ first
    · next differs => exact others wanted asked (Ne.symm differs) found

/-- One more filter on a field, whether or not something was asked of the field before. -/
theorem accepts_restrict (conditions : Conditions) (field : String) (filter : Filter)
    (record : Record) :
    (conditions.restrict field filter).accepts record
      = (conditions.accepts record && filter.accepts (Record.value record field)) := by
  have others_iff : conditions.accepts record = true ↔
      (∀ present, conditions.get? field = some present →
        present.accepts (Record.value record field) = true) ∧
      ∀ other asked, other ≠ field → conditions.get? other = some asked →
        asked.accepts (Record.value record other) = true := by
    rw [accepts_iff]
    constructor
    · exact fun all => ⟨all field, fun other asked _ => all other asked⟩
    · rintro ⟨here, others⟩ wanted asked found
      by_cases same : wanted = field
      · exact same ▸ here asked (same ▸ found)
      · exact others wanted asked same found
  rw [Bool.eq_iff_iff, Bool.and_eq_true, others_iff, restrict]
  cases found : conditions.get? field with
  | none =>
    rw [accepts_insert_iff]
    simp only [reduceCtorEq, false_imp_iff, implies_true, true_and]
    exact and_comm
  | some present =>
    rw [accepts_insert_iff, Filter.accepts_all_iff, List.forall_mem_cons,
      List.forall_mem_singleton]
    simp only [Option.some_inj, forall_eq']
    exact ⟨fun ⟨⟨here, added⟩, rest⟩ => ⟨⟨here, rest⟩, added⟩,
      fun ⟨⟨here, rest⟩, added⟩ => ⟨⟨here, added⟩, rest⟩⟩

/-- A scope besides what is asked already. -/
theorem accepts_within (conditions scope : Conditions) (record : Record) :
    (conditions.within scope).accepts record
      = (conditions.accepts record && scope.accepts record) := by
  have folded (entries : List (String × Filter)) (conditions : Conditions) :
      (entries.foldl (fun all entry => restrict all entry.1 entry.2) conditions).accepts record
        = (conditions.accepts record
            && entries.all fun entry => entry.2.accepts (Record.value record entry.1)) := by
    induction entries generalizing conditions with
    | nil => rw [List.foldl_nil, List.all_nil, Bool.and_true]
    | cons entry rest ih =>
      rw [List.foldl_cons, ih, accepts_restrict, List.all_cons, Bool.and_assoc]
  exact folded scope.toList conditions

theorem foldl_restrict {entries : List (String × Filter)}
    (distinct : (entries.map (·.1)).Nodup) {conditions : Conditions}
    (fresh : ∀ entry ∈ entries, conditions.get? entry.1 = none) :
    entries.foldl (fun all entry => restrict all entry.1 entry.2) conditions
      = entries.foldl (fun all entry => all.insert entry.1 entry.2) conditions := by
  induction entries generalizing conditions with
  | nil => rfl
  | cons entry rest ih =>
    obtain ⟨here, there⟩ := List.forall_mem_cons.1 fresh
    obtain ⟨alone, apart⟩ := List.nodup_cons.1 distinct
    rw [List.foldl_cons, List.foldl_cons, restrict, here]
    refine ih apart fun other member => ?_
    rw [FieldMap.get?_insert, if_neg, there other member]
    exact fun same => alone (List.mem_map.2 ⟨other, member, same.symm⟩)

/-- Where nothing was asked before, the scope is all that is asked. -/
theorem empty_within (scope : Conditions) : Conditions.within .empty scope = scope := by
  have distinct : (scope.toList.map (·.1)).Nodup :=
    List.pairwise_map.2 (scope.sorted.imp FieldMap.ne_of_lt)
  rw [within, foldl_restrict distinct fun _ _ => FieldMap.get?_empty _]
  refine FieldMap.ext_get? fun field => Option.ext fun filter => ?_
  exact (FieldMap.get?_ofList_iff distinct field filter).trans (FieldMap.mem_toList_iff ..)

end Conditions

end KeyStore
