/-!
# Field maps

A `FieldMap` gives a value to each of finitely many field names. The entries are kept strictly
sorted by name (code point by code point), so a map has one representation and its list of entries
is the order in which records and conditions are walked.

Main statements: `get?_insert` (reading after a write), `get?_erase`, `get?_filter`, `get?_overlay`,
`mem_toList_iff` (the entries are what `get?` finds) and `ext_get?` (maps that read alike are equal).
-/

namespace KeyStore

/-- Values by field name, sorted by name. -/
structure FieldMap (α : Type) where
  /-- The entries, in ascending order of their names. -/
  toList : List (String × α)
  /-- No name occurs twice, and the names ascend. -/
  sorted : toList.Pairwise (fun a b => a.1 < b.1)

namespace FieldMap

variable {α : Type}

/-! ### Entries as lists -/

/-- The first value under `field`. -/
def lookup (field : String) : List (String × α) → Option α
  | [] => none
  | (name, value) :: rest => if name = field then some value else lookup field rest

/-- Puts `value` under `field` into a sorted list of entries, replacing what was there. -/
def insertEntry (field : String) (value : α) : List (String × α) → List (String × α)
  | [] => [(field, value)]
  | (name, old) :: rest =>
    if field < name then (field, value) :: (name, old) :: rest
    else if name < field then (name, old) :: insertEntry field value rest
    else (field, value) :: rest

theorem eq_of_not_lt {a b : String} (h₁ : ¬ a < b) (h₂ : ¬ b < a) : a = b :=
  String.le_antisymm (String.not_lt.1 h₂) (String.not_lt.1 h₁)

theorem ne_of_lt {a b : String} (h : a < b) : a ≠ b := fun e => String.lt_irrefl b (e ▸ h)

theorem mem_insertEntry {field : String} {value : α} {entries : List (String × α)}
    {entry : String × α} (h : entry ∈ insertEntry field value entries) :
    entry = (field, value) ∨ entry ∈ entries := by
  induction entries with
  | nil => exact Or.inl (List.mem_singleton.1 h)
  | cons head rest ih =>
    obtain ⟨name, old⟩ := head
    simp only [insertEntry] at h
    split at h
    · rcases List.mem_cons.1 h with h | h
      · exact Or.inl h
      · exact Or.inr h
    · split at h
      · rcases List.mem_cons.1 h with h | h
        · exact Or.inr (h ▸ List.mem_cons_self)
        · exact (ih h).imp id (List.mem_cons_of_mem _)
      · rcases List.mem_cons.1 h with h | h
        · exact Or.inl h
        · exact Or.inr (List.mem_cons_of_mem _ h)

theorem insertEntry_sorted (field : String) (value : α) {entries : List (String × α)}
    (h : entries.Pairwise (fun a b => a.1 < b.1)) :
    (insertEntry field value entries).Pairwise (fun a b => a.1 < b.1) := by
  induction entries with
  | nil => exact List.pairwise_singleton _ _
  | cons head rest ih =>
    obtain ⟨name, old⟩ := head
    obtain ⟨below, tail⟩ := List.pairwise_cons.1 h
    simp only [insertEntry]
    split
    · next lt =>
      refine List.pairwise_cons.2 ⟨fun entry mem => ?_, h⟩
      rcases List.mem_cons.1 mem with rfl | mem
      · exact lt
      · exact String.lt_trans lt (below entry mem)
    · next notBelow =>
      split
      · next lt =>
        refine List.pairwise_cons.2 ⟨fun entry mem => ?_, ih tail⟩
        rcases mem_insertEntry mem with rfl | mem
        · exact lt
        · exact below entry mem
      · next notAbove =>
        have same := eq_of_not_lt notBelow notAbove
        subst same
        exact List.pairwise_cons.2 ⟨below, tail⟩

theorem lookup_eq_none {field : String} {entries : List (String × α)}
    (h : ∀ entry ∈ entries, entry.1 ≠ field) : lookup field entries = none := by
  induction entries with
  | nil => rfl
  | cons head rest ih =>
    obtain ⟨name, old⟩ := head
    have absent : name ≠ field := h (name, old) List.mem_cons_self
    simp only [lookup, if_neg absent]
    exact ih fun entry mem => h entry (List.mem_cons_of_mem _ mem)

theorem lookup_insertEntry (field : String) (value : α) (wanted : String)
    (entries : List (String × α)) :
    lookup wanted (insertEntry field value entries)
      = if field = wanted then some value else lookup wanted entries := by
  induction entries with
  | nil => rfl
  | cons head rest ih =>
    obtain ⟨name, old⟩ := head
    simp only [insertEntry]
    split
    · rfl
    · next notBelow =>
      split
      · next lt =>
        simp only [lookup, ih]
        by_cases here : name = wanted
        · have : field ≠ wanted := fun e => ne_of_lt lt (here.trans e.symm)
          simp [here, this]
        · simp [here]
      · next notAbove =>
        have same := eq_of_not_lt notBelow notAbove
        subst same
        simp only [lookup]
        split <;> rfl

theorem lookup_filter (p : String → α → Bool) (wanted : String) {entries : List (String × α)}
    (h : entries.Pairwise (fun a b => a.1 < b.1)) :
    lookup wanted (entries.filter fun entry => p entry.1 entry.2)
      = (lookup wanted entries).filter (p wanted) := by
  induction entries with
  | nil => rfl
  | cons head rest ih =>
    obtain ⟨name, old⟩ := head
    obtain ⟨below, tail⟩ := List.pairwise_cons.1 h
    by_cases here : name = wanted
    · subst here
      have gone : lookup name (rest.filter fun entry => p entry.1 entry.2) = none :=
        lookup_eq_none fun entry mem => (ne_of_lt (below entry (List.mem_filter.1 mem).1)).symm
      by_cases keep : p name old
      · simp [lookup, keep, Option.filter]
      · simp [lookup, keep, gone, Option.filter]
    · by_cases keep : p name old
      · simp [lookup, keep, here, ih tail]
      · simp [lookup, keep, here, ih tail]

theorem lookup_of_mem {field : String} {value : α} {entries : List (String × α)}
    (h : entries.Pairwise (fun a b => a.1 < b.1)) (mem : (field, value) ∈ entries) :
    lookup field entries = some value := by
  induction entries with
  | nil => exact absurd mem List.not_mem_nil
  | cons head rest ih =>
    obtain ⟨name, old⟩ := head
    obtain ⟨below, tail⟩ := List.pairwise_cons.1 h
    rcases List.mem_cons.1 mem with same | mem
    · cases same
      simp [lookup]
    · simp only [lookup, if_neg (ne_of_lt (below _ mem))]
      exact ih tail mem

theorem mem_of_lookup {field : String} {value : α} {entries : List (String × α)}
    (h : lookup field entries = some value) : (field, value) ∈ entries := by
  induction entries with
  | nil => simp [lookup] at h
  | cons head rest ih =>
    obtain ⟨name, old⟩ := head
    simp only [lookup] at h
    split at h
    · next same =>
      subst same
      cases h
      exact List.mem_cons_self
    · exact List.mem_cons_of_mem _ (ih h)

/-- Sorted entries are determined by what is found in them. -/
theorem eq_of_lookup_eq {left right : List (String × α)}
    (hl : left.Pairwise (fun a b => a.1 < b.1)) (hr : right.Pairwise (fun a b => a.1 < b.1))
    (same : ∀ field, lookup field left = lookup field right) : left = right := by
  induction left generalizing right with
  | nil =>
    cases right with
    | nil => rfl
    | cons head rest =>
      have absent := same head.1
      simp [lookup] at absent
  | cons head rest ih =>
    obtain ⟨name, value⟩ := head
    obtain ⟨below, tail⟩ := List.pairwise_cons.1 hl
    cases right with
    | nil =>
      have absent := same name
      simp [lookup] at absent
    | cons head' rest' =>
      obtain ⟨name', value'⟩ := head'
      obtain ⟨below', tail'⟩ := List.pairwise_cons.1 hr
      have gone : lookup name rest = none :=
        lookup_eq_none fun entry mem => (ne_of_lt (below entry mem)).symm
      have gone' : lookup name' rest' = none :=
        lookup_eq_none fun entry mem => (ne_of_lt (below' entry mem)).symm
      -- The smaller of the two first names would be missing on the other side.
      have names : name = name' := by
        refine eq_of_not_lt (fun lt => ?_) (fun lt => ?_)
        · have absent : lookup name rest' = none :=
            lookup_eq_none fun entry mem => (ne_of_lt (String.lt_trans lt (below' entry mem))).symm
          have found := same name
          simp [lookup, absent, (ne_of_lt lt).symm] at found
        · have absent : lookup name' rest = none :=
            lookup_eq_none fun entry mem => (ne_of_lt (String.lt_trans lt (below entry mem))).symm
          have found := same name'
          simp [lookup, absent, (ne_of_lt lt).symm] at found
      subst names
      have values : value = value' := by simpa [lookup] using same name
      subst values
      rw [ih tail tail' fun field => ?_]
      by_cases here : name = field
      · rw [← here, gone, gone']
      · simpa [lookup, here] using same field

/-! ### Maps -/

/-- The map without entries. -/
def empty : FieldMap α := ⟨[], List.Pairwise.nil⟩

instance : EmptyCollection (FieldMap α) := ⟨empty⟩

instance : Inhabited (FieldMap α) := ⟨empty⟩

/-- The value under `field`. -/
def get? (map : FieldMap α) (field : String) : Option α := lookup field map.toList

/-- Whether `field` has a value. -/
def contains (map : FieldMap α) (field : String) : Bool := (map.get? field).isSome

/-- The field names, ascending. -/
def fields (map : FieldMap α) : List String := map.toList.map (·.1)

/-- The number of entries. -/
def size (map : FieldMap α) : Nat := map.toList.length

/-- Whether there is no entry. -/
def isEmpty (map : FieldMap α) : Bool := map.toList.isEmpty

/-- Gives `field` the value `value`, replacing the one it had. -/
def insert (map : FieldMap α) (field : String) (value : α) : FieldMap α :=
  ⟨insertEntry field value map.toList, insertEntry_sorted field value map.sorted⟩

/-- Keeps the entries that satisfy `p`. -/
def filter (map : FieldMap α) (p : String → α → Bool) : FieldMap α :=
  ⟨map.toList.filter fun entry => p entry.1 entry.2, map.sorted.filter _⟩

/-- Takes the entry of `field` away. -/
def erase (map : FieldMap α) (field : String) : FieldMap α :=
  map.filter fun name _ => name != field

/-- The map of a list of entries; a later entry replaces an earlier one of its name. -/
def ofList (entries : List (String × α)) : FieldMap α :=
  entries.foldl (fun map entry => map.insert entry.1 entry.2) empty

/-- Lays `upper` over `lower`: a field of both keeps the value of `upper`. -/
def overlay (upper lower : FieldMap α) : FieldMap α :=
  upper.toList.foldl (fun map entry => map.insert entry.1 entry.2) lower

/-! ### What each operation does to `get?` -/

@[simp] theorem get?_empty (field : String) : (empty : FieldMap α).get? field = none := rfl

@[simp] theorem get?_insert (map : FieldMap α) (field : String) (value : α) (wanted : String) :
    (map.insert field value).get? wanted
      = if field = wanted then some value else map.get? wanted :=
  lookup_insertEntry field value wanted map.toList

@[simp] theorem get?_filter (map : FieldMap α) (p : String → α → Bool) (wanted : String) :
    (map.filter p).get? wanted = (map.get? wanted).filter (p wanted) :=
  lookup_filter p wanted map.sorted

@[simp] theorem get?_erase (map : FieldMap α) (field wanted : String) :
    (map.erase field).get? wanted = if wanted = field then none else map.get? wanted := by
  unfold erase
  rw [get?_filter]
  by_cases same : wanted = field
  · cases map.get? wanted <;> simp [same]
  · cases map.get? wanted <;> simp [same]

/-- Writing sorted entries one after another lays them over the map. -/
theorem get?_foldl_insert (entries : List (String × α))
    (sorted : entries.Pairwise (fun a b => a.1 < b.1)) (map : FieldMap α) (wanted : String) :
    (entries.foldl (fun map entry => map.insert entry.1 entry.2) map).get? wanted
      = (lookup wanted entries).or (map.get? wanted) := by
  induction entries generalizing map with
  | nil => rfl
  | cons head rest ih =>
    obtain ⟨name, value⟩ := head
    obtain ⟨below, tail⟩ := List.pairwise_cons.1 sorted
    rw [List.foldl_cons, ih tail, get?_insert]
    by_cases here : name = wanted
    · subst here
      have gone : lookup name rest = none :=
        lookup_eq_none fun entry mem => (ne_of_lt (below entry mem)).symm
      simp [lookup, gone]
    · simp [lookup, here]

@[simp] theorem get?_overlay (upper lower : FieldMap α) (wanted : String) :
    (upper.overlay lower).get? wanted = (upper.get? wanted).or (lower.get? wanted) :=
  get?_foldl_insert upper.toList upper.sorted lower wanted

/-- A map of a list has the fields of its entries. -/
theorem contains_ofList (entries : List (String × α)) (field : String) :
    (ofList entries).contains field = entries.any fun entry => entry.1 = field := by
  have written (map : FieldMap α) :
      (entries.foldl (fun map entry => map.insert entry.1 entry.2) map).contains field
        = (entries.any (fun entry => entry.1 = field) || map.contains field) := by
    induction entries generalizing map with
    | nil => rfl
    | cons head rest ih =>
      rw [List.foldl_cons, ih, List.any_cons]
      by_cases here : head.1 = field <;> simp [contains, here]
  exact (written empty).trans (Bool.or_false _)

/-- The map that gives each name what a function gives it. -/
theorem get?_ofList_map (names : List String) (value : String → α) (wanted : String) :
    (ofList (names.map fun name => (name, value name))).get? wanted
      = if wanted ∈ names then some (value wanted) else none := by
  have written (map : FieldMap α) :
      ((names.map fun name => (name, value name)).foldl
        (fun map entry => map.insert entry.1 entry.2) map).get? wanted
        = if wanted ∈ names then some (value wanted) else map.get? wanted := by
    induction names generalizing map with
    | nil => rfl
    | cons name rest ih =>
      rw [List.map_cons, List.foldl_cons, ih, get?_insert]
      by_cases later : wanted ∈ rest
      · simp [later]
      · by_cases here : name = wanted
        · simp [here]
        · simp [later, here, Ne.symm here]
  exact written empty

/-- The map of a list in which no name occurs twice has the entries of the list. -/
theorem get?_ofList_iff {entries : List (String × α)} (distinct : (entries.map (·.1)).Nodup)
    (field : String) (value : α) :
    (ofList entries).get? field = some value ↔ (field, value) ∈ entries := by
  have written (map : FieldMap α) :
      (entries.foldl (fun map entry => map.insert entry.1 entry.2) map).get? field = some value ↔
        (field, value) ∈ entries ∨
          (field ∉ entries.map (·.1) ∧ map.get? field = some value) := by
    induction entries generalizing map with
    | nil => simp
    | cons head rest ih =>
      obtain ⟨name, first⟩ := head
      rw [List.map_cons, List.nodup_cons] at distinct
      rw [List.foldl_cons, ih distinct.2, get?_insert]
      by_cases here : name = field
      · subst here
        have gone : (name, value) ∉ rest := fun member =>
          distinct.1 (List.mem_map.2 ⟨_, member, rfl⟩)
        simp [gone, distinct.1, eq_comm]
      · simp [here, Ne.symm here]
  rw [ofList, written]
  simp

/-- Maps that read alike are equal. -/
theorem ext_get? {left right : FieldMap α} (same : ∀ field, left.get? field = right.get? field) :
    left = right := by
  have lists : left.toList = right.toList := eq_of_lookup_eq left.sorted right.sorted same
  cases left
  cases right
  cases lists
  rfl

@[simp] theorem overlay_empty (map : FieldMap α) : map.overlay empty = map :=
  ext_get? fun field => by rw [get?_overlay, get?_empty, Option.or_none]

theorem mem_toList_iff (map : FieldMap α) (field : String) (value : α) :
    (field, value) ∈ map.toList ↔ map.get? field = some value :=
  ⟨lookup_of_mem map.sorted, mem_of_lookup⟩

end FieldMap

end KeyStore
