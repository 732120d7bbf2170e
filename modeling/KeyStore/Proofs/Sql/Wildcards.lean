import KeyStore.Proofs.Sql.Matching

/-!
# What wildcards stand for

`Like` holds the rules of a pattern under `ESCAPE '\'`: the percent sign stands for any text, the
underscore for any character, an escaped character for itself, and every other character for itself.
The matcher answers yes exactly where these rules do (`matchesPattern_eq_some_true_iff`).

`WellEscaped` says where a backslash may stand: before a character that needs it, and nowhere else.

Main statement: `containsPattern_exact`.
-/

namespace KeyStore.Sql

/-- Every backslash stands before a special character. -/
inductive WellEscaped : List Char → Prop where
  | nothing : WellEscaped []
  | escaped {c : Char} {pattern : List Char} (special : IsSpecial c)
      (others : WellEscaped pattern) : WellEscaped ('\\' :: c :: pattern)
  | unescaped {c : Char} {pattern : List Char} (plain : c ≠ '\\')
      (others : WellEscaped pattern) : WellEscaped (c :: pattern)

/-- The pattern matches the text, where `fold` says which characters count as one. -/
inductive Like (fold : Char → Char) : List Char → List Char → Prop where
  | nothing : Like fold [] []
  | anything {pattern text : List Char} (before : List Char) (others : Like fold pattern text) :
      Like fold ('%' :: pattern) (before ++ text)
  | anyCharacter {pattern text : List Char} (d : Char) (others : Like fold pattern text) :
      Like fold ('_' :: pattern) (d :: text)
  | escaped {c d : Char} {pattern text : List Char} (same : fold c = fold d)
      (others : Like fold pattern text) : Like fold ('\\' :: c :: pattern) (d :: text)
  | itself {c d : Char} {pattern text : List Char} (plain : ¬IsSpecial c) (same : fold c = fold d)
      (others : Like fold pattern text) : Like fold (c :: pattern) (d :: text)

variable {fold : Char → Char} {pattern text : List Char}

/-! ### The matcher, one character of the pattern at a time -/

theorem matchesPattern_iff : matchesPattern fold '\\' pattern text = some true ↔
    ∃ items, readPatternItems '\\' pattern = some items ∧ matchItems fold items text = true := by
  rw [matchesPattern, Option.map_eq_some_iff]

theorem matchesPattern_nil : matchesPattern fold '\\' [] text = some true ↔ text = [] := by
  rw [matchesPattern, readPatternItems, Option.map_some, matchItems, Option.some_inj,
    List.isEmpty_iff]

theorem matchesPattern_percent : matchesPattern fold '\\' ('%' :: pattern) text = some true ↔
    ∃ before after, text = before ++ after ∧
      matchesPattern fold '\\' pattern after = some true := by
  have read : readPatternItems '\\' ('%' :: pattern)
      = (readPatternItems '\\' pattern).map (.anything :: ·) :=
    readPatternItems_plain (by decide) pattern
  simp only [matchesPattern_iff, read, Option.map_eq_some_iff]
  constructor
  · rintro ⟨_, ⟨items, same, rfl⟩, found⟩
    rw [matchItems, List.any_eq_true] at found
    obtain ⟨after, tail, found⟩ := found
    obtain ⟨before, rfl⟩ := (List.mem_tails _ _).1 tail
    exact ⟨before, after, rfl, items, same, found⟩
  · rintro ⟨before, after, rfl, items, same, found⟩
    refine ⟨_, ⟨items, same, rfl⟩, ?_⟩
    rw [matchItems, List.any_eq_true]
    exact ⟨after, (List.mem_tails _ _).2 (List.suffix_append ..), found⟩

theorem matchesPattern_underscore : matchesPattern fold '\\' ('_' :: pattern) text = some true ↔
    ∃ d after, text = d :: after ∧ matchesPattern fold '\\' pattern after = some true := by
  have read : readPatternItems '\\' ('_' :: pattern)
      = (readPatternItems '\\' pattern).map (.anyCharacter :: ·) :=
    readPatternItems_plain (by decide) pattern
  simp only [matchesPattern_iff, read, Option.map_eq_some_iff]
  cases text <;> simp [matchItems]

/-- What is read as one character matches the characters that count as that one. -/
theorem matchesPattern_exactly (written : List Char) {c : Char}
    (read : readPatternItems '\\' (written ++ pattern)
      = (readPatternItems '\\' pattern).map (.exactly c :: ·)) :
    matchesPattern fold '\\' (written ++ pattern) text = some true ↔
      ∃ d after, text = d :: after ∧ fold c = fold d ∧
        matchesPattern fold '\\' pattern after = some true := by
  simp only [matchesPattern_iff, read, Option.map_eq_some_iff]
  cases text <;> simp [matchItems, and_left_comm]

theorem matchesPattern_escaped (c : Char) :
    matchesPattern fold '\\' ('\\' :: c :: pattern) text = some true ↔
      ∃ d after, text = d :: after ∧ fold c = fold d ∧
        matchesPattern fold '\\' pattern after = some true :=
  matchesPattern_exactly ['\\', c] (readPatternItems_escape ..)

theorem matchesPattern_itself {c : Char} (plain : ¬IsSpecial c) :
    matchesPattern fold '\\' (c :: pattern) text = some true ↔
      ∃ d after, text = d :: after ∧ fold c = fold d ∧
        matchesPattern fold '\\' pattern after = some true :=
  matchesPattern_exactly [c] (readPatternItems_itself plain pattern)

/-! ### The matcher and the rules -/

theorem Like.matchesPattern (like : Like fold pattern text) :
    matchesPattern fold '\\' pattern text = some true := by
  induction like with
  | nothing => exact matchesPattern_nil.2 rfl
  | anything before _ ih => exact matchesPattern_percent.2 ⟨before, _, rfl, ih⟩
  | anyCharacter d _ ih => exact matchesPattern_underscore.2 ⟨d, _, rfl, ih⟩
  | escaped same _ ih => exact (matchesPattern_escaped _).2 ⟨_, _, rfl, same, ih⟩
  | itself plain same _ ih => exact (matchesPattern_itself plain).2 ⟨_, _, rfl, same, ih⟩

theorem like_of_matchesPattern (found : matchesPattern fold '\\' pattern text = some true) :
    Like fold pattern text := by
  -- an escaped character is read in one step, so the induction is that of the reader
  induction pattern using readPatternItems.induct '\\' generalizing text with
  | case1 =>
    cases matchesPattern_nil.1 found
    exact .nothing
  | case2 => cases found
  | case3 c pattern ih =>
    obtain ⟨d, after, rfl, same, others⟩ := (matchesPattern_escaped c).1 found
    exact .escaped same (ih others)
  | case4 c pattern unescaped ih =>
    by_cases percent : c = '%'
    · subst percent
      obtain ⟨before, after, rfl, others⟩ := matchesPattern_percent.1 found
      exact .anything before (ih others)
    by_cases underscore : c = '_'
    · subst underscore
      obtain ⟨d, after, rfl, others⟩ := matchesPattern_underscore.1 found
      exact .anyCharacter d (ih others)
    have plain : ¬IsSpecial c := by simp [unescaped, percent, underscore]
    obtain ⟨d, after, rfl, same, others⟩ := (matchesPattern_itself plain).1 found
    exact .itself plain same (ih others)

/-- The matcher answers yes exactly where the rules do. -/
theorem matchesPattern_eq_some_true_iff :
    matchesPattern fold '\\' pattern text = some true ↔ Like fold pattern text :=
  ⟨like_of_matchesPattern, Like.matchesPattern⟩

/-! ### The pattern of the texts that contain a text -/

/-- Such a pattern searches the text as it stands, whatever characters there are in either. -/
theorem like_containsPattern (fold : Char → Char) (needle text : String) :
    Like fold (containsPattern needle).toList text.toList ↔
      needle.toList.map fold <:+: text.toList.map fold := by
  rw [← matchesPattern_eq_some_true_iff, containsPattern_toList, matchesPattern_contains,
    Option.some_inj, Text.occursIn_iff_isPart]

theorem wellEscaped_flatMap (needle : List Char) (others : WellEscaped pattern) :
    WellEscaped (needle.flatMap patternChar ++ pattern) := by
  induction needle with
  | nil => exact others
  | cons c needle ih =>
    rw [List.flatMap_cons, List.append_assoc, patternChar]
    split
    · next special => exact .escaped special ih
    · next plain => exact .unescaped (fun same => plain (.inl same)) ih

theorem wellEscaped_containsPattern (needle : String) :
    WellEscaped (containsPattern needle).toList := by
  have percent : WellEscaped ['%'] := .unescaped (by decide) .nothing
  rw [containsPattern_toList]
  exact .unescaped (by decide) (wellEscaped_flatMap needle.toList percent)

/-- The pattern of a text is always well formed, and matches exactly the texts that contain that
text; so trying it at every place gives what a plain search gives. -/
theorem containsPattern_exact (needle text : String) :
    WellEscaped (containsPattern needle).toList ∧
      (Like id (containsPattern needle).toList text.toList ↔ needle.toList <:+: text.toList) ∧
      matchesPattern id '\\' (containsPattern needle).toList text.toList
        = some (Text.occursIn needle.toList text.toList) := by
  have formed := wellEscaped_containsPattern needle
  have literal := like_containsPattern id needle text
  have searched := matchesPattern_contains id needle.toList text.toList
  rw [List.map_id, List.map_id] at literal searched
  rw [containsPattern_toList] at formed literal ⊢
  exact ⟨formed, literal, searched⟩

example : containsPattern "50%_a\\b" = "%50\\%\\_a\\\\b%" := by decide

end KeyStore.Sql
