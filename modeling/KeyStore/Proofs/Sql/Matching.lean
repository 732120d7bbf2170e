import Mathlib.Data.List.Infix
import KeyStore.Proofs.Text.Ascii
import KeyStore.Sql.Pattern
import KeyStore.Text.Search

/-!
# What a pattern matches

A pattern of LIKE is read into items before it is matched: an escaped character stands for itself,
the percent sign for any text and the underscore for any character. A pattern that ends in the
escape character is no pattern.

`matchesPattern_contains`: the pattern made for a text matches what the text occurs in.
-/

namespace KeyStore.Sql

/-- A part of a pattern. -/
inductive PatternItem where
  | anything
  | anyCharacter
  | exactly (c : Char)
deriving DecidableEq, Repr

/-- What an unescaped character of a pattern stands for. -/
def PatternItem.ofChar (c : Char) : PatternItem :=
  if c = '%' then anything else if c = '_' then anyCharacter else exactly c

/-- The items of a pattern. -/
def readPatternItems (escape : Char) : List Char → Option (List PatternItem)
  | [] => some []
  | c :: rest =>
    if c = escape then
      match rest with
      | [] => none
      | d :: rest => (readPatternItems escape rest).map (.exactly d :: ·)
    else (readPatternItems escape rest).map (.ofChar c :: ·)

/-- Whether the items match a whole text, where `fold` says which characters count as one. -/
def matchItems (fold : Char → Char) : List PatternItem → List Char → Bool
  | [], text => text.isEmpty
  | .anything :: items, text => text.tails.any (matchItems fold items)
  | .anyCharacter :: items, text =>
    match text with
    | [] => false
    | _ :: rest => matchItems fold items rest
  | .exactly c :: items, text =>
    match text with
    | [] => false
    | d :: rest => fold c = fold d && matchItems fold items rest

/-- Whether the pattern matches the text, if it is one. -/
def matchesPattern (fold : Char → Char) (escape : Char) (pattern text : List Char) : Option Bool :=
  (readPatternItems escape pattern).map (matchItems fold · text)

theorem readPatternItems_escape (escape c : Char) (rest : List Char) :
    readPatternItems escape (escape :: c :: rest)
      = (readPatternItems escape rest).map (.exactly c :: ·) := by
  simp [readPatternItems]

theorem readPatternItems_plain {escape c : Char} (plain : c ≠ escape) (rest : List Char) :
    readPatternItems escape (c :: rest)
      = (readPatternItems escape rest).map (.ofChar c :: ·) := by
  cases rest <;> simp [readPatternItems, plain]

/-- The character has a meaning of its own in a pattern. -/
abbrev IsSpecial (c : Char) : Prop := c = '\\' ∨ c = '%' ∨ c = '_'

theorem readPatternItems_itself {c : Char} (plain : ¬IsSpecial c) (rest : List Char) :
    readPatternItems '\\' (c :: rest)
      = (readPatternItems '\\' rest).map (.exactly c :: ·) := by
  obtain ⟨unescaped, wild⟩ := not_or.1 plain
  obtain ⟨not_percent, not_underscore⟩ := not_or.1 wild
  rw [readPatternItems_plain unescaped, PatternItem.ofChar, if_neg not_percent,
    if_neg not_underscore]

/-- Escaped text is read as its characters. -/
theorem readPatternItems_escaped (needle rest : List Char) :
    readPatternItems '\\' (needle.flatMap patternChar ++ rest)
      = (readPatternItems '\\' rest).map (needle.map .exactly ++ ·) := by
  induction needle with
  | nil => simp
  | cons c needle ih =>
    rw [List.flatMap_cons, List.append_assoc, patternChar]
    split
    · rw [List.cons_append, List.cons_append, List.nil_append, readPatternItems_escape, ih,
        Option.map_map]
      rfl
    · next plain =>
      rw [List.cons_append, List.nil_append, readPatternItems_itself plain, ih, Option.map_map]
      rfl

theorem containsPattern_toList (needle : String) :
    (containsPattern needle).toList = '%' :: (needle.toList.flatMap patternChar ++ ['%']) := by
  have escaped : (escapePattern needle).toList = needle.toList.flatMap patternChar :=
    String.toList_ofList
  unfold containsPattern
  rw [String.toList_append, String.toList_append, escaped]
  rfl

theorem readPatternItems_containsPattern (needle : List Char) :
    readPatternItems '\\' ('%' :: (needle.flatMap patternChar ++ ['%']))
      = some (.anything :: (needle.map .exactly ++ [.anything])) := by
  have percent : '%' ≠ '\\' := by decide
  rw [readPatternItems_plain percent, readPatternItems_escaped, readPatternItems_plain percent]
  rfl

theorem matchItems_anything (fold : Char → Char) (text : List Char) :
    matchItems fold [.anything] text = true := by
  rw [matchItems, List.any_eq_true]
  exact ⟨[], (List.mem_tails _ _).2 (List.nil_suffix), rfl⟩

theorem matchItems_exactly (fold : Char → Char) (needle text : List Char) :
    matchItems fold (needle.map .exactly ++ [.anything]) text
      = (needle.map fold).isPrefixOf (text.map fold) := by
  induction needle generalizing text with
  | nil => exact matchItems_anything fold text
  | cons c needle ih =>
    cases text with
    | nil => rfl
    | cons d text =>
      rw [List.map_cons, List.cons_append, matchItems, ih]
      rfl

theorem tails_any_isPrefixOf (fold : Char → Char) (needle text : List Char) :
    (text.tails.any fun tail => needle.isPrefixOf (tail.map fold))
      = Text.occursIn needle (text.map fold) := by
  induction text with
  | nil => cases needle <;> rfl
  | cons c text ih =>
    rw [List.tails_cons, List.any_cons, ih, List.map_cons, Text.occursIn]

/-- The pattern made for a text matches exactly what the text occurs in. -/
theorem matchesPattern_contains (fold : Char → Char) (needle text : List Char) :
    matchesPattern fold '\\' ('%' :: (needle.flatMap patternChar ++ ['%'])) text
      = some (Text.occursIn (needle.map fold) (text.map fold)) := by
  rw [matchesPattern, readPatternItems_containsPattern, Option.map_some, matchItems]
  simp only [funext (matchItems_exactly fold needle)]
  rw [tails_any_isPrefixOf]

/-! ### Patterns in lower case -/

theorem patternChar_toLower : ∀ n < 128,
    patternChar (Char.ofNat n).toLower = (patternChar (Char.ofNat n)).map Char.toLower := by
  decide

/-- Lower case and escaping may change places. -/
theorem pattern_toLower {needle : List Char} (ascii : Text.IsAscii needle) :
    (needle.flatMap patternChar).map Char.toLower
      = (needle.map Char.toLower).flatMap patternChar := by
  induction needle with
  | nil => rfl
  | cons c needle ih =>
    have here := patternChar_toLower c.toNat (ascii c List.mem_cons_self)
    rw [Char.ofNat_toNat] at here
    rw [List.flatMap_cons, List.map_append, List.map_cons, List.flatMap_cons, here,
      ih fun d member => ascii d (List.mem_cons_of_mem _ member)]

end KeyStore.Sql
