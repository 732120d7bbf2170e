/-!
# Patterns of LIKE

In a pattern under `ESCAPE '\'` the percent sign stands for any text and the underscore for any
character, unless a backslash comes before them. Escaped text matches itself only.
-/

namespace KeyStore.Sql

/-- The characters of a pattern that match one character literally. -/
def patternChar (c : Char) : List Char :=
  if c = '\\' ∨ c = '%' ∨ c = '_' then ['\\', c] else [c]

/-- The pattern that matches a text literally. -/
def escapePattern (text : String) : String := String.ofList (text.toList.flatMap patternChar)

/-- The pattern of the texts that contain `text`. -/
def containsPattern (text : String) : String := "%" ++ escapePattern text ++ "%"

end KeyStore.Sql
