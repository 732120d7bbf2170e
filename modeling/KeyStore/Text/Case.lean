import KeyStore.Text.Case.Context
import KeyStore.Text.Case.Lowercase
import KeyStore.Text.Case.Uppercase

/-!
# Letter case of whole texts

`lower` and `upper` map texts, not characters: `ß` becomes `SS`, `İ` becomes two characters, and a
capital sigma becomes `ς` at the end of a word and `σ` elsewhere.
-/

namespace KeyStore.Text

/-- The lower-case form of a character by itself. -/
def lowerChar (c : Char) : List Char :=
  if c = 'İ' then ['i', Char.ofNat 0x307] else [Char.ofNat (mapRuns lowercaseRuns c.toNat)]

/-- Whether the nearest character that counts is a letter with case. -/
def meetsCased (s : List Char) : Bool :=
  match s.dropWhile isCaseIgnorable with
  | c :: _ => isCased c
  | [] => false

/-- The lower-case form of a text that follows `before`, whose last character comes first. A capital
sigma ends a word if a letter with case comes before it and none after it. -/
def lowerAfter (before : List Char) : List Char → List Char
  | [] => []
  | c :: rest =>
    let form :=
      if c = 'Σ' then [if meetsCased before && !meetsCased rest then 'ς' else 'σ']
      else lowerChar c
    form ++ lowerAfter (c :: before) rest

/-- The lower-case form of a text. -/
def lower (s : List Char) : List Char := lowerAfter [] s

/-- The upper-case form of a character. -/
def upperChar (c : Char) : List Char :=
  match uppercaseExpansions.lookup c.toNat with
  | some forms => forms.map Char.ofNat
  | none => [Char.ofNat (mapRuns uppercaseRuns c.toNat)]

/-- The upper-case form of a text. -/
def upper (s : List Char) : List Char := s.flatMap upperChar

end KeyStore.Text
