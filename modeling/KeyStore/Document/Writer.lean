import KeyStore.Document

/-!
# Writing JSON

Each item and member stands on a line of its own, two blanks deeper than its container; a container
without any is written without a line. Strings escape the quote, the backslash and the controls.
-/

namespace KeyStore.Document

/-- A control character below the blank by its code point. -/
def controlEscape (c : Char) : List Char :=
  let digits := Nat.toDigits 16 c.toNat
  ['\\', 'u'] ++ List.replicate (4 - digits.length) '0' ++ digits

/-- How a character stands in a string literal. -/
def literalChar (c : Char) : List Char :=
  if c = '"' then ['\\', '"']
  else if c = '\\' then ['\\', '\\']
  else if c = '\x08' then ['\\', 'b']
  else if c = '\x0c' then ['\\', 'f']
  else if c = '\n' then ['\\', 'n']
  else if c = '\r' then ['\\', 'r']
  else if c = '\t' then ['\\', 't']
  else if c.toNat < 0x20 then controlEscape c
  else [c]

/-- A string literal; one without a text is a lone half of a surrogate pair. -/
def writeLiteral : Literal → List Char
  | some s => '"' :: s.toList.flatMap literalChar ++ ['"']
  | none => '"' :: "\\ud800".toList ++ ['"']

/-- The sign of a number. -/
def writeSign (negative : Bool) : List Char := if negative then ['-'] else []

/-- A point with the digits after it; nothing without digits. -/
def writeFraction (fraction : List Digit) : List Char :=
  if fraction.isEmpty then [] else '.' :: fraction.map fun digit => Nat.digitChar digit.val

/-- A number. -/
def writeNumber : Number → List Char
  | .integer negative magnitude => writeSign negative ++ Nat.toDigits 10 magnitude
  | .decimal negative whole fraction exponent =>
    writeSign negative ++ Nat.toDigits 10 whole ++ writeFraction fraction
      ++ 'e' :: (toString exponent).toList

/-- A new line with `depth` steps of indentation. -/
def newLine (depth : Nat) : List Char := '\n' :: List.replicate (2 * depth) ' '

mutual

/-- A document whose lines after the first are indented by `depth` steps. -/
def write (depth : Nat) : Document → List Char
  | null => ['n', 'u', 'l', 'l']
  | bool true => ['t', 'r', 'u', 'e']
  | bool false => ['f', 'a', 'l', 's', 'e']
  | number n => writeNumber n
  | text s => writeLiteral s
  | array [] => ['[', ']']
  | array (item :: rest) =>
    '[' :: newLine (depth + 1) ++ write (depth + 1) item ++ writeItems (depth + 1) rest
      ++ newLine depth ++ [']']
  | object [] => ['\x7b', '\x7d']
  | object ((key, value) :: rest) =>
    '\x7b' :: newLine (depth + 1) ++ writeLiteral key ++ [':', ' '] ++ write (depth + 1) value
      ++ writeMembers (depth + 1) rest ++ newLine depth ++ ['\x7d']

/-- The items of an array after its first. -/
def writeItems (depth : Nat) : List Document → List Char
  | [] => []
  | item :: rest => ',' :: newLine depth ++ write depth item ++ writeItems depth rest

/-- The members of an object after its first. -/
def writeMembers (depth : Nat) : List (Literal × Document) → List Char
  | [] => []
  | (key, value) :: rest =>
    ',' :: newLine depth ++ writeLiteral key ++ [':', ' '] ++ write depth value
      ++ writeMembers depth rest

end

/-- The text of a document. -/
def pretty (document : Document) : String := String.ofList (write 0 document)

end KeyStore.Document
