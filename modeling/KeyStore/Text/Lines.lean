/-!
# Cutting a text

A text is cut at every occurrence of a character, or once at the first. A line ends at a line feed,
and a carriage return just before it belongs to the ending.
-/

namespace KeyStore.Text

/-- The pieces between the occurrences of `mark`. -/
def splitAt (mark : Char) : List Char → List (List Char)
  | [] => [[]]
  | c :: rest =>
    if c = mark then [] :: splitAt mark rest
    else
      match splitAt mark rest with
      | piece :: pieces => (c :: piece) :: pieces
      | [] => [[c]]

/-- What comes before and after the first occurrence of `mark`. -/
def splitOnce (mark : Char) : List Char → Option (List Char × List Char)
  | [] => none
  | c :: rest =>
    if c = mark then some ([], rest)
    else (splitOnce mark rest).map fun (before, after) => (c :: before, after)

/-- A line without the carriage return that belongs to its ending. -/
def dropReturn (line : List Char) : List Char :=
  if line.getLast? = some '\r' then line.dropLast else line

/-- The lines among the pieces between line feeds: the last piece has no ending, and is a line only
if it is not empty. -/
def linesOfPieces : List (List Char) → List (List Char)
  | [] => []
  | [last] => if last.isEmpty then [] else [last]
  | piece :: next :: rest => dropReturn piece :: linesOfPieces (next :: rest)

/-- The lines of a text without their endings. -/
def lines (s : List Char) : List (List Char) := linesOfPieces (splitAt '\n' s)

end KeyStore.Text
