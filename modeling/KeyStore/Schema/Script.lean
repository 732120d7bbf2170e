import KeyStore.Error
import KeyStore.Schema.Object
import KeyStore.Text.Blank
import KeyStore.Text.Lines

/-!
# Structure scripts

A structure script is a list of statements that each end in a semicolon and create one object.
Lines that start with two dashes are comments. Keywords may be in any letter case; names are quoted.
-/

namespace KeyStore.Schema

/-- Whether the line is a comment. -/
def isComment (line : List Char) : Bool := ['-', '-'].isPrefixOf (Text.trimStart line)

/-- The script without its comments. -/
def withoutComments (script : List Char) : List Char :=
  ['\n'].intercalate ((Text.lines script).filter fun line => !isComment line)

/-- The statements of a script without the blanks around them; empty ones are passed over. -/
def statements (script : List Char) : List (List Char) :=
  ((Text.splitAt ';' (withoutComments script)).map Text.trim).filter fun chunk => !chunk.isEmpty

/-- The letters `a` to `z` in capitals. -/
def capitals (word : List Char) : List Char := word.map Char.toUpper

/-- The kind of object that a keyword names. -/
def ObjectKind.ofKeyword? (word : List Char) : Option ObjectKind :=
  [ObjectKind.table, .view, .index].find? fun kind => kind.keyword.toList = capitals word

/-- Reads a statement: verb and keyword with a blank after each, a quoted name, and the rest. -/
def Object.ofStatement? (statement : List Char) : Option Object := do
  let (verb, rest) ← Text.splitOnce ' ' statement
  guard (!verb.isEmpty && verb.all Char.isAlpha)
  let (keyword, rest) ← Text.splitOnce ' ' rest
  let kind ← ObjectKind.ofKeyword? keyword
  match rest with
  | '"' :: rest =>
    let (name, body) ← Text.splitOnce '"' rest
    guard (!name.isEmpty)
    some
      { verb := String.ofList (capitals verb), kind, name := String.ofList name,
        body := String.ofList body }
  | _ => none

/-- The error of a statement that cannot be read; it shows the first line. -/
def unrecognised (statement : List Char) : StoreError :=
  .schema ("unrecognised statement in structure: "
    ++ String.ofList ((Text.lines statement).headD []))

/-- The objects of a list of statements. -/
def objectsOfStatements : List (List Char) → Except StoreError (List Object)
  | [] => .ok []
  | statement :: rest =>
    match Object.ofStatement? statement with
    | none => .error (unrecognised statement)
    | some object => (objectsOfStatements rest).map (object :: ·)

/-- The objects that a script creates, in its order. -/
def parse (script : String) : Except StoreError (List Object) :=
  objectsOfStatements (statements script.toList)

end KeyStore.Schema
