import KeyStore.Coding
import KeyStore.Document.Reader
import KeyStore.Document.Writer

/-!
# Values as JSON documents

Fields are the members of an object, and the tag of a variant is a member beside its own. What is
read may also be an array of the fields in their order, with the tag in front of them. Members that
are not asked for are passed over, and one that is asked for may stand only once.

Outside a variant nothing is asked of what is passed over. Inside one every string must be a text,
every number finite, and the nesting bounded.
-/

namespace KeyStore

namespace Document

/-- An object with the given members. -/
def ofMembers (members : List (String × Document)) : Document :=
  .object (members.map fun (key, value) => (some key, value))

/-- A text. -/
def text? : Document → Option String
  | .text s => s
  | _ => none

/-- A truth value. -/
def bool? : Document → Option Bool
  | .bool b => some b
  | _ => none

/-- Digits only, of a number that 64 bits hold. -/
def number? : Document → Option UInt64
  | .number (.integer false n) => if n < UInt64.size then some (UInt64.ofNat n) else none
  | _ => none

/-- Whether the document is null. -/
def isNull : Document → Bool
  | .null => true
  | _ => false

/-- The members of an object whose keys are all texts. -/
def keyed? (members : List (Literal × Document)) : Option (List (String × Document)) :=
  members.mapM fun (key, value) => key.map fun key => (key, value)

/-- Whether no member has the key, or only one. -/
def isUnambiguous (members : List (String × Document)) (key : String) : Bool :=
  (members.filter fun entry => entry.1 = key).length ≤ 1

/-- The value of each key: of the members with these keys, or of as many items in their order. -/
def parts? (keys : List String) : Document → Option (String → Option Document)
  | .object members => do
    let members ← keyed? members
    if keys.all (isUnambiguous members) then some fun key => members.lookup key else none
  | .array items => if items.length = keys.length then some fun key => (keys.zip items).lookup key
    else none
  | _ => none

/-- How deep the fields of a variant may be nested, with their own object. -/
def nestingLimit : Nat := 126

/-- What stands under the tag, and the other members or the other items. -/
def untag? (tag : String) : Document → Option (String × Document)
  | .object members => do
    let named ← keyed? members
    if isUnambiguous named tag then
      some (← text? (← named.lookup tag), .object (members.filter fun entry => entry.1 ≠ some tag))
    else none
  | .array (name :: rest) => do some (← text? name, .array rest)
  | _ => none

/-- What is said of a text that does not say what is asked for. -/
def undecodable : String := "<json>"

/-- A part of a document, which must be there. -/
def demand {α : Type} : Option α → Except String α
  | some part => .ok part
  | none => .error undecodable

/-- Reads a variant. -/
def readTagged {α : Type} (tag : String) (variants : List (String × (Document → Except String α)))
    (document : Document) : Except String α := do
  let (name, rest) ← demand (if document.isSound nestingLimit then untag? tag document else none)
  let read ← demand (variants.lookup name)
  read rest

end Document

open Document

/-- Values as JSON documents. -/
def Coding.json : Coding where
  Encoded := Document
  print document := .ok document.pretty
  parse text := demand (read? text)
  text s := .text (some s)
  bool b := .bool b
  number n := .number (.integer false n.toNat)
  absent := .null
  fields := ofMembers
  variant tag name members := ofMembers ((tag, .text (some name)) :: members)
  isAbsent := isNull
  readText document := demand document.text?
  readBool document := demand document.bool?
  readNumber document := demand document.number?
  readFields names document := demand (parts? names document)
  readVariant := readTagged
  missing _ := undecodable

end KeyStore
