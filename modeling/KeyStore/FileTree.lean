import KeyStore.Text.Lines

/-!
# File trees

Files and directories below one root, as far as reading and creating a configuration needs them. A
path is walked part by part: `.` stays, `..` goes up, and every part but the last must lead to a
directory. Names and paths are bounded in bytes.
-/

namespace KeyStore

/-- A file, or a directory with what it holds by name. -/
inductive FileTree where
  | file (bytes : List UInt8)
  | directory (entries : List (String × FileTree))

namespace FileTree

/-- A root directory that holds nothing. -/
def empty : FileTree := directory []

instance : Inhabited FileTree := ⟨empty⟩

/-- Why a file cannot be read or written. -/
inductive Failure where
  /-- Nothing stands at the path, or at a part of it. -/
  | missing
  /-- A directory cannot be made, because something else stands there. -/
  | occupied
  /-- The path leads through a file. -/
  | notDirectory
  /-- The path leads to a directory where a file is asked for. -/
  | isDirectory
  /-- The path or one of its parts has too many bytes. -/
  | tooLong
  /-- The path holds a zero character. -/
  | noPath
  /-- The file is not text. -/
  | notText
deriving DecidableEq, Repr, Inhabited

/-- The text of a failure, with its number where the file system has one. -/
def Failure.message : Failure → String
  | missing => "No such file or directory (os error 2)"
  | occupied => "File exists (os error 17)"
  | notDirectory => "Not a directory (os error 20)"
  | isDirectory => "Is a directory (os error 21)"
  | tooLong => "File name too long (os error 36)"
  | noPath => "file name contained an unexpected NUL byte"
  | notText => "stream did not contain valid UTF-8"

/-- The parts of a place below the root. -/
abbrev Place := List String

/-- How many bytes a name may have. -/
def nameLimit : Nat := 255

/-- How many bytes a path may have. -/
def pathLimit : Nat := 4095

/-- Whether there can be a file of this name. -/
def isName (part : String) : Bool := part.utf8ByteSize ≤ nameLimit

/-- Whether a path can be looked up, and why not. -/
def checkPath (path : String) : Except Failure Unit :=
  if path.toList.contains '\x00' then .error .noPath
  else if pathLimit < path.utf8ByteSize then .error .tooLong
  else .ok ()

/-- What stands at a place. -/
def find? : FileTree → Place → Option FileTree
  | tree, [] => some tree
  | file _, _ :: _ => none
  | directory entries, name :: rest =>
    match entries.lookup name with
    | some entry => find? entry rest
    | none => none

/-- Puts a node at a place, with the directories above it; nothing is put below a file. -/
def put (node : FileTree) : FileTree → Place → FileTree
  | _, [] => node
  | file bytes, _ :: _ => file bytes
  | directory entries, name :: rest =>
    let entry := put node ((entries.lookup name).getD empty) rest
    directory ((name, entry) :: entries.filter fun other => other.1 ≠ name)

/-- The parts of a path. -/
def parts (path : String) : List String :=
  ((Text.splitAt '/' path.toList).filter fun part => !part.isEmpty).map String.ofList

/-- The place that the parts of a path lead to from the directory `here`. -/
def walk (tree : FileTree) : (here : Place) → List String → Except Failure Place
  | here, [] => .ok here
  | here, part :: rest =>
    match tree.find? here with
    | some (directory entries) =>
      if part = "." then walk tree here rest
      else if part = ".." then walk tree here.dropLast rest
      else if !isName part then .error .tooLong
      else if (entries.lookup part).isNone then .error .missing
      else walk tree (here ++ [part]) rest
    | _ => .error .notDirectory

/-- The text of the file at `path`. -/
def readText (tree : FileTree) (path : String) : Except Failure String := do
  checkPath path
  let place ← tree.walk [] (parts path)
  match tree.find? place with
  | some (file bytes) =>
    match String.fromUTF8? ⟨bytes.toArray⟩ with
    | some text => .ok text
    | none => .error .notText
  | some (directory _) => .error .isDirectory
  | none => .error .missing

/-- Makes the directories of a path that are missing below `here`. Gives the tree and where the path
leads; what was made before a failure stays. -/
def makeParts (tree : FileTree) : (here : Place) → List String → FileTree × Except Failure Place
  | here, [] => (tree, .ok here)
  | here, part :: rest =>
    if part = "." then makeParts tree here rest
    else if part = ".." then makeParts tree here.dropLast rest
    else
      match tree.find? (here ++ [part]) with
      | some (directory _) => makeParts tree (here ++ [part]) rest
      | some (file _) => (tree, .error .occupied)
      | none =>
        if isName part then makeParts (put empty tree (here ++ [part])) (here ++ [part]) rest
        else (tree, .error .tooLong)

/-- Makes the directory at a path, with those above it. A directory cannot be made under the name
`.`: if the path ends so, the directories above are made and the path itself has to lead to one. -/
def makeDirectories (tree : FileTree) (path : String) : FileTree × Except Failure Place :=
  if (parts path).getLast? = some "." then
    match tree.makeParts [] ((parts path).filter (· ≠ ".")).dropLast with
    | (tree, .ok _) => (tree, tree.walk [] (parts path))
    | failed => failed
  else tree.makeParts [] (parts path)

/-- Writes a file into the directory at a place. -/
def writeFile (tree : FileTree) (place : Place) (name : String) (bytes : List UInt8) :
    Except Failure FileTree :=
  match tree.find? (place ++ [name]) with
  | some (directory _) => .error .isDirectory
  | _ => if isName name then .ok (put (file bytes) tree (place ++ [name])) else .error .tooLong

/-- Writes a file into the directory at `path`, which is made if it is missing. What was made before
a failure stays. -/
def writeInto (tree : FileTree) (path name : String) (bytes : List UInt8) :
    FileTree × Except Failure Unit :=
  match tree.makeDirectories path with
  | (tree, .error failure) => (tree, .error failure)
  | (tree, .ok place) =>
    match tree.writeFile place name bytes with
    | .error failure => (tree, .error failure)
    | .ok tree => (tree, .ok ())

end FileTree

end KeyStore
