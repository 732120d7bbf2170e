import KeyStore.Config.Format
import KeyStore.Document.Coding
import KeyStore.FileTree

/-!
# Loading a configuration

The configuration of a directory is its file `keyring.json`. If there is none, one is written that
keeps the database in the same directory, so that the directory can be moved.
-/

namespace KeyStore

namespace StoreError

/-- A file is there and cannot be read. -/
def unreadableFile (path : String) : StoreError := .storage ("read " ++ path ++ ": <io>")

/-- There is no text of a configuration. -/
def unserializable (message : String) : StoreError := .storage ("serialize config: " ++ message)

/-- A file cannot be written. -/
def unwritableFile (failure : FileTree.Failure) : StoreError := .storage failure.message

/-- The file at `path` is no configuration that works. -/
def inFile (path : String) (error : StoreError) : StoreError :=
  .validation (path ++ ": " ++ error.message)

end StoreError

namespace Config

/-- The configuration that is written where there is none. -/
def initial : Config := ofSqlitePath databaseFile

/-- Reads the configuration of the directory `base`, or writes one if there is none. -/
def loadFrom (coding : Coding) (tree : FileTree) (base : String) :
    Except StoreError Config × FileTree :=
  let path := Path.join base fileName
  match tree.readText path with
  | .ok text => ((ofText coding text).mapError (.inFile path), tree)
  | .error .missing =>
    match initial.toText coding with
    | .ok text =>
      match tree.writeInto base fileName text.toUTF8.toList with
      | (tree, .ok ()) => (.ok initial, tree)
      | (tree, .error failure) => (.error (.unwritableFile failure), tree)
    | .error message =>
      -- The directory is made first, also if there is nothing to write into it.
      match tree.makeDirectories base with
      | (tree, .ok _) => (.error (.unserializable message), tree)
      | (tree, .error failure) => (.error (.unwritableFile failure), tree)
  | .error _ => (.error (.unreadableFile path), tree)

/-! ### Configurations as JSON documents -/

/-- The JSON text of a configuration. -/
def pretty (config : Config) : String := Document.pretty (config.encode .json)

@[simp] theorem toText_json (config : Config) : config.toText .json = .ok config.pretty := rfl

/-- The configuration that a JSON text says, if it can work. -/
def parse : String → Except StoreError Config := ofText .json

/-- Reads the configuration of the directory `base`, or writes one if there is none. -/
def loadOrInit : FileTree → String → Except StoreError Config × FileTree := loadFrom .json

end Config

end KeyStore
