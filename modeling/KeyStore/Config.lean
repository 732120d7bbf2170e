import KeyStore.Error
import KeyStore.Path
import KeyStore.Sql.Dialect
import KeyStore.Text.Blank
import KeyStore.Text.Quoted

/-!
# Configuration

What `keyring.json` says: which database holds the keyring, how to connect to it, and whether to
create what is missing. `Config.validate` refuses what the database would only refuse later.
-/

namespace KeyStore

/-- The database of a keyring. -/
inductive Database where
  /-- A file, by default next to the configuration. -/
  | sqlite (path : Option String)
  /-- A server, and the schema that holds the relations. -/
  | postgres (url : String) (schema : Option String)
deriving DecidableEq, Repr, Inhabited

/-- How to connect. -/
structure Connection where
  /-- Milliseconds. -/
  connectTimeout : Option UInt64
  /-- Milliseconds. -/
  acquireTimeout : Option UInt64
  sqlLogging : Option Bool
deriving DecidableEq, Repr, Inhabited

/-- The configuration of a keyring. -/
structure Config where
  database : Database
  connection : Option Connection
  /-- Whether to create missing relations when the keyring is opened. -/
  initialise : Option Bool
deriving DecidableEq, Repr, Inhabited

namespace StoreError

/-- The path of the database says nothing. -/
def emptyPath : StoreError := .validation "sqlite path is empty"

/-- The address is not one of a server. -/
def foreignUrl (url : String) : StoreError :=
  .validation ("postgres url must use the postgres:// scheme, got " ++ Text.quoted url)

/-- The name cannot be the name of a schema. -/
def badSchemaName (name : String) : StoreError :=
  .validation ("invalid schema name " ++ Text.quoted name)

/-- A file was asked for, and the keyring is on a server. -/
def noSqlite : StoreError := .validation "config is not sqlite backend"

end StoreError

namespace Config

/-- The name of the configuration file. -/
def fileName : String := "keyring.json"

/-- The name of the database file where none is given. -/
def databaseFile : String := "keyring.sqlite"

/-- A configuration with a database file, created when it is opened. -/
def ofSqlitePath (path : String) : Config := ⟨.sqlite (some path), none, some true⟩

/-- A configuration with a server, where nothing is created. -/
def ofPostgresUrl (url : String) (schema : Option String) : Config :=
  ⟨.postgres url schema, none, some false⟩

/-- Whether one of the two schemes of server addresses comes first. -/
def isServerUrl (url : String) : Bool :=
  "postgres://".toList.isPrefixOf url.toList || "postgresql://".toList.isPrefixOf url.toList

/-- Whether the name is not empty and holds no quote. -/
def isSchemaName (name : String) : Bool := name ≠ "" && !name.toList.contains '"'

/-- Refuses settings that cannot work. -/
def validate (config : Config) : Except StoreError Unit :=
  match config.database with
  | .sqlite none => .ok ()
  | .sqlite (some path) =>
    if (Text.trim path.toList).isEmpty then .error .emptyPath else .ok ()
  | .postgres url schema =>
    if !isServerUrl url then .error (.foreignUrl url)
    else
      match schema with
      | some name => if isSchemaName name then .ok () else .error (.badSchemaName name)
      | none => .ok ()

/-- The dialect of the database. -/
def dialect (config : Config) : Sql.Dialect :=
  match config.database with
  | .sqlite _ => .sqlite
  | .postgres _ _ => .postgres

/-- The schema that holds the relations. -/
def schema (config : Config) : String :=
  match config.database with
  | .sqlite _ => "main"
  | .postgres _ schema => schema.getD "public"

/-- Whether missing relations are created when the keyring is opened. -/
def initialisesOnOpen (config : Config) : Bool := config.initialise.getD false

/-- Where the database file is for a configuration in the directory `base`. -/
def sqlitePath (config : Config) (base : String) : Except StoreError String :=
  match config.database with
  | .sqlite path => .ok (Path.join base (path.getD databaseFile))
  | .postgres _ _ => .error .noSqlite

/-- Where the database file is if the configuration does not say. -/
def defaultSqlitePath (base : String) : String := Path.join base databaseFile

/-- The address to connect to for a configuration in the directory `base`. -/
def connectionUrl (config : Config) (base : String) : Except StoreError String :=
  match config.database with
  | .sqlite _ => (config.sqlitePath base).map fun path => "sqlite://" ++ path ++ "?mode=rwc"
  | .postgres url _ => .ok url

end Config

end KeyStore
