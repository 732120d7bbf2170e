import KeyStore.Coding
import KeyStore.Config

/-!
# The format of configurations

A configuration is written as its parts by their names. A part that may be absent is absent if it is
missing or said to be so. The field `backend` of the database says which kind of database it is.
-/

namespace KeyStore.Config

variable (coding : Coding)

/-! ### Writing -/

/-- The database section. -/
def encodeDatabase : Database → coding.Encoded
  | .sqlite path => coding.variant "backend" "sqlite" [("path", coding.optional coding.text path)]
  | .postgres url schema =>
    coding.variant "backend" "postgres"
      [("url", coding.text url), ("schema", coding.optional coding.text schema)]

/-- The connection section. -/
def encodeConnection (connection : Connection) : coding.Encoded :=
  coding.fields
    [("connect_timeout_ms", coding.optional coding.number connection.connectTimeout),
      ("acquire_timeout_ms", coding.optional coding.number connection.acquireTimeout),
      ("sql_logging", coding.optional coding.bool connection.sqlLogging)]

/-- The whole configuration. -/
def encode (config : Config) : coding.Encoded :=
  coding.fields
    [("database", encodeDatabase coding config.database),
      ("connection", coding.optional (encodeConnection coding) config.connection),
      ("initialise", coding.optional coding.bool config.initialise)]

/-- The text of a configuration file. -/
def toText (config : Config) : Except String String := coding.print (config.encode coding)

/-! ### Reading -/

/-- What is said about a database file. -/
def decodeSqlite (encoded : coding.Encoded) : Except String Database := do
  let found ← coding.readFields ["path"] encoded
  return .sqlite (← coding.readOptional coding.readText found "path")

/-- What is said about a server. -/
def decodePostgres (encoded : coding.Encoded) : Except String Database := do
  let found ← coding.readFields ["url", "schema"] encoded
  return .postgres (← coding.require coding.readText found "url")
    (← coding.readOptional coding.readText found "schema")

/-- The database section. -/
def decodeDatabase : coding.Encoded → Except String Database :=
  coding.readVariant "backend"
    [("sqlite", decodeSqlite coding), ("postgres", decodePostgres coding)]

/-- The connection section. -/
def decodeConnection (encoded : coding.Encoded) : Except String Connection := do
  let found ← coding.readFields ["connect_timeout_ms", "acquire_timeout_ms", "sql_logging"] encoded
  return {
    connectTimeout := ← coding.readOptional coding.readNumber found "connect_timeout_ms"
    acquireTimeout := ← coding.readOptional coding.readNumber found "acquire_timeout_ms"
    sqlLogging := ← coding.readOptional coding.readBool found "sql_logging" }

/-- The whole configuration. -/
def decode (encoded : coding.Encoded) : Except String Config := do
  let found ← coding.readFields ["database", "connection", "initialise"] encoded
  return {
    database := ← coding.require (decodeDatabase coding) found "database"
    connection := ← coding.readOptional (decodeConnection coding) found "connection"
    initialise := ← coding.readOptional coding.readBool found "initialise" }

/-- The configuration that a text says, if it can work. -/
def ofText (text : String) : Except StoreError Config := do
  let config ← ((coding.parse text).bind (decode coding)).mapError .validation
  config.validate
  return config

end KeyStore.Config
