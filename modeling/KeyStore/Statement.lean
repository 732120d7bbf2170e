import KeyStore.Schema.Object
import KeyStore.Sql.ByteText
import KeyStore.Sql.Condition
import KeyStore.Transaction.Command

/-!
# Statements

Every statement that the library sends to a database, as data; `Statement.render` writes it down
in a dialect. A `Query` is a statement with the values of its parameters.
-/

namespace KeyStore

/-- What a query returns of each row. -/
inductive Projection where
  /-- The columns, or a constant if there are none. -/
  | columns (names : List String)
  /-- The expression as it stands. -/
  | expression (text : String)
deriving DecidableEq, Repr, Inhabited

/-- A statement. -/
inductive Statement where
  /-- The rows of a relation that satisfy all conditions, with a clause at the end. -/
  | select (projection : Projection) (relation : String) (conditions : List Sql.Condition)
      (suffix : Option String)
  /-- A new row. -/
  | insert (relation : String) (row : List (String × Sql.Operand))
  /-- New values for the rows that satisfy all conditions. -/
  | update (relation : String) (assignments : List (String × Sql.Operand))
      (conditions : List Sql.Condition)
  /-- The end of the rows that satisfy all conditions. -/
  | delete (relation : String) (conditions : List Sql.Condition)
  /-- The self-signed identities that match the pattern in some letter case, with their keys. -/
  | findIdentities (pattern : Sql.Operand)
  /-- The names of the tables, views and indexes of a schema. -/
  | relationNames (schema : String)
  /-- The creation of an object in a schema. -/
  | create (schema : String) (object : Schema.Object)
  /-- A transaction command. -/
  | control (command : Transaction.Command)
deriving Repr, Inhabited

/-- The text between SELECT and FROM. -/
def Projection.render : Projection → String
  | columns names =>
    if names.isEmpty then "1" else ", ".intercalate (names.map Sql.quoteIdentifier)
  | expression text => text

namespace Statement

/-- The WHERE clause, with a blank before it; nothing if there is no condition. -/
def whereClause (dialect : Sql.Dialect) (conditions : List Sql.Condition) : String :=
  match Sql.Condition.conjunction dialect conditions with
  | some text => " WHERE " ++ text
  | none => ""

/-- The text of the search for identities up to its condition. -/
def identitySearch : String :=
  "SELECT \"keys\".\"id\" AS \"keyId\", \"keys\".\"expires\" AS \"keyExpires\", "
    ++ "\"keys\".\"revoked\" AS \"keyRevoked\", \"found\".\"id\" AS \"id\", "
    ++ "\"found\".\"name\" AS \"name\", \"found\".\"email\" AS \"email\", "
    ++ "\"found\".\"expires\" AS \"expires\", \"found\".\"revoked\" AS \"revoked\" "
    ++ "FROM \"keys_identities_selfsigned\" AS \"found\" "
    ++ "INNER JOIN \"keys\" ON \"found\".\"key\" = \"keys\".\"id\" WHERE "

/-- The text of the question for the names in a schema. The schema is the first argument in one
dialect and part of the text in the other. -/
def nameSearch : Sql.Dialect → String → String
  | .postgres, _ =>
    "SELECT CAST(\"table_name\" AS TEXT) AS \"name\" FROM \"information_schema\".\"tables\" "
      ++ "WHERE \"table_schema\" = $1 "
      ++ "UNION SELECT CAST(\"indexname\" AS TEXT) AS \"name\" FROM \"pg_indexes\" "
      ++ "WHERE \"schemaname\" = $1"
  | .sqlite, schema =>
    "SELECT \"name\" FROM " ++ Sql.quoteIdentifier schema
      ++ ".\"sqlite_master\" WHERE \"type\" IN ('table', 'view', 'index')"

/-- The text of a statement. -/
def render (dialect : Sql.Dialect) : Statement → String
  | select projection relation conditions suffix =>
    "SELECT " ++ projection.render ++ " FROM " ++ Sql.quoteIdentifier relation
      ++ whereClause dialect conditions ++ (suffix.map (" " ++ ·)).getD ""
  | insert relation row =>
    "INSERT INTO " ++ Sql.quoteIdentifier relation ++ " ( "
      ++ ", ".intercalate (row.map fun (column, _) => Sql.quoteIdentifier column)
      ++ " ) VALUES ( "
      ++ ", ".intercalate (row.map fun (_, operand) => operand.render dialect) ++ " )"
  | update relation assignments conditions =>
    "UPDATE " ++ Sql.quoteIdentifier relation ++ " SET "
      ++ ", ".intercalate (assignments.map fun (column, operand) =>
          Sql.quoteIdentifier column ++ " = " ++ operand.render dialect)
      ++ whereClause dialect conditions
  | delete relation conditions =>
    "DELETE FROM " ++ Sql.quoteIdentifier relation ++ whereClause dialect conditions
  | findIdentities pattern =>
    identitySearch ++ dialect.matchesIgnoringCase "\"found\".\"id\"" (pattern.render dialect)
  | relationNames schema => nameSearch dialect schema
  | create schema object => object.statement schema dialect
  | control command => command.keyword

end Statement

/-- A statement with the values of its parameters. -/
structure Query where
  statement : Statement
  args : List Value
deriving Inhabited

namespace Query

/-- The text of the statement. -/
def sql (query : Query) (dialect : Sql.Dialect) : String := query.statement.render dialect

/-- A value as text, if it is a byte string. -/
def escapeValue : Value → Value
  | .bytes bs => .text (Sql.escapeBytes bs)
  | value => value

/-- Byte strings among the arguments as text, for drivers that bind text only. -/
def escapeBytes (query : Query) : Query := { query with args := query.args.map escapeValue }

end Query

end KeyStore
