import KeyStore.Sql.Dialect
import KeyStore.Sql.Identifier
import KeyStore.Text.Replace

/-!
# Objects of a schema

A table, view or index with the text that creates it. Tables and views are created in a schema; an
index goes where its table is. Byte columns are called `BYTEA` in one dialect and `BLOB` in the
other.
-/

namespace KeyStore.Schema

/-- What a statement creates. -/
inductive ObjectKind where
  | table
  | view
  | index
deriving DecidableEq, Repr, Inhabited

/-- The keyword of a kind of object. -/
def ObjectKind.keyword : ObjectKind → String
  | table => "TABLE"
  | view => "VIEW"
  | index => "INDEX"

/-- An object and how to create it. -/
structure Object where
  /-- The verb of the statement, in capitals. -/
  verb : String
  kind : ObjectKind
  name : String
  /-- What follows the name. -/
  body : String
deriving DecidableEq, Repr, Inhabited

namespace Object

/-- What is created, as the statement names it. -/
def target (object : Object) (schema : String) : String :=
  match object.kind with
  | .index => Sql.quoteIdentifier object.name
  | _ => Sql.quoteIdentifier schema ++ "." ++ Sql.quoteIdentifier object.name

/-- What follows the name, with the column types of the dialect. -/
def typedBody (object : Object) : Sql.Dialect → String
  | .postgres => object.body
  | .sqlite =>
    String.ofList (Text.replaceAll " BYTEA".toList " BLOB".toList object.body.toList)

/-- The statement that creates the object. -/
def statement (object : Object) (schema : String) (dialect : Sql.Dialect) : String :=
  object.verb ++ " " ++ object.kind.keyword ++ " " ++ object.target schema
    ++ object.typedBody dialect

end Object

end KeyStore.Schema
