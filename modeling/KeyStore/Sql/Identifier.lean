/-!
# Quoted identifiers

A name stands between double quotes, and a quote inside it is written twice.
-/

namespace KeyStore.Sql

/-- The characters that stand for one character of a name. -/
def identifierChar (c : Char) : List Char := if c = '"' then ['"', '"'] else [c]

/-- A name as an identifier of a statement. -/
def quoteIdentifier (name : String) : String :=
  String.ofList ('"' :: name.toList.flatMap identifierChar ++ ['"'])

end KeyStore.Sql
