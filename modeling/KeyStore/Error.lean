/-!
# Errors of the store

Every failure is one of eight kinds. Each kind carries what was said about it, except that a filter
that cannot be rendered carries its field. `StoreError.message` is the text that users see.
-/

namespace KeyStore

/-- What can go wrong between a caller and the database. -/
inductive StoreError where
  /-- The database refused a statement. -/
  | driver (reason : String)
  /-- A transaction could not reach the state that was asked for. -/
  | transactionState (reason : String)
  /-- The filter on a field has no form in SQL. -/
  | filterUnrenderable (field : String)
  /-- An entry cannot be removed while others hang on it. -/
  | dependencyExists (reason : String)
  /-- The structure script cannot be read. -/
  | schema (reason : String)
  /-- A packet cannot be decoded. -/
  | codec (reason : String)
  /-- The caller asked for something that makes no sense. -/
  | validation (reason : String)
  /-- The stored data is not what it should be, or cannot be reached. -/
  | storage (reason : String)
deriving DecidableEq, Repr, Inhabited

namespace StoreError

/-- The text of an error. -/
def message : StoreError → String
  | driver reason => "driver error: " ++ reason
  | transactionState reason => "transaction state error: " ++ reason
  | filterUnrenderable field => "filter on `" ++ field ++ "` cannot be rendered as SQL"
  | dependencyExists reason => "dependency exists: " ++ reason
  | schema reason => "schema error: " ++ reason
  | codec reason => "codec error: " ++ reason
  | validation reason => "validation error: " ++ reason
  | storage reason => "storage error: " ++ reason

end StoreError

end KeyStore
