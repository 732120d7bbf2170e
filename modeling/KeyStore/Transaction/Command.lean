/-!
# Transaction commands

The three statements that move a session between idle and an open transaction.
-/

namespace KeyStore.Transaction

/-- A statement that opens or closes a transaction. -/
inductive Command where
  | begin
  | commit
  | rollback
deriving DecidableEq, Repr, Inhabited

/-- The keyword of a command. -/
def Command.keyword : Command → String
  | begin => "BEGIN"
  | commit => "COMMIT"
  | rollback => "ROLLBACK"

end KeyStore.Transaction
