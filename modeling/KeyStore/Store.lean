import KeyStore.Query
import KeyStore.Sequence

/-!
# What the library asks of its surroundings

A keyring needs a database and something that can read packets. These are the requests that it
puts to them; whatever it does is an action over this interface.
-/

namespace KeyStore

/-- A request to the surroundings of a keyring. -/
inductive StoreRequest where
  /-- Runs a statement. -/
  | execute (query : Query)
  /-- Reads all rows at once. -/
  | fetch (query : Query) (shape : RowShape)
  /-- Starts to read rows one at a time. -/
  | stream (query : Query) (shape : RowShape)
  /-- Says that the next row of a stream is taken. -/
  | take (stream : Nat)
  /-- Reads a packet. -/
  | decode (kind : PacketKind) (packet : List UInt8)
  /-- Brings the session into the state that a transaction command leads to. -/
  | transact (command : Transaction.Command)

/-- Rows of a stream in their order; an error ends them. -/
abbrev Rows := List (Except StoreError Record)

/-- What is replied to a request. -/
def StoreReply : StoreRequest → Type
  /- The number of rows that were affected. -/
  | .execute _ => Except StoreError UInt64
  | .fetch _ _ => Except StoreError (List Record)
  /- The number of the stream, and its rows. -/
  | .stream _ _ => Except StoreError (Nat × Rows)
  | .take _ => Unit
  | .decode _ _ => Except StoreError Record
  | .transact _ => Except StoreError Unit

/-- The surroundings of a keyring. -/
def Store : Interface := ⟨StoreRequest, StoreReply⟩

namespace Store

/-- Runs a statement and gives the number of rows that were affected. -/
def execute (query : Query) : Action Store UInt64 :=
  Action.requestOrFail (I := Store) (.execute query) id

/-- Reads all rows at once. -/
def fetch (query : Query) (shape : RowShape) : Action Store (List Record) :=
  Action.requestOrFail (I := Store) (.fetch query shape) id

/-- Says that the next row of a stream is taken. -/
def take (stream : Nat) : Action Store Unit := Action.request (I := Store) (.take stream)

/-- Reads a packet. -/
def decode (kind : PacketKind) (packet : List UInt8) : Action Store Record :=
  Action.requestOrFail (I := Store) (.decode kind packet) id

/-- Brings the session into the state that a transaction command leads to. -/
def transact (command : Transaction.Command) : Action Store Unit :=
  Action.requestOrFail (I := Store) (.transact command) id

/-- The rows of a query. The query is put to the database when the first of them is pulled. -/
def rows (query : Query) (shape : RowShape) : Sequence Store Record :=
  .ask (I := Store) (.stream query shape) fun
    | .error error => .fail error
    | .ok (number, items) => .ofItems (fun _ => take number) items

end Store

end KeyStore
