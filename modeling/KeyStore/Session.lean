import KeyStore.Store
import KeyStore.Transaction.Coordinator

/-!
# Sessions

A session answers the requests of a keyring: it passes statements to one database, serialises its
transaction commands through the coordinator, and keeps a journal of all that it was asked, in
order.

A database is what it does to a state; nothing else is assumed of it here.
-/

namespace KeyStore

/-- A database: what each statement gives, and what it leaves. -/
structure Backend (σ : Type) where
  dialect : Sql.Dialect
  /-- Runs a statement and counts the rows that it affects. -/
  execute : Query → σ → Except StoreError UInt64 × σ
  /-- Reads all rows. -/
  fetch : Query → RowShape → σ → Except StoreError (List Record) × σ
  /-- Reads rows as they are now; they may end with an error. -/
  stream : Query → RowShape → σ → Except StoreError Rows × σ

/-- Reads the packets of a kind. -/
abbrev Codec : Type := PacketKind → List UInt8 → Except StoreError Record

namespace Session

/-- What a session was asked. -/
inductive Event where
  | executed (query : Query)
  | fetched (query : Query) (shape : RowShape)
  | streamed (query : Query) (shape : RowShape)
  | taken (stream : Nat)
  | decoded (kind : PacketKind) (packet : List UInt8)

end Session

/-- A database in use. -/
structure Session (σ : Type) where
  /-- The state of the database. -/
  database : σ
  coordinator : Transaction.Coordinator
  /-- How many streams were opened. -/
  streams : Nat
  /-- What was asked, in order. -/
  journal : List Session.Event

namespace Session

variable {σ : Type}

/-- A session with a database that has not been asked anything. -/
def start (database : σ) : Session σ := ⟨database, .initial, 0, []⟩

/-- The state of the transaction. -/
def transaction (session : Session σ) : Transaction.State := session.coordinator.state

/-- Adds to the journal. -/
def record (session : Session σ) (event : Event) : Session σ :=
  { session with journal := session.journal ++ [event] }

/-- Runs a statement. -/
def execute (backend : Backend σ) (query : Query) (session : Session σ) :
    Except StoreError UInt64 × Session σ :=
  let session := session.record (.executed query)
  let (result, database) := backend.execute query session.database
  (result, { session with database })

/-- Reads all rows. -/
def fetch (backend : Backend σ) (query : Query) (shape : RowShape) (session : Session σ) :
    Except StoreError (List Record) × Session σ :=
  let session := session.record (.fetched query shape)
  let (result, database) := backend.fetch query shape session.database
  (result, { session with database })

/-- Opens a stream. Streams are numbered from zero; one that fails to open has no number. -/
def stream (backend : Backend σ) (query : Query) (shape : RowShape) (session : Session σ) :
    Except StoreError (Nat × Rows) × Session σ :=
  let session := session.record (.streamed query shape)
  match backend.stream query shape session.database with
  | (.error error, database) => (.error error, { session with database })
  | (.ok rows, database) =>
    (.ok (session.streams, rows), { session with database, streams := session.streams + 1 })

/-- Makes a transaction request. If it puts a statement to the database, the answer comes before
anything else is asked. -/
def transact (backend : Backend σ) (command : Transaction.Command) (session : Session σ) :
    Except StoreError Unit × Session σ :=
  let number := session.coordinator.requests.length
  let coordinator := session.coordinator.arrive command
  let session := { session with coordinator }
  match coordinator.standing? number with
  | some (.finished result) => (result, session)
  | some .issuing =>
    let (answer, session) := session.execute backend ⟨.control command, []⟩
    let result := answer.map fun _ => ()
    (result, { session with coordinator := session.coordinator.acknowledge result })
  | _ => (.error .abandonedRequest, session)

/-- Answers the requests of a keyring. -/
def handle (backend : Backend σ) (codec : Codec) : Handler Store (Session σ)
  | .execute query, session => session.execute backend query
  | .fetch query shape, session => session.fetch backend query shape
  | .stream query shape, session => session.stream backend query shape
  | .take number, session => ((), session.record (.taken number))
  | .decode kind packet, session => (codec kind packet, session.record (.decoded kind packet))
  | .transact command, session => session.transact backend command

end Session

end KeyStore
