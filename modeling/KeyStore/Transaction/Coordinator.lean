import KeyStore.Error
import KeyStore.Transaction.Command

/-!
# The transaction coordinator

One session is shared by many tasks that ask for BEGIN, COMMIT and ROLLBACK. The coordinator puts at
most one of these statements to the database at a time. A request that arrives meanwhile waits in a
queue, and the queue is served in the order of arrival when the statement has completed: a request
that already has what it asks for is told so, and the first that has not is chosen to put its own
statement. After an error the session counts as idle and the whole queue is told the error.

A request that is told or chosen goes on by itself later, in any order among the others, and a
request may be cancelled wherever it stands. `arrive`, `resume`, `acknowledge` and `cancel` are the
steps of which every run is made.
-/

namespace KeyStore

namespace StoreError

/-- A request was cancelled while its statement was in flight. -/
def cancelledInFlight (command : Transaction.Command) : StoreError :=
  .transactionState (command.keyword ++ " was cancelled before completing")

/-- A request waits for a statement that never completes. -/
def abandonedRequest : StoreError := .transactionState "transaction command was abandoned"

end StoreError

namespace Transaction

/-- What can be said about the session. -/
inductive State where
  | idle
  | transitioning
  | inside
deriving DecidableEq, Repr, Inhabited

/-- The state that a command leads to. -/
def Command.target : Command → State
  | begin => .inside
  | commit => .idle
  | rollback => .idle

/-- Whether the command changes nothing in the given state. -/
def Command.isSatisfiedIn (command : Command) (state : State) : Bool := state = command.target

/-- Where a request stands. -/
inductive Standing where
  /-- Waits for the statement in flight. -/
  | queued
  /-- Was told its result and has not gone on. -/
  | told (result : Except StoreError Unit)
  /-- Was chosen to put its statement and has not gone on. -/
  | chosen
  /-- Its statement is in flight. -/
  | issuing
  | finished (result : Except StoreError Unit)
  | cancelled

/-- A request for a command. -/
structure Request where
  command : Command
  standing : Standing

/-- What the coordinator keeps between steps. -/
inductive Phase where
  | idle
  | inside
  /-- A statement is in flight, or a request is chosen; the queue holds the numbers of the requests
  that wait. -/
  | transitioning (queue : List Nat)
deriving DecidableEq, Repr, Inhabited

/-- The state of a phase. -/
def Phase.state : Phase → State
  | idle => .idle
  | inside => .inside
  | transitioning _ => .transitioning

/-- The phase of a session at rest. -/
def Phase.settled : State → Phase
  | .inside => inside
  | _ => idle

/-- The phase, every request so far by its number, and every statement so far. -/
structure Coordinator where
  phase : Phase
  requests : List Request
  statements : List Command

namespace Coordinator

/-- No request has been made. -/
def initial : Coordinator := ⟨.idle, [], []⟩

instance : Inhabited Coordinator := ⟨initial⟩

/-- What is said about the session. -/
def state (c : Coordinator) : State := c.phase.state

/-- Where a request stands. -/
def standing? (c : Coordinator) (number : Nat) : Option Standing :=
  c.requests[number]?.map (·.standing)

/-- The same requests, with one of them standing elsewhere. -/
def setStanding (requests : List Request) (number : Nat) (standing : Standing) : List Request :=
  requests.modify number fun request => { request with standing }

/-- Whether the statement of the request is in flight. -/
def isIssuing (request : Request) : Bool :=
  match request.standing with
  | .issuing => true
  | _ => false

/-- The number of the request whose statement is in flight. -/
def inFlight? (c : Coordinator) : Option Nat := c.requests.findIdx? isIssuing

/-- Makes a request and lets it go as far as it can. -/
def arrive (c : Coordinator) (command : Command) : Coordinator :=
  match c.phase with
  | .transitioning queue =>
    { c with
      phase := .transitioning (queue ++ [c.requests.length])
      requests := c.requests ++ [⟨command, .queued⟩] }
  | phase =>
    if command.isSatisfiedIn phase.state then
      { c with requests := c.requests ++ [⟨command, .finished (.ok ())⟩] }
    else
      { phase := .transitioning []
        requests := c.requests ++ [⟨command, .issuing⟩]
        statements := c.statements ++ [command] }

/-- Lets a request that was told or chosen go on; others stay where they are. -/
def resume (c : Coordinator) (number : Nat) : Coordinator :=
  match c.requests[number]? with
  | some ⟨_, .told result⟩ =>
    { c with requests := setStanding c.requests number (.finished result) }
  | some ⟨command, .chosen⟩ =>
    { c with
      requests := setStanding c.requests number .issuing
      statements := c.statements ++ [command] }
  | _ => c

/-- Serves a queue in a settled state: gives the phase and the requests afterwards. A request that
was cancelled is passed over. -/
def serve (state : State) : List Request → List Nat → Phase × List Request
  | requests, [] => (.settled state, requests)
  | requests, number :: queue =>
    match requests[number]? with
    | some ⟨command, .queued⟩ =>
      if command.isSatisfiedIn state then
        serve state (setStanding requests number (.told (.ok ()))) queue
      else (.transitioning queue, setStanding requests number .chosen)
    | _ => serve state requests queue

/-- Tells an error to every request of a queue that still waits. -/
def tellAll (error : StoreError) : List Request → List Nat → List Request
  | requests, [] => requests
  | requests, number :: queue =>
    match requests[number]? with
    | some ⟨_, .queued⟩ => tellAll error (setStanding requests number (.told (.error error))) queue
    | _ => tellAll error requests queue

/-- The requests that wait. -/
def queue (c : Coordinator) : List Nat :=
  match c.phase with
  | .transitioning queue => queue
  | _ => []

/-- The statement of `command` has come to an end. -/
def settle (c : Coordinator) (command : Command) : Except StoreError Unit → Coordinator
  | .ok () =>
    let (phase, requests) := serve command.target c.requests c.queue
    { c with phase, requests }
  | .error error => { c with phase := .idle, requests := tellAll error c.requests c.queue }

/-- The database answers the statement in flight, and the request that put it finishes. -/
def acknowledge (c : Coordinator) (result : Except StoreError Unit) : Coordinator :=
  match c.inFlight? with
  | none => c
  | some number =>
    match c.requests[number]? with
    | none => c
    | some request =>
      settle { c with requests := setStanding c.requests number (.finished result) }
        request.command result

/-- Whether the request is at its end. -/
def isOver (c : Coordinator) (number : Nat) : Bool :=
  match c.standing? number with
  | some (.finished _) | some .cancelled | none => true
  | _ => false

/-- Gives a request up. If its statement is in flight, the statement counts as failed. -/
def cancel (c : Coordinator) (number : Nat) : Coordinator :=
  match c.requests[number]? with
  | none | some ⟨_, .finished _⟩ | some ⟨_, .cancelled⟩ => c
  | some ⟨command, .issuing⟩ =>
    settle { c with requests := setStanding c.requests number .cancelled } command
      (.error (.cancelledInFlight command))
  | some _ => { c with requests := setStanding c.requests number .cancelled }

end Coordinator

end Transaction

end KeyStore
