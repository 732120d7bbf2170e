import KeyStore.Transaction.Coordinator

/-!
# Runs of the coordinator

A run is a list of events. After each event every request that was told or chosen goes on, until all
that are left wait. A report says what one event has brought about.
-/

namespace KeyStore.Transaction

/-- What happens to a coordinator. -/
inductive Event where
  /-- A request is made. -/
  | request (command : Command)
  /-- The database answers the statement in flight. Then some requests are cancelled before any
  other goes on. -/
  | acknowledge (result : Except StoreError Unit) (dropped : List Nat)
  /-- A request is cancelled. -/
  | cancel (number : Nat)

/-- What one event has brought about. -/
structure Report where
  state : State
  /-- All statements so far. -/
  statements : List Command
  /-- The requests that finished, by number. -/
  finished : List (Nat × Except StoreError Unit)
  /-- Whether the event found nothing to act on. -/
  ignored : Bool

namespace Coordinator

/-- Lets every request go on that was told or chosen. -/
def resumeAll (c : Coordinator) : Coordinator :=
  (List.range c.requests.length).foldl resume c

/-- Whether the event finds nothing to act on. -/
def ignores (c : Coordinator) : Event → Bool
  | .request _ => false
  | .acknowledge _ _ => c.inFlight?.isNone
  | .cancel number => c.isOver number

/-- The event alone, before the requests go on. -/
def act (c : Coordinator) : Event → Coordinator
  | .request command => c.arrive command
  | .acknowledge result dropped => dropped.foldl cancel (c.acknowledge result)
  | .cancel number => c.cancel number

/-- The requests that are finished, with their results. -/
def finished (c : Coordinator) : List (Nat × Except StoreError Unit) :=
  c.requests.zipIdx.filterMap fun (request, number) =>
    match request.standing with
    | .finished result => some (number, result)
    | _ => none

/-- The coordinator after an event, and what has come of it. -/
def step (c : Coordinator) (event : Event) : Report × Coordinator :=
  let after := (c.act event).resumeAll
  ({ state := after.state
     statements := after.statements
     finished := after.finished.filter fun (number, _) => (c.finished.lookup number).isNone
     ignored := c.ignores event }, after)

/-- The reports of a list of events. -/
def run : Coordinator → List Event → List Report
  | _, [] => []
  | c, event :: rest =>
    let (report, c) := c.step event
    report :: run c rest

end Coordinator

end KeyStore.Transaction
