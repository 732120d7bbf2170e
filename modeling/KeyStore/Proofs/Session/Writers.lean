import KeyStore.Keyring
import KeyStore.Proofs.Entries.Requests
import KeyStore.Proofs.Transaction.Opened

/-!
# Concurrent writers

Tasks share one session: each adds, changes or removes entries, or ends the transaction. A task runs
until it awaits something: the reply of the database, or the decision on its transaction request.
The database answers every transaction statement with ok; replies come, and tasks that were told or
chosen go on, in any order.

A write that a task puts as soon as it has opened the transaction, or finds it open, is inside the
transaction. `writes_inside_iff`: so are all writes, unless a task puts one late: it was told that
the transaction is open, or has put a write already and goes on, and meanwhile a COMMIT or ROLLBACK
was put.
-/

namespace KeyStore

open Transaction

/-- What a task does. -/
inductive Errand where
  | add (dialect : Sql.Dialect) (relation : Relation) (record : Record)
  | update (dialect : Sql.Dialect) (relation : Relation) (record : Record)
    (conditions : Conditions)
  | remove (dialect : Sql.Dialect) (relation : Relation) (conditions : Conditions)
  | save
  | revert

namespace Errand

/-- The requests of the task. -/
def action : Errand → Action Store Unit
  | add dialect relation record => Entries.add dialect relation record
  | update dialect relation record conditions =>
    (Entries.update dialect relation record conditions).bind fun _ => .done ()
  | remove dialect relation conditions =>
    (Entries.remove dialect relation conditions).bind fun _ => .done ()
  | save => Keyring.save
  | revert => Keyring.revert

end Errand

/-- Where a task stands. -/
inductive Task where
  /-- It awaits the decision on its transaction request. -/
  | deciding (number : Nat) (next : Except StoreError Unit → Action Store Unit)
  /-- It awaits a reply of the database. -/
  | asking (request : StoreRequest) (next : StoreReply request → Action Store Unit)
  | ended

/-- Whether the task awaits the decision on a request. -/
def Task.awaits (number : Nat) : Task → Bool
  | .deciding other _ => other = number
  | _ => false

/-- A statement that changes rows, with the history of transaction statements when it was put. -/
structure Write where
  query : Query
  before : List Exchange

/-- The tasks of a session, what its coordinator has gone through, and the writes that were put. -/
structure Pool where
  steps : List Step
  tasks : List Task
  writes : List Write

/-- What happens to a pool. -/
inductive Move where
  /-- A task starts. -/
  | start (errand : Errand)
  /-- The database says ok to the transaction statement in flight. -/
  | answer
  /-- A task goes on whose request was told its result or chosen. -/
  | wake (number : Nat)
  /-- The database replies to a task. -/
  | reply (index : Nat) (answer : (request : StoreRequest) → StoreReply request)

namespace Pool

/-- No task has started. -/
def empty : Pool := ⟨[], [], []⟩

/-- The coordinator of the session. -/
def coordinator (pool : Pool) : Coordinator := Coordinator.after pool.steps

/-- Makes a step of the coordinator. -/
def step (pool : Pool) (step : Step) : Pool := { pool with steps := pool.steps ++ [step] }

/-- Puts a request to the database. -/
def dispatch (pool : Pool) : StoreRequest → Pool
  | .execute query =>
    if query.statement.changesRows then
      { pool with writes := pool.writes ++ [⟨query, Coordinator.history pool.steps⟩] }
    else pool
  | _ => pool

/-- Runs an action until it awaits something. -/
def proceed : Action Store Unit → Pool → Task × Pool
  | .done _, pool => (.ended, pool)
  | .fail _, pool => (.ended, pool)
  | .ask (.transact command) next, pool =>
    match ((pool.step (.arrive command)).coordinator).standing? pool.coordinator.requests.length with
    | some (.finished result) => proceed (next result) (pool.step (.arrive command))
    | _ => (.deciding pool.coordinator.requests.length next, pool.step (.arrive command))
  | .ask request next, pool => (.asking request next, pool.dispatch request)

/-- Runs what a task does next. -/
def advance (pool : Pool) (index : Nat) (action : Action Store Unit) : Pool :=
  let (task, later) := proceed action pool
  { later with tasks := later.tasks.set index task }

/-- The task that awaits the decision on a request goes on, if the request is finished. -/
def goOn (pool : Pool) (number : Nat) : Pool :=
  match pool.coordinator.standing? number, pool.tasks.findIdx? (Task.awaits number) with
  | some (.finished result), some index =>
    match pool.tasks[index]? with
    | some (.deciding _ next) => pool.advance index (next result)
    | _ => pool
  | _, _ => pool

/-- The pool after a move. A task that puts a transaction statement goes on as soon as the database
has answered; the others wait until they are woken. -/
def make (pool : Pool) : Move → Pool
  | .start errand =>
    let (task, later) := proceed errand.action pool
    { later with tasks := later.tasks ++ [task] }
  | .answer =>
    match pool.coordinator.inFlight? with
    | some number => (pool.step (.acknowledge (.ok ()))).goOn number
    | none => pool
  | .wake number => (pool.step (.resume number)).goOn number
  | .reply index answer =>
    match pool.tasks[index]? with
    | some (.asking request next) => pool.advance index (next (answer request))
    | _ => pool

/-- The pool after a list of moves. -/
def after (moves : List Move) : Pool := moves.foldl make empty

theorem after_concat (moves : List Move) (move : Move) :
    after (moves ++ [move]) = (after moves).make move := by
  rw [after, List.foldl_append]
  rfl

/-- A task that was woken, or was given a reply, puts a write while no transaction is open. -/
def Late (pool : Pool) : Move → Prop
  | .start _ | .answer => False
  | move => (pool.make move).writes ≠ pool.writes ∧ ¬ pool.coordinator.Opened

/-- Among the moves, a write was late. -/
def Overtaken (moves : List Move) : Prop :=
  ∃ before move rest, moves = before ++ move :: rest ∧ Late (after before) move

end Pool

/-! ### What tasks do next -/

/-- What the task does next is careful, once it knows what it awaits. -/
def Task.Careful (c : Coordinator) : Task → Prop
  | .deciding number next => ∃ command, c.command? number = some command ∧
      ∀ result, (next result).Careful (StoreRequest.opens false (.transact command) result)
  | .asking _ next => ∃ opened, ∀ reply, (next reply).Careful opened
  | .ended => True

theorem Task.Careful.perform {c : Coordinator} {task : Task} (careful : task.Careful c)
    (step : Step) : task.Careful (c.perform step) := by
  cases task with
  | deciding number next =>
    obtain ⟨command, asked, goes⟩ := careful
    exact ⟨command, Coordinator.command?_perform asked step, goes⟩
  | asking request next => exact careful
  | ended => trivial

theorem Errand.action_careful (errand : Errand) : errand.action.Careful false := by
  cases errand with
  | add dialect relation record => exact (Entries.add_opens dialect relation record).careful false
  | update dialect relation record conditions =>
    exact (Entries.update_opens dialect relation record conditions).bind_done.careful false
  | remove dialect relation conditions =>
    exact (Entries.remove_opens dialect relation conditions).bind_done.careful false
  | save => exact Action.careful_transact .commit false
  | revert => exact Action.careful_transact .rollback false

namespace Pool

variable {pool : Pool}

/-- What is kept between moves. -/
structure Steady (pool : Pool) : Prop where
  guarded : pool.coordinator.Guarded
  careful : ∀ task ∈ pool.tasks, task.Careful pool.coordinator

theorem coordinator_step (pool : Pool) (step : Step) :
    (pool.step step).coordinator = pool.coordinator.perform step :=
  Coordinator.after_concat pool.steps step

theorem sound (pool : Pool) : pool.coordinator.Sound := Coordinator.after_sound pool.steps

/-- What is open can be told from the statements that were put. -/
theorem Steady.inside_iff (steady : Steady pool) :
    Inside (Coordinator.history pool.steps) ↔ pool.coordinator.Opened :=
  Coordinator.inside_iff_opened (Coordinator.history_recorded pool.steps) steady.guarded

theorem Steady.step (steady : Steady pool) {step : Step}
    (kept : ∀ number, step ≠ .cancel number) : Steady (pool.step step) := by
  refine ⟨?_, fun task member => ?_⟩
  · rw [coordinator_step]
    refine (Coordinator.perform_guarded_iff pool.sound step).2 ⟨steady.guarded, ?_⟩
    rintro ⟨number, cancels, _⟩
    exact kept number cancels
  · rw [coordinator_step]
    exact (steady.careful task member).perform step

theorem dispatch_steps (pool : Pool) (request : StoreRequest) :
    (pool.dispatch request).steps = pool.steps := by
  unfold dispatch
  split
  · split <;> rfl
  · rfl

theorem dispatch_tasks (pool : Pool) (request : StoreRequest) :
    (pool.dispatch request).tasks = pool.tasks := by
  unfold dispatch
  split
  · split <;> rfl
  · rfl

/-- Only a request that changes rows is noted, with the history. -/
theorem dispatch_writes (pool : Pool) (request : StoreRequest) :
    (pool.dispatch request).writes = pool.writes ∨
      request.Writes ∧ ∃ query, (pool.dispatch request).writes
        = pool.writes ++ [⟨query, Coordinator.history pool.steps⟩] := by
  cases request with
  | execute query =>
    simp only [dispatch]
    split
    · next changes => exact Or.inr ⟨changes, query, rfl⟩
    · exact Or.inl rfl
  | _ => exact Or.inl rfl

theorem Steady.dispatch (steady : Steady pool) (request : StoreRequest) :
    Steady (pool.dispatch request) := by
  have same : (pool.dispatch request).coordinator = pool.coordinator := by
    rw [coordinator, coordinator, dispatch_steps]
  refine ⟨same ▸ steady.guarded, fun task member => ?_⟩
  rw [dispatch_tasks] at member
  exact same ▸ steady.careful task member

/-! ### Until something is awaited -/

theorem proceed_of_ne {request : Store.Request}
    (other : ∀ command, request ≠ StoreRequest.transact command)
    (next : Store.Reply request → Action Store Unit) (pool : Pool) :
    proceed (.ask request next) pool = (.asking request next, pool.dispatch request) := by
  cases request with
  | transact command => exact absurd rfl (other command)
  | _ => rfl

/-- A request is a transaction request or not. -/
theorem transacts_or_not (request : StoreRequest) :
    (∃ command, request = .transact command) ∨ ∀ command, request ≠ .transact command := by
  cases request with
  | transact command => exact Or.inl ⟨command, rfl⟩
  | _ => exact Or.inr nofun

/-- A transaction request that is finished at once has changed nothing that matters. -/
theorem opened_arrive {command : Command} {result : Except StoreError Unit}
    (finished : (pool.step (.arrive command)).coordinator.standing?
      pool.coordinator.requests.length = some (.finished result)) :
    ((pool.step (.arrive command)).coordinator.Opened ↔ pool.coordinator.Opened) ∧
      (command = .begin → pool.coordinator.Opened) := by
  rw [coordinator_step] at finished
  obtain ⟨rests, satisfied, same⟩ := Coordinator.arrive_finished finished
  have still : (pool.step (.arrive command)).coordinator.state = pool.coordinator.state := by
    rw [coordinator_step]
    exact same
  have before := Coordinator.opened_iff_of_rests pool.sound rests
  have later := Coordinator.opened_iff_of_rests (pool.step (.arrive command)).sound
    (still ▸ rests)
  rw [before, later, still]
  refine ⟨Iff.rfl, ?_⟩
  rintro rfl
  exact of_decide_eq_true satisfied

theorem proceed_steady {action : Action Store Unit} {opened : Bool}
    (careful : action.Careful opened) (steady : Steady pool) :
    Steady (proceed action pool).2 ∧ (proceed action pool).2.tasks = pool.tasks ∧
      (proceed action pool).1.Careful (proceed action pool).2.coordinator := by
  induction action generalizing pool opened with
  | done result => exact ⟨steady, rfl, trivial⟩
  | fail error => exact ⟨steady, rfl, trivial⟩
  | ask request next ih =>
    rcases transacts_or_not request with ⟨command, rfl⟩ | other
    · have arrived : Steady (pool.step (.arrive command)) := steady.step (by simp)
      simp only [proceed]
      split
      · next result finished => exact ih result (careful.2 result) arrived
      · refine ⟨arrived, rfl, command, ?_, fun result => ?_⟩
        · rw [coordinator_step]
          exact Coordinator.command?_arrive pool.coordinator command
        · rw [← StoreRequest.opens_transact opened]
          exact careful.2 result
    · rw [proceed_of_ne other]
      refine ⟨steady.dispatch request, dispatch_tasks pool request, opened, fun reply => ?_⟩
      rw [← StoreRequest.opens_eq other opened reply]
      exact careful.2 reply

/-- At most one write is put, and it is inside a transaction exactly when one was open at the
start. -/
theorem proceed_writes (action : Action Store Unit) (steady : Steady pool) :
    (proceed action pool).2.writes = pool.writes ∨
      ∃ write, (proceed action pool).2.writes = pool.writes ++ [write] ∧
        (Inside write.before ↔ pool.coordinator.Opened) := by
  induction action generalizing pool with
  | done result => exact Or.inl rfl
  | fail error => exact Or.inl rfl
  | ask request next ih =>
    rcases transacts_or_not request with ⟨command, rfl⟩ | other
    · simp only [proceed]
      split
      · next result finished =>
        rw [← (opened_arrive finished).1]
        exact ih result (steady.step (by simp))
      · exact Or.inl rfl
    · rw [proceed_of_ne other]
      rcases pool.dispatch_writes request with same | ⟨_, query, put⟩
      · exact Or.inl same
      · exact Or.inr ⟨_, put, steady.inside_iff⟩

/-- A careful action puts a write only if a transaction is open. -/
theorem proceed_opened {action : Action Store Unit} {opened : Bool}
    (careful : action.Careful opened) (open_then : opened = true → pool.coordinator.Opened)
    (put : (proceed action pool).2.writes ≠ pool.writes) : pool.coordinator.Opened := by
  induction action generalizing pool opened with
  | done result => exact absurd rfl put
  | fail error => exact absurd rfl put
  | ask request next ih =>
    rcases transacts_or_not request with ⟨command, rfl⟩ | other
    · simp only [proceed] at put
      split at put
      · next result finished =>
        obtain ⟨same, begins⟩ := opened_arrive finished
        refine same.1 (ih result (careful.2 result) (fun still => same.2 (begins ?_)) put)
        cases command with
        | begin => rfl
        | commit => cases still
        | rollback => cases still
      · exact absurd rfl put
    · rw [proceed_of_ne other] at put
      rcases pool.dispatch_writes request with same | ⟨changes, _⟩
      · exact absurd same put
      · exact open_then (careful.1 changes)

/-! ### One move -/

theorem Steady.advance (steady : Steady pool) {action : Action Store Unit} {opened : Bool}
    (careful : action.Careful opened) (index : Nat) : Steady (pool.advance index action) := by
  obtain ⟨later, same, stands⟩ := proceed_steady careful steady
  refine ⟨later.guarded, fun task member => ?_⟩
  rcases List.mem_or_eq_of_mem_set member with old | rfl
  · exact later.careful task old
  · exact stands

/-- A request that is finished lets the first task go on that awaits it. -/
theorem goOn_cases (pool : Pool) (number : Nat) :
    pool.goOn number = pool ∨ ∃ result index next,
      pool.coordinator.standing? number = some (.finished result) ∧
      pool.tasks[index]? = some (.deciding number next) ∧
      pool.goOn number = pool.advance index (next result) := by
  unfold goOn
  split
  · next result index finished first =>
    split
    · next other next found =>
      have awaits : Task.awaits number (.deciding other next) = true := by
        obtain ⟨inside, holds, _⟩ := List.findIdx?_eq_some_iff_getElem.1 first
        rw [List.getElem?_eq_getElem inside, Option.some.injEq] at found
        rw [← found]
        exact holds
      obtain rfl : other = number := of_decide_eq_true awaits
      exact Or.inr ⟨result, index, next, finished, found, rfl⟩
    · exact Or.inl rfl
  · exact Or.inl rfl

theorem Steady.goOn (steady : Steady pool) (number : Nat) : Steady (pool.goOn number) := by
  rcases pool.goOn_cases number with same | ⟨result, index, next, _, found, goes⟩
  · rw [same]
    exact steady
  · obtain ⟨command, _, careful⟩ := steady.careful _ (List.mem_of_getElem? found)
    rw [goes]
    exact steady.advance (careful result) index

theorem Steady.make (steady : Steady pool) (move : Move) : Steady (pool.make move) := by
  cases move with
  | start errand =>
    obtain ⟨later, same, stands⟩ := proceed_steady errand.action_careful steady
    refine ⟨later.guarded, fun task member => ?_⟩
    rcases List.mem_append.1 member with old | new
    · exact later.careful task old
    · exact List.mem_singleton.1 new ▸ stands
  | answer =>
    simp only [Pool.make]
    split
    · exact (steady.step (by simp)).goOn _
    · exact steady
  | wake number => exact (steady.step (by simp)).goOn number
  | reply index answer =>
    simp only [Pool.make]
    split
    · next request next found =>
      obtain ⟨opened, careful⟩ := steady.careful _ (List.mem_of_getElem? found)
      exact steady.advance (careful (answer request)) index
    · exact steady

/-- The write of a task whose BEGIN was answered is inside the transaction. -/
theorem answer_opened (steady : Steady pool) {number : Nat}
    (flies : pool.coordinator.inFlight? = some number)
    (put : ((pool.step (.acknowledge (.ok ()))).goOn number).writes ≠ pool.writes) :
    (pool.step (.acknowledge (.ok ()))).coordinator.Opened := by
  have answered : Steady (pool.step (.acknowledge (.ok ()))) := steady.step (by simp)
  obtain ⟨asked, issuing⟩ := Coordinator.inFlight?_eq_some flies
  rcases (pool.step (.acknowledge (.ok ()))).goOn_cases number with
    same | ⟨result, index, next, _, found, goes⟩
  · rw [same] at put
    exact absurd rfl put
  · obtain ⟨command, known, careful⟩ := answered.careful _ (List.mem_of_getElem? found)
    rw [goes] at put
    refine proceed_opened (careful result) (fun begins => answered.inside_iff.1 ?_) put
    have before : pool.coordinator.command? number = some asked := by
      simp [Coordinator.command?, issuing]
    have same : asked = command := by
      rw [coordinator_step, Coordinator.command?_perform before] at known
      exact Option.some.inj known
    cases command with
    | begin =>
      subst same
      have inside := Coordinator.inside_of_acknowledge
        (Coordinator.history_recorded pool.steps) flies issuing
      rw [← Coordinator.history_concat] at inside
      exact inside
    | commit => cases begins
    | rollback => cases begins

/-- A woken task finds the transaction as it was before. -/
theorem opened_resume {number : Nat} {result : Except StoreError Unit} (steady : Steady pool)
    (finished : (pool.step (.resume number)).coordinator.standing? number
      = some (.finished result)) :
    (pool.step (.resume number)).coordinator.Opened ↔ pool.coordinator.Opened := by
  have resumed : Steady (pool.step (.resume number)) := steady.step (by simp)
  rw [← steady.inside_iff, ← resumed.inside_iff]
  rw [coordinator_step] at finished
  have same : Coordinator.history (pool.steps ++ [.resume number])
      = Coordinator.history pool.steps :=
    (Coordinator.history_concat _ _).trans (Coordinator.resume_finished finished)
  rw [Pool.step, same]

theorem Steady.goOn_writes (steady : Steady pool) (number : Nat) :
    (pool.goOn number).writes = pool.writes ∨
      (∃ result, pool.coordinator.standing? number = some (.finished result)) ∧
        ∃ write, (pool.goOn number).writes = pool.writes ++ [write] ∧
          (Inside write.before ↔ pool.coordinator.Opened) := by
  rcases pool.goOn_cases number with same | ⟨result, index, next, finished, _, goes⟩
  · exact Or.inl (by rw [same])
  · rw [goes]
    exact (proceed_writes (next result) steady).imp_right fun put => ⟨⟨result, finished⟩, put⟩

theorem reply_cases (pool : Pool) (index : Nat)
    (answer : (request : StoreRequest) → StoreReply request) :
    pool.make (.reply index answer) = pool ∨
      ∃ action, pool.make (.reply index answer) = pool.advance index action := by
  simp only [Pool.make]
  split
  · exact Or.inr ⟨_, rfl⟩
  · exact Or.inl rfl

/-- Whether a move that puts a write is late is a matter of the coordinator. -/
theorem not_late_iff {move : Move} (waited : ∀ errand, move ≠ .start errand)
    (asked : move ≠ .answer) {write : Write}
    (put : (pool.make move).writes = pool.writes ++ [write]) :
    ¬ Late pool move ↔ pool.coordinator.Opened := by
  have changed : (pool.make move).writes ≠ pool.writes := by simp [put]
  cases move with
  | start errand => exact absurd rfl (waited errand)
  | answer => exact absurd rfl asked
  | wake number => simp [Late, changed]
  | reply index answer => simp [Late, changed]

/-- A move puts at most one write, and it is inside a transaction exactly when it is not late. -/
theorem Steady.make_writes (steady : Steady pool) (move : Move) :
    ((pool.make move).writes = pool.writes ∧ ¬ Late pool move) ∨
      ∃ write, (pool.make move).writes = pool.writes ++ [write] ∧
        (Inside write.before ↔ ¬ Late pool move) := by
  cases move with
  | start errand =>
    rcases proceed_writes errand.action steady with same | ⟨write, put, inside⟩
    · exact Or.inl ⟨same, id⟩
    · have opened : pool.coordinator.Opened :=
        proceed_opened errand.action_careful (by simp) (by simp [put])
      exact Or.inr ⟨write, put, iff_of_true (inside.2 opened) id⟩
  | answer =>
    cases flies : pool.coordinator.inFlight? with
    | none => exact Or.inl ⟨by simp only [Pool.make, flies], id⟩
    | some number =>
      have makes : pool.make .answer = (pool.step (.acknowledge (.ok ()))).goOn number := by
        simp only [Pool.make, flies]
      rw [makes]
      have answered : Steady (pool.step (.acknowledge (.ok ()))) := steady.step (by simp)
      rcases answered.goOn_writes number with same | ⟨_, write, put, inside⟩
      · exact Or.inl ⟨same, id⟩
      · have opened := answer_opened steady flies (by rw [put]; simp [Pool.step])
        exact Or.inr ⟨write, put, iff_of_true (inside.2 opened) id⟩
  | wake number =>
    have resumed : Steady (pool.step (.resume number)) := steady.step (by simp)
    rcases resumed.goOn_writes number with same | ⟨⟨result, finished⟩, write, put, inside⟩
    · exact Or.inl ⟨same, fun late => late.1 same⟩
    · have put_in_pool : (pool.make (.wake number)).writes = pool.writes ++ [write] := put
      refine Or.inr ⟨write, put, ?_⟩
      rw [inside, opened_resume steady finished, not_late_iff (by simp) (by simp) put_in_pool]
  | reply index answer =>
    rcases pool.reply_cases index answer with same | ⟨action, makes⟩
    · exact Or.inl ⟨by rw [same], fun late => late.1 (by rw [same])⟩
    · rcases proceed_writes action steady with same | ⟨write, put, inside⟩
      · exact Or.inl ⟨by rw [makes]; exact same, fun late => late.1 (by rw [makes]; exact same)⟩
      · have put_in_pool : (pool.make (.reply index answer)).writes = pool.writes ++ [write] := by
          rw [makes]
          exact put
        refine Or.inr ⟨write, put_in_pool, ?_⟩
        rw [inside, not_late_iff (by simp) (by simp) put_in_pool]

/-! ### A whole run -/

theorem after_steady (moves : List Move) : Steady (after moves) := by
  induction moves using List.reverseRecOn with
  | nil =>
    exact ⟨fun transits => (nomatch transits), fun task member => absurd member List.not_mem_nil⟩
  | append_singleton moves move ih =>
    rw [after_concat]
    exact ih.make move

theorem overtaken_concat (moves : List Move) (move : Move) :
    Overtaken (moves ++ [move]) ↔ Overtaken moves ∨ Late (after moves) move :=
  exists_split_concat (fun before move => Late (after before) move) moves move

/-- Whatever tasks start and whatever order they go on in: every write is put inside a transaction
that a BEGIN has opened, exactly when no write is late. -/
theorem writes_inside_iff (moves : List Move) :
    (∀ write ∈ (after moves).writes, Inside write.before) ↔ ¬ Overtaken moves := by
  induction moves using List.reverseRecOn with
  | nil =>
    refine iff_of_true (fun write member => absurd member List.not_mem_nil) ?_
    rintro ⟨before, move, rest, split, _⟩
    simp at split
  | append_singleton moves move ih =>
    rw [overtaken_concat, not_or, ← ih, after_concat]
    rcases (after_steady moves).make_writes move with ⟨same, timely⟩ | ⟨write, put, inside⟩
    · rw [same]
      exact ⟨fun all => ⟨all, timely⟩, fun both => both.1⟩
    · rw [put, ← inside]
      simp [or_imp, forall_and]

/-- Adds a key. -/
def addsKey (id : String) : Move := .start (.add .sqlite Relation.keys (.ofList [("id", .text id)]))

/-- Two writers and a COMMIT ask at the same time. The second writer is told that the transaction is
open, but the COMMIT, which was chosen together with that, is put before it goes on. -/
def overtakenMoves : List Move :=
  [addsKey "A", addsKey "B", .start .save, .answer, .wake 2, .wake 1]

theorem writes_not_inside :
    ¬ ∀ write ∈ (after overtakenMoves).writes, Inside write.before := by
  have put : (after overtakenMoves).writes.map (·.before)
      = [[⟨0, .begin, .answered (.ok ())⟩],
        [⟨0, .begin, .answered (.ok ())⟩, ⟨2, .commit, .inFlight⟩]] := rfl
  intro inside
  obtain ⟨write, member, last⟩ : ∃ write ∈ (after overtakenMoves).writes, write.before
      = [⟨0, .begin, .answered (.ok ())⟩, ⟨2, .commit, .inFlight⟩] :=
    List.mem_map.1 (put ▸ by simp)
  obtain ⟨number, at_end⟩ := inside write member
  rw [last] at at_end
  cases at_end

end Pool

end KeyStore
