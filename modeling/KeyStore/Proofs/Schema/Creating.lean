import Mathlib.Data.Finset.Lattice.Lemmas
import KeyStore.Proofs.Sequence.Stages
import KeyStore.Proofs.Session.Transact
import KeyStore.Schema.Bootstrap

/-!
# Creating what is missing

Which names are there is asked once, before anything is created. Each object then has one fate: it
is skipped if its name was there, and otherwise its statement is put, once and in its turn, and
succeeds or fails. The report is the objects sorted by their fates (`run_createMissing`).

Of the database only this is assumed (`Backend.Registers`): an answer to the question for the names
is what is there, a creation that succeeds adds a name, and one that fails adds none. What is there
after a bootstrap is then what was there and what it has created, and this decides what a second
bootstrap is left to do.

Main statement: `bootstrap_creates_missing`.
-/

namespace KeyStore

theorem FieldMap.mem_fields_iff {α : Type} (map : FieldMap α) (field : String) :
    field ∈ map.fields ↔ map.contains field = true := by
  simp [fields, contains, Option.isSome_iff_exists, ← mem_toList_iff]

/-! ### Fates -/

namespace Schema

/-- What becomes of an object. -/
inductive Fate where
  | created
  | skipped
  | failed (error : StoreError)
deriving DecidableEq, Repr

/-- What becomes of an object that was not there, by the reply to its statement. -/
def Fate.ofReply : Except StoreError UInt64 → Fate
  | .ok _ => .created
  | .error error => .failed error

/-- The report on some objects, each with what has become of it. -/
def Report.ofFates (fated : List (Object × Fate)) : Report where
  created := fated.filterMap fun
    | (object, .created) => some object.name
    | _ => none
  skipped := fated.filterMap fun
    | (object, .skipped) => some object.name
    | _ => none
  failed := fated.filterMap fun
    | (object, .failed error) => some (object.name, error)
    | _ => none

/-- One report after the other. -/
def Report.append (first second : Report) : Report where
  created := first.created ++ second.created
  skipped := first.skipped ++ second.skipped
  failed := first.failed ++ second.failed

/-- The objects whose names are not among those that are there. -/
def missing (present : Finset String) (objects : List Object) : List Object :=
  objects.filter fun object => object.name ∉ present

theorem Report.ofFates_cons (object : Object) (fate : Fate) (fated : List (Object × Fate)) :
    Report.ofFates ((object, fate) :: fated)
      = (Report.ofFates [(object, fate)]).append (Report.ofFates fated) := by
  cases fate <;> rfl

/-- When every object is skipped, the report is the list of their names. -/
theorem Report.ofFates_of_skipped {fated : List (Object × Fate)}
    (skips : ∀ entry ∈ fated, entry.2 = .skipped) :
    Report.ofFates fated = ⟨[], fated.map (·.1.name), []⟩ := by
  induction fated with
  | nil => rfl
  | cons entry rest ih =>
    obtain ⟨object, fate⟩ := entry
    obtain ⟨rfl, others⟩ := List.forall_mem_cons.1 skips
    rw [ofFates_cons, ih others]
    rfl

theorem Report.append_assoc (first second third : Report) :
    (first.append second).append third = first.append (second.append third) := by
  simp [append]

end Schema

open Schema

/-! ### Databases -/

/-- The statement that creates an object in the schema of a keyring. -/
def Keyring.creation (keyring : Keyring) (object : Object) : Query :=
  ⟨.create keyring.schema object, []⟩

/-- What a bootstrap asks first. -/
def Keyring.namesAsked (keyring : Keyring) : Session.Event :=
  .fetched keyring.namesQuery [⟨"name", .text⟩]

namespace Backend

variable {σ : Type}

/-- The reply to the question for the names in the schema of a keyring. -/
def replyNames (backend : Backend σ) (keyring : Keyring) (database : σ) :
    Except StoreError (List Record) × σ :=
  backend.fetch keyring.namesQuery [⟨"name", .text⟩] database

/-- Runs statements one after the other, whatever the reply to each. -/
def executeEach (backend : Backend σ) :
    List Query → σ → List (Except StoreError UInt64) × σ
  | [], database => ([], database)
  | query :: rest, database =>
    let (reply, database) := backend.execute query database
    let (replies, database) := backend.executeEach rest database
    (reply :: replies, database)

theorem executeEach_cons (backend : Backend σ) {query : Query} {rest : List Query}
    {before between after : σ} {reply : Except StoreError UInt64}
    {replies : List (Except StoreError UInt64)}
    (first : backend.execute query before = (reply, between))
    (others : backend.executeEach rest between = (replies, after)) :
    backend.executeEach (query :: rest) before = (reply :: replies, after) := by
  simp only [executeEach, first, others]

/-- The database keeps `names` of what is in the schema of the keyring: it answers with them, a
creation that succeeds adds one, and one that fails adds none. -/
structure Registers (backend : Backend σ) (keyring : Keyring) (names : σ → Finset String) :
    Prop where
  lists : ∀ database rows after, backend.replyNames keyring database = (.ok rows, after) →
    names after = names database ∧
      ∀ name, name ∈ names database ↔ ∃ row ∈ rows, row.text? "name" = some name
  creates : ∀ object database count after,
    backend.execute (keyring.creation object) database = (.ok count, after) →
      names after = insert object.name (names database)
  refuses : ∀ object database error after,
    backend.execute (keyring.creation object) database = (.error error, after) →
      names after = names database

end Backend

/-- The session after some statements that have left this state of the database. -/
def Session.after {σ : Type} (session : Session σ) (put : List Query) (database : σ) : Session σ :=
  { session with database, journal := session.journal ++ put.map .executed }

theorem Session.run_fetch {σ : Type} (backend : Backend σ) (codec : Codec) (query : Query)
    (shape : RowShape) (session : Session σ) :
    (Store.fetch query shape).run (handle backend codec) session
      = session.fetch backend query shape :=
  Action.run_requestOrFail (I := Store) (.fetch query shape) id session

/-- The session after the question for the names that has left this state of the database. -/
def Session.asked {σ : Type} (session : Session σ) (keyring : Keyring) (database : σ) :
    Session σ :=
  { session.record keyring.namesAsked with database }

theorem Session.after_after {σ : Type} (session : Session σ) (first second : List Query)
    (between database : σ) :
    (session.after first between).after second database
      = session.after (first ++ second) database := by
  simp [after]

/-! ### One bootstrap -/

namespace Keyring

variable {σ : Type} {backend : Backend σ} {keyring : Keyring} {names : σ → Finset String}

theorem missing_cons_of_mem {there : Finset String} {object : Object} {rest : List Object}
    (here : object.name ∈ there) : missing there (object :: rest) = missing there rest :=
  List.filter_cons_of_neg (by simpa using here)

theorem missing_cons_of_notMem {there : Finset String} {object : Object} {rest : List Object}
    (absent : object.name ∉ there) :
    missing there (object :: rest) = object :: missing there rest :=
  List.filter_cons_of_pos (by simpa using absent)

/-- The statement of an object gets its reply, whatever that is. -/
theorem run_creation (codec : Codec) (object : Object) (session : Session σ)
    {reply : Except StoreError UInt64} {database : σ}
    (put : backend.execute (keyring.creation object) session.database = (reply, database)) :
    (Store.execute (keyring.creation object)).attempt.run (Session.handle backend codec) session
      = (.ok reply, session.after [keyring.creation object] database) := by
  rw [Action.run_attempt, Session.run_execute, Session.execute]
  simp [put, Session.record, Session.after]

/-- A name is there after its creation if it was there before or the creation succeeds. -/
theorem names_creation (registers : backend.Registers keyring names) {object : Object}
    {before database : σ} {reply : Except StoreError UInt64}
    (put : backend.execute (keyring.creation object) before = (reply, database)) :
    names database
      = names before ∪ (Report.ofFates [(object, .ofReply reply)]).created.toFinset := by
  cases reply with
  | ok count =>
    rw [registers.creates object _ count database put]
    ext name
    simp [Report.ofFates, Fate.ofReply]
  | error error =>
    rw [registers.refuses object _ error database put]
    simp [Report.ofFates, Fate.ofReply]

/-- The fates of some objects: those whose names are there are skipped, and the others share the
replies in their order. -/
structure Fated (objects : List Object) (there : Finset String)
    (replies : List (Except StoreError UInt64)) (fated : List (Object × Fate)) : Prop where
  each : fated.map (·.1) = objects
  skips : ∀ entry ∈ fated, entry.2 = .skipped ↔ entry.1.name ∈ there
  others : (fated.filter (·.2 ≠ .skipped)).map (·.2) = replies.map Fate.ofReply

/-- The question for the names gets its reply. -/
theorem run_namesAsked (codec : Codec) {session : Session σ}
    {reply : Except StoreError (List Record)} {between : σ}
    (asked : backend.replyNames keyring session.database = (reply, between)) :
    (Store.fetch keyring.namesQuery [⟨"name", .text⟩]).run (Session.handle backend codec) session
      = (reply, session.asked keyring between) := by
  rw [Session.run_fetch, Session.fetch]
  rw [Backend.replyNames] at asked
  simp only [Session.record, asked]
  rfl

/-- Going through some objects gives each its fate and puts the statements of those that are
missing. -/
theorem run_createMissing (registers : backend.Registers keyring names) (codec : Codec)
    {present : List String} {there : Finset String}
    (same : ∀ name, name ∈ present ↔ name ∈ there) (objects : List Object) (report : Report)
    (session : Session σ) :
    ∃ fated replies database,
      backend.executeEach ((missing there objects).map keyring.creation) session.database
        = (replies, database) ∧
      Fated objects there replies fated ∧
      names database = names session.database ∪ (Report.ofFates fated).created.toFinset ∧
      (keyring.createMissing present objects report).run (Session.handle backend codec) session
        = (.ok (report.append (.ofFates fated)),
          session.after ((missing there objects).map keyring.creation) database) := by
  -- The names are not asked for again: `there` stays what it was before the first object, while
  -- the database and the report go on. So an object is put even if one of its name has been made.
  induction objects generalizing report session with
  | nil =>
    refine ⟨[], [], session.database, rfl, ⟨rfl, nofun, rfl⟩, ?_, ?_⟩
    · simp [Report.ofFates]
    · simp [createMissing, Action.run, Report.append, Report.ofFates, missing, Session.after]
  | cons object rest ih =>
    by_cases here : object.name ∈ there
    · obtain ⟨fated, replies, database, put, ⟨each, skips, others⟩, left, ran⟩ :=
        ih (report.append (.ofFates [(object, .skipped)])) session
      rw [missing_cons_of_mem here]
      refine ⟨(object, .skipped) :: fated, replies, database, put,
        ⟨by simp [each], ?_, by simpa using others⟩, left, ?_⟩
      · exact List.forall_mem_cons.2 ⟨by simpa using here, skips⟩
      · rw [Report.ofFates_cons, ← Report.append_assoc, ← ran, createMissing,
          if_pos (by simpa using (same _).2 here)]
        simp [Report.append, Report.ofFates]
    · cases first : backend.execute (keyring.creation object) session.database with
      | mk reply between =>
        obtain ⟨fated, replies, database, put, ⟨each, skips, others⟩, left, ran⟩ :=
          ih (report.append (.ofFates [(object, .ofReply reply)]))
            (session.after [keyring.creation object] between)
        have fates := Report.ofFates_cons object (.ofReply reply) fated
        rw [missing_cons_of_notMem here, List.map_cons]
        refine ⟨(object, .ofReply reply) :: fated, reply :: replies, database, ?_,
          ⟨by simp [each], ?_, ?_⟩, ?_, ?_⟩
        · exact backend.executeEach_cons first put
        · refine List.forall_mem_cons.2 ⟨?_, skips⟩
          cases reply <;> simp [Fate.ofReply, here]
        · rw [List.map_cons, ← others]
          cases reply <;> simp [Fate.ofReply]
        · rw [fates, Report.append, List.toFinset_append, ← Finset.union_assoc,
            ← names_creation registers first]
          exact left
        · have goes := run_creation codec object session first
          rw [createMissing, if_neg (by simpa using fun there => here ((same _).1 there)), fates,
            ← Report.append_assoc]
          refine (Action.run_bind_of_ok goes).trans (Eq.trans ?_ (ran.trans ?_))
          · cases reply <;> simp [Fate.ofReply, Report.append, Report.ofFates]
          · rw [Session.after_after]
            rfl

/-- An answer to the question for the names is kept as a list of what is there. -/
theorem run_relationNames (registers : backend.Registers keyring names) (codec : Codec)
    {session : Session σ} {rows : List Record} {between : σ}
    (asked : backend.replyNames keyring session.database = (.ok rows, between)) :
    ∃ present, (∀ name, name ∈ present ↔ name ∈ names session.database) ∧
      keyring.relationNames.run (Session.handle backend codec) session
        = (.ok present, session.asked keyring between) := by
  refine ⟨_, fun name => ?_, Action.run_bind_of_ok (run_namesAsked codec asked)⟩
  rw [(registers.lists _ _ _ asked).2, FieldMap.mem_fields_iff, FieldMap.contains_ofList,
    List.any_map, List.any_eq_true]
  simp [List.mem_filterMap]

/-- Without an answer to the question for the names nothing is created. -/
theorem run_bootstrap_of_error (codec : Codec) (objects : List Object) {session : Session σ}
    {error : StoreError} {between : σ}
    (asked : backend.replyNames keyring session.database = (.error error, between)) :
    (keyring.bootstrap objects).run (Session.handle backend codec) session
      = (.error error, session.asked keyring between) := by
  have fails : keyring.relationNames.run (Session.handle backend codec) session = _ :=
    (Action.run_bind _ _ _).trans (by rw [run_namesAsked codec asked])
  exact (Action.run_bind _ _ _).trans (by rw [fails])

/-- What a bootstrap has done when the names in `there` were there and its question has left the
database `between`. -/
structure Bootstrapped (backend : Backend σ) (keyring : Keyring) (objects : List Object)
    (there : Finset String) (between : σ) (before after : Session σ) (report : Report) :
    Prop where
  /-- One statement for each missing object is put, in order, and nothing else. -/
  leaves : after = (before.asked keyring between).after
    ((missing there objects).map keyring.creation)
    (backend.executeEach ((missing there objects).map keyring.creation) between).2
  /-- Each object has one fate, and the report is sorted by them. -/
  reports : ∃ fated, report = .ofFates fated ∧ Fated objects there
    (backend.executeEach ((missing there objects).map keyring.creation) between).1 fated

theorem run_bootstrap (registers : backend.Registers keyring names) (codec : Codec)
    (objects : List Object) {session : Session σ} {rows : List Record} {between : σ}
    (asked : backend.replyNames keyring session.database = (.ok rows, between)) :
    ∃ report later,
      (keyring.bootstrap objects).run (Session.handle backend codec) session
        = (.ok report, later) ∧
      Bootstrapped backend keyring objects (names session.database) between session later report ∧
      names later.database = names session.database ∪ report.created.toFinset := by
  obtain ⟨present, same, kept⟩ := run_relationNames registers codec asked
  obtain ⟨fated, replies, database, put, fates, left, ran⟩ :=
    run_createMissing registers codec same objects ⟨[], [], []⟩ (session.asked keyring between)
  refine ⟨_, _, (Action.run_bind_of_ok kept).trans ran, ⟨?_, fated, rfl, ?_⟩, ?_⟩
  · exact (congrArg Prod.snd put) ▸ rfl
  · exact (congrArg Prod.fst put) ▸ fates
  · exact left.trans (congrArg (· ∪ _) (registers.lists _ _ _ asked).1)

/-- When nothing has failed, nothing is missing from what was there and what was created. -/
theorem Bootstrapped.missing_of_isComplete {objects : List Object} {there : Finset String}
    {between : σ} {before after : Session σ} {report : Report}
    (bootstrapped : Bootstrapped backend keyring objects there between before after report)
    (complete : report.isComplete = true) :
    missing (there ∪ report.created.toFinset) objects = [] := by
  obtain ⟨fated, rfl, ⟨each, skips, -⟩⟩ := bootstrapped.reports
  refine List.filter_eq_nil_iff.2 fun object listed => ?_
  obtain ⟨⟨_, fate⟩, entered, rfl⟩ := List.mem_map.1 (each ▸ listed)
  rw [decide_eq_true_iff, not_not, Finset.mem_union, List.mem_toFinset]
  cases fate with
  | created => exact .inr (List.mem_filterMap.2 ⟨_, entered, rfl⟩)
  | skipped => exact .inl ((skips _ entered).1 rfl)
  | failed error =>
    have noted : (_, error) ∈ (Report.ofFates fated).failed :=
      List.mem_filterMap.2 ⟨_, entered, rfl⟩
    rw [List.isEmpty_iff.1 complete] at noted
    cases noted

/-- When nothing is missing, the question is all, and every object is skipped. -/
theorem Bootstrapped.eq_of_missing {objects : List Object} {there : Finset String}
    {between : σ} {before after : Session σ} {report : Report}
    (bootstrapped : Bootstrapped backend keyring objects there between before after report)
    (nothing : missing there objects = []) :
    report = ⟨[], objects.map (·.name), []⟩ ∧
      after.journal = before.journal ++ [keyring.namesAsked] := by
  obtain ⟨fated, rfl, ⟨rfl, skips, -⟩⟩ := bootstrapped.reports
  constructor
  · rw [Report.ofFates_of_skipped, List.map_map]
    · rfl
    · intro entry entered
      have kept := List.filter_eq_nil_iff.1 nothing entry.1 (List.mem_map_of_mem entered)
      exact (skips entry entered).2 (by simpa using kept)
  · rw [bootstrapped.leaves, nothing]
    simp [Session.after, Session.asked, Session.record]

/-- A bootstrap that gets no answer to its question creates nothing and fails. One that gets an
answer puts one statement for each object that was not there, in order and whatever becomes of the
others, and reports the fate of each. A second one with the same objects puts statements only for
those that neither were there nor were created by the first, so that after a first one without
failures it only asks, and skips every object. -/
theorem bootstrap_creates_missing (registers : backend.Registers keyring names) (codec : Codec)
    (objects : List Object) (session : Session σ) :
    (∀ error between, backend.replyNames keyring session.database = (.error error, between) →
      (keyring.bootstrap objects).run (Session.handle backend codec) session
        = (.error error, session.asked keyring between)) ∧
    (∀ rows between, backend.replyNames keyring session.database = (.ok rows, between) →
      ∃ report later,
        (keyring.bootstrap objects).run (Session.handle backend codec) session
          = (.ok report, later) ∧
        Bootstrapped backend keyring objects (names session.database) between session later
          report ∧
        ∀ rows between, backend.replyNames keyring later.database = (.ok rows, between) →
          ∃ second last,
            (keyring.bootstrap objects).run (Session.handle backend codec) later
              = (.ok second, last) ∧
            Bootstrapped backend keyring objects
              (names session.database ∪ report.created.toFinset) between later last second ∧
            (report.isComplete = true → second = ⟨[], objects.map (·.name), []⟩ ∧
              last.journal = later.journal ++ [keyring.namesAsked])) := by
  refine ⟨fun error between => run_bootstrap_of_error codec objects, fun rows between asked => ?_⟩
  obtain ⟨report, later, ran, first, left⟩ := run_bootstrap registers codec objects asked
  refine ⟨report, later, ran, first, fun rows between asked => ?_⟩
  obtain ⟨second, last, again, bootstrapped, -⟩ := run_bootstrap registers codec objects asked
  -- What is there when the second one asks is what the first one has found and created.
  rw [left] at bootstrapped
  exact ⟨second, last, again, bootstrapped, fun complete =>
    bootstrapped.eq_of_missing (first.missing_of_isComplete complete)⟩

/-- A database that is a list of names, where what is called `locked` cannot be created. -/
def nameList : Backend (List String) where
  dialect := .sqlite
  execute query present :=
    match query.statement with
    | .create _ object =>
      if object.name = "locked" then (.error (.storage "locked"), present)
      else (.ok 0, present ++ [object.name])
    | _ => (.ok 0, present)
  fetch _ _ present :=
    (.ok (present.map fun name => FieldMap.empty.insert "name" (.text name)), present)
  stream _ _ present := (.error (.storage "no streams"), present)

theorem nameList_registers : nameList.Registers ⟨.sqlite, "main"⟩ List.toFinset where
  lists present rows after asked := by
    cases asked
    simp [Record.text?, Record.value, Value.text?]
  creates object present count after put := by
    by_cases locked : object.name = "locked"
    · simp [nameList, creation, locked] at put
    · obtain ⟨-, rfl⟩ : _ ∧ present ++ [object.name] = after := by
        simpa [nameList, creation, locked] using put
      ext name
      simp
  refuses object present error after put := by
    by_cases locked : object.name = "locked"
    · obtain ⟨-, rfl⟩ : _ ∧ present = after := by simpa [nameList, creation, locked] using put
      rfl
    · simp [nameList, creation, locked] at put

/-- Four tables, two of which have the same name. -/
def fourTables : List Object :=
  ["keys", "locked", "notes", "notes"].map fun name => ⟨"CREATE", .table, name, " ()"⟩

theorem bootstrap_creates_missing_fourTables :
    nameList.Registers ⟨.sqlite, "main"⟩ List.toFinset ∧
    (∃ later, (bootstrap ⟨.sqlite, "main"⟩ fourTables).run
        (Session.handle nameList fun _ _ => .ok .empty) (.start ["keys"])
      = (.ok ⟨["notes", "notes"], ["keys"], [("locked", .storage "locked")]⟩, later) ∧
      Bootstrapped nameList ⟨.sqlite, "main"⟩ fourTables {"keys"} ["keys"] (.start ["keys"]) later
        ⟨["notes", "notes"], ["keys"], [("locked", .storage "locked")]⟩) ∧
    ∃ later last, (bootstrap ⟨.sqlite, "main"⟩ fourTables).run
        (Session.handle nameList fun _ _ => .ok .empty) (.start ["keys", "locked"])
      = (.ok ⟨["notes", "notes"], ["keys", "locked"], []⟩, later) ∧
      (bootstrap ⟨.sqlite, "main"⟩ fourTables).run
        (Session.handle nameList fun _ _ => .ok .empty) later
      = (.ok ⟨[], ["keys", "locked", "notes", "notes"], []⟩, last) ∧
      last.journal = later.journal ++ [namesAsked ⟨.sqlite, "main"⟩] := by
  refine ⟨nameList_registers, ?_, ?_⟩
  · obtain ⟨report, later, ran, done, -⟩ := (bootstrap_creates_missing nameList_registers
      (fun _ _ => .ok .empty) fourTables (.start ["keys"])).2 _ _ rfl
    obtain rfl : _ = report := Except.ok.inj (congrArg Prod.fst ran)
    exact ⟨later, ran, done⟩
  · obtain ⟨report, later, ran, -, again⟩ := (bootstrap_creates_missing nameList_registers
      (fun _ _ => .ok .empty) fourTables (.start ["keys", "locked"])).2 _ _ rfl
    obtain rfl : _ = report := Except.ok.inj (congrArg Prod.fst ran)
    obtain ⟨second, last, after, -, kept⟩ := again _ _ rfl
    obtain ⟨rfl, journal⟩ := kept rfl
    exact ⟨later, last, ran, after, journal⟩

end Keyring

end KeyStore
