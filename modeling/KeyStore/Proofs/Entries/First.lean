import KeyStore.Proofs.Entries.Streaming
import KeyStore.Proofs.Sequence.Outcomes

/-!
# The first record

An entry is looked up by a query that may end in LIMIT 1, and whether there is one by a query that
fetches no column but those that are tested in process. Either finds what comes first when all
entries are read: a record, an error, or the end (`first_of_all`). This takes a database that
answers a limited query with the first row of its answer to the query without a limit.

That entries exist can also be told from a read of any other fields, if the database finds the same
rows whatever columns it is asked for, and if a packet that is shown as a field has no column below
it. Neither can be left out (`existence_misjudged`).
-/

namespace KeyStore

open Sql

namespace Sequence

variable {I : Interface} {α σ : Type} {handle : Handler I σ}

/-- What comes first: an item, an error, or the end. -/
abbrev leading (handle : Handler I σ) (source : Sequence I α) (state : σ) :
    Except StoreError (Option α) :=
  (source.next handle state).1.1

theorem run_first_eq_leading (source : Sequence I α) (state : σ) :
    (source.first.run handle state).1 = source.leading handle state := by
  induction source generalizing state with
  | nil => rfl
  | fail error => rfl
  | cons item rest ih => rfl
  | ask request next ih => exact ih _ _

end Sequence

variable {σ : Type}

/-- A limited SELECT is answered with the first row of the answer to the SELECT without a limit. -/
def Backend.Limits (backend : Backend σ) : Prop :=
  ∀ projection relation conditions args shape state,
    (backend.stream ⟨.select projection relation conditions (some "LIMIT 1"), args⟩ shape state).1
      = (backend.stream ⟨.select projection relation conditions none, args⟩ shape state).1.map
          (·.take 1)

/-- The database finds these rows of the relation, whatever columns are fetched of them. Errors may
stand between them. -/
def Backend.Finds (backend : Backend σ) (relation : Relation) (conditions : Conditions)
    (database : σ) (found : Except StoreError (List (Except StoreError (StoredRow relation)))) :
    Prop :=
  ∀ columns query,
    Query.select backend.dialect relation (.columns columns)
      (Entries.filterPlan backend.dialect relation conditions).sql none = .ok query →
    (backend.stream query (relation.shape columns) database).1
      = found.map (List.map (Except.map fun row => row.cells.project columns))

namespace Entries

variable {backend : Backend σ} {codec : Codec} {session : Session σ} {relation : Relation}
  {conditions app : Conditions} {fields : Option (List String)} {plan : FetchPlan}

/-! ### What a read makes of rows -/

/-- The record of a fetched row, if its packet is read. -/
def recordOf (codec : Codec) (relation : Relation) (row : Record) : Except StoreError Record :=
  match packet? relation row with
  | none => .ok (showPacket relation row)
  | some packet => (codec relation.kind packet).map (showPacket relation row).overlay

/-- The records that come of the rows that are streamed. -/
def recordsOf (codec : Codec) (relation : Relation) (fields : Option (List String))
    (plan : FetchPlan) (app : Conditions) (rows : Outcome Record) : Outcome Record :=
  let decoded := if plan.decode then rows.map (recordOf codec relation) else rows
  let kept := if app.isEmpty then decoded else decoded.filter fun entry => .ok (app.accepts entry)
  match fields with
  | some names => kept.map fun entry => .ok (entry.project names)
  | none => kept

theorem run_decode_fst (backend : Backend σ) (codec : Codec) (kind : PacketKind)
    (packet : List UInt8) (session : Session σ) :
    ((Store.decode kind packet).run (Session.handle backend codec) session).1
      = codec kind packet :=
  congrArg Prod.fst (Action.run_requestOrFail (I := Store) (.decode kind packet) id session)

theorem run_reconstruct_fst (row : Record) (session : Session σ) :
    ((reconstruct relation row).run (Session.handle backend codec) session).1
      = recordOf codec relation row := by
  unfold reconstruct recordOf
  cases packet? relation row with
  | none => rfl
  | some packet =>
    refine (congrArg Prod.fst (Action.run_bind _ _ session)).trans ?_
    dsimp only
    rw [← run_decode_fst backend codec relation.kind packet session]
    rcases (Store.decode relation.kind packet).run (Session.handle backend codec) session with
      ⟨result, later⟩
    cases result <;> rfl

/-- Reading the packet of a row gives the same at any time. -/
def reconstructs (backend : Backend σ) (codec : Codec) (relation : Relation) :
    Repeatable (Session.handle backend codec) Record Record where
  act := reconstruct relation
  value := recordOf codec relation
  ends := run_reconstruct_fst

/-- A total function gives the same at any time. -/
def computes {α β : Type} (backend : Backend σ) (codec : Codec) (f : α → β) :
    Repeatable (Session.handle backend codec) α β where
  act item := .done (f item)
  value item := .ok (f item)
  ends _ _ := rfl

/-- A read has the records that come of its rows. -/
theorem ofRows_has {rows : Outcome Record} {source : Sequence Store Record}
    (has : source.Has (Session.handle backend codec) rows.failure rows.items) :
    (ofRows relation fields plan app source).Has (Session.handle backend codec)
      (recordsOf codec relation fields plan app rows).failure
      (recordsOf codec relation fields plan app rows).items := by
  unfold ofRows recordsOf
  have decoded : (if plan.decode then source.map (reconstruct relation) else source).Has
      (Session.handle backend codec)
      (if plan.decode then rows.map (recordOf codec relation) else rows).failure
      (if plan.decode then rows.map (recordOf codec relation) else rows).items := by
    split
    · exact has.map (reconstructs backend codec relation)
    · exact has
  generalize (if plan.decode then source.map (reconstruct relation) else source) = records
    at decoded ⊢
  generalize (if plan.decode then rows.map (recordOf codec relation) else rows) = outcome
    at decoded ⊢
  have kept : (if app.isEmpty then records else records.filter app.accepts).Has
      (Session.handle backend codec)
      (if app.isEmpty then outcome else outcome.filter fun entry => .ok (app.accepts entry)).failure
      (if app.isEmpty then outcome else
        outcome.filter fun entry => .ok (app.accepts entry)).items := by
    split
    · exact decoded
    · exact decoded.filterM (computes backend codec app.accepts)
  cases fields with
  | none => exact kept
  | some names => exact kept.map (computes backend codec fun entry => entry.project names)

/-- A query that is refused ends the read. -/
theorem ofRows_fail (error : StoreError) :
    ofRows relation fields plan app (.fail error) = .fail error := by
  unfold ofRows
  cases plan.decode <;> cases app.isEmpty <;> cases fields <;> rfl

/-- Where nothing is tested in process, one row is enough for the first record. -/
theorem next_recordsOf_take (nothing : app.isEmpty = true)
    (rows : List (Except StoreError Record)) :
    (recordsOf codec relation fields plan app (.ofItems (rows.take 1))).next.1
      = (recordsOf codec relation fields plan app (.ofItems rows)).next.1 := by
  unfold recordsOf
  simp only [nothing, if_true]
  have decoded : (if plan.decode then (Outcome.ofItems (rows.take 1)).map (recordOf codec relation)
      else .ofItems (rows.take 1)).next.1
      = (if plan.decode then (Outcome.ofItems rows).map (recordOf codec relation)
      else .ofItems rows).next.1 := by
    split
    · exact Outcome.next_map_congr (Outcome.next_ofItems_take rows) _
    · exact Outcome.next_ofItems_take rows
  cases fields with
  | none => exact decoded
  | some names => exact Outcome.next_map_congr decoded _

/-! ### What comes first -/

/-- What comes first of a read is decided by the reply to its query. -/
theorem leading_select (codec : Codec) (session : Session σ) {single : Bool} {query : Query}
    (made : Query.select backend.dialect relation
      (.columns (fetched backend.dialect relation conditions fields).columns)
      (filterPlan backend.dialect relation conditions).sql
      (if limits backend.dialect relation conditions single then some "LIMIT 1" else none)
      = .ok query) :
    (select backend.dialect relation conditions fields single).leading
        (Session.handle backend codec) session
      = (backend.stream query
          (relation.shape (fetched backend.dialect relation conditions fields).columns)
          session.database).1.bind fun rows =>
        (recordsOf codec relation fields (fetched backend.dialect relation conditions fields)
          (filterPlan backend.dialect relation conditions).app (.ofItems rows)).next.1 := by
  have asks := (select_eq made).trans (ofRows_ask _ _ _)
  rw [asks]
  simp only [Sequence.leading, Sequence.next, Session.handle, Session.stream, Session.record]
  rcases backend.stream query
    (relation.shape (fetched backend.dialect relation conditions fields).columns)
    session.database with ⟨reply, database⟩
  cases reply with
  | error error =>
    rw [ofRows_fail]
    rfl
  | ok rows => exact ((ofRows_has (Sequence.has_ofItems (fun _ _ => rfl) rows)).next _).1

/-- If only one record is wanted, the first of all comes. -/
theorem leading_single (limited : backend.Limits) (codec : Codec) (relation : Relation)
    (conditions : Conditions) (fields : Option (List String)) (session : Session σ) :
    (select backend.dialect relation conditions fields true).leading
        (Session.handle backend codec) session
      = (all backend.dialect relation conditions fields).leading
        (Session.handle backend codec) session := by
  obtain ⟨parts, args, made⟩ := exists_selects backend.dialect relation conditions
    (.columns (fetched backend.dialect relation conditions fields).columns)
  rw [all, leading_select codec session (made _), leading_select codec session (made _)]
  cases nothing : (filterPlan backend.dialect relation conditions).app.isEmpty with
  | false => simp only [limits, nothing, Bool.and_false]
  | true =>
    simp only [limits, nothing, Bool.and_true, if_true, Bool.false_eq_true, if_false]
    rw [limited]
    cases (backend.stream _ _ session.database).1 with
    | error error => rfl
    | ok rows => exact next_recordsOf_take nothing rows

/-! ### Rows that are found -/

theorem recordOf_of_gives {row part : Record} (session : Session σ)
    (gives : Action.Gives (Session.handle backend codec) (reconstruct relation row) part) :
    recordOf codec relation row = .ok part :=
  (run_reconstruct_fst row session).symm.trans (gives.run_fst session)

/-- Where something is made of every row, the records are what the process keeps of it. -/
theorem recordsOf_eq {rows parts : List Record} (session : Session σ)
    (made : List.Forall₂ (Makes (Session.handle backend codec) relation plan) rows parts)
    (failure : Option StoreError) :
    recordsOf codec relation fields plan app ⟨rows, failure⟩
      = ⟨cutTo fields (parts.filter app.accepts), failure⟩ := by
  have decoded : (if plan.decode then Outcome.map (recordOf codec relation) ⟨rows, failure⟩
      else ⟨rows, failure⟩) = ⟨parts, failure⟩ := by
    unfold Makes at made
    split
    · next decode =>
      simp only [decode, if_true] at made
      exact Outcome.map_of_forall₂
        (made.imp fun row part gives => recordOf_of_gives session gives) failure
    · next decode =>
      simp only [decode, Bool.false_eq_true, if_false] at made
      have same : parts = rows := by
        rw [← List.forall₂_eq_eq_eq]
        exact made.flip
      rw [same]
  unfold recordsOf
  simp only [decoded]
  have kept : (if app.isEmpty then (⟨parts, failure⟩ : Outcome Record)
      else Outcome.filter (fun entry => .ok (app.accepts entry)) ⟨parts, failure⟩)
      = ⟨parts.filter app.accepts, failure⟩ := by
    split
    · next nothing => rw [filter_accepts_of_isEmpty nothing]
    · exact Outcome.filter_ok app.accepts parts failure
  rw [kept]
  cases fields with
  | none => rfl
  | some names =>
    refine Outcome.map_of_forall₂ ?_ failure
    rw [cutTo, List.forall₂_map_right_iff, List.forall₂_same]
    exact fun _ _ => rfl

/-- Whether a record comes does not depend on how it is cut. -/
theorem isSome_next_cutTo (records : List Record) (failure : Option StoreError) :
    (Outcome.next ⟨cutTo fields records, failure⟩).1.map Option.isSome
      = (Outcome.next ⟨records, failure⟩).1.map Option.isSome := by
  cases fields with
  | none => rfl
  | some names =>
    cases records with
    | nil => rfl
    | cons record rest => rfl

section Found

variable {found : Except StoreError (List (Except StoreError (StoredRow relation)))}
  (finds : backend.Finds relation conditions session.database found)
include finds

/-- What comes first is made of the rows that are found. -/
theorem leading_found (codec : Codec) (fields : Option (List String)) :
    (all backend.dialect relation conditions fields).leading
        (Session.handle backend codec) session
      = found.bind fun rows =>
        (recordsOf codec relation fields (fetched backend.dialect relation conditions fields)
          (filterPlan backend.dialect relation conditions).app (.ofItems (rows.map (Except.map
            fun row => row.cells.project
              (fetched backend.dialect relation conditions fields).columns)))).next.1 := by
  obtain ⟨query, made⟩ := exists_select backend.dialect relation conditions
    (.columns (fetched backend.dialect relation conditions fields).columns) none
  rw [all, leading_select codec session made, finds _ query made]
  cases found <;> rfl

/-- Whether a record comes first does not depend on the fields that are read. -/
theorem isSome_leading (free : relation.BinaryFree)
    (reads : ∀ rows, found = .ok rows → ∀ row, .ok row ∈ rows → ∀ packet,
      packet? relation row.cells = some packet →
        ∃ decoded, codec relation.kind packet = .ok decoded)
    (left right : Option (List String)) :
    ((all backend.dialect relation conditions left).leading
        (Session.handle backend codec) session).map Option.isSome
      = ((all backend.dialect relation conditions right).leading
        (Session.handle backend codec) session).map Option.isSome := by
  rw [leading_found finds, leading_found finds]
  cases found with
  | error error => rfl
  | ok rows =>
    obtain ⟨wholes, each, _⟩ := exists_records free (Outcome.ofItems rows).items
      fun row member => reads rows rfl row (Outcome.mem_of_mem_ofItems member)
    have kept (fields : Option (List String)) :
        (recordsOf codec relation fields (fetched backend.dialect relation conditions fields)
          (filterPlan backend.dialect relation conditions).app (.ofItems (rows.map (Except.map
            fun row => row.cells.project
              (fetched backend.dialect relation conditions fields).columns)))).next.1.map
            Option.isSome
        = (Outcome.next
            ⟨wholes.filter (filterPlan backend.dialect relation conditions).app.accepts,
              (Outcome.ofItems rows).failure⟩).1.map Option.isSome := by
      obtain ⟨parts, made, agree⟩ := exists_parts backend codec free fields
        (filterPlan backend.dialect relation conditions).app each
      rw [Outcome.ofItems_map, recordsOf_eq session made, collect_agreeing agree,
        isSome_next_cutTo]
    exact (kept left).trans (kept right).symm

end Found

/-- Whether there is an entry is told by what comes first in a read of any fields. -/
def ToldByAnyRead (backend : Backend σ) (codec : Codec) (relation : Relation)
    (conditions : Conditions) (session : Session σ) : Prop :=
  ∀ fields,
    ((exist backend.dialect relation conditions).run (Session.handle backend codec) session).1
      = ((all backend.dialect relation conditions fields).leading
        (Session.handle backend codec) session).map Option.isSome

/-- To look an entry up gives what comes first of all entries; whether there is one is told by what
comes first when no field is asked for. Where the codec reads the packets of the rows that are found
it is told by a read of any fields. -/
theorem first_of_all (limited : backend.Limits) (codec : Codec) (relation : Relation)
    (conditions : Conditions) (session : Session σ) :
    (∀ fields, ((first? backend.dialect relation conditions fields).run
        (Session.handle backend codec) session).1
      = (all backend.dialect relation conditions fields).leading
        (Session.handle backend codec) session) ∧
    ((exist backend.dialect relation conditions).run (Session.handle backend codec) session).1
      = ((all backend.dialect relation conditions (some [])).leading
        (Session.handle backend codec) session).map Option.isSome ∧
    ∀ found, backend.Finds relation conditions session.database found → relation.BinaryFree →
      (∀ rows, found = .ok rows → ∀ row, .ok row ∈ rows → ∀ packet,
        packet? relation row.cells = some packet →
          ∃ decoded, codec relation.kind packet = .ok decoded) →
      ToldByAnyRead backend codec relation conditions session := by
  have looked (fields : Option (List String)) :
      ((first? backend.dialect relation conditions fields).run
          (Session.handle backend codec) session).1
        = (all backend.dialect relation conditions fields).leading
          (Session.handle backend codec) session := by
    rw [first?, Sequence.run_first_eq_leading]
    exact leading_single limited codec relation conditions fields session
  have exists_first :
      ((exist backend.dialect relation conditions).run (Session.handle backend codec) session).1
        = ((all backend.dialect relation conditions (some [])).leading
          (Session.handle backend codec) session).map Option.isSome := by
    rw [← looked, exist, Sequence.isNonempty, Action.run_bind, first?]
    rcases (select backend.dialect relation conditions (some []) true).first.run
      (Session.handle backend codec) session with ⟨result, later⟩
    cases result <;> rfl
  exact ⟨looked, exists_first, fun found finds free reads fields =>
    exists_first.trans (isSome_leading finds free reads (some []) fields)⟩

/-! ### Databases of rows -/

/-- A database of rows that answers every SELECT with all of them. -/
def unfiltered (relation : Relation) : Backend (List (StoredRow relation)) where
  dialect := .sqlite
  execute _ rows := (.ok 0, rows)
  fetch _ _ rows := (.ok [], rows)
  stream query _ rows :=
    match query.statement with
    | .select (.columns columns) _ _ suffix =>
      let found := rows.map fun row => row.cells.project columns
      (.ok ((if suffix.isSome then found.take 1 else found).map .ok), rows)
    | _ => (.ok [], rows)

theorem unfiltered_limits (relation : Relation) : (unfiltered relation).Limits := by
  intro projection name conditions args shape rows
  cases projection with
  | columns columns => exact congrArg Except.ok List.map_take
  | expression text => rfl

theorem unfiltered_finds (relation : Relation) (conditions : Conditions)
    (rows : List (StoredRow relation)) :
    (unfiltered relation).Finds relation conditions rows (.ok (rows.map .ok)) := by
  intro columns query made
  obtain ⟨parts, statement⟩ := Query.statement_of_select made
  simp only [unfiltered, statement, Option.isSome_none, Bool.false_eq_true, if_false, List.map_map,
    Except.map]
  rfl

/-- Identities whose packet says a user id that only the caller can judge. -/
def judgedIdentities : Conditions :=
  .ofList [("userid", .custom ⟨"judged", fun value => some !value.isNull⟩)]

theorem first_of_all_identities :
    ((exist .sqlite .identities judgedIdentities).run
      (Session.handle (unfiltered .identities) sampleCodec) (.start sampleRows)).1 = .ok true ∧
    ToldByAnyRead (unfiltered .identities) sampleCodec .identities judgedIdentities
      (.start sampleRows) := by
  obtain ⟨_, _, told⟩ := first_of_all (unfiltered_limits .identities) sampleCodec .identities
    judgedIdentities (.start sampleRows)
  exact ⟨rfl, told _ (unfiltered_finds _ _ _)
    (Relation.catalogue_wellFormed _ (by simp [Relation.catalogue])).binaryFree
    fun _ _ _ _ _ _ => ⟨_, rfl⟩⟩

/-- Asks for a packet in a way that only the process can test. -/
def packetConditions : Conditions :=
  .ofList [("binary", .all [.custom ⟨"always", fun _ => some true⟩, .equals (.bytes [0x62])])]

/-- A database that has a row only for those who fetch no column of it. -/
def shy (relation : Relation) : Backend (List (StoredRow relation)) where
  dialect := .sqlite
  execute _ rows := (.ok 0, rows)
  fetch _ _ rows := (.ok [], rows)
  stream query _ rows :=
    match query.statement with
    | .select (.columns []) _ _ _ => (.ok [.ok .empty], rows)
    | _ => (.ok [], rows)

theorem shy_limits (relation : Relation) : (shy relation).Limits := by
  intro projection name conditions args shape rows
  cases projection with
  | columns columns => cases columns <;> rfl
  | expression text => rfl

/-- Existence is told wrongly where the packet hides a column that is tested, and where the database
finds rows for some columns that it does not find for others. -/
theorem existence_misjudged :
    (¬ ∀ {σ : Type} (backend : Backend σ) (codec : Codec) (relation : Relation)
      (conditions : Conditions) (session : Session σ), backend.Limits →
      (∃ found, backend.Finds relation conditions session.database found) →
      (∀ kind packet, ∃ decoded, codec kind packet = .ok decoded) →
      ToldByAnyRead backend codec relation conditions session) ∧
    ¬ ∀ {σ : Type} (backend : Backend σ) (codec : Codec) (relation : Relation)
      (conditions : Conditions) (session : Session σ), backend.Limits → relation.BinaryFree →
      (∀ kind packet, ∃ decoded, codec kind packet = .ok decoded) →
      ToldByAnyRead backend codec relation conditions session := by
  constructor
  · intro told
    have same := told (unfiltered shadowed) kindCodec shadowed packetConditions
      (.start (shadowedRows.take 1)) (unfiltered_limits shadowed) ⟨_, unfiltered_finds _ _ _⟩
      (fun _ _ => ⟨_, rfl⟩) (some ["id", "kind"])
    -- The column passes the test, but what is tested once packets are read is the packet.
    have hidden : (((all .sqlite shadowed packetConditions (some ["id", "kind"])).leading
        (Session.handle (unfiltered shadowed) kindCodec)
        (.start (shadowedRows.take 1))).map Option.isSome).toOption = some false := by
      decide +kernel
    exact absurd ((congrArg Except.toOption same).trans hidden) (by decide +kernel)
  · intro told
    have same := told (shy .identities) kindCodec .identities .empty (.start [])
      (shy_limits .identities)
      (Relation.catalogue_wellFormed _ (by simp [Relation.catalogue])).binaryFree
      (fun _ _ => ⟨_, rfl⟩) (some ["id", "kind"])
    have found : (Except.ok true : Except StoreError Bool) = .ok false := same
    cases found

end Entries

end KeyStore
