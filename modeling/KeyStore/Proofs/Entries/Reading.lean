import KeyStore.Proofs.Conditions.Split
import KeyStore.Proofs.Entries.Plain
import KeyStore.Proofs.Sequence.Gives

/-!
# Reads are plain evaluations

A read leaves out columns that it thinks nobody looks at, and packets likewise. A column that was
left out might then be shadowed by a field of the packet with its name. That does no harm: the
record that a read makes agrees with the whole one on every field that the caller or a condition in
process looks at (`makes_agreeing`), and only those fields are looked at afterwards
(`collect_agreeing`).
-/

namespace KeyStore.Entries

/-- A field that the caller asks for, or that a condition in process asks about. -/
def Wanted (fields : Option (List String)) (app : Conditions) (field : String) : Prop :=
  (∀ names, fields = some names → field ∈ names) ∨ app.contains field = true

/-- Two records have the same wanted fields. -/
def AgreeOn (wanted : String → Prop) (left right : Record) : Prop :=
  ∀ field, wanted field → left.get? field = right.get? field

variable {relation : Relation} {fields : Option (List String)} {app : Conditions}

/-! ### What is fetched -/

theorem get?_project (row : Record) (columns : List String) (field : String) :
    (row.project columns).get? field = if field ∈ columns then row.get? field else none := by
  rw [Record.project, FieldMap.get?_filter]
  by_cases kept : field ∈ columns
  · cases row.get? field <;> simp [kept]
  · cases row.get? field <;> simp [kept]

theorem mem_columnNames_iff (relation : Relation) (name : String) :
    name ∈ relation.columnNames ↔ relation.hasColumn name = true := by
  simp [Relation.columnNames, Relation.hasColumn, Relation.column?]

theorem mem_columns_of_wanted (field : String) (wanted : Wanted fields app field)
    (column : relation.hasColumn field = true) :
    field ∈ (fetchPlan relation fields app).columns := by
  refine List.mem_filter.2 ⟨(mem_columnNames_iff relation field).2 column, ?_⟩
  rcases wanted with asked | tested
  · cases fields with
    | none => simp
    | some names => simp [asked names rfl]
  · simp [tested]

theorem mem_columns_of_decode (column : String) (holds : packetColumn? relation = some column)
    (present : relation.hasColumn column = true)
    (decode : (fetchPlan relation fields app).decode = true) :
    column ∈ (fetchPlan relation fields app).columns := by
  refine List.mem_filter.2 ⟨(mem_columnNames_iff relation column).2 present, ?_⟩
  have wanted : wantsPacket relation fields app = true := (Bool.and_eq_true_iff.1 decode).1
  simp [wanted, holds]

/-- Packets are left unread only where there are none, or where columns are all that is wanted. -/
theorem columns_of_not_decode (unread : (fetchPlan relation fields app).decode = false) :
    relation.payload = .absent ∨
      ∀ field, Wanted fields app field → relation.hasColumn field = true := by
  simp only [fetchPlan, Bool.and_eq_false_iff] at unread
  rcases unread with unwanted | absent
  · refine Or.inr fun field wanted => ?_
    obtain ⟨unasked, untested⟩ := Bool.or_eq_false_iff.1 unwanted
    rcases wanted with asked | tested
    · cases fields with
      | none => simp at unasked
      | some names => simpa using List.any_eq_false.1 unasked field (asked names rfl)
    · obtain ⟨filter, found⟩ := Option.isSome_iff_exists.1 tested
      have listed : field ∈ app.fields :=
        List.mem_map.2 ⟨(field, filter), (app.mem_toList_iff field filter).2 found, rfl⟩
      simpa using List.any_eq_false.1 untested field listed
  · left
    cases kind : relation.payload with
    | absent => rfl
    | stored column => simp [packetColumn?, kind] at absent
    | derived column => simp [packetColumn?, kind] at absent

/-! ### One row -/

/-- On wanted fields a row is not changed by being cut to what is fetched. -/
theorem get?_cut_of_wanted (row : StoredRow relation) {field : String}
    (wanted : Wanted fields app field) :
    (row.cells.project (fetchPlan relation fields app).columns).get? field
      = row.cells.get? field := by
  rw [get?_project]
  split
  · rfl
  · next left =>
    cases column : relation.hasColumn field with
    | true => exact absurd (mem_columns_of_wanted field wanted column) left
    | false => exact (row.get?_of_not_hasColumn column).symm

/-- Wherever packets are read, the packet is still there after the cut. -/
theorem packet?_cut (row : StoredRow relation)
    (decode : (fetchPlan relation fields app).decode = true) :
    packet? relation (row.cells.project (fetchPlan relation fields app).columns)
      = packet? relation row.cells := by
  have same (column : String) (holds : packetColumn? relation = some column) :
      (row.cells.project (fetchPlan relation fields app).columns).get? column
        = row.cells.get? column := by
    cases present : relation.hasColumn column with
    | true => rw [get?_project, if_pos (mem_columns_of_decode column holds present decode)]
    | false => rw [get?_project, row.get?_of_not_hasColumn present, ite_self]
  cases kind : relation.payload with
  | absent => simp only [packet?, kind]
  | stored column =>
    have held := same column (by simp only [packetColumn?, kind])
    simp only [packet?, kind, Record.value, held]
  | derived column =>
    have held := same column (by simp only [packetColumn?, kind])
    simp only [packet?, kind, Record.text?, Record.value, held]

theorem showPacket_agreeing {left right : Record} {wanted : String → Prop}
    (agree : AgreeOn wanted left right) (packets : packet? relation left = packet? relation right) :
    AgreeOn wanted (showPacket relation left) (showPacket relation right) := by
  intro field asked
  unfold showPacket
  split
  · rw [FieldMap.get?_insert, FieldMap.get?_insert, packets, agree field asked]
  · exact agree field asked

theorem overlay_agreeing {left right : Record} {wanted : String → Prop}
    (agree : AgreeOn wanted left right) (lower : Record) :
    AgreeOn wanted (left.overlay lower) (right.overlay lower) := by
  intro field asked
  rw [FieldMap.get?_overlay, FieldMap.get?_overlay, agree field asked]

/-- Plainly evaluated, a row becomes what it would become if it were fetched whole. -/
theorem record_eq (codec : Codec) (free : relation.BinaryFree) (row : StoredRow relation) :
    Plain.record codec relation row
      = match packet? relation row.cells with
        | none => .ok (showPacket relation row.cells)
        | some packet =>
          (codec relation.kind packet).map (showPacket relation row.cells).overlay := by
  cases kind : relation.payload with
  | absent => simp only [Plain.record, packet?, showPacket, kind]
  | stored column =>
    simp only [Plain.record, packet?, showPacket, kind, Record.value]
    cases row.cells.get? column with
    | none => rfl
    | some value => cases value <;> rfl
  | derived column =>
    have unshown := row.get?_of_not_hasColumn (free column kind)
    -- The field `binary` may be laid below the cells, since none of them has its name.
    have moved (decoded : Record) (value : Value) :
        row.cells.overlay (decoded.insert binaryField value)
          = (row.cells.insert binaryField value).overlay decoded := by
      refine FieldMap.ext_get? fun field => ?_
      simp only [FieldMap.get?_overlay, FieldMap.get?_insert]
      by_cases here : binaryField = field
      · simp [← here, unshown]
      · simp [here]
    simp only [Plain.record, packet?, showPacket, kind, Record.text?, Record.value, moved,
      FieldMap.overlay_empty]
    cases row.cells.get? column with
    | none => rfl
    | some value => cases value <;> rfl

/-- What a read makes of a fetched row. -/
def Makes {σ : Type} (handle : Handler Store σ) (relation : Relation) (plan : FetchPlan)
    (row part : Record) : Prop :=
  if plan.decode then Action.Gives handle (reconstruct relation row) part else part = row

theorem exists_of_map_eq_ok {α β : Type} {f : α → β} {result : Except StoreError α} {image : β}
    (mapped : result.map f = .ok image) : ∃ value, result = .ok value ∧ f value = image := by
  cases result with
  | error error => cases mapped
  | ok value => exact ⟨value, rfl, Except.ok.inj mapped⟩

section Session

variable {σ : Type} (backend : Backend σ) (codec : Codec)

theorem decode_gives {kind : PacketKind} {packet : List UInt8} {decoded : Record}
    (succeeds : codec kind packet = .ok decoded) :
    Action.Gives (Session.handle backend codec) (Store.decode kind packet) decoded := by
  refine .ask fun state => ?_
  change Action.Gives _ (Action.ofExcept (codec kind packet)) decoded
  rw [succeeds]
  exact .done decoded

theorem reconstruct_gives {row decoded : Record} {packet : List UInt8}
    (present : packet? relation row = some packet)
    (succeeds : codec relation.kind packet = .ok decoded) :
    Action.Gives (Session.handle backend codec) (reconstruct relation row)
      ((showPacket relation row).overlay decoded) := by
  rw [reconstruct, present]
  exact (decode_gives backend codec succeeds).bind (.done _)

theorem reconstruct_gives_shown {row : Record} (absent : packet? relation row = none) :
    Action.Gives (Session.handle backend codec) (reconstruct relation row)
      (showPacket relation row) := by
  rw [reconstruct, absent]
  exact .done _

/-- Nothing that a packet says counts on a column. -/
theorem get?_record_of_hasColumn (free : relation.BinaryFree) {row : StoredRow relation}
    {whole : Record} (recorded : Plain.record codec relation row = .ok whole) {field : String}
    (column : relation.hasColumn field = true) : whole.get? field = row.cells.get? field := by
  obtain ⟨value, found⟩ := row.get?_of_hasColumn column
  have shown : (showPacket relation row.cells).get? field = row.cells.get? field := by
    unfold showPacket
    split
    · next derived kind =>
      rw [FieldMap.get?_insert, if_neg]
      rintro rfl
      rw [free derived kind] at column
      cases column
    · rfl
  rw [record_eq codec free] at recorded
  split at recorded
  · cases recorded
    exact shown
  · obtain ⟨decoded, _, rfl⟩ := exists_of_map_eq_ok recorded
    rw [FieldMap.get?_overlay, shown, found, Option.some_or]

/-- The database sees of a row what its half of the conditions asks about. -/
theorem accepts_sql_eq (free : relation.BinaryFree) (dialect : Sql.Dialect)
    (conditions : Conditions) {row : StoredRow relation} {whole : Record}
    (recorded : Plain.record codec relation row = .ok whole) :
    (filterPlan dialect relation conditions).sql.accepts row.cells
      = (filterPlan dialect relation conditions).sql.accepts whole := by
  refine Conditions.accepts_congr _ fun field asked => ?_
  have column := conditions.isColumn_of_contains_split_fst field asked
  rw [Record.value, Record.value, get?_record_of_hasColumn codec free recorded column]

/-- What a read makes of a row agrees with the whole record on all that is wanted. -/
theorem makes_agreeing (free : relation.BinaryFree) {row : StoredRow relation}
    {whole : Record} (recorded : Plain.record codec relation row = .ok whole) :
    ∃ part,
      Makes (Session.handle backend codec) relation (fetchPlan relation fields app)
        (row.cells.project (fetchPlan relation fields app).columns) part ∧
      AgreeOn (Wanted fields app) part whole := by
  have cut : AgreeOn (Wanted fields app)
      (row.cells.project (fetchPlan relation fields app).columns) row.cells :=
    fun field wanted => get?_cut_of_wanted row wanted
  cases decode : (fetchPlan relation fields app).decode with
  | false =>
    simp only [Makes, decode]
    refine ⟨_, rfl, fun field wanted => (cut field wanted).trans ?_⟩
    rcases columns_of_not_decode decode with absent | columns
    · simp only [Plain.record, absent] at recorded
      cases recorded
      rfl
    · exact (get?_record_of_hasColumn codec free recorded (columns field wanted)).symm
  | true =>
    have packets := packet?_cut row decode
    have shown := showPacket_agreeing cut packets
    simp only [Makes, decode, if_true]
    rw [record_eq codec free] at recorded
    split at recorded
    · next absent =>
      cases recorded
      exact ⟨_, reconstruct_gives_shown backend codec (packets.trans absent), shown⟩
    · next packet present =>
      obtain ⟨decoded, succeeds, rfl⟩ := exists_of_map_eq_ok recorded
      exact ⟨_, reconstruct_gives backend codec (packets.trans present) succeeds,
        overlay_agreeing shown decoded⟩

end Session

/-! ### All rows -/

/-- The records cut to the fields, if there is a list of them. -/
def cutTo (fields : Option (List String)) (records : List Record) : List Record :=
  match fields with
  | some names => records.map fun entry => entry.project names
  | none => records

theorem cutTo_cons (entry : Record) (records : List Record) :
    cutTo fields (entry :: records) = cutTo fields [entry] ++ cutTo fields records := by
  cases fields <;> rfl

theorem accepts_of_isEmpty (nothing : app.isEmpty = true) (record : Record) :
    app.accepts record = true := by
  rw [Conditions.accepts, List.isEmpty_iff.1 nothing]
  rfl

theorem filter_accepts_of_isEmpty (nothing : app.isEmpty = true) (records : List Record) :
    records.filter app.accepts = records :=
  List.filter_eq_self.2 fun entry _ => accepts_of_isEmpty nothing entry

/-- What a read gives, if its rows are given and something is made of each of them. -/
theorem ofRows_gives {σ : Type} {handle : Handler Store σ} {plan : FetchPlan}
    {source : Sequence Store Record} {rows parts : List Record}
    (given : Sequence.Gives handle source rows)
    (made : List.Forall₂ (Makes handle relation plan) rows parts) :
    Sequence.Gives handle (ofRows relation fields plan app source)
      (cutTo fields (parts.filter app.accepts)) := by
  have decoded : Sequence.Gives handle
      (if plan.decode then source.map (reconstruct relation) else source) parts := by
    unfold Makes at made
    cases decode : plan.decode with
    | true =>
      simp only [decode, if_true] at made ⊢
      exact given.map made
    | false =>
      simp only [decode] at made
      have same : parts = rows := by
        rw [← List.forall₂_eq_eq_eq]
        exact made.flip
      rw [same]
      exact given
  have kept : Sequence.Gives handle
      (if app.isEmpty then if plan.decode then source.map (reconstruct relation) else source
        else (if plan.decode then source.map (reconstruct relation) else source).filter app.accepts)
      (parts.filter app.accepts) := by
    cases nothing : app.isEmpty with
    | true =>
      rw [filter_accepts_of_isEmpty nothing]
      exact decoded
    | false => exact decoded.filter app.accepts
  cases fields with
  | none => exact kept
  | some names =>
    refine kept.map ?_
    rw [cutTo, List.forall₂_map_right_iff, List.forall₂_same]
    exact fun entry _ => .done _

/-- Records that agree on what is wanted cannot be told apart by what a read does to them. -/
theorem collect_agreeing {parts wholes : List Record}
    (agree : List.Forall₂ (AgreeOn (Wanted fields app)) parts wholes) :
    cutTo fields (parts.filter app.accepts) = cutTo fields (wholes.filter app.accepts) := by
  induction agree with
  | nil => rfl
  | @cons part whole parts wholes same _ ih =>
    have accepted : app.accepts part = app.accepts whole := by
      refine app.accepts_congr fun field tested => ?_
      rw [Record.value, Record.value, same field (Or.inr tested)]
    have cut : cutTo fields [part] = cutTo fields [whole] := by
      cases fields with
      | none =>
        have equal : part = whole :=
          FieldMap.ext_get? fun field => same field (Or.inl fun names none => by cases none)
        rw [equal]
      | some names =>
        have equal : part.project names = whole.project names := by
          refine FieldMap.ext_get? fun field => ?_
          rw [get?_project, get?_project]
          split
          · next asked => exact same field (Or.inl fun names' some => by cases some; exact asked)
          · rfl
        simp only [cutTo, List.map_cons, List.map_nil, equal]
    rw [List.filter_cons, List.filter_cons, accepted]
    split
    · rw [cutTo_cons, cutTo_cons whole, cut, ih]
    · exact ih

/-- Where the codec reads the packet, a row has a whole record. -/
theorem exists_record {codec : Codec} (free : relation.BinaryFree) {row : StoredRow relation}
    (reads : ∀ packet, packet? relation row.cells = some packet →
      ∃ decoded, codec relation.kind packet = .ok decoded) :
    ∃ whole, Plain.record codec relation row = .ok whole := by
  rw [record_eq codec free]
  split
  · exact ⟨_, rfl⟩
  · next packet present =>
    obtain ⟨decoded, succeeds⟩ := reads packet present
    exact ⟨_, by rw [succeeds]; rfl⟩

theorem exists_records {codec : Codec} (free : relation.BinaryFree)
    (rows : List (StoredRow relation))
    (reads : ∀ row ∈ rows, ∀ packet, packet? relation row.cells = some packet →
      ∃ decoded, codec relation.kind packet = .ok decoded) :
    ∃ wholes,
      List.Forall₂ (fun row whole => Plain.record codec relation row = .ok whole) rows wholes ∧
      rows.mapM (Plain.record codec relation) = .ok wholes := by
  induction rows with
  | nil => exact ⟨[], .nil, rfl⟩
  | cons row rest ih =>
    obtain ⟨wholes, each, collected⟩ :=
      ih fun other member => reads other (List.mem_cons_of_mem _ member)
    obtain ⟨whole, recorded⟩ := exists_record free (reads row List.mem_cons_self)
    refine ⟨whole :: wholes, .cons recorded each, ?_⟩
    rw [List.mapM_cons, recorded, collected]
    rfl

/-- Something is made of every row, and it agrees with the whole record. -/
theorem exists_parts {σ : Type} (backend : Backend σ) (codec : Codec)
    (free : relation.BinaryFree) (fields : Option (List String)) (app : Conditions)
    {rows : List (StoredRow relation)} {wholes : List Record}
    (each : List.Forall₂ (fun row whole => Plain.record codec relation row = .ok whole)
      rows wholes) :
    ∃ parts,
      List.Forall₂ (Makes (Session.handle backend codec) relation (fetchPlan relation fields app))
        (rows.map fun row => row.cells.project (fetchPlan relation fields app).columns) parts ∧
      List.Forall₂ (AgreeOn (Wanted fields app)) parts wholes := by
  induction each with
  | nil => exact ⟨[], .nil, .nil⟩
  | cons recorded _ ih =>
    obtain ⟨part, made, agree⟩ := makes_agreeing backend codec free recorded
    obtain ⟨parts, mades, agrees⟩ := ih
    exact ⟨part :: parts, .cons made mades, .cons agree agrees⟩

/-- The half of the conditions that goes to the database always makes a query, and the clause at the
end is all that it adds. -/
theorem exists_selects (dialect : Sql.Dialect) (relation : Relation) (conditions : Conditions)
    (projection : Projection) :
    ∃ parts args, ∀ suffix,
      Query.select dialect relation projection (filterPlan dialect relation conditions).sql suffix
        = .ok ⟨.select projection relation.name parts suffix, args⟩ := by
  obtain ⟨parts, bound, result⟩ :=
    conditions.bind_split_fst dialect relation.hasColumn (.empty dialect)
  exact ⟨parts, _, fun suffix => by rw [Query.select, Query.onRows, filterPlan, result]⟩

theorem exists_select (dialect : Sql.Dialect) (relation : Relation) (conditions : Conditions)
    (projection : Projection) (suffix : Option String) :
    ∃ query, Query.select dialect relation projection (filterPlan dialect relation conditions).sql
      suffix = .ok query := by
  obtain ⟨parts, args, made⟩ := exists_selects dialect relation conditions projection
  exact ⟨_, made suffix⟩

theorem ofRows_ask (plan : FetchPlan) (request : Store.Request)
    (next : Store.Reply request → Sequence Store Record) :
    ofRows relation fields plan app (.ask request next)
      = .ask request fun reply => ofRows relation fields plan app (next reply) := by
  unfold ofRows
  cases plan.decode <;> cases app.isEmpty <;> cases fields <;> rfl

/-- Collecting the rows that the database streams goes on from what it streamed. -/
theorem run_toList_ofRows_fst {σ : Type} (backend : Backend σ) (codec : Codec) (plan : FetchPlan)
    (query : Query) (shape : RowShape) (session : Session σ) {rows records : List Record}
    (streamed : (backend.stream query shape session.database).1 = .ok (rows.map .ok))
    (collected : ∀ number, Sequence.Gives (Session.handle backend codec)
      (ofRows relation fields plan app (.ofItems (fun _ => Store.take number) (rows.map .ok)))
      records) :
    ((ofRows relation fields plan app (Store.rows query shape)).toList.run
      (Session.handle backend codec) session).1 = .ok records := by
  have replied : (Session.handle backend codec (.stream query shape) session).1
      = .ok (session.streams, rows.map .ok) := by
    rcases result : backend.stream query shape session.database with ⟨reply, database⟩
    rw [result] at streamed
    subst streamed
    simp only [Session.handle, Session.stream, Session.record, result]
    rfl
  rw [Store.rows]
  refine Eq.trans (congrArg (fun items => (Action.run _ (Sequence.toList items) session).1)
    (ofRows_ask plan _ _)) (Sequence.run_toList_ask_fst session ?_)
  rw [replied]
  exact collected session.streams

/-- What a read collects is what plain evaluation gives, if the database answers its query with the
rows of its half of the conditions and the codec reads every packet. -/
theorem collect_all_eq_evaluate {σ : Type} (backend : Backend σ) (codec : Codec)
    (relation : Relation) (wellFormed : relation.WellFormed) (conditions : Conditions)
    (fields : Option (List String)) (rows : List (StoredRow relation)) (session : Session σ)
    (reads : ∀ row ∈ rows, ∀ packet, packet? relation row.cells = some packet →
      ∃ decoded, codec relation.kind packet = .ok decoded)
    (answers : Plain.Answers backend session.database relation conditions fields rows) :
    ∃ records, Plain.evaluate codec relation conditions fields rows = .ok records ∧
      ((all backend.dialect relation conditions fields).toList.run
        (Session.handle backend codec) session).1 = .ok records := by
  obtain ⟨query, selected⟩ := exists_select backend.dialect relation conditions
    (.columns (fetchPlan relation fields
      (filterPlan backend.dialect relation conditions).app).columns) none
  obtain ⟨wholes, each, collected⟩ := exists_records wellFormed.binaryFree rows reads
  -- The database and plain evaluation select the same rows by the conditions on columns.
  have selects : List.Forall₂ (fun row whole => Plain.record codec relation row = .ok whole)
      (rows.filter fun row =>
        (filterPlan backend.dialect relation conditions).sql.accepts row.cells)
      (wholes.filter (filterPlan backend.dialect relation conditions).sql.accepts) := by
    refine List.rel_filter (fun row whole recorded => ?_) each
    exact iff_of_eq (congrArg (· = true)
      (accepts_sql_eq codec wellFormed.binaryFree backend.dialect conditions recorded))
  obtain ⟨parts, made, agree⟩ := exists_parts backend codec wellFormed.binaryFree fields
    (filterPlan backend.dialect relation conditions).app selects
  refine ⟨cutTo fields (wholes.filter conditions.accepts), ?_, ?_⟩
  · rw [Plain.evaluate, collected]
    rfl
  · have halves :
        (wholes.filter (filterPlan backend.dialect relation conditions).sql.accepts).filter
          (filterPlan backend.dialect relation conditions).app.accepts
        = wholes.filter conditions.accepts := by
      rw [List.filter_filter]
      refine List.filter_congr fun whole _ => ?_
      rw [Bool.and_comm]
      exact (conditions.accepts_eq_split whole).symm
    rw [← halves, ← collect_agreeing agree, all, select]
    simp only [Bool.false_and, Bool.false_eq_true, if_false, selected]
    refine run_toList_ofRows_fst backend codec _ query _ session (answers query selected)
      fun number => ofRows_gives (.ofItems (fun _ => ?_) _) made
    exact .ask fun _ => .done ()

/-! A read of identities that tests one field in the database and one in process. The packets say
something about a column that is not fetched. -/

/-- Two identities. -/
def sampleRows : List (StoredRow .identities) :=
  [.ofValues .identities fun column => .text column,
    .ofValues .identities fun column => if column = "email" then .null else .text "x"]

/-- Every packet says its own text and some name. -/
def sampleCodec : Codec := fun _ packet =>
  .ok (.ofList [("userid", .bytes packet), ("name", .text "other")])

/-- Entries with an address whose packet says something. -/
def sampleConditions : Conditions :=
  .ofList [("email", .not (.equals .null)), ("userid", .not (.equals .null))]

/-- A database that holds rows and answers the queries of reads under the sample conditions. -/
def sampleBackend : Backend (List (StoredRow .identities)) where
  dialect := .postgres
  execute _ rows := (.ok 0, rows)
  fetch _ _ rows := (.ok [], rows)
  stream _ shape rows :=
    (.ok ((Plain.answer (filterPlan .postgres .identities sampleConditions).sql
      (shape.map (·.name)) rows).map .ok), rows)

theorem sample_answers :
    Plain.Answers sampleBackend sampleRows .identities sampleConditions (some ["key", "userid"])
      sampleRows := by
  intro query _
  rfl

theorem collect_sample :
    ((all .postgres .identities sampleConditions (some ["key", "userid"])).toList.run
        (Session.handle sampleBackend sampleCodec) (.start sampleRows)).1.map
          (List.map FieldMap.toList)
      = .ok [[("key", .text "key"), ("userid", .bytes "id".toUTF8.toList)]] := by
  obtain ⟨records, plain, collected⟩ := collect_all_eq_evaluate sampleBackend sampleCodec
    .identities (Relation.catalogue_wellFormed _ (by simp [Relation.catalogue])) sampleConditions
    (some ["key", "userid"]) sampleRows (.start sampleRows) (fun _ _ _ _ => ⟨_, rfl⟩) sample_answers
  refine (congrArg (Except.map (List.map FieldMap.toList)) (collected.trans plain.symm)).trans ?_
  rfl

end KeyStore.Entries
