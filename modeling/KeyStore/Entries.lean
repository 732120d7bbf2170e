import KeyStore.Store

/-!
# Reading entries

The entries of a relation are its rows with what their packets say. A read lets the database test
what it can, fetches only the columns that are needed, reads the packet of a row if a field is
wanted that is no column, tests the rest of the conditions, and cuts the record to the fields that
were asked for.

What is stored counts more than what a packet says.
-/

namespace KeyStore.Entries

/-- Conditions by where they are tested. -/
structure FilterPlan where
  /-- Tested by the database. -/
  sql : Conditions
  /-- Tested in process. -/
  app : Conditions

/-- Divides conditions between the database and the process. -/
def filterPlan (dialect : Sql.Dialect) (relation : Relation) (conditions : Conditions) :
    FilterPlan :=
  let (sql, app) := Conditions.split conditions dialect relation.hasColumn
  ⟨sql, app⟩

/-- What is fetched of each row. -/
structure FetchPlan where
  columns : List String
  /-- Whether packets are read. -/
  decode : Bool
deriving DecidableEq, Repr

/-- Whether a field is wanted that only a packet can give. -/
def wantsPacket (relation : Relation) (fields : Option (List String)) (app : Conditions) : Bool :=
  (match fields with
    | some fields => fields.any fun field => !relation.hasColumn field
    | none => true)
  || app.fields.any fun field => !relation.hasColumn field

/-- The column that holds the packet. -/
def packetColumn? (relation : Relation) : Option String :=
  match relation.payload with
  | .stored column => some column
  | .derived column => some column
  | .absent => none

/-- The columns that the fields and the conditions in process need, with the column of the packet if
packets are read. Without a list of fields all are wanted. -/
def fetchPlan (relation : Relation) (fields : Option (List String)) (app : Conditions) :
    FetchPlan :=
  let wanted := wantsPacket relation fields app
  let isNeeded (column : String) : Bool :=
    (match fields with
      | some fields => fields.contains column
      | none => true)
    || app.contains column
    || (wanted && packetColumn? relation = some column)
  { columns := relation.columnNames.filter isNeeded
    decode := wanted && (packetColumn? relation).isSome }

/-- The packet of a row. -/
def packet? (relation : Relation) (row : Record) : Option (List UInt8) :=
  match relation.payload with
  | .stored column => (row.value column).bytes?
  | .derived column => (row.text? column).map fun text => text.toUTF8.toList
  | .absent => none

/-- The row, with its packet as a field if the packet is not stored as such. -/
def showPacket (relation : Relation) (row : Record) : Record :=
  match relation.payload with
  | .derived _ => row.insert binaryField ((packet? relation row).elim .null .bytes)
  | _ => row

/-- The row over what its packet says. -/
def reconstruct (relation : Relation) (row : Record) : Action Store Record :=
  let shown := showPacket relation row
  match packet? relation row with
  | none => .done shown
  | some packet => do
    let decoded ← Store.decode relation.kind packet
    return shown.overlay decoded

/-- The records of some rows that satisfy conditions in process, cut to the fields. -/
def ofRows (relation : Relation) (fields : Option (List String)) (plan : FetchPlan)
    (app : Conditions) (rows : Sequence Store Record) : Sequence Store Record :=
  let decoded := if plan.decode then rows.map (reconstruct relation) else rows
  let kept := if app.isEmpty then decoded else decoded.filter app.accepts
  match fields with
  | some fields => kept.map fun entry => .done (entry.project fields)
  | none => kept

/-- Records of a relation. If only one is wanted and nothing is tested in process, the database is
asked for one row. -/
def select (dialect : Sql.Dialect) (relation : Relation) (conditions : Conditions)
    (fields : Option (List String)) (single : Bool) : Sequence Store Record :=
  let plan := filterPlan dialect relation conditions
  let fetch := fetchPlan relation fields plan.app
  let suffix := if single && plan.app.isEmpty then some "LIMIT 1" else none
  match Query.select dialect relation (.columns fetch.columns) plan.sql suffix with
  | .error error => .fail error
  | .ok query =>
    ofRows relation fields fetch plan.app (Store.rows query (relation.shape fetch.columns))

/-- All records that satisfy the conditions. -/
def all (dialect : Sql.Dialect) (relation : Relation) (conditions : Conditions)
    (fields : Option (List String)) : Sequence Store Record :=
  select dialect relation conditions fields false

/-- One field of every record that satisfies the conditions. -/
def values (dialect : Sql.Dialect) (relation : Relation) (field : String)
    (conditions : Conditions) : Sequence Store Value :=
  (all dialect relation conditions (some [field])).map fun entry => .done (entry.value field)

/-- The first record that satisfies the conditions. -/
def first? (dialect : Sql.Dialect) (relation : Relation) (conditions : Conditions)
    (fields : Option (List String)) : Action Store (Option Record) :=
  (select dialect relation conditions fields true).first

/-- Whether a record satisfies the conditions. -/
def exist (dialect : Sql.Dialect) (relation : Relation) (conditions : Conditions) :
    Action Store Bool :=
  (select dialect relation conditions (some []) true).isNonempty

end KeyStore.Entries
