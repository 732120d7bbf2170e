import KeyStore.Record

/-!
# Relations

A relation is a table or view of the database as the library sees it: its columns with their types,
the columns that identify a row, and where the packet of a row is found.
-/

namespace KeyStore

/-- The kind of packet that the rows of a relation carry. -/
inductive PacketKind where
  | key
  | subkey
  | identity
  | userAttribute
  | signature
deriving DecidableEq, Repr, Inhabited

/-- The name of a kind of packet. -/
def PacketKind.name : PacketKind → String
  | key => "key"
  | subkey => "subkey"
  | identity => "identity"
  | userAttribute => "attribute"
  | signature => "signature"

/-- A column and its storage type. -/
structure Column where
  name : String
  type : ColumnType
deriving DecidableEq, Repr, Inhabited

/-- The columns that a query returns. -/
abbrev RowShape := List Column

/-- Whether rows are stored or computed. -/
inductive RelationForm where
  | table
  | view
deriving DecidableEq, Repr, Inhabited

/-- Where the packet of a row is found. -/
inductive Payload where
  /-- The column holds the packet. -/
  | stored (column : String)
  /-- The packet is the text of the column; records show it as the field `binary`. -/
  | derived (column : String)
  /-- Rows carry no packet. -/
  | absent
deriving DecidableEq, Repr, Inhabited

/-- A table or view. -/
structure Relation where
  name : String
  form : RelationForm
  kind : PacketKind
  columns : List Column
  /-- The columns that identify a row. -/
  primaryKey : List String
  payload : Payload
deriving DecidableEq, Repr, Inhabited

/-- The field that shows a packet that is not stored. -/
def binaryField : String := "binary"

namespace Relation

/-- The column of the given name. -/
def column? (relation : Relation) (name : String) : Option Column :=
  relation.columns.find? (·.name = name)

/-- Whether the relation has a column of the given name. -/
def hasColumn (relation : Relation) (name : String) : Bool := (relation.column? name).isSome

/-- The names of the columns, in their order. -/
def columnNames (relation : Relation) : List String := relation.columns.map (·.name)

/-- Whether rows can be written. -/
def isWritable (relation : Relation) : Bool := relation.form = .table

/-- The fields of a record that are columns. -/
def storable (relation : Relation) (record : Record) : Record :=
  record.filter fun field _ => relation.hasColumn field

/-- The shape of rows cut to `names`; a name that is no column is passed over. -/
def shape (relation : Relation) (names : List String) : RowShape :=
  names.filterMap relation.column?

end Relation

end KeyStore
