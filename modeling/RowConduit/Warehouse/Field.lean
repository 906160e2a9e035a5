import RowConduit.Json.Record
import RowConduit.Schema.Table
import RowConduit.Types.Mapper

/-!
# Warehouse columns

The columns of a warehouse table: a type from a closed list, and a mode that tells whether a value
may be missing or repeated.  A column list is derived from a source table or read from a document.
-/

namespace RowConduit

open RowConduit.Text RowConduit.Json

inductive ColumnType where
  | boolean
  | bytes
  | date
  | dateTime
  | float
  | integer
  | numeric
  | record
  | string
  | time
  | timestamp
  deriving DecidableEq, Repr

namespace ColumnType

def all : List ColumnType :=
  [.boolean, .bytes, .date, .dateTime, .float, .integer, .numeric, .record, .string, .time,
    .timestamp]

def name : ColumnType → String
  | .boolean => "BOOLEAN"
  | .bytes => "BYTES"
  | .date => "DATE"
  | .dateTime => "DATETIME"
  | .float => "FLOAT"
  | .integer => "INTEGER"
  | .numeric => "NUMERIC"
  | .record => "RECORD"
  | .string => "STRING"
  | .time => "TIME"
  | .timestamp => "TIMESTAMP"

/-- The type of a name, blanks around it aside; a name outside the list is a string. -/
def ofName (s : String) : ColumnType :=
  (all.find? fun type => type.name == trimmed s).getD .string

/-- The column type that holds a logical type; an array is held as a column of its elements. -/
def ofLogical : LogicalType → ColumnType
  | .bool => .boolean
  | .int => .integer
  | .float => .float
  | .numericString => .numeric
  | .string => .string
  | .bytes => .bytes
  | .date => .date
  | .dateTime => .dateTime
  | .timestamp => .timestamp
  | .json => .string
  | .uuid => .string
  | .array element => ofLogical element
  | .map _ _ => .record
  | .unsupported => .string

def toJson (type : ColumnType) : Json :=
  .string type.name

end ColumnType

inductive ColumnMode where
  | nullable
  | required
  | repeated
  deriving DecidableEq, Repr

namespace ColumnMode

def name : ColumnMode → String
  | .nullable => "NULLABLE"
  | .required => "REQUIRED"
  | .repeated => "REPEATED"

def byName : List (String × ColumnMode) :=
  [("NULLABLE", .nullable), ("REQUIRED", .required), ("REPEATED", .repeated)]

def ofLogical : LogicalType → ColumnMode
  | .array _ => .repeated
  | _ => .nullable

end ColumnMode

structure WarehouseField where
  name : String
  type : ColumnType
  mode : ColumnMode
  deriving DecidableEq, Repr

namespace WarehouseField

def ofColumn (mapper : TypeMapper) (column : Column) : WarehouseField :=
  let type := mapper.mapColumn column
  ⟨column.name, ColumnType.ofLogical type, ColumnMode.ofLogical type⟩

def ofTable (table : Table) (mapper : TypeMapper) : List WarehouseField :=
  table.sourcedColumns.map (ofColumn mapper)

structure Partial where
  name : Option String
  type : Option ColumnType
  mode : Option ColumnMode

def fields : List (Json.Field Partial) :=
  [⟨"name", true, fun s => s.name.isSome, fun s d => do
      return { s with name := some (← readText d) }⟩,
    ⟨"type", true, fun s => s.type.isSome, fun s d => do
      return { s with type := some (ColumnType.ofName (← readText d)) }⟩,
    ⟨"mode", false, fun s => s.mode.isSome, fun s d => do
      return { s with mode := some (← readChoice ColumnMode.byName d) }⟩]

/-- Read a field; a field without a mode is nullable. -/
def read : Draft → Except JsonFault WarehouseField :=
  readRecord fields ⟨none, none, none⟩ fun s => do
    let name ← require "name" s.name
    let type ← require "type" s.type
    return ⟨name, type, s.mode.getD .nullable⟩

def listOfText (s : String) : Except JobError (List WarehouseField) :=
  (decode (readList read) s).mapError .json

def toJson (field : WarehouseField) : Json :=
  .object [("name", .string field.name), ("type", field.type.toJson),
    ("mode", .string field.mode.name)]

def listToJson (fields : List WarehouseField) : Json :=
  .array (fields.map toJson)

end WarehouseField

theorem ColumnType.ofName_name (type : ColumnType) : ofName type.name = type := by
  cases type <;> decide

end RowConduit
