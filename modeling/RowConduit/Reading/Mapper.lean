import RowConduit.Reading.Cell
import RowConduit.Row.Basic
import RowConduit.Types.Mapper

/-!
# Mapping result rows

A row mapper turns the result rows of one table into rows with the declared columns.  It never
fails: a column of an unsupported type, or one that the result row lacks or cannot decode, becomes
NULL with a diagnostic.  Counters add up what was mapped.
-/

namespace RowConduit

structure MapperCounts where
  rowsMapped : UInt64
  degradedFields : UInt64
  deriving DecidableEq, Repr

def MapperCounts.zero : MapperCounts :=
  ⟨0, 0⟩

def MapperCounts.add (counts : MapperCounts) (row : Row) : MapperCounts :=
  ⟨counts.rowsMapped + 1, counts.degradedFields + UInt64.ofNat row.diagnostics.length⟩

structure RowMapper where
  schema : SchemaReference
  table : Table
  types : TypeMapper

namespace RowMapper

def readColumn (m : RowMapper) (reader : ColumnReader) (column : Column) :
    Except String SqlValue :=
  if (m.types.mapColumn column).isUnsupported then
    .error ("unsupported source type " ++ column.rawType)
  else
    match reader column.name with
    | .ok (some v) => .ok v
    | .ok none => .error "column absent from row"
    | .error e => .error e.message

def field (m : RowMapper) (reader : ColumnReader) (column : Column) : String × SqlValue :=
  match m.readColumn reader column with
  | .ok v => (column.name, v)
  | .error _ => (column.name, .null)

def diagnostic? (m : RowMapper) (reader : ColumnReader) (column : Column) :
    Option FieldDiagnostic :=
  match m.readColumn reader column with
  | .ok _ => none
  | .error reason => some ⟨column.name, reason⟩

/-- The row of a result row: the sourced columns in order, with the diagnostics of degraded ones. -/
def mapRow (m : RowMapper) (reader : ColumnReader) : Row :=
  let columns := m.table.sourcedColumns
  (Row.ofColumns m.table.name m.schema (columns.map (m.field reader))).withDiagnostics
    (columns.filterMap (m.diagnostic? reader))

end RowMapper

/-- Result rows that are mapped one by one as they are asked for. -/
structure MappedRows where
  mapper : RowMapper
  cursor : List ColumnReader
  counts : MapperCounts

namespace MappedRows

def next? (rows : MappedRows) : Option (Row × MappedRows) :=
  match rows.cursor with
  | [] => none
  | reader :: rest =>
      let row := rows.mapper.mapRow reader
      some (row, { rows with cursor := rest, counts := rows.counts.add row })

def sizeHint (rows : MappedRows) : Nat × Nat :=
  (rows.cursor.length, rows.cursor.length)

def take : Nat → MappedRows → List Row × MappedRows
  | 0, rows => ([], rows)
  | count + 1, rows =>
      match rows.next? with
      | none => ([], rows)
      | some (row, rest) =>
          let taken := take count rest
          (row :: taken.1, taken.2)

end MappedRows

end RowConduit
