import RowConduit.Convert.Coercion
import RowConduit.Pipeline.Stage
import RowConduit.Row.ChangeEvent
import RowConduit.Row.Template
import RowConduit.Schema.Table
import RowConduit.Types.Mapper

/-!
# Conversion stages

The three conversions that take a document to a row, a row to the shape of a target table, and a row
back to a document.
-/

namespace RowConduit

def rowOfDocument (schema : SchemaReference) (defaultTable text : String) :
    Except RowError Row := do
  let row ← Row.ofText defaultTable schema text
  match row.sourceTableName? with
  | some table => return row.withTable table
  | none => return row

def documentToRow (schema : SchemaReference) (defaultTable : String) : Stage String Row where
  name := "json_to_row"
  convert text := Outcome.ofExcept (rowOfDocument schema defaultTable text)

def rowToDocument : Stage Row String where
  name := "row_to_json"
  convert row := .converted row.display

structure Target where
  table : String
  columns : List (String × LogicalType)
  deriving Repr

namespace Target

def of (table : Table) (mapper : TypeMapper) : Target :=
  ⟨table.name, table.sourcedColumns.map fun column => (column.name, mapper.mapColumn column)⟩

/-- The value of a column in a row, brought to its type; a field the row lacks is NULL. -/
def columnValue (row : Row) (column : String × LogicalType) : Except RowError (String × SqlValue) :=
  match row.get? column.1 with
  | some v => (coerce column.1 column.2 v).map fun w => (column.1, w)
  | none => .ok (column.1, .null)

/-- The row in the shape of the target: its columns in order; the first that fails is the error. -/
def shape (target : Target) (row : Row) : Except RowError Row := do
  let values ← target.columns.mapM (columnValue row)
  return { (Row.ofColumns target.table row.schema values) with
    stream := row.stream
    diagnostics := row.diagnostics }

def stage (target : Target) : Stage Row Row where
  name := "row_to_target_row"
  convert row := Outcome.ofExcept (target.shape row)

end Target

end RowConduit
