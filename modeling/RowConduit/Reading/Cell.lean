import RowConduit.Error
import RowConduit.Value.Basic

/-!
# Cells of a result

What a database driver hands out: rows whose cells hold a value or could not be decoded.  A row
addresses its cells by name, or by position next to a list of column names.  Both give a reader,
which answers for a column name.
-/

namespace RowConduit

inductive Cell where
  | value (value : SqlValue)
  | unreadable (reason : String)
  deriving Repr

/-- The answer of a result row for a column name: nothing if the row has no such column. -/
abbrev ColumnReader : Type :=
  String → Except RowError (Option SqlValue)

def Cell.read (column : String) : Cell → Except RowError (Option SqlValue)
  | .value v => .ok (some v)
  | .unreadable reason => .error (.fieldConversion column "driver value" (.described reason))

/-- The cell of a column in a list of names and cells; the first of equal names counts. -/
def namedCell? (cells : List (String × Cell)) (column : String) : Option Cell :=
  (cells.find? fun cell => cell.1 == column).map (·.2)

def positionalCell? (columns : List String) (cells : List Cell) (column : String) : Option Cell :=
  match columns.findIdx? (· == column) with
  | some position => cells[position]?
  | none => none

def readCell (column : String) : Option Cell → Except RowError (Option SqlValue)
  | some cell => cell.read column
  | none => .ok none

def namedReader (cells : List (String × Cell)) : ColumnReader :=
  fun column => readCell column (namedCell? cells column)

def positionalReader (columns : List String) (cells : List Cell) : ColumnReader :=
  fun column => readCell column (positionalCell? columns cells column)

end RowConduit
