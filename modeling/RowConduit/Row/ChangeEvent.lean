import RowConduit.Row.Basic
import RowConduit.Text.Split

/-!
# Change events

Producers of change events write their bookkeeping into fields beside the data.  From these fields a
row tells the kind of its source, its primary keys, and the fields by which events are ordered.
-/

namespace RowConduit

open RowConduit.Text

namespace ChangeEvent

def streamField : String := "_metadata_stream"

def sourceTypeField : String := "_metadata_source_type"

def schemaField : String := "_metadata_schema"

def tableField : String := "_metadata_table"

def primaryKeysField : String := "_metadata_primary_keys"

def timestampField : String := "_metadata_timestamp"

def logFileField : String := "_metadata_log_file"

def logPositionField : String := "_metadata_log_position"

def lsnField : String := "_metadata_lsn"

def scnField : String := "_metadata_scn"

def rsIdField : String := "_metadata_rs_id"

def ssnField : String := "_metadata_ssn"

def deletedField : String := "_metadata_deleted"

def rowIdField : String := "_metadata_row_id"

def transactionField : String := "_metadata_tx_id"

def orderingFields : SourceKind → List String
  | .mySql => [timestampField, logFileField, logPositionField]
  | .postgreSql => [timestampField, lsnField]
  | .googleSql => [timestampField, scnField, rsIdField, ssnField]
  | .cassandra => [timestampField, scnField, rsIdField, ssnField]
  | .oracle => [timestampField, scnField, rsIdField, ssnField]

def dropQuotes (cs : List Char) : List Char :=
  ((cs.dropWhile (· = '"')).reverse.dropWhile (· = '"')).reverse

/-- The name that a piece of a key list stands for: blanks and quotes around it dropped. -/
def keyName (piece : List Char) : List Char :=
  trim (dropQuotes (trim piece))

/-- The text between square brackets, or the whole text where there are none. -/
def insideBrackets (cs : List Char) : List Char :=
  match dropStart? ['['] cs with
  | none => cs
  | some rest =>
      match dropEnd? [']'] rest with
      | none => cs
      | some inside => inside

/-- The names of a key list such as `[a, "b", c]`; empty ones are dropped. -/
def keyNames (cs : List Char) : List (List Char) :=
  ((pieces (· = ',') (insideBrackets (trim cs))).map keyName).filter fun name => !name.isEmpty

/-- The name of a key in a JSON array: a string as it is, anything else as its JSON text. -/
def keyOfJson : Json → String
  | .string s => s
  | other => other.render

end ChangeEvent

namespace Row

open ChangeEvent

/--
The kind of source of a change event: the kind its bookkeeping names canonically, otherwise that of
the schema of the row.
-/
def sourceKind (r : Row) : SourceKind :=
  ((r.text? sourceTypeField).bind SourceKind.ofName?).getD r.schema.kind

def streamName? (r : Row) : Option String :=
  r.text? streamField

def sourceSchemaName? (r : Row) : Option String :=
  r.text? schemaField

def sourceTableName? (r : Row) : Option String :=
  r.text? tableField

def oracleRowId? (r : Row) : Option String :=
  r.text? rowIdField

def oracleTransactionId? (r : Row) : Option String :=
  r.text? transactionField

/-- The primary keys that are written in the row: a JSON array, or a list in a text. -/
def writtenKeys (r : Row) : Except RowError (List String) :=
  match r.json? primaryKeysField with
  | none => .ok []
  | some .null => .ok []
  | some (.array items) => .ok (items.map keyOfJson)
  | some (.string s) => .ok ((keyNames s.toList).map String.ofList)
  | some other => .error (.metadata primaryKeysField (.notColumnNames other.render))

/-- The primary keys of a row; an Oracle row without written ones is keyed by its row identifier. -/
def primaryKeys (r : Row) : Except RowError (List String) :=
  match r.writtenKeys with
  | .error e => .error e
  | .ok keys => if keys.isEmpty && r.sourceKind = .oracle then .ok [rowIdField] else .ok keys

def sortFields (r : Row) : List String :=
  orderingFields r.sourceKind

def sortFieldsWithDeleted (r : Row) (includeDeleted : Bool) : List String :=
  r.sortFields ++ (if includeDeleted then [deletedField] else [])

end Row

end RowConduit
