import RowConduit.Schema.Table
import RowConduit.Value.Basic

/-!
# Rows

A record read from a source: the table and schema it belongs to, and its fields in order.  The
fields are either column values or the members of a JSON document; accessors answer alike for both.
-/

namespace RowConduit

inductive Payload where
  | columns (values : List (String × SqlValue))
  | document (members : Json.Members)
  deriving Repr

structure StreamPosition where
  shard : Option String
  readTimeMicros : Option Int64
  deriving DecidableEq, Repr

structure FieldDiagnostic where
  field : String
  reason : String
  deriving DecidableEq, Repr

structure Row where
  table : String
  schema : SchemaReference
  payload : Payload
  stream : Option StreamPosition
  diagnostics : List FieldDiagnostic
  deriving Repr

namespace Row

def ofColumns (table : String) (schema : SchemaReference) (values : List (String × SqlValue)) :
    Row :=
  ⟨table, schema, .columns values, none, []⟩

def ofDocument (table : String) (schema : SchemaReference) (members : Json.Members) : Row :=
  ⟨table, schema, .document members, none, []⟩

def ofText (table : String) (schema : SchemaReference) (text : String) : Except RowError Row :=
  match Json.parse? text with
  | none => .error (.json .malformed)
  | some (.object members) => .ok (ofDocument table schema members)
  | some other => .error (.malformedPayload (.notAnObject other.kindName))

def withTable (r : Row) (table : String) : Row :=
  { r with table := table }

def withStream (r : Row) (stream : StreamPosition) : Row :=
  { r with stream := some stream }

/-- The row with these diagnostics in place of its own. -/
def withDiagnostics (r : Row) (diagnostics : List FieldDiagnostic) : Row :=
  { r with diagnostics := diagnostics }

def fieldNames (r : Row) : List String :=
  match r.payload with
  | .columns values => values.map (·.1)
  | .document members => members.map (·.1)

def size (r : Row) : Nat :=
  match r.payload with
  | .columns values => values.length
  | .document members => members.length

def isEmpty (r : Row) : Bool :=
  r.size == 0

def lookup? {α : Type} (name : String) (fields : List (String × α)) : Option α :=
  (fields.find? fun field => field.1 == name).map (·.2)

/-- The row has a field of this name; its value may be NULL. -/
def contains (r : Row) (field : String) : Bool :=
  match r.payload with
  | .columns values => values.any fun entry => entry.1 == field
  | .document members => members.any fun entry => entry.1 == field

def get? (r : Row) (field : String) : Option SqlValue :=
  match r.payload with
  | .columns values => lookup? field values
  | .document members => (lookup? field members).map SqlValue.ofJson

def text? (r : Row) (field : String) : Option String :=
  match r.payload with
  | .columns values => (lookup? field values).bind SqlValue.asText?
  | .document members => (lookup? field members).bind Json.asString?

def json? (r : Row) (field : String) : Option Json :=
  match r.payload with
  | .columns values => (lookup? field values).map SqlValue.toJson
  | .document members => lookup? field members

def toJson (r : Row) : Json :=
  match r.payload with
  | .columns values => .object (Json.collect (values.map fun field => (field.1, field.2.toJson)))
  | .document members => .object members

def display (r : Row) : String :=
  r.toJson.render

end Row

end RowConduit
