import RowConduit.Calendar.Timestamp
import RowConduit.Json.Draft
import RowConduit.Number.Decimal
import RowConduit.Text.Base64
import RowConduit.Value.Uuid

/-!
# SQL values

The value of a field of a row, whatever source it came from, with its JSON form and the reading of
a JSON document as a value.
-/

namespace RowConduit

open RowConduit.Text RowConduit.Number RowConduit.Calendar

/--
The value of a field.  `number` is the text of a number outside the 64-bit integers; `json` is a
document kept as it is; the entries of a map stay in the order of the source.
-/
inductive SqlValue where
  | null
  | bool (value : Bool)
  | int (value : Int64)
  | float (value : Binary64)
  | decimal (value : Decimal)
  | number (literal : String)
  | text (value : String)
  | bytes (value : List UInt8)
  | uuid (value : Uuid)
  | date (value : Date)
  | dateTime (value : DateTime)
  | timestamp (value : Timestamp)
  | json (document : Json)
  | array (items : List SqlValue)
  | map (entries : List (SqlValue × SqlValue))
  deriving Repr

namespace SqlValue

def isNull : SqlValue → Bool
  | .null => true
  | _ => false

def asText? : SqlValue → Option String
  | .text s => some s
  | _ => none

def asNumber? : SqlValue → Option String
  | .number s => some s
  | _ => none

def jsonString (cs : List Char) : Json :=
  .string (String.ofList cs)

/-- The JSON form of a double-precision number: a number, or the name of a value that is none. -/
def floatJson : Binary64 → Json
  | .finite negative exponent fraction =>
      .number (Json.Number.ofBinary64 negative exponent fraction)
  | .infinite false => .string "Infinity"
  | .infinite true => .string "-Infinity"
  | .nan => .string "NaN"

/--
The JSON form of a number literal: a number if it is one to JSON, or a document that stands for one,
and its text otherwise.
-/
def numberJson (literal : String) : Json :=
  match Json.Number.read? literal.toList with
  | some n => .number n
  | none =>
      match Json.parse? literal with
      | some (.number n) => .number n
      | _ => .string literal

mutual

/--
The JSON form of a value.  Bytes are in base64, exact decimals and calendar values are strings, and
a map is an object whose names are its text keys and the JSON text of its other keys.
-/
def toJson : SqlValue → Json
  | .null => .null
  | .bool b => .bool b
  | .int i => .number (Json.Number.ofInt i.toInt)
  | .float x => floatJson x
  | .decimal d => jsonString d.text
  | .number literal => numberJson literal
  | .text s => .string s
  | .bytes b => jsonString (base64Text b)
  | .uuid u => jsonString u.text
  | .date d => jsonString d.text
  | .dateTime dt => jsonString dt.text
  | .timestamp ts => jsonString ts.text
  | .json document => document
  | .array items => .array (itemsToJson items)
  | .map entries => .object (Json.collect (entriesToJson entries))

def itemsToJson : List SqlValue → List Json
  | [] => []
  | item :: rest => item.toJson :: itemsToJson rest

/-- The members that entries become, in order, equal names not yet merged. -/
def entriesToJson : List (SqlValue × SqlValue) → Json.Members
  | [] => []
  | (key, value) :: rest =>
      (match key with
       | .text s => s
       | other => other.toJson.render, value.toJson) :: entriesToJson rest

end

mutual

/--
A JSON document as a value: integers of 64 bits become integers and other numbers keep their text,
arrays become arrays of values, and objects stay documents.
-/
def ofJson : Json → SqlValue
  | .null => .null
  | .bool b => .bool b
  | .number n =>
      match n.int64? with
      | some i => .int i
      | none => .number (String.ofList n.text)
  | .string s => .text s
  | .array items => .array (itemsOfJson items)
  | .object members => .json (.object members)

def itemsOfJson : List Json → List SqlValue
  | [] => []
  | item :: rest => ofJson item :: itemsOfJson rest

end

def display (v : SqlValue) : String :=
  v.toJson.render

def ofOption : Option SqlValue → SqlValue
  | some v => v
  | none => .null

theorem itemsToJson_eq_map (items : List SqlValue) : itemsToJson items = items.map toJson := by
  induction items with
  | nil => rfl
  | cons item rest ih => simp [itemsToJson, ih]

theorem itemsOfJson_eq_map (items : List Json) : itemsOfJson items = items.map ofJson := by
  induction items with
  | nil => rfl
  | cons item rest ih => simp [itemsOfJson, ih]

end SqlValue

end RowConduit
