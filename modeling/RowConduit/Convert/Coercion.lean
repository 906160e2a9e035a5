import RowConduit.Row.Basic
import RowConduit.Types.LogicalType

/-!
# Coercion

Values brought to a logical type.  NULL stays NULL and a column of an unsupported type is NULL;
every other value either becomes a value of the type or is refused, and arrays and maps are coerced
part by part.
-/

namespace RowConduit

open RowConduit.Text RowConduit.Number RowConduit.Calendar

namespace Coercion

def refuse (field : String) (type : LogicalType) (v : SqlValue) : Except RowError SqlValue :=
  .error (.fieldConversion field type.display (.unexpectedValue v.display))

def unreadable (field : String) (type : LogicalType) (fault : ConversionFault) :
    Except RowError SqlValue :=
  .error (.fieldConversion field type.display fault)

/-- The truth value of a word: true or 1, false or 0, letter case and blanks around it aside. -/
def boolOfText? (s : String) : Option Bool :=
  let word := String.ofList ((trim s.toList).map Char.toLower)
  if word = "true" || word = "1" then some true
  else if word = "false" || word = "0" then some false
  else none

/-- Bytes in hexadecimal after a backslash and an x, or else in base64. -/
def bytesOfText? (cs : List Char) : Option (List UInt8) :=
  match dropStart? ['\\', 'x'] cs with
  | some digits => readHexBytes? digits
  | none => readBase64? cs

/-- Coerce to a truth value; the integers 0 and 1 are truth values too. -/
def toBool (field : String) : SqlValue → Except RowError SqlValue
  | .bool b => .ok (.bool b)
  | .int i =>
      if i = 0 then .ok (.bool false)
      else if i = 1 then .ok (.bool true)
      else refuse field .bool (.int i)
  | .text s =>
      match boolOfText? s with
      | some b => .ok (.bool b)
      | none => refuse field .bool (.text s)
  | other => refuse field .bool other

def intOfText (field : String) (s : String) : Except RowError SqlValue :=
  match readInt64 (trim s.toList) with
  | .ok i => .ok (.int i)
  | .error fault => unreadable field .int (.integer fault)

def toInt (field : String) : SqlValue → Except RowError SqlValue
  | .int i => .ok (.int i)
  | .text s => intOfText field s
  | .number s => intOfText field s
  | other => refuse field .int other

def floatOfText (field : String) (s : String) : Except RowError SqlValue :=
  match Binary64.read (trim s.toList) with
  | .ok x => .ok (.float x)
  | .error fault => unreadable field .float (.float fault)

def toFloat (field : String) : SqlValue → Except RowError SqlValue
  | .float x => .ok (.float x)
  | .int i => .ok (.float (Binary64.ofInt i.toInt))
  | .text s => floatOfText field s
  | .number s => floatOfText field s
  | other => refuse field .float other

/-- The numeric text of a text that is a decimal literal, blanks around it dropped. -/
def numeralOfText? (s : String) : Option SqlValue :=
  if isDecimalLiteral (trim s.toList) then some (.text (trimmed s)) else none

def toNumericString (field : String) : SqlValue → Except RowError SqlValue
  | .decimal d => .ok (.text (String.ofList d.text))
  | .int i => .ok (.text (String.ofList (int64Text i)))
  | .float (.finite negative exponent fraction) =>
      .ok (.text (String.ofList (Binary64.plainText negative exponent fraction)))
  | .text s =>
      match numeralOfText? s with
      | some v => .ok v
      | none => refuse field .numericString (.text s)
  | .number s =>
      match numeralOfText? s with
      | some v => .ok v
      | none => refuse field .numericString (.number s)
  | other => refuse field .numericString other

/-- Coerce to a text: a string as it is, a value whose JSON form is a string as that string, and
anything else as its JSON text. -/
def toText : SqlValue → SqlValue
  | .text s => .text s
  | .json document => .text document.render
  | other =>
      match other.toJson with
      | .string s => .text s
      | document => .text document.render

def toBytes (field : String) : SqlValue → Except RowError SqlValue
  | .bytes b => .ok (.bytes b)
  | .text s =>
      match bytesOfText? (trim s.toList) with
      | some b => .ok (.bytes b)
      | none => unreadable field .bytes .bytes
  | other => refuse field .bytes other

def toDate (field : String) : SqlValue → Except RowError SqlValue
  | .date d => .ok (.date d)
  | .text s =>
      match Date.read? (trim s.toList) with
      | some d => .ok (.date d)
      | none => unreadable field .date .calendar
  | other => refuse field .date other

/-- Coerce to a date with a time of day; an instant gives its time in UTC. -/
def toDateTime (field : String) : SqlValue → Except RowError SqlValue
  | .dateTime dt => .ok (.dateTime dt)
  | .timestamp ts => .ok (.dateTime ts.utc)
  | .text s =>
      match DateTime.read? (trim s.toList) with
      | some dt => .ok (.dateTime dt)
      | none => refuse field .dateTime (.text s)
  | other => refuse field .dateTime other

/-- Coerce to an instant; a date with a time of day is taken to be in UTC. -/
def toTimestamp (field : String) : SqlValue → Except RowError SqlValue
  | .timestamp ts => .ok (.timestamp ts)
  | .dateTime dt => .ok (.timestamp ⟨dt⟩)
  | .text s =>
      match Timestamp.read? (trim s.toList) with
      | some ts => .ok (.timestamp ts)
      | none => unreadable field .timestamp .calendar
  | other => refuse field .timestamp other

def toDocument : SqlValue → Except RowError SqlValue
  | .json document => .ok (.json document)
  | .text s =>
      match Json.parse? s with
      | some document => .ok (.json document)
      | none => .error (.json .malformed)
  | other => .ok (.json other.toJson)

def toUuid (field : String) : SqlValue → Except RowError SqlValue
  | .uuid u => .ok (.uuid u)
  | .text s =>
      match Uuid.read? (trim s.toList) with
      | some u => .ok (.uuid u)
      | none => unreadable field .uuid .uuid
  | other => refuse field .uuid other

end Coercion

open Coercion in
def coerce (field : String) : LogicalType → SqlValue → Except RowError SqlValue
  | _, .null => .ok .null
  | .unsupported, _ => .ok .null
  | .bool, v => toBool field v
  | .int, v => toInt field v
  | .float, v => toFloat field v
  | .numericString, v => toNumericString field v
  | .string, v => .ok (toText v)
  | .bytes, v => toBytes field v
  | .date, v => toDate field v
  | .dateTime, v => toDateTime field v
  | .timestamp, v => toTimestamp field v
  | .json, v => toDocument v
  | .uuid, v => toUuid field v
  | .array element, .array items => do
      let coerced ← items.mapM (coerce field element)
      return .array coerced
  | .array element, v => refuse field (.array element) v
  | .map key value, .map entries => do
      let coerced ← entries.mapM fun entry => do
        let k ← coerce field key entry.1
        let v ← coerce field value entry.2
        return (k, v)
      return .map coerced
  | .map key value, .json (.object members) => do
      let coerced ← members.mapM fun member => do
        let k ← coerce field key (.text member.1)
        let v ← coerce field value (SqlValue.ofJson member.2)
        return (k, v)
      return .map coerced
  | .map key value, v => refuse field (.map key value) v

end RowConduit
