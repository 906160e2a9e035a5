import RowConduit.Error
import RowConduit.Json.Draft

/-!
# Typed reading of documents

Readers that turn a draft into a value of a wanted shape.  They work in document order, so of two
faults the one written first is reported; fields that nobody asked for are passed over.
-/

namespace RowConduit.Json

open RowConduit.Text RowConduit.Number

def Draft.shapeFault : Draft → JsonFault
  | .broken => .malformed
  | .string none => .malformed
  | _ => .wrongType

def readText : Draft → Except JsonFault String
  | .string (some s) => .ok s
  | d => .error d.shapeFault

def readBool : Draft → Except JsonFault Bool
  | .bool b => .ok b
  | d => .error d.shapeFault

def Number.fractionalFault (n : Number) : JsonFault :=
  if n.overflows then .malformed else .wrongType

/--
Read a 32-bit unsigned integer.  A 64-bit integer outside the range has the wrong value; any other
number, the negative zero among them, has the wrong type.
-/
def readUInt32 : Draft → Except JsonFault UInt32
  | .number n =>
      match n.integer? with
      | none => .error n.fractionalFault
      | some i =>
          if n.negative then
            if i < 0 && -(2 ^ 63) ≤ i then .error .wrongValue else .error n.fractionalFault
          else if i < 2 ^ 32 then .ok (UInt32.ofNat i.toNat)
          else if i < 2 ^ 64 then .error .wrongValue
          else .error n.fractionalFault
  | d => .error d.shapeFault

def readOptional {α : Type} (read : Draft → Except JsonFault α) :
    Draft → Except JsonFault (Option α)
  | .null => .ok none
  | d => (read d).map some

def readList {α : Type} (read : Draft → Except JsonFault α) : Draft → Except JsonFault (List α)
  | .array items closed => do
      let found ← items.mapM read
      if closed then .ok found else .error .malformed
  | d => .error d.shapeFault

def choose {α : Type} (choices : List (String × α)) (name : String) : Except JsonFault α :=
  match choices.lookup name with
  | some chosen => .ok chosen
  | none => .error (.unknownVariant name (choices.map (·.1)))

/-- Read one of several names, as a string or as an object of that one name with the value null. -/
def readChoice {α : Type} (choices : List (String × α)) : Draft → Except JsonFault α
  | .string (some s) => choose choices s
  | .object ((name, value) :: more) closed => do
      let chosen ← choose choices (← readText name)
      match value with
      | .null => if more.isEmpty && closed then .ok chosen else .error .malformed
      | other => .error other.shapeFault
  | _ => .error .malformed

/-- One field of a record whose fields are collected in a value of type `σ`. -/
structure Field (σ : Type) where
  name : String
  required : Bool
  isSet : σ → Bool
  read : σ → Draft → Except JsonFault σ

/-- Read one member of a record: a field is read once, and an unknown member must be complete. -/
def readMember {σ : Type} (fields : List (Field σ)) (s : σ) (member : Draft × Draft) :
    Except JsonFault σ :=
  match member.1 with
  | .string (some name) =>
      match fields.find? fun field => field.name == name with
      | some field =>
          if field.isSet s then .error (.repeatedField name) else field.read s member.2
      | none => if member.2.isComplete then .ok s else .error .malformed
  | _ => .error .malformed

/-- Read the fields of a record from an array, in order; fields at the end may be left out. -/
def readPositions {σ : Type} (closed : Bool) : List (Field σ) → σ → List Draft →
    Except JsonFault σ
  | [], s, [] => if closed then .ok s else .error .malformed
  | [], _, _ :: _ => .error .malformed
  | field :: fields, s, [] =>
      if !closed then .error .malformed
      else if field.required then .error .wrongLength
      else readPositions closed fields s []
  | field :: fields, s, item :: items => do
      let s ← field.read s item
      readPositions closed fields s items

def readRecord {σ α : Type} (fields : List (Field σ)) (start : σ)
    (finish : σ → Except JsonFault α) : Draft → Except JsonFault α
  | .object members closed => do
      let s ← members.foldlM (readMember fields) start
      if closed then finish s else .error .malformed
  | .array items closed => do
      let s ← readPositions closed fields start items
      finish s
  | d => .error d.shapeFault

def require {α : Type} (name : String) : Option α → Except JsonFault α
  | some found => .ok found
  | none => .error (.missingField name)

def decode {α : Type} (read : Draft → Except JsonFault α) (s : String) : Except JsonFault α := do
  let taken := draft s.toList
  let found ← read taken.1
  if taken.2.isEmpty then .ok found else .error .malformed

end RowConduit.Json
