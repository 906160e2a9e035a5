import RowConduit.Json.Record
import RowConduit.Schema.Table

/-!
# Schema documents

The JSON form of a discovered database and its reading.  What is read goes through the checked
constructors of tables and databases; fields with a usual value may be left out.
-/

namespace RowConduit

open RowConduit.Json

namespace SchemaReference

structure Partial where
  name : Option String
  kind : Option SourceKind

def fields : List (Json.Field Partial) :=
  [⟨"name", true, fun s => s.name.isSome, fun s d => do
      return { s with name := some (← readText d) }⟩,
    ⟨"kind", true, fun s => s.kind.isSome, fun s d => do
      return { s with kind := some (← readChoice SourceKind.documentNames d) }⟩]

/-- Read a reference; a blank name is accepted. -/
def read : Draft → Except JsonFault SchemaReference :=
  readRecord fields ⟨none, none⟩ fun s => do
    let name ← require "name" s.name
    let kind ← require "kind" s.kind
    return ⟨name, kind⟩

def toJson (r : SchemaReference) : Json :=
  .object [("name", .string r.name), ("kind", .string r.kind.name)]

end SchemaReference

def uint32Json (n : UInt32) : Json :=
  .number (Json.Number.ofInt n.toNat)

def optionalMember (name : String) : Option Json → Json.Members
  | some value => [(name, value)]
  | none => []

namespace Column

structure Partial where
  name : Option String
  rawType : Option String
  kind : Option SourceKind
  precision : Option (Option UInt32)
  scale : Option (Option UInt32)
  isGenerated : Option Bool

def fields : List (Json.Field Partial) :=
  [⟨"name", true, fun s => s.name.isSome, fun s d => do
      return { s with name := some (← readText d) }⟩,
    ⟨"raw_type", true, fun s => s.rawType.isSome, fun s d => do
      return { s with rawType := some (← readText d) }⟩,
    ⟨"source_kind", true, fun s => s.kind.isSome, fun s d => do
      return { s with kind := some (← readChoice SourceKind.documentNames d) }⟩,
    ⟨"precision", false, fun s => s.precision.isSome, fun s d => do
      return { s with precision := some (← readOptional readUInt32 d) }⟩,
    ⟨"scale", false, fun s => s.scale.isSome, fun s d => do
      return { s with scale := some (← readOptional readUInt32 d) }⟩,
    ⟨"is_generated", false, fun s => s.isGenerated.isSome, fun s d => do
      return { s with isGenerated := some (← readBool d) }⟩]

/-- Read a column; precision, scale and the generated mark may be left out. -/
def read : Draft → Except JsonFault Column :=
  readRecord fields ⟨none, none, none, none, none, none⟩ fun s => do
    let name ← require "name" s.name
    let rawType ← require "raw_type" s.rawType
    let kind ← require "source_kind" s.kind
    return ⟨name, rawType, kind, s.precision.join, s.scale.join, s.isGenerated.getD false⟩

def toJson (c : Column) : Json :=
  .object
    ([("name", .string c.name), ("raw_type", .string c.rawType),
        ("source_kind", .string c.kind.name)] ++
      optionalMember "precision" (c.precision.map uint32Json) ++
      optionalMember "scale" (c.scale.map uint32Json) ++
      [("is_generated", .bool c.isGenerated)])

end Column

namespace Table

structure Partial where
  name : Option String
  columns : Option (List Column)
  parent : Option (Option String)
  foreignKeys : Option (List String)

def fields : List (Json.Field Partial) :=
  [⟨"name", true, fun s => s.name.isSome, fun s d => do
      return { s with name := some (← readText d) }⟩,
    ⟨"columns", true, fun s => s.columns.isSome, fun s d => do
      return { s with columns := some (← readList Column.read d) }⟩,
    ⟨"parent_table", false, fun s => s.parent.isSome, fun s d => do
      return { s with parent := some (← readOptional readText d) }⟩,
    ⟨"foreign_keys", false, fun s => s.foreignKeys.isSome, fun s d => do
      return { s with foreignKeys := some (← readList readText d) }⟩]

/-- The table that the checked constructors build from its parts. -/
def ofParts (name : String) (columns : List Column) (parent : Option String)
    (foreignKeys : List String) : Except SchemaFault Table := do
  let table ← Table.of name columns
  return { table with parent := parent }.withForeignKeys foreignKeys

def read : Draft → Except JsonFault Table :=
  readRecord fields ⟨none, none, none, none⟩ fun s => do
    let name ← require "name" s.name
    let columns ← require "columns" s.columns
    (ofParts name columns s.parent.join (s.foreignKeys.getD [])).mapError .schema

def toJson (t : Table) : Json :=
  .object
    ([("name", .string t.name), ("columns", .array (t.columns.map Column.toJson))] ++
      optionalMember "parent_table" (t.parent.map .string) ++
      (if t.foreignKeys.isEmpty then []
       else [("foreign_keys", .array (t.foreignKeys.map .string))]))

end Table

namespace Database

structure Partial where
  reference : Option SchemaReference
  tables : Option (List Table)

def fields : List (Json.Field Partial) :=
  [⟨"reference", true, fun s => s.reference.isSome, fun s d => do
      return { s with reference := some (← SchemaReference.read d) }⟩,
    ⟨"tables", true, fun s => s.tables.isSome, fun s d => do
      return { s with tables := some (← readList Table.read d) }⟩]

def read : Draft → Except JsonFault Database :=
  readRecord fields ⟨none, none⟩ fun s => do
    let reference ← require "reference" s.reference
    let tables ← require "tables" s.tables
    (Database.of reference tables).mapError .schema

def toJson (db : Database) : Json :=
  .object [("reference", db.reference.toJson), ("tables", .array (db.tables.map Table.toJson))]

def ofText (s : String) : Except JobError Database :=
  (decode read s).mapError .json

end Database

end RowConduit
