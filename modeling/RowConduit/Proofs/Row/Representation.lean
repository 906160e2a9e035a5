import Mathlib.Tactic.Common
import RowConduit.Convert.Stages
import RowConduit.Proofs.Json.Members
import RowConduit.Proofs.Value.Document

/-!
# The two forms of a row

A row whose fields are the members of a document cannot be told from the row of the same columns
whose values are taken from that document.  Everything that is asked of a row goes through a few
accessors, so it is enough that these agree; what is computed from them then agrees with no further
look at the fields.
-/

namespace RowConduit

namespace Row

/-- The accessors of two rows give the same answers. -/
structure Alike (r s : Row) : Prop where
  table : r.table = s.table
  schema : r.schema = s.schema
  stream : r.stream = s.stream
  diagnostics : r.diagnostics = s.diagnostics
  fieldNames : r.fieldNames = s.fieldNames
  size : r.size = s.size
  contains : ∀ field, r.contains field = s.contains field
  get : ∀ field, r.get? field = s.get? field
  text : ∀ field, r.text? field = s.text? field
  json : ∀ field, r.json? field = s.json? field
  toJson : r.toJson = s.toJson

/--
Two rows cannot be told apart: beside their accessors, all that is read off change events, every
template, and both conversions agree on them.
-/
structure Indistinguishable (r s : Row) : Prop extends Alike r s where
  isEmpty : r.isEmpty = s.isEmpty
  display : r.display = s.display
  sourceKind : r.sourceKind = s.sourceKind
  primaryKeys : r.primaryKeys = s.primaryKeys
  sortFields : r.sortFields = s.sortFields
  sortFieldsWithDeleted : ∀ includeDeleted,
    r.sortFieldsWithDeleted includeDeleted = s.sortFieldsWithDeleted includeDeleted
  formatTemplate : ∀ template, r.formatTemplate template = s.formatTemplate template
  formatTableName : ∀ template, r.formatTableName template = s.formatTableName template
  formatDatasetName : ∀ template, r.formatDatasetName template = s.formatDatasetName template
  document : rowToDocument.convert r = rowToDocument.convert s
  targetRow : ∀ target : Target, target.stage.convert r = target.stage.convert s

namespace Alike

variable {r s : Row}

theorem display (alike : r.Alike s) : r.display = s.display := by
  rw [Row.display, Row.display, alike.toJson]

theorem sourceKind (alike : r.Alike s) : r.sourceKind = s.sourceKind := by
  rw [Row.sourceKind, Row.sourceKind, alike.text, alike.schema]

theorem writtenKeys (alike : r.Alike s) : r.writtenKeys = s.writtenKeys := by
  rw [Row.writtenKeys, Row.writtenKeys, alike.json]

theorem primaryKeys (alike : r.Alike s) : r.primaryKeys = s.primaryKeys := by
  rw [Row.primaryKeys, Row.primaryKeys, alike.writtenKeys, alike.sourceKind]

theorem sortFields (alike : r.Alike s) : r.sortFields = s.sortFields := by
  rw [Row.sortFields, Row.sortFields, alike.sourceKind]

theorem formatTemplate (alike : r.Alike s) (template : String) :
    r.formatTemplate template = s.formatTemplate template := by
  have text : r.text? = s.text? := funext alike.text
  rw [Row.formatTemplate, Row.formatTemplate, text]

theorem shape (alike : r.Alike s) (target : Target) : target.shape r = target.shape s := by
  have column : Target.columnValue r = Target.columnValue s := by
    funext column
    rw [Target.columnValue, Target.columnValue, alike.get]
  rw [Target.shape, Target.shape, column, alike.schema, alike.stream, alike.diagnostics]

/-- What is computed from a row is computed from what its accessors say. -/
theorem indistinguishable (alike : r.Alike s) : r.Indistinguishable s where
  toAlike := alike
  isEmpty := by rw [Row.isEmpty, Row.isEmpty, alike.size]
  display := alike.display
  sourceKind := alike.sourceKind
  primaryKeys := alike.primaryKeys
  sortFields := alike.sortFields
  sortFieldsWithDeleted := by
    intro includeDeleted
    rw [Row.sortFieldsWithDeleted, Row.sortFieldsWithDeleted, alike.sortFields]
  formatTemplate := alike.formatTemplate
  formatTableName := by
    intro template
    rw [Row.formatTableName, Row.formatTableName, alike.formatTemplate]
  formatDatasetName := by
    intro template
    rw [Row.formatDatasetName, Row.formatDatasetName, alike.formatTemplate]
  document := by
    rw [rowToDocument]
    dsimp only
    rw [alike.display]
  targetRow := by
    intro target
    rw [Target.stage]
    dsimp only
    rw [alike.shape]

end Alike

theorem lookup?_map {α β : Type} (f : α → β) (name : String) (fields : List (String × α)) :
    lookup? name (fields.map fun field => (field.1, f field.2)) = (lookup? name fields).map f := by
  rw [lookup?, lookup?, List.find?_map, Option.map_map, Option.map_map]
  rfl

theorem text?_eq_bind_get? (r : Row) (field : String) :
    r.text? field = (r.get? field).bind SqlValue.asText? := by
  unfold text? get?
  cases r.payload with
  | columns values => rfl
  | document members =>
      dsimp only
      cases lookup? field members with
      | none => rfl
      | some j => exact (SqlValue.asText?_ofJson j).symm

def columnsOf (members : Json.Members) : List (String × SqlValue) :=
  members.map fun member => (member.1, .ofJson member.2)

theorem lookup?_columnsOf (name : String) (members : Json.Members) :
    lookup? name (columnsOf members) = (lookup? name members).map .ofJson :=
  lookup?_map SqlValue.ofJson name members

theorem toJson_columnsOf {members : Json.Members}
    (plain : (Json.object members).WithoutNegativeZero) :
    (columnsOf members).map (fun column => (column.1, column.2.toJson)) = members := by
  rw [Json.WithoutNegativeZero, Json.membersWithoutNegativeZero_iff] at plain
  rw [columnsOf, List.map_map]
  refine List.map_congr_left (fun member listed => ?_) |>.trans (List.map_id members)
  have same := SqlValue.toJson_ofJson member.2 (plain member listed)
  simp [same]

theorem alike_columnsOf {members : Json.Members} (distinct : (members.map (·.1)).Nodup)
    (plain : (Json.object members).WithoutNegativeZero) (table : String)
    (schema : SchemaReference) (stream : Option StreamPosition)
    (diagnostics : List FieldDiagnostic) :
    Alike ⟨table, schema, .document members, stream, diagnostics⟩
      ⟨table, schema, .columns (columnsOf members), stream, diagnostics⟩ where
  table := rfl
  schema := rfl
  stream := rfl
  diagnostics := rfl
  fieldNames := by simp [fieldNames, columnsOf]
  size := by simp [size, columnsOf]
  contains := by
    intro field
    simp [contains, columnsOf, Function.comp_def]
  get := by
    intro field
    simp only [get?, lookup?_columnsOf]
  text := by
    intro field
    simp only [text?_eq_bind_get?, get?, lookup?_columnsOf]
  json := by
    intro field
    simp only [json?]
    rw [← lookup?_map, toJson_columnsOf plain]
  toJson := by
    simp only [toJson]
    rw [toJson_columnsOf plain, Json.collect_of_nodup distinct]

/--
The row of a document and the row of its members as columns cannot be told apart, if no number of
the document is written `-0`.
-/
theorem ofDocument_indistinguishable {members : Json.Members}
    (distinct : (members.map (·.1)).Nodup)
    (plain : (Json.object members).WithoutNegativeZero) (table : String)
    (schema : SchemaReference) (stream : Option StreamPosition) :
    Indistinguishable { ofDocument table schema members with stream := stream }
      { ofColumns table schema (columnsOf members) with stream := stream } :=
  (alike_columnsOf distinct plain table schema stream []).indistinguishable

end Row

/-- A change event with an array of keys, a number that is no 64-bit integer, and nested values. -/
def orderEvent : Json.Members :=
  [("id", .number ⟨false, .positive 6 [], [], none⟩),
    ("total", .number ⟨true, .zero, [5, 0], none⟩),
    ("_metadata_primary_keys", .array [.string "id", .number ⟨true, .positive 0 [], [], none⟩]),
    ("lines", .array [.null, .array [.bool true], .object [("id", .string "7")]])]

theorem Row.ofDocument_indistinguishable_orderEvent :
    Row.Indistinguishable
      { Row.ofDocument "orders" ⟨"shop", .mySql⟩ orderEvent with stream := some ⟨none, some 5⟩ }
      { Row.ofColumns "orders" ⟨"shop", .mySql⟩ (Row.columnsOf orderEvent) with
        stream := some ⟨none, some 5⟩ } := by
  have distinct : (orderEvent.map (·.1)).Nodup := by decide
  have plain : (Json.object orderEvent).WithoutNegativeZero := by
    simp [orderEvent, Json.WithoutNegativeZero, Json.MembersWithoutNegativeZero,
      Json.ItemsWithoutNegativeZero, Json.Number.negativeZero]
  exact Row.ofDocument_indistinguishable distinct plain "orders" ⟨"shop", .mySql⟩
    (some ⟨none, some 5⟩)

end RowConduit
