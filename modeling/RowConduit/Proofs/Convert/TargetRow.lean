import Mathlib
import RowConduit.Convert.Stages
import RowConduit.Proofs.Convert.Recovery
import RowConduit.Proofs.Schema.Table

/-!
# Target rows come back from their documents

A row in the shape of a target, written as a document and read again, has the same fields when it is
brought to the target once more, unless a first name in the document marks an object as a number.
-/

namespace RowConduit

open SqlValue

theorem Outcome.ofExcept_eq_converted_iff {β : Type} {result : Except RowError β} {payload : β} :
    Outcome.ofExcept result = .converted payload ↔ result = .ok payload := by
  cases result <;> simp [Outcome.ofExcept]

theorem Table.nodup_sourcedColumns {table bare : Table}
    (checked : Table.of table.name table.columns = .ok bare) :
    (table.sourcedColumns.map (·.name)).Nodup := by
  have sublist : (table.sourcedColumns.map (·.name)).Sublist (table.columns.map (·.name)) :=
    List.filter_sublist.map _
  exact sublist.nodup (Table.of_eq_ok_iff.mp checked).2.1

/-- Among fields with distinct names each is found under its name. -/
theorem Row.lookup?_of_mem {α : Type} {fields : List (String × α)} {field : String × α}
    (distinct : (fields.map (·.1)).Nodup) (member : field ∈ fields) :
    Row.lookup? field.1 fields = some field.2 := by
  induction fields with
  | nil => cases member
  | cons first rest ih =>
      rw [List.map_cons, List.nodup_cons] at distinct
      rcases List.mem_cons.mp member with rfl | later
      · simp [Row.lookup?]
      · have other : ¬ first.1 = field.1 := fun same =>
          distinct.1 (same ▸ List.mem_map_of_mem later)
        have found := ih distinct.2 later
        rw [Row.lookup?] at found ⊢
        rw [List.find?_cons_of_neg (by simpa using other)]
        exact found

def Row.Recoverable (r : Row) : Prop :=
  match r.payload with
  | .columns values => ∀ field ∈ values, field.2.Recoverable
  | .document _ => True

namespace Target

variable {target : Target} {row w : Row}

theorem columnValue_of_get? {column : String × LogicalType} {v : SqlValue}
    (found : row.get? column.1 = some v) :
    columnValue row column = (coerce column.1 column.2 v).map fun value => (column.1, value) := by
  rw [columnValue, found]

theorem columnValue_eq_ok {column : String × LogicalType} {field : String × SqlValue}
    (shaped : columnValue row column = .ok field) :
    field.1 = column.1 ∧ field.2.HasType column.2 := by
  unfold columnValue at shaped
  split at shaped
  · obtain ⟨value, coerced, rfl⟩ := Except.map_eq_ok_iff.mp shaped
    exact ⟨rfl, coerce_hasType coerced⟩
  · cases shaped
    exact ⟨rfl, hasType_null column.2⟩

def Shapes (target : Target) (row : Row) (values : List (String × SqlValue)) : Prop :=
  List.Forall₂ (fun column field => columnValue row column = .ok field) target.columns values

def rowOf (target : Target) (row : Row) (values : List (String × SqlValue)) : Row :=
  { (Row.ofColumns target.table row.schema values) with
    stream := row.stream
    diagnostics := row.diagnostics }

theorem get?_of_columns {values : List (String × SqlValue)} {value : String × SqlValue}
    (columns : row.payload = .columns values) (distinct : (values.map (·.1)).Nodup)
    (listed : value ∈ values) : row.get? value.1 = some value.2 := by
  rw [Row.get?, columns]
  exact Row.lookup?_of_mem distinct listed

theorem shape_eq_ok_iff :
    target.shape row = .ok w ↔
      ∃ values, target.Shapes row values ∧ w = target.rowOf row values := by
  rw [shape, Except.bind_eq_ok_iff]
  simp only [Except.mapM_eq_ok_iff, Shapes]
  constructor
  · rintro ⟨values, each, done⟩
    cases done
    exact ⟨values, each, rfl⟩
  · rintro ⟨values, each, rfl⟩
    exact ⟨values, each, rfl⟩

theorem exists_shape_iff {values : List (String × SqlValue)} :
    (∃ again, target.shape row = .ok again ∧ again.payload = .columns values) ↔
      target.Shapes row values := by
  simp only [shape_eq_ok_iff]
  constructor
  · rintro ⟨again, ⟨others, shapes, rfl⟩, same⟩
    cases same
    exact shapes
  · intro shapes
    exact ⟨target.rowOf row values, ⟨values, shapes, rfl⟩, rfl⟩

theorem Shapes.names {values : List (String × SqlValue)} (shapes : target.Shapes row values) :
    values.map (·.1) = target.columns.map (·.1) :=
  map_eq_of_forall₂ shapes fun _ _ step => (columnValue_eq_ok step).1

theorem Shapes.exists_column {values : List (String × SqlValue)}
    (shapes : target.Shapes row values) {field : String × SqlValue} (listed : field ∈ values) :
    ∃ column ∈ target.columns, columnValue row column = .ok field := by
  obtain ⟨column, ofTarget, step⟩ := exists_of_mem_right shapes listed
  exact ⟨column, ofTarget, step⟩

theorem nodup_of {table bare : Table} (mapper : TypeMapper)
    (checked : Table.of table.name table.columns = .ok bare) :
    ((Target.of table mapper).columns.map (·.1)).Nodup := by
  have names : (Target.of table mapper).columns.map (·.1) =
      table.sourcedColumns.map (·.name) := by
    rw [Target.of, List.map_map]
    rfl
  rw [names]
  exact Table.nodup_sourcedColumns checked

theorem isPortable_of {table : Table} {mapper : TypeMapper}
    (portable : ∀ column ∈ table.sourcedColumns, (mapper.mapColumn column).isPortable = true) :
    ∀ column ∈ (Target.of table mapper).columns, column.2.isPortable = true := by
  intro column listed
  obtain ⟨source, sourced, rfl⟩ := List.mem_map.mp listed
  exact portable source sourced

def membersOf (values : List (String × SqlValue)) : Json.Members :=
  values.map fun field => (field.1, field.2.toJson)

theorem names_membersOf (values : List (String × SqlValue)) :
    (membersOf values).map (·.1) = values.map (·.1) := by
  rw [membersOf, List.map_map]
  rfl

theorem nodup_membersOf {values : List (String × SqlValue)}
    (distinct : (values.map (·.1)).Nodup) : ((membersOf values).map (·.1)).Nodup := by
  rw [names_membersOf]
  exact distinct

theorem toJson_rowOf {values : List (String × SqlValue)} (distinct : (values.map (·.1)).Nodup) :
    (target.rowOf row values).toJson = .object (membersOf values) := by
  rw [← Json.collect_of_nodup (nodup_membersOf distinct)]
  rfl

theorem convert_rowOf {values : List (String × SqlValue)} (distinct : (values.map (·.1)).Nodup) :
    rowToDocument.convert (target.rowOf row values) =
      .converted (Json.object (membersOf values)).render := by
  have document : (target.rowOf row values).toJson = .object (membersOf values) :=
    toJson_rowOf distinct
  rw [← document]
  rfl

/-- A row that is read from a document answers with what the member of a name stands for. -/
theorem get?_of_document {read : Row} {members : Json.Members} {member : String × Json}
    (document : read.payload = .document members) (distinct : (members.map (·.1)).Nodup)
    (listed : member ∈ members) : read.get? member.1 = some (ofJson member.2) := by
  rw [Row.get?, document]
  dsimp only
  rw [Row.lookup?_of_mem distinct listed]
  rfl

end Target

theorem rowOfDocument_of_parse? (schema : SchemaReference) (defaultTable : String) {text : String}
    {members : Json.Members} (parsed : Json.parse? text = some (.object members)) :
    ∃ read, rowOfDocument schema defaultTable text = .ok read ∧
      read.payload = .document members := by
  have row : Row.ofText defaultTable schema text =
      .ok (Row.ofDocument defaultTable schema members) := by
    rw [Row.ofText, parsed]
  cases named : (Row.ofDocument defaultTable schema members).sourceTableName? with
  | none =>
      refine ⟨Row.ofDocument defaultTable schema members, ?_, rfl⟩
      rw [rowOfDocument, row, Except.bind_eq_ok_iff]
      exact ⟨_, rfl, by rw [named]; rfl⟩
  | some table =>
      refine ⟨(Row.ofDocument defaultTable schema members).withTable table, ?_, rfl⟩
      rw [rowOfDocument, row, Except.bind_eq_ok_iff]
      exact ⟨_, rfl, by rw [named]; rfl⟩

theorem rowOfDocument_eq_ok {schema : SchemaReference} {defaultTable text : String} {read : Row}
    (reading : rowOfDocument schema defaultTable text = .ok read) :
    ∃ members, Json.parse? text = some (.object members) ∧ read.payload = .document members := by
  have accepted := reading
  rw [rowOfDocument, Except.bind_eq_ok_iff] at accepted
  obtain ⟨row, ofText, _⟩ := accepted
  unfold Row.ofText at ofText
  split at ofText
  · cases ofText
  · next members parsed =>
    obtain ⟨same, again, payload⟩ := rowOfDocument_of_parse? schema defaultTable parsed
    cases reading.symm.trans again
    exact ⟨members, parsed, payload⟩
  · cases ofText

namespace Target

variable {target : Target} {row : Row} {values : List (String × SqlValue)}

/-- A row without marked objects is read from its text, and its columns have their fields again. -/
theorem Shapes.recovers (shapes : target.Shapes row values)
    (distinct : (values.map (·.1)).Nodup)
    (portable : ∀ column ∈ target.columns, column.2.isPortable = true)
    (recoverable : ∀ field ∈ values, field.2.Recoverable)
    (unmarked : (Json.object (membersOf values)).Unmarked)
    (shallow : (Json.object (membersOf values)).depth ≤ Json.maxDepth)
    (schema : SchemaReference) (defaultTable : String) :
    ∃ read, rowOfDocument schema defaultTable (Json.object (membersOf values)).render = .ok read ∧
      target.Shapes read values := by
  have names := nodup_membersOf distinct
  have wellFormed : (Json.object (membersOf values)).WellFormed := by
    refine ⟨names, Json.membersWellFormed_iff.mpr ?_⟩
    intro member found
    obtain ⟨field, listed, rfl⟩ := List.mem_map.mp found
    obtain ⟨column, ofTarget, step⟩ := shapes.exists_column listed
    exact wellFormed_toJson (portable column ofTarget) (columnValue_eq_ok step).2
  obtain ⟨read, reading, document⟩ := rowOfDocument_of_parse? schema defaultTable
    (Json.parse?_render wellFormed unmarked shallow)
  refine ⟨read, reading, forall₂_of_mem shapes fun column ofTarget field listed step => ?_⟩
  obtain ⟨named, typed⟩ := columnValue_eq_ok step
  have found := get?_of_document document names (List.mem_map_of_mem listed)
  rw [named] at found
  rw [columnValue_of_get? found,
    coerce_ofJson_toJson (portable column ofTarget) typed (recoverable field listed), ← named]
  rfl

/-- Only a row without marked objects has its fields again when it is read from its text. -/
theorem Shapes.unmarked_of_reading {read : Row} (again : target.Shapes read values)
    (distinct : (values.map (·.1)).Nodup)
    (portable : ∀ column ∈ target.columns, column.2.isPortable = true)
    (recoverable : ∀ field ∈ values, field.2.Recoverable)
    {schema : SchemaReference} {defaultTable : String}
    (reading : rowOfDocument schema defaultTable (Json.object (membersOf values)).render =
      .ok read) : (Json.object (membersOf values)).Unmarked := by
  obtain ⟨members, parsed, document⟩ := rowOfDocument_eq_ok reading
  rw [Json.parse?_render_eq, Option.ite_none_right_eq_some] at parsed
  rcases Json.document?_object (nodup_membersOf distinct) parsed.2 with
    ⟨n, isNumber⟩ | ⟨first, found, same, kept, results⟩
  · cases isNumber
  · cases same
    have names : (members.map (·.1)).Nodup := kept ▸ nodup_membersOf distinct
    refine ⟨first, Json.membersUnmarked_iff.mpr ?_⟩
    intro member listed
    obtain ⟨result, resultListed, sameName, valueRead⟩ := exists_of_mem_left results listed
    obtain ⟨field, ofValues, rfl⟩ := List.mem_map.mp listed
    obtain ⟨column, ofTarget, step⟩ := again.exists_column ofValues
    obtain ⟨named, typed⟩ := columnValue_eq_ok step
    have stored := get?_of_document document names resultListed
    rw [sameName, named] at stored
    rw [columnValue_of_get? stored] at step
    obtain ⟨value, coerced, rfl⟩ := Except.map_eq_ok_iff.mp step
    exact unmarked_of_coerce_eq_ok (portable column ofTarget) typed (recoverable _ ofValues)
      valueRead coerced

end Target

/--
A target row whose columns have portable types comes back from its document with exactly its fields
if and only if neither its document nor a map in it is marked as a number by its first name.
-/
theorem Target.stage_recovers_fields {table bare : Table} {mapper : TypeMapper} {row w : Row}
    (checked : Table.of table.name table.columns = .ok bare)
    (portable : ∀ column ∈ table.sourcedColumns, (mapper.mapColumn column).isPortable = true)
    (shaped : (Target.of table mapper).stage.convert row = .converted w)
    (recoverable : w.Recoverable) (shallow : w.toJson.depth ≤ Json.maxDepth)
    (schema : SchemaReference) (defaultTable : String) :
    (∃ text read again,
      rowToDocument.convert w = .converted text ∧
      (documentToRow schema defaultTable).convert text = .converted read ∧
      (Target.of table mapper).stage.convert read = .converted again ∧
      again.payload = w.payload) ↔ w.toJson.Unmarked := by
  obtain ⟨values, shapes, rfl⟩ :=
    Target.shape_eq_ok_iff.mp (Outcome.ofExcept_eq_converted_iff.mp shaped)
  have distinct : (values.map (·.1)).Nodup := by
    rw [shapes.names]
    exact Target.nodup_of mapper checked
  have types := Target.isPortable_of portable
  have document : ((Target.of table mapper).rowOf row values).toJson =
      .object (Target.membersOf values) := Target.toJson_rowOf distinct
  have rendered : rowToDocument.convert ((Target.of table mapper).rowOf row values) =
      .converted (Json.object (Target.membersOf values)).render := by
    rw [← document]
    rfl
  rw [document] at shallow ⊢
  constructor
  · rintro ⟨text, read, again, asText, reading, shapedAgain, same⟩
    cases rendered.symm.trans asText
    have shapesAgain := Target.exists_shape_iff.mp
      ⟨again, Outcome.ofExcept_eq_converted_iff.mp shapedAgain, same⟩
    exact shapesAgain.unmarked_of_reading distinct types recoverable
      (Outcome.ofExcept_eq_converted_iff.mp reading)
  · intro unmarked
    obtain ⟨read, reading, shapesAgain⟩ :=
      shapes.recovers distinct types recoverable unmarked shallow schema defaultTable
    obtain ⟨again, shapedAgain, same⟩ := Target.exists_shape_iff.mpr shapesAgain
    exact ⟨_, read, again, rendered, Outcome.ofExcept_eq_converted_iff.mpr reading,
      Outcome.ofExcept_eq_converted_iff.mpr shapedAgain, same⟩

def parcels : Table :=
  ⟨"parcels", [⟨"labels", "map<int, list<blob>>", .cassandra, none, none, false⟩,
    ⟨"sent", "date", .cassandra, none, none, false⟩,
    ⟨"shape", "polygon", .cassandra, none, none, false⟩], none, []⟩

def leapDay : Calendar.Date :=
  ⟨2024, 2, 29, by decide, by decide, by decide⟩

def parcelRow : Row :=
  Row.ofColumns "depot.parcels" ⟨"depot", .cassandra⟩
    [("sent", .text " 2024-2-29 "), ("shape", .text "round"),
      ("labels", .map [(.text "2", .array [.text "\\x00ff", .null]), (.int 7, .array [])])]

def parcelTargetRow : Row :=
  Row.ofColumns "parcels" ⟨"depot", .cassandra⟩
    [("labels", .map [(.int 2, .array [.bytes [0, 255], .null]), (.int 7, .array [])]),
      ("sent", .date leapDay), ("shape", .null)]

theorem Target.stage_recovers_fields_parcels :
    ∃ text read again,
      rowToDocument.convert parcelTargetRow = .converted text ∧
      (documentToRow ⟨"depot", .cassandra⟩ "inbox").convert text = .converted read ∧
      (Target.of parcels TypeMapper.builtin).stage.convert read = .converted again ∧
      again.payload = parcelTargetRow.payload := by
  have checked : Table.of parcels.name parcels.columns = .ok parcels := by decide
  have portable : ∀ column ∈ parcels.sourcedColumns,
      (TypeMapper.builtin.mapColumn column).isPortable = true := by decide +kernel
  have shaped : (Target.of parcels TypeMapper.builtin).stage.convert parcelRow =
      .converted parcelTargetRow := by cbv
  have document : parcelTargetRow.toJson = .object
      [("labels", .object [("2", .array [.string "AP8=", .null]), ("7", .array [])]),
        ("sent", .string "2024-02-29"), ("shape", .null)] := by cbv
  have recoverable : parcelTargetRow.Recoverable := by
    simp [Row.Recoverable, parcelTargetRow, Row.ofColumns, SqlValue.Recoverable,
      EntriesRecoverable, ItemsRecoverable]
  have unmarked : parcelTargetRow.toJson.Unmarked := by
    rw [document]
    simp [Json.Unmarked, Json.MembersUnmarked, Json.ItemsUnmarked, Json.numberName]
  have shallow : parcelTargetRow.toJson.depth ≤ Json.maxDepth := by
    rw [document]
    decide
  exact (Target.stage_recovers_fields checked portable shaped recoverable shallow
    ⟨"depot", .cassandra⟩ "inbox").mpr unmarked

def notices : Table :=
  ⟨"notices", [⟨"labels", "map<text, text>", .cassandra, none, none, false⟩], none, []⟩

/-- A row of `notices`, in the shape of its target, with the name that marks numbers as a key. -/
def reservedRow : Row :=
  Row.ofColumns "notices" ⟨"depot", .cassandra⟩
    [("labels", .map [(.text Json.numberName, .text "7")])]

/-- Without the condition on names a row need not come back: its map is read as a number. -/
theorem Target.stage_loses_marked_map :
    let target := Target.of notices TypeMapper.builtin
    Table.of notices.name notices.columns = .ok notices ∧
      (∀ column ∈ notices.sourcedColumns,
        (TypeMapper.builtin.mapColumn column).isPortable = true) ∧
      target.stage.convert reservedRow = .converted reservedRow ∧
      reservedRow.Recoverable ∧ reservedRow.toJson.depth ≤ Json.maxDepth ∧
      ¬ ∃ text read again,
        rowToDocument.convert reservedRow = .converted text ∧
        (documentToRow ⟨"depot", .cassandra⟩ "inbox").convert text = .converted read ∧
        target.stage.convert read = .converted again ∧
        again.payload = reservedRow.payload := by
  intro target
  have checked : Table.of notices.name notices.columns = .ok notices := by decide
  have portable : ∀ column ∈ notices.sourcedColumns,
      (TypeMapper.builtin.mapColumn column).isPortable = true := by decide +kernel
  have shaped : target.stage.convert reservedRow = .converted reservedRow := by cbv
  have document : reservedRow.toJson =
      .object [("labels", .object [(Json.numberName, .string "7")])] := by rfl
  have recoverable : reservedRow.Recoverable := by
    simp [Row.Recoverable, reservedRow, Row.ofColumns, SqlValue.Recoverable, EntriesRecoverable]
  have shallow : reservedRow.toJson.depth ≤ Json.maxDepth := by
    rw [document]
    decide
  have marked : ¬ reservedRow.toJson.Unmarked := by
    rw [document]
    simp [Json.Unmarked, Json.MembersUnmarked]
  refine ⟨checked, portable, shaped, recoverable, shallow, ?_⟩
  rintro ⟨text, read, again, rendered, reading, shapedAgain, same⟩
  cases rendered
  have shapesAgain : target.Shapes read [("labels", .map [(.text Json.numberName, .text "7")])] :=
    Target.exists_shape_iff.mp
      ⟨again, Outcome.ofExcept_eq_converted_iff.mp shapedAgain, same⟩
  have types := Target.isPortable_of portable
  exact marked (shapesAgain.unmarked_of_reading (List.nodup_singleton "labels") types recoverable
    (Outcome.ofExcept_eq_converted_iff.mp reading))

end RowConduit
