import RowConduit.Proofs.Convert.TargetRow
import RowConduit.Proofs.Json.Reading

/-!
# Rows that come back from their documents

A row in the shape of a target is written as a document, read again and brought to the target once
more.  Whether that succeeds is decided column by column: every value must be read from its own text
and coerced to the type of its column again.  The columns touch each other in one way only, the
first of them must not have the name that marks an object as a number.
-/

namespace RowConduit

open SqlValue

/--
Read from the text of its value in the row, the column has this value again.  The bound is one below
that of the reader, because the object of the row stands around the value.
-/
def Row.Rereads (w : Row) (column : String × LogicalType) (again : SqlValue) : Prop :=
  ∃ v j, w.get? column.1 = some v ∧ v.toJson.depth < Json.maxDepth ∧
    Json.parse? v.toJson.render = some j ∧ coerce column.1 column.2 (ofJson j) = .ok again

namespace Row

variable {w : Row} {column : String × LogicalType} {v u : SqlValue}

theorem rereads_iff (held : w.get? column.1 = some v) :
    w.Rereads column u ↔ v.toJson.depth < Json.maxDepth ∧
      ∃ j, Json.parse? v.toJson.render = some j ∧ coerce column.1 column.2 (ofJson j) = .ok u := by
  constructor
  · rintro ⟨v', j, held', shallow, parsed, coerced⟩
    cases held.symm.trans held'
    exact ⟨shallow, j, parsed, coerced⟩
  · rintro ⟨shallow, j, parsed, coerced⟩
    exact ⟨v, j, held, shallow, parsed, coerced⟩

/-- Values of portable types are read back, unless an object in them is marked as a number. -/
theorem rereads_of_isPortable (portable : column.2.isPortable = true)
    (held : w.get? column.1 = some v) (typed : v.HasType column.2) (recoverable : v.Recoverable)
    (unmarked : v.toJson.Unmarked) (shallow : v.toJson.depth < Json.maxDepth) :
    w.Rereads column v := by
  have wellFormed := wellFormed_toJson portable typed
  have parsed := Json.parse?_render wellFormed unmarked (Nat.le_of_lt shallow)
  exact ⟨v, v.toJson, held, shallow, parsed, coerce_ofJson_toJson portable typed recoverable⟩

theorem Rereads.unique {again other : SqlValue} (first : w.Rereads column again)
    (second : w.Rereads column other) : again = other := by
  obtain ⟨v, j, held, _, parsed, coerced⟩ := first
  obtain ⟨_, j', parsed', coerced'⟩ := (rereads_iff held).mp second
  cases parsed.symm.trans parsed'
  cases coerced.symm.trans coerced'
  rfl

end Row

namespace Target

variable {target : Target} {schema : SchemaReference} {defaultTable : String} {row w again : Row}

/-- The row, written as a document and read again, is brought to the target as another row. -/
def ComesBack (target : Target) (schema : SchemaReference) (defaultTable : String)
    (w again : Row) : Prop :=
  ∃ text read, rowToDocument.convert w = .converted text ∧
    (documentToRow schema defaultTable).convert text = .converted read ∧
    target.stage.convert read = .converted again

theorem ComesBack.exists_columns (back : target.ComesBack schema defaultTable w again) :
    ∃ results, again.payload = .columns results := by
  obtain ⟨_, read, _, _, shaped⟩ := back
  obtain ⟨results, _, rfl⟩ := shape_eq_ok_iff.mp (Outcome.ofExcept_eq_converted_iff.mp shaped)
  exact ⟨results, rfl⟩

/-- No column but the one of this name keeps the row from being read back. -/
def ReadsBeside (target : Target) (w : Row) (name : String) : Prop :=
  (target.columns.map (·.1)).head? ≠ some Json.numberName ∧
  ∀ other ∈ target.columns, other.1 ≠ name → ∃ again, w.Rereads other again

def RereadsAs (target : Target) (w : Row) (results : List (String × SqlValue)) : Prop :=
  List.Forall₂ (fun column result => result.1 = column.1 ∧ w.Rereads column result.2)
    target.columns results

section Values

variable {values results : List (String × SqlValue)} {read : Row} {members : Json.Members}

theorem columnValue_of_reading (distinct : (values.map (·.1)).Nodup)
    (document : read.payload = .document members)
    (each : List.Forall₂ Json.MemberReads (membersOf values) members)
    {column : String × LogicalType} (listed : column.1 ∈ values.map (·.1))
    {result : String × SqlValue} :
    columnValue read column = .ok result ↔
      result.1 = column.1 ∧ (target.rowOf row values).Rereads column result.2 := by
  obtain ⟨field, ofValues, named⟩ := List.mem_map.mp listed
  obtain ⟨member, found, sameName, shallow, parsed⟩ :=
    exists_of_mem_left each (List.mem_map_of_mem ofValues)
  have names := Json.names_of_memberReads each
  have held : (target.rowOf row values).get? field.1 = some field.2 :=
    get?_of_columns rfl distinct ofValues
  have stored := get?_of_document document (names ▸ nodup_membersOf distinct) found
  rw [sameName, named] at stored
  rw [named] at held
  rw [columnValue_of_get? stored, Except.map_eq_ok_iff, Row.rereads_iff held]
  constructor
  · rintro ⟨value, coerced, rfl⟩
    exact ⟨rfl, shallow, member.2, parsed, coerced⟩
  · rintro ⟨sameColumn, _, j, parsedAgain, coerced⟩
    cases parsed.symm.trans parsedAgain
    exact ⟨result.2, coerced, by rw [← sameColumn]⟩

/-- If every column of a shaped row is read back, every member of its document can be read. -/
theorem Shapes.exists_members (shapes : target.Shapes row values)
    (distinct : (values.map (·.1)).Nodup)
    (columns : target.RereadsAs (target.rowOf row values) results) :
    ∃ members, List.Forall₂ Json.MemberReads (membersOf values) members := by
  refine exists_forall₂_iff.mpr fun member listed => ?_
  obtain ⟨field, ofValues, rfl⟩ := List.mem_map.mp listed
  obtain ⟨column, ofTarget, step⟩ := shapes.exists_column ofValues
  obtain ⟨result, _, _, rereads⟩ := exists_of_mem_left columns ofTarget
  have held : (target.rowOf row values).get? field.1 = some field.2 :=
    get?_of_columns rfl distinct ofValues
  rw [(columnValue_eq_ok step).1] at held
  obtain ⟨shallow, j, parsed, _⟩ := (Row.rereads_iff held).mp rereads
  exact ⟨(field.1, j), rfl, shallow, parsed⟩

/-- A shaped row comes back with certain fields exactly if each column is read back as its field. -/
theorem comesBack_columns_iff (distinct : (target.columns.map (·.1)).Nodup)
    (shaped : target.shape row = .ok w) :
    (∃ again, target.ComesBack schema defaultTable w again ∧ again.payload = .columns results) ↔
      (target.columns.map (·.1)).head? ≠ some Json.numberName ∧ target.RereadsAs w results := by
  obtain ⟨values, shapes, rfl⟩ := shape_eq_ok_iff.mp shaped
  have names := shapes.names
  rw [← names] at distinct ⊢
  have columnListed : ∀ column ∈ target.columns, column.1 ∈ values.map (·.1) := by
    intro column ofTarget
    rw [names]
    exact List.mem_map_of_mem ofTarget
  constructor
  · rintro ⟨again, ⟨text, read, asText, reading, shapedAgain⟩, payload⟩
    cases (convert_rowOf distinct).symm.trans asText
    obtain ⟨members, parsed, document⟩ :=
      rowOfDocument_eq_ok (Outcome.ofExcept_eq_converted_iff.mp reading)
    obtain ⟨first, each⟩ := (Json.parse?_object_iff (nodup_membersOf distinct)).mp parsed
    rw [names_membersOf] at first
    have shapesAgain := exists_shape_iff.mp
      ⟨again, Outcome.ofExcept_eq_converted_iff.mp shapedAgain, payload⟩
    refine ⟨first, forall₂_of_mem shapesAgain fun column ofTarget result _ step => ?_⟩
    exact (columnValue_of_reading distinct document each (columnListed column ofTarget)).mp step
  · rintro ⟨first, columns⟩
    obtain ⟨members, each⟩ := shapes.exists_members distinct columns
    have parsed := (Json.parse?_object_iff (nodup_membersOf distinct)).mpr
      ⟨names_membersOf values ▸ first, each⟩
    obtain ⟨read, reading, document⟩ := rowOfDocument_of_parse? schema defaultTable parsed
    have shapesAgain : target.Shapes read results :=
      forall₂_of_mem columns fun column ofTarget result _ step =>
        (columnValue_of_reading distinct document each (columnListed column ofTarget)).mpr step
    obtain ⟨again, shapedAgain, payload⟩ := exists_shape_iff.mpr shapesAgain
    exact ⟨again, ⟨_, read, convert_rowOf distinct, Outcome.ofExcept_eq_converted_iff.mpr reading,
      Outcome.ofExcept_eq_converted_iff.mpr shapedAgain⟩, payload⟩

/-- A row with fields that were read back answers for each column with what it is read back as. -/
theorem RereadsAs.exists_get? (columns : target.RereadsAs w results)
    (payload : again.payload = .columns results) (distinct : (target.columns.map (·.1)).Nodup)
    {column : String × LogicalType} (listed : column ∈ target.columns) :
    ∃ u, again.get? column.1 = some u ∧ w.Rereads column u := by
  have names : results.map (·.1) = target.columns.map (·.1) :=
    map_eq_of_forall₂ columns fun _ _ step => step.1
  obtain ⟨result, ofResults, named, rereads⟩ := exists_of_mem_left columns listed
  have stored := get?_of_columns payload (names ▸ distinct) ofResults
  rw [named] at stored
  exact ⟨result.2, stored, rereads⟩

end Values

/-- A row comes back with a value in a column if the others and the column itself are read back. -/
theorem comesBack_column_iff (distinct : (target.columns.map (·.1)).Nodup)
    (shaped : target.shape row = .ok w) {column : String × LogicalType}
    (listed : column ∈ target.columns) {u : SqlValue} :
    (∃ again, target.ComesBack schema defaultTable w again ∧ again.get? column.1 = some u) ↔
      target.ReadsBeside w column.1 ∧ w.Rereads column u := by
  constructor
  · rintro ⟨again, back, found⟩
    obtain ⟨results, payload⟩ := back.exists_columns
    obtain ⟨first, columns⟩ := (comesBack_columns_iff distinct shaped).mp ⟨again, back, payload⟩
    refine ⟨⟨first, fun other ofTarget _ => ?_⟩, ?_⟩
    · obtain ⟨result, _, _, rereads⟩ := exists_of_mem_left columns ofTarget
      exact ⟨result.2, rereads⟩
    · obtain ⟨v, stored, rereads⟩ := columns.exists_get? payload distinct listed
      cases stored.symm.trans found
      exact rereads
  · rintro ⟨⟨first, others⟩, own⟩
    have each : ∀ other ∈ target.columns,
        ∃ result : String × SqlValue, result.1 = other.1 ∧ w.Rereads other result.2 := by
      intro other ofTarget
      by_cases named : other.1 = column.1
      · have same : other = column := List.inj_on_of_nodup_map distinct ofTarget listed named
        exact ⟨(other.1, u), rfl, same ▸ own⟩
      · obtain ⟨value, rereads⟩ := others other ofTarget named
        exact ⟨(other.1, value), rfl, rereads⟩
    obtain ⟨results, rereads⟩ := exists_forall₂_iff.mpr each
    have columns : target.RereadsAs w results := rereads
    obtain ⟨again, back, payload⟩ := (comesBack_columns_iff distinct shaped).mpr ⟨first, columns⟩
    obtain ⟨v, stored, found⟩ := columns.exists_get? payload distinct listed
    cases found.unique own
    exact ⟨again, back, stored⟩

section Tables

variable {table bare : Table} {mapper : TypeMapper} {column : Column} {type : LogicalType}

theorem mem_columns_of (sourced : column ∈ table.sourcedColumns)
    (mapped : mapper.mapColumn column = type) :
    (column.name, type) ∈ (Target.of table mapper).columns :=
  List.mem_map.mpr ⟨column, sourced, by rw [mapped]⟩

/-- A row in the shape of a table holds a value of its type in every sourced column. -/
theorem hasType_of_get? (checked : Table.of table.name table.columns = .ok bare)
    (shaped : (Target.of table mapper).stage.convert row = .converted w)
    (sourced : column ∈ table.sourcedColumns) (mapped : mapper.mapColumn column = type)
    {v : SqlValue} (held : w.get? column.name = some v) : v.HasType type := by
  obtain ⟨values, shapes, rfl⟩ :=
    shape_eq_ok_iff.mp (Outcome.ofExcept_eq_converted_iff.mp shaped)
  obtain ⟨field, ofValues, step⟩ := exists_of_mem_left shapes (mem_columns_of sourced mapped)
  obtain ⟨named, typed⟩ := columnValue_eq_ok step
  have stored : ((Target.of table mapper).rowOf row values).get? field.1 = some field.2 :=
    get?_of_columns rfl (shapes.names ▸ nodup_of mapper checked) ofValues
  rw [named, held] at stored
  cases stored
  exact typed

theorem comesBack_of_iff (checked : Table.of table.name table.columns = .ok bare)
    (shaped : (Target.of table mapper).stage.convert row = .converted w)
    (sourced : column ∈ table.sourcedColumns) (mapped : mapper.mapColumn column = type)
    {u : SqlValue} :
    (∃ again, (Target.of table mapper).ComesBack schema defaultTable w again ∧
      again.get? column.name = some u) ↔
      (Target.of table mapper).ReadsBeside w column.name ∧ w.Rereads (column.name, type) u :=
  comesBack_column_iff (nodup_of mapper checked) (Outcome.ofExcept_eq_converted_iff.mp shaped)
    (mem_columns_of sourced mapped)

end Tables

end Target

end RowConduit
