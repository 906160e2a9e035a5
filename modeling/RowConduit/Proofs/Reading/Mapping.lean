import RowConduit.Proofs.Convert.TargetRow
import RowConduit.Proofs.Query.Confinement
import RowConduit.Reading.Mapper

/-!
# Mapping the rows of a planned read

A planned query returns the name of its table in a column of its own, then the sourced columns under
their names.  A result row is read by column name, the first of equal names counting.  The names of
a table differ, so each column is found at its own place unless it is called what the planner calls
the column in front; then the name of the table is found in its stead.
-/

namespace RowConduit

open RowConduit.Symbol

section Cells

theorem positionalCell?_cons (first : String) (names : List String) (cell : Cell)
    (cells : List Cell) (name : String) :
    positionalCell? (first :: names) (cell :: cells) name =
      if first = name then some cell else positionalCell? names cells name := by
  rw [positionalCell?, List.findIdx?_cons, positionalCell?]
  by_cases same : first = name
  · simp [same]
  · cases names.findIdx? (· == name) <;> simp [same]

/-- Among distinct names each is found at its own position. -/
theorem positionalCell?_of_nodup {names : List String} (distinct : names.Nodup) {position : Nat}
    {name : String} (listed : names[position]? = some name) (cells : List Cell) :
    positionalCell? names cells name = cells[position]? := by
  obtain ⟨within, rfl⟩ := List.getElem?_eq_some_iff.mp listed
  have found : names.findIdx? (· == names[position]) = some position := by
    refine List.findIdx?_eq_some_iff_getElem.mpr ⟨within, beq_self_eq_true _, ?_⟩
    intro earlier before same
    have equal := distinct.getElem_inj_iff.mp (eq_of_beq same)
    omega
  rw [positionalCell?, found]

end Cells

structure Row.Holds (r : Row) (column : String) (value : SqlValue) : Prop where
  value : r.get? column = some value
  undiagnosed : ∀ diagnostic ∈ r.diagnostics, diagnostic.field ≠ column

namespace RowMapper

variable {m : RowMapper} {reader : ColumnReader} {column : Column}

theorem field_name (m : RowMapper) (reader : ColumnReader) (column : Column) :
    (m.field reader column).1 = column.name := by
  rw [field]
  split <;> rfl

theorem names_fields (m : RowMapper) (reader : ColumnReader) (columns : List Column) :
    (columns.map (m.field reader)).map (·.1) = columns.map (·.name) := by
  rw [List.map_map]
  exact List.map_congr_left fun column _ => m.field_name reader column

/-- A column that can be read has what was read under its name, and no diagnostic has that name. -/
theorem holds_mapRow {v : SqlValue} (distinct : (m.table.sourcedColumns.map (·.name)).Nodup)
    (sourced : column ∈ m.table.sourcedColumns) (found : m.readColumn reader column = .ok v) :
    (m.mapRow reader).Holds column.name v where
  value := by
    have names : ((m.table.sourcedColumns.map (m.field reader)).map (·.1)).Nodup := by
      rw [m.names_fields reader]
      exact distinct
    have listed : (column.name, v) ∈ m.table.sourcedColumns.map (m.field reader) := by
      refine List.mem_map.mpr ⟨column, sourced, ?_⟩
      rw [field, found]
    exact Row.lookup?_of_mem names listed
  undiagnosed := by
    intro diagnostic listed same
    obtain ⟨other, otherSourced, degraded⟩ := List.mem_filterMap.mp listed
    rw [diagnostic?] at degraded
    split at degraded
    · cases degraded
    · next failed =>
      cases degraded
      have equal : other = column := List.inj_on_of_nodup_map distinct otherSourced sourced same
      rw [equal, found] at failed
      cases failed

end RowMapper

section Planned

/-- The names under which the columns of a query come out, in order. -/
def Dialect.outputNames? (d : Dialect) (query : String) : Option (List String) :=
  (d.scan? query.toList).bind fun symbols =>
    (selectParts? symbols).bind fun parts =>
      parts.1.mapM fun item => (outputName? item).map String.ofList

theorem Option.mapM_eq_some_of_forall₂ {α β : Type} {step : α → Option β} {items : List α}
    {results : List β} (each : List.Forall₂ (fun item result => step item = some result)
      items results) : items.mapM step = some results := by
  induction each with
  | nil => rfl
  | cons head _ ih =>
      rw [List.mapM_cons, head, ih]
      rfl

theorem Planner.planTable_outputNames {p : Planner} {table : Table} {read : TableRead}
    (planned : p.planTable table = .ok read) :
    p.dialect.outputNames? read.query =
      some (sourceTableColumn :: table.sourcedColumns.map (·.name)) := by
  obtain ⟨projections, id, projected, _, rfl⟩ := planTable_eq_ok_iff.mp planned
  have spaced : wellSpaced (queryFragments id projections) = true := by
    refine queryFragments_spaced id fun fragments member => ?_
    obtain ⟨_, projects⟩ := projected.projects member
    exact projects.spaced
  have balanced : ∀ fragments ∈ projections,
      Balanced (fragments.flatMap p.dialect.symbols) := by
    intro fragments member
    obtain ⟨_, projects⟩ := projected.projects member
    exact projects.balanced
  have first : outputName? (.token p.dialect.literalStyle id.name.toList ::
      spell (" AS " ++ sourceTableColumn)) = some sourceTableColumn.toList := by
    rfl
  have columns := projected.namesColumns id
  rw [Dialect.outputNames?, Dialect.write_toList, Dialect.scan?_spelled spaced, Option.bind_some,
    selectParts?_queryFragments id balanced, Option.bind_some]
  apply Option.mapM_eq_some_of_forall₂
  rw [listItems, List.tail_cons] at columns
  rw [listItems, List.forall₂_cons, List.forall₂_map_right_iff]
  constructor
  · rw [first, Option.map_some, String.ofList_toList]
  · refine columns.flip.imp fun item column names => ?_
    rw [names.2, Option.map_some, String.ofList_toList]

/-- A result row of a planned query: the name of the table, then a value for each column. -/
def plannedRow (names : List String) (table : String) (values : List SqlValue) : ColumnReader :=
  positionalReader names (.value (.text table) :: values.map .value)

namespace RowMapper

variable {m : RowMapper}

/-- What the column of a planned row is read as: the first column of its name comes first. -/
theorem readColumn_plannedRow {values : List SqlValue} {pair : Column × SqlValue}
    (distinct : (m.table.sourcedColumns.map (·.name)).Nodup)
    (listed : pair ∈ m.table.sourcedColumns.zip values)
    (supported : (m.types.mapColumn pair.1).isUnsupported = false) :
    m.readColumn (plannedRow (sourceTableColumn :: m.table.sourcedColumns.map (·.name))
        m.table.name values) pair.1 =
      .ok (if pair.1.name = sourceTableColumn then .text m.table.name else pair.2) := by
  obtain ⟨position, both⟩ := List.mem_iff_getElem?.mp listed
  obtain ⟨sourced, given⟩ := List.getElem?_zip_eq_some.mp both
  have name : (m.table.sourcedColumns.map (·.name))[position]? = some pair.1.name := by
    rw [List.getElem?_map, sourced, Option.map_some]
  have cell : (values.map Cell.value)[position]? = some (.value pair.2) := by
    rw [List.getElem?_map, given, Option.map_some]
  rw [readColumn, supported, plannedRow, positionalReader, positionalCell?_cons,
    positionalCell?_of_nodup distinct name, cell]
  by_cases reserved : pair.1.name = sourceTableColumn
  · rw [if_pos reserved.symm, if_pos reserved]
    rfl
  · rw [if_neg (Ne.symm reserved), if_neg reserved]
    rfl

def Delivers (m : RowMapper) (values : List SqlValue) (row : Row) : Prop :=
  ∀ pair ∈ m.table.sourcedColumns.zip values,
    (m.types.mapColumn pair.1).isUnsupported = false → row.Holds pair.1.name pair.2

end RowMapper

/--
A planned row is mapped to the value at each column's own position, except that a column named
`_source_table` is mapped to the name of the table.  So whatever values a row has, all of them
arrive where they belong if and only if no column of a supported type has that name.
-/
theorem Planner.planTable_delivers_iff {p : Planner} {m : RowMapper} {bare : Table}
    {read : TableRead} (checked : Table.of m.table.name m.table.columns = .ok bare)
    (planned : p.planTable m.table = .ok read) :
    ∃ names, p.dialect.outputNames? read.query = some names ∧
      (∀ values, ∀ pair ∈ m.table.sourcedColumns.zip values,
        (m.types.mapColumn pair.1).isUnsupported = false →
          (m.mapRow (plannedRow names m.table.name values)).Holds pair.1.name
            (if pair.1.name = sourceTableColumn then .text m.table.name else pair.2)) ∧
      ((∀ values, values.length = m.table.sourcedColumns.length →
          m.Delivers values (m.mapRow (plannedRow names m.table.name values))) ↔
        ∀ column ∈ m.table.sourcedColumns, (m.types.mapColumn column).isUnsupported = false →
          column.name ≠ sourceTableColumn) := by
  have distinct := Table.nodup_sourcedColumns checked
  have holds : ∀ values, ∀ pair ∈ m.table.sourcedColumns.zip values,
      (m.types.mapColumn pair.1).isUnsupported = false →
        (m.mapRow (plannedRow (sourceTableColumn :: m.table.sourcedColumns.map (·.name))
          m.table.name values)).Holds pair.1.name
            (if pair.1.name = sourceTableColumn then .text m.table.name else pair.2) := by
    intro values pair listed supported
    have sourced : pair.1 ∈ m.table.sourcedColumns := (List.of_mem_zip listed).1
    exact RowMapper.holds_mapRow distinct sourced
      (RowMapper.readColumn_plannedRow distinct listed supported)
  refine ⟨_, planTable_outputNames planned, holds, ?_, ?_⟩
  · intro delivers column sourced supported reserved
    -- a row of NULLs shows the name of the table in the place of one of them
    let nulls : List SqlValue := m.table.sourcedColumns.map fun _ => .null
    have pairs : m.table.sourcedColumns.zip nulls =
        m.table.sourcedColumns.map fun column => (column, .null) := by
      have mapped := List.zip_map' (f := id) (g := fun _ => SqlValue.null)
        (l := m.table.sourcedColumns)
      rwa [List.map_id] at mapped
    have listed : (column, .null) ∈ m.table.sourcedColumns.zip nulls := by
      rw [pairs]
      exact List.mem_map_of_mem sourced
    have length : nulls.length = m.table.sourcedColumns.length := List.length_map _
    have null := (delivers _ length _ listed supported).value
    have name := (holds _ _ listed supported).value
    rw [if_pos reserved] at name
    cases null.symm.trans name
  · intro free values _ pair listed supported
    have sourced : pair.1 ∈ m.table.sourcedColumns := (List.of_mem_zip listed).1
    have held := holds values pair listed supported
    rw [if_neg (free pair.1 sourced supported)] at held
    exact held

theorem Planner.planTable_delivers_iff_trickyTable :
    let p : Planner := ⟨.googleSql, TypeMapper.builtin⟩
    let m : RowMapper := ⟨⟨"shop", .googleSql⟩, trickyTable, TypeMapper.builtin⟩
    Table.of trickyTable.name trickyTable.columns = .ok trickyTable ∧
    ∃ read names, p.planTable trickyTable = .ok read ∧
      p.dialect.outputNames? read.query = some names ∧
      ∀ first second : SqlValue,
        m.Delivers [first, second]
          (m.mapRow (plannedRow names trickyTable.name [first, second])) := by
  intro p m
  have checked : Table.of trickyTable.name trickyTable.columns = .ok trickyTable := by decide
  have plannable : ∃ read, p.planTable trickyTable = .ok read := by
    refine planTable_succeeds_iff.mpr ⟨?_, ?_⟩ <;> decide +kernel
  obtain ⟨read, planned⟩ := plannable
  have unreserved : ∀ column ∈ trickyTable.sourcedColumns,
      (TypeMapper.builtin.mapColumn column).isUnsupported = false →
        column.name ≠ sourceTableColumn := by decide +kernel
  obtain ⟨names, output, _, delivers⟩ := planTable_delivers_iff (m := m) checked planned
  exact ⟨checked, read, names, planned, output,
    fun first second => delivers.mpr unreserved [first, second] rfl⟩

def sourceColumn : Column :=
  ⟨"_source_table", "STRING(MAX)", .googleSql, none, none, false⟩

def kiosks : Table :=
  ⟨"kiosks", [⟨"id", "INT64", .googleSql, none, none, false⟩, sourceColumn], none, []⟩

def kioskValues : List SqlValue :=
  [.int 7, .text "north"]

/-- The column of that name is mapped to the name of the table, and no diagnostic tells of it. -/
theorem Planner.planTable_misdelivers_kiosks :
    let p : Planner := ⟨.googleSql, TypeMapper.builtin⟩
    let m : RowMapper := ⟨⟨"shop", .googleSql⟩, kiosks, TypeMapper.builtin⟩
    Table.of kiosks.name kiosks.columns = .ok kiosks ∧
    kioskValues.length = kiosks.sourcedColumns.length ∧
    ∃ read names, p.planTable kiosks = .ok read ∧
      p.dialect.outputNames? read.query = some names ∧
      (m.mapRow (plannedRow names kiosks.name kioskValues)).Holds "_source_table"
        (.text "kiosks") ∧
      ¬ m.Delivers kioskValues (m.mapRow (plannedRow names kiosks.name kioskValues)) := by
  intro p m
  have checked : Table.of kiosks.name kiosks.columns = .ok kiosks := by decide
  have plannable : ∃ read, p.planTable kiosks = .ok read := by
    refine planTable_succeeds_iff.mpr ⟨?_, ?_⟩ <;> decide +kernel
  obtain ⟨read, planned⟩ := plannable
  have distinct := Table.nodup_sourcedColumns checked
  have pair : (sourceColumn, .text "north") ∈ kiosks.sourcedColumns.zip kioskValues :=
    List.mem_cons_of_mem _ List.mem_cons_self
  have supported : (m.types.mapColumn sourceColumn).isUnsupported = false := by decide +kernel
  have found := RowMapper.readColumn_plannedRow (m := m) distinct pair supported
  have holds := RowMapper.holds_mapRow distinct (List.of_mem_zip pair).1 found
  refine ⟨checked, rfl, read, _, planned, planTable_outputNames planned, holds, ?_⟩
  intro delivers
  have own := (delivers _ pair supported).value
  have different : SqlValue.text "north" ≠ .text "kiosks" := by simp
  exact different (Option.some.inj (own.symm.trans holds.value))

end Planned

end RowConduit
