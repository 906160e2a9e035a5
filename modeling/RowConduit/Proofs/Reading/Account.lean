import RowConduit.Proofs.Reading.Mapping

/-!
# Every mapped row is accounted for

A mapped row has the sourced columns of its table, each with what the result row gives for it or
with NULL, and one diagnostic for each column that could not be read.  A mapper is used for single
result rows and through cursors, which map a row when they are asked for it and may be asked in
turn.  Whatever is done, the rows that were made are those of the result rows that were handed over,
and the counts are the number of these rows and of their diagnostics.
-/

namespace RowConduit

namespace MapperCounts

def plus (counts : MapperCounts) (rows fields : Nat) : MapperCounts :=
  ⟨counts.rowsMapped + UInt64.ofNat rows, counts.degradedFields + UInt64.ofNat fields⟩

theorem plus_zero (counts : MapperCounts) : counts.plus 0 0 = counts := by
  simp [plus]

theorem plus_plus (counts : MapperCounts) (a b c d : Nat) :
    (counts.plus a b).plus c d = counts.plus (a + c) (b + d) := by
  simp [plus, UInt64.ofNat_add, UInt64.add_assoc]

theorem add_eq_plus (counts : MapperCounts) (row : Row) :
    counts.add row = counts.plus 1 row.diagnostics.length := by
  simp [plus, add]

/-- Counts below the width of the counters are kept exactly. -/
theorem zero_plus_rowsMapped {rows : Nat} (few : rows < 2 ^ 64) (fields : Nat) :
    (zero.plus rows fields).rowsMapped.toNat = rows := by
  have wide : UInt64.size = 2 ^ 64 := rfl
  simp [plus, zero, wide, few]

theorem zero_plus_degradedFields {fields : Nat} (few : fields < 2 ^ 64) (rows : Nat) :
    (zero.plus rows fields).degradedFields.toNat = fields := by
  have wide : UInt64.size = 2 ^ 64 := rfl
  simp [plus, zero, wide, few]

end MapperCounts

def Row.allDiagnostics (rows : List Row) : List FieldDiagnostic :=
  rows.flatMap (·.diagnostics)

namespace RowMapper

variable {m : RowMapper} {reader : ColumnReader} {column : Column}

/-- The type of the column is supported, and the result row gives a value for it, NULL included. -/
structure Gives (m : RowMapper) (reader : ColumnReader) (column : Column) (v : SqlValue) :
    Prop where
  supported : (m.types.mapColumn column).isUnsupported = false
  answer : reader column.name = .ok (some v)

inductive Degraded (m : RowMapper) (reader : ColumnReader) (column : Column) : Prop where
  | unsupported (type : (m.types.mapColumn column).isUnsupported = true)
  | absent (answer : reader column.name = .ok none)
  | unreadable (e : RowError) (answer : reader column.name = .error e)

theorem readColumn_eq_ok_iff {v : SqlValue} :
    m.readColumn reader column = .ok v ↔ m.Gives reader column v := by
  unfold readColumn
  constructor
  · intro read
    split at read
    · cases read
    · next supported =>
        split at read
        · next answer =>
            cases read
            exact ⟨by simpa using supported, answer⟩
        · cases read
        · cases read
  · rintro ⟨supported, answer⟩
    rw [supported, answer]
    rfl

theorem readColumn_fails_iff :
    (∃ reason, m.readColumn reader column = .error reason) ↔ m.Degraded reader column := by
  unfold readColumn
  constructor
  · rintro ⟨reason, failed⟩
    split at failed
    · next type => exact .unsupported type
    · split at failed
      · cases failed
      · next answer => exact .absent answer
      · next e answer => exact .unreadable e answer
  · rintro (type | answer | ⟨e, answer⟩)
    · exact ⟨_, if_pos type⟩
    · rw [answer]
      split <;> exact ⟨_, rfl⟩
    · rw [answer]
      split <;> exact ⟨_, rfl⟩

theorem not_degraded_of_gives {v : SqlValue} (gives : m.Gives reader column v) :
    ¬ m.Degraded reader column := by
  rw [← readColumn_fails_iff, readColumn_eq_ok_iff.mpr gives]
  rintro ⟨reason, failed⟩
  cases failed

/-- The field of a column under its name: what the result row gives for it, and NULL otherwise. -/
structure Reads (m : RowMapper) (reader : ColumnReader) (column : Column)
    (field : String × SqlValue) : Prop where
  name : field.1 = column.name
  value : ∀ v, m.Gives reader column v → field.2 = v
  null : (∀ v, ¬ m.Gives reader column v) → field.2 = .null

theorem reads_field (m : RowMapper) (reader : ColumnReader) (column : Column) :
    m.Reads reader column (m.field reader column) where
  name := m.field_name reader column
  value := by
    intro v gives
    rw [field, readColumn_eq_ok_iff.mpr gives]
  null := by
    intro none
    cases read : m.readColumn reader column with
    | ok v => exact absurd (readColumn_eq_ok_iff.mp read) (none v)
    | error reason => rw [field, read]

open Classical in
/--
The row of a result row: the sourced columns in declaration order with what they read, and
diagnostics for exactly the degraded ones, in declaration order and once each.
-/
structure Maps (m : RowMapper) (reader : ColumnReader) (row : Row) : Prop where
  columns : ∃ fields, row.payload = .columns fields ∧
    List.Forall₂ (m.Reads reader) m.table.sourcedColumns fields
  diagnosed : row.diagnostics.map (·.field) =
    (m.table.sourcedColumns.filter fun column => m.Degraded reader column).map (·.name)
  once : (row.diagnostics.map (·.field)).Nodup

open Classical in
theorem fields_diagnostics (m : RowMapper) (reader : ColumnReader) (columns : List Column) :
    (columns.filterMap (m.diagnostic? reader)).map (·.field) =
      (columns.filter fun column => m.Degraded reader column).map (·.name) := by
  induction columns with
  | nil => rfl
  | cons column rest ih =>
      cases read : m.readColumn reader column with
      | ok v =>
          have kept : ¬ m.Degraded reader column :=
            not_degraded_of_gives (readColumn_eq_ok_iff.mp read)
          have none : m.diagnostic? reader column = none := by rw [diagnostic?, read]
          rw [List.filterMap_cons_none none, List.filter_cons_of_neg (by simpa using kept), ih]
      | error reason =>
          have degraded : m.Degraded reader column := readColumn_fails_iff.mp ⟨reason, read⟩
          have some : m.diagnostic? reader column = some ⟨column.name, reason⟩ := by
            rw [diagnostic?, read]
          rw [List.filterMap_cons_some some, List.filter_cons_of_pos (by simpa using degraded),
            List.map_cons, List.map_cons, ih]

theorem maps_mapRow (distinct : (m.table.sourcedColumns.map (·.name)).Nodup)
    (reader : ColumnReader) : m.Maps reader (m.mapRow reader) where
  columns := by
    refine ⟨_, rfl, List.forall₂_map_right_iff.mpr (List.forall₂_same.mpr ?_)⟩
    exact fun column _ => m.reads_field reader column
  diagnosed := m.fields_diagnostics reader m.table.sourcedColumns
  once := by
    classical
    have fields := m.fields_diagnostics reader m.table.sourcedColumns
    rw [mapRow, Row.withDiagnostics, fields]
    exact distinct.sublist (List.filter_sublist.map _)

end RowMapper

namespace MappedRows

/-- Rows that are asked for are mapped, in order, and the others stay in the cursor. -/
theorem take_eq (k : Nat) (rows : MappedRows) :
    let made := (rows.cursor.take k).map rows.mapper.mapRow
    rows.take k = (made, ⟨rows.mapper, rows.cursor.drop k,
      rows.counts.plus made.length (Row.allDiagnostics made).length⟩) := by
  obtain ⟨mapper, cursor, counts⟩ := rows
  induction k generalizing cursor counts with
  | zero => simp [take, Row.allDiagnostics, MapperCounts.plus_zero]
  | succ k ih =>
      cases cursor with
      | nil => simp [take, next?, Row.allDiagnostics, MapperCounts.plus_zero]
      | cons reader rest =>
          have step : (⟨mapper, reader :: rest, counts⟩ : MappedRows).next? =
              some (mapper.mapRow reader,
                ⟨mapper, rest, counts.add (mapper.mapRow reader)⟩) := rfl
          rw [take, step]
          dsimp only
          rw [ih]
          simp [MapperCounts.add_eq_plus, MapperCounts.plus_plus, Row.allDiagnostics,
            Nat.add_comm]

end MappedRows

/-- What can be done with a mapper and with the cursors that map their rows through it. -/
inductive MapperUse where
  /-- Map a single result row. -/
  | single (reader : ColumnReader)
  /-- Open a cursor of result rows, which maps none of them yet. -/
  | openCursor (readers : List ColumnReader)
  /-- Ask an open cursor for its next row. -/
  | next (position : Nat)
  /-- Drop an open cursor with the rows that it still has. -/
  | dropCursor (position : Nat)

/-- Where the use of a mapper stands: its counts, its open cursors, and what it has mapped. -/
structure MapperProgress where
  counts : MapperCounts
  cursors : List (List ColumnReader)
  given : List ColumnReader
  made : List Row

namespace MapperProgress

variable {m : RowMapper} {p : MapperProgress}

def start : MapperProgress :=
  ⟨.zero, [], [], []⟩

def step (m : RowMapper) (p : MapperProgress) : MapperUse → MapperProgress
  | .single reader =>
      { p with
        counts := p.counts.add (m.mapRow reader)
        given := p.given ++ [reader]
        made := p.made ++ [m.mapRow reader] }
  | .openCursor readers => { p with cursors := p.cursors ++ [readers] }
  | .next position =>
      let cursor := p.cursors[position]?.getD []
      match MappedRows.next? ⟨m, cursor, p.counts⟩ with
      | none => p
      | some (row, rows) =>
          { counts := rows.counts
            cursors := p.cursors.set position rows.cursor
            given := p.given ++ cursor.take 1
            made := p.made ++ [row] }
  | .dropCursor position => { p with cursors := p.cursors.eraseIdx position }

def run (m : RowMapper) (p : MapperProgress) (uses : List MapperUse) : MapperProgress :=
  uses.foldl (step m) p

/-- The rows are those of the result rows handed over, and the counts are their numbers. -/
structure Accounted (m : RowMapper) (p : MapperProgress) : Prop where
  made : p.made = p.given.map m.mapRow
  counts : p.counts = MapperCounts.zero.plus p.made.length (Row.allDiagnostics p.made).length

theorem accounted_start (m : RowMapper) : start.Accounted m where
  made := rfl
  counts := (MapperCounts.plus_zero MapperCounts.zero).symm

/-- One more result row is mapped, whether it came alone or out of a cursor. -/
theorem Accounted.another (accounted : p.Accounted m) (reader : ColumnReader)
    (cursors : List (List ColumnReader)) :
    Accounted m ⟨p.counts.add (m.mapRow reader), cursors, p.given ++ [reader],
      p.made ++ [m.mapRow reader]⟩ where
  made := by simp [accounted.made]
  counts := by
    simp [accounted.counts, MapperCounts.add_eq_plus, MapperCounts.plus_plus, Row.allDiagnostics]

theorem Accounted.step (accounted : p.Accounted m) (use : MapperUse) :
    (p.step m use).Accounted m := by
  cases use with
  | single reader => exact accounted.another reader p.cursors
  | openCursor readers => exact ⟨accounted.made, accounted.counts⟩
  | dropCursor position => exact ⟨accounted.made, accounted.counts⟩
  | next position =>
      simp only [MapperProgress.step]
      cases p.cursors[position]?.getD [] with
      | nil => exact accounted
      | cons reader rest => exact accounted.another reader (p.cursors.set position rest)

theorem Accounted.run (accounted : p.Accounted m) (uses : List MapperUse) :
    (p.run m uses).Accounted m := by
  induction uses generalizing p with
  | nil => exact accounted
  | cons use rest ih => exact ih (accounted.step use)

theorem given_singles (m : RowMapper) (p : MapperProgress) (readers : List ColumnReader) :
    (p.run m (readers.map .single)).given = p.given ++ readers := by
  induction readers generalizing p with
  | nil => exact (List.append_nil p.given).symm
  | cons reader rest ih =>
      rw [List.map_cons, run, List.foldl_cons, ← run, ih, step]
      simp

end MapperProgress

/--
Every result row is mapped to the sourced columns with what it gives for them, NULL where it gives
nothing, and diagnostics for exactly the degraded columns.  However a fresh mapper is used, it has
made the rows of the result rows handed to it, and it counts these rows and their diagnostics.  A
cursor that was asked for a number of rows has mapped so many, or all it had, and no other.
-/
theorem RowMapper.mapRow_accounted {m : RowMapper} {bare : Table}
    (checked : Table.of m.table.name m.table.columns = .ok bare) :
    (∀ reader, m.Maps reader (m.mapRow reader)) ∧
    (∀ uses, let p := MapperProgress.start.run m uses
      p.made = p.given.map m.mapRow ∧
      (∀ readers, uses = readers.map .single → p.given = readers) ∧
      (p.given.length < 2 ^ 64 → p.counts.rowsMapped.toNat = p.given.length) ∧
      ((Row.allDiagnostics p.made).length < 2 ^ 64 →
        p.counts.degradedFields.toNat = (Row.allDiagnostics p.made).length)) ∧
    ∀ cursor counts k, k ≤ cursor.length →
      ∃ made, MappedRows.take k ⟨m, cursor, counts⟩ =
          (made, ⟨m, cursor.drop k, counts.plus k (Row.allDiagnostics made).length⟩) ∧
        made = (cursor.take k).map m.mapRow := by
  refine ⟨maps_mapRow (Table.nodup_sourcedColumns checked), ?_, ?_⟩
  · intro uses p
    have accounted := (MapperProgress.accounted_start m).run uses
    have lengths : p.made.length = p.given.length := by
      rw [accounted.made, List.length_map]
    refine ⟨accounted.made, ?_, ?_, ?_⟩
    · rintro readers rfl
      exact MapperProgress.given_singles m .start readers
    · intro few
      rw [accounted.counts, ← lengths]
      exact MapperCounts.zero_plus_rowsMapped (lengths ▸ few) _
    · intro few
      rw [accounted.counts]
      exact MapperCounts.zero_plus_degradedFields few _
  · intro cursor counts k enough
    have taken := MappedRows.take_eq k ⟨m, cursor, counts⟩
    have length : ((cursor.take k).map m.mapRow).length = k := by
      rw [List.length_map, List.length_take, Nat.min_eq_left enough]
    dsimp only at taken
    rw [length] at taken
    exact ⟨_, taken, rfl⟩

def playersTable : Table :=
  ⟨"players", [⟨"id", "uuid", .cassandra, none, none, false⟩,
    ⟨"name", "text", .cassandra, none, none, false⟩,
    ⟨"rank", "int", .cassandra, none, none, true⟩,
    ⟨"place", "tuple<double,double>", .cassandra, none, none, false⟩,
    ⟨"scores", "list<int>", .cassandra, none, none, false⟩], none, []⟩

def brokenReader : ColumnReader :=
  namedReader [("id", .value .null), ("name", .unreadable "invalid utf-8"),
    ("rank", .value (.int 3))]

def wholeReader : ColumnReader :=
  namedReader [("scores", .value (.array [.int 7])), ("name", .value (.text "ada")),
    ("id", .value (.text "ada-1"))]

def cursorUses : List MapperUse :=
  [.openCursor [brokenReader, wholeReader, brokenReader], .single wholeReader, .next 0,
    .dropCursor 0]

theorem RowMapper.mapRow_accounted_players :
    let m : RowMapper := ⟨⟨"league", .cassandra⟩, playersTable, TypeMapper.builtin⟩
    let p := MapperProgress.start.run m cursorUses
    Table.of playersTable.name playersTable.columns = .ok playersTable ∧
      m.Maps brokenReader (m.mapRow brokenReader) ∧
      (m.mapRow brokenReader).diagnostics.map (·.field) = ["name", "place", "scores"] ∧
      p.made = [m.mapRow wholeReader, m.mapRow brokenReader] ∧
      p.counts.rowsMapped.toNat = 2 ∧ p.counts.degradedFields.toNat = 4 := by
  intro m p
  have checked : Table.of m.table.name m.table.columns = .ok playersTable := by decide
  have fields : (m.mapRow brokenReader).diagnostics.map (·.field) = ["name", "place", "scores"] :=
    by decide +kernel
  have diagnoses : (Row.allDiagnostics p.made).length = 4 := by decide +kernel
  obtain ⟨maps, counted, _⟩ := RowMapper.mapRow_accounted checked
  obtain ⟨made, _, rows, degraded⟩ := counted cursorUses
  refine ⟨checked, maps brokenReader, fields, made, rows (by decide), ?_⟩
  rw [degraded (by rw [diagnoses]; decide), diagnoses]

end RowConduit
