import RowConduit.Proofs.Convert.RoundTrip

/-!
# Map columns and their keys

A map is written as an object whose names are its keys.  A text key is its own name, any other key
is named by its JSON text.  For numbers and truth values that text is what the key is read back
from; for keys whose JSON form is a string it has quotes around it, and no reader of bytes, calendar
values or UUIDs takes a text that starts with a quote.
-/

namespace RowConduit

open RowConduit.Text RowConduit.Calendar SqlValue Coercion

theorem Json.trim_quote (cs : List Char) : trim (quote cs) = quote cs :=
  trim_enclosed (by decide) (by decide) (cs.flatMap escapeChar)

section Quoted

variable (rest : List Char)

theorem Text.takeDigits_quoted : takeDigits ('"' :: rest) = ([], '"' :: rest) :=
  takeDigits_of_digitsEnd (digitsEnd_cons rest (by decide))

theorem Coercion.bytesOfText?_quoted : bytesOfText? ('"' :: rest) = none := by
  rw [bytesOfText?, dropStart?, if_neg (by decide)]
  exact readBase64?_foreign (by decide) (by decide) rest

theorem Calendar.takeYear?_quoted : takeYear? ('"' :: rest) = none := by
  have first : trimStart ('"' :: rest) = '"' :: rest := by
    rw [trimStart, List.dropWhile_cons_of_neg (by decide)]
  simp [takeYear?, first, takeNumber?, takeDigits_quoted, limitDigits]

theorem Calendar.Date.take?_quoted : Date.take? ('"' :: rest) = none := by
  rw [Date.take?, takeYear?_quoted]
  rfl

theorem Calendar.Date.read?_quoted : Date.read? ('"' :: rest) = none := by
  rw [Date.read?, Date.take?_quoted]
  rfl

theorem Calendar.DateTime.read?_quoted : DateTime.read? ('"' :: rest) = none := by
  rw [DateTime.read?, DateTime.readWithT?, DateTime.readWithBlank?, Date.take?_quoted]
  rfl

theorem Calendar.Timestamp.read?_quoted : Timestamp.read? ('"' :: rest) = none :=
  Timestamp.read?_of_no_digit (by decide) rest

theorem Uuid.readPlain?_quoted : Uuid.readPlain? ('"' :: rest) = none := by
  rw [Uuid.readPlain?, hexDigits?_eq_none List.mem_cons_self (by decide)]
  rfl

theorem Uuid.readGrouped?_quoted : Uuid.readGrouped? ('"' :: rest) = none := by
  rw [Uuid.readGrouped?]
  cases cut : Uuid.ungroup? ('"' :: rest) with
  | none => rfl
  | some bare =>
      unfold Uuid.ungroup? at cut
      dsimp only at cut
      split at cut
      · cases cut
        rw [Option.bind_some, List.take_succ_cons]
        exact Uuid.readPlain?_quoted _
      · cases cut

theorem Uuid.read?_quoted : Uuid.read? ('"' :: rest) = none := by
  rw [Uuid.read?, Uuid.readPlain?_quoted, Uuid.readGrouped?_quoted, Uuid.readBraced?, Uuid.readUrn?]
  rfl

end Quoted

def SqlValue.keys : SqlValue → List SqlValue
  | .map entries => entries.map (·.1)
  | _ => []

namespace SqlValue

variable {field : String} {type : LogicalType} {key : SqlValue}

theorem trim_keyName {cs : List Char} (named : keyName key = key.toJson.render)
    (written : key.toJson = jsonString cs) :
    ∃ rest, trim (keyName key).toList = '"' :: rest := by
  rw [named, written, jsonString, Json.render, Json.text, String.toList_ofList,
    String.toList_ofList, Json.trim_quote]
  exact ⟨_, rfl⟩

/-- Keys of five types are written as strings and not read back from their names. -/
theorem type_of_quoted (flat : type.isScalar = true) (portable : type.isPortable = true)
    (other : type.isName = false) :
    type = .bytes ∨ type = .date ∨ type = .dateTime ∨ type = .timestamp ∨ type = .uuid := by
  cases type with
  | bytes => simp
  | date => simp
  | dateTime => simp
  | timestamp => simp
  | uuid => simp
  | float => cases portable
  | json => cases portable
  | array element => cases flat
  | map key value => cases flat
  | unsupported => cases flat
  | _ => cases other

theorem exists_trim_keyName (flat : type.isScalar = true) (portable : type.isPortable = true)
    (other : type.isName = false) (typed : key.HasType type) (present : key ≠ .null) :
    ∃ rest, trim (keyName key).toList = '"' :: rest := by
  rcases type_of_quoted flat portable other with rfl | rfl | rfl | rfl | rfl
  · cases key with
    | bytes b => exact trim_keyName rfl rfl
    | null => exact absurd rfl present
    | _ => exact False.elim typed
  · cases key with
    | date d => exact trim_keyName rfl rfl
    | null => exact absurd rfl present
    | _ => exact False.elim typed
  · cases key with
    | dateTime dt => exact trim_keyName rfl rfl
    | null => exact absurd rfl present
    | _ => exact False.elim typed
  · cases key with
    | timestamp ts => exact trim_keyName rfl rfl
    | null => exact absurd rfl present
    | _ => exact False.elim typed
  · cases key with
    | uuid u => exact trim_keyName rfl rfl
    | null => exact absurd rfl present
    | _ => exact False.elim typed

/-- A text that starts with a quote is not read as a value of the type of such a key. -/
theorem coerce_quoted {s : String} {rest : List Char} (flat : type.isScalar = true)
    (portable : type.isPortable = true) (other : type.isName = false)
    (quoted : trim s.toList = '"' :: rest) (w : SqlValue) :
    coerce field type (.text s) ≠ .ok w := by
  intro coerced
  rcases type_of_quoted flat portable other with rfl | rfl | rfl | rfl | rfl
  · have read : toBytes field (.text s) = .ok w := coerced
    rw [toBytes, quoted, bytesOfText?_quoted] at read
    cases read
  · have read : toDate field (.text s) = .ok w := coerced
    rw [toDate, quoted, Date.read?_quoted] at read
    cases read
  · have read : toDateTime field (.text s) = .ok w := coerced
    rw [toDateTime, quoted, DateTime.read?_quoted] at read
    cases read
  · have read : toTimestamp field (.text s) = .ok w := coerced
    rw [toTimestamp, quoted, Timestamp.read?_quoted] at read
    cases read
  · have read : toUuid field (.text s) = .ok w := coerced
    rw [toUuid, quoted, Uuid.read?_quoted] at read
    cases read

theorem keyName_int_ne_numberName (i : Int64) : keyName (.int i) ≠ Json.numberName := by
  intro same
  have text : intText i.toInt = Json.numberName.toList := by
    rw [← same, keyName_int, String.toList_ofList]
  have start : (intText i.toInt).head? = some '$' := by
    rw [text]
    rfl
  obtain ⟨d, rest, digits⟩ := Number.natText_head i.toInt.natAbs
  rw [intText, digits] at start
  split at start
  · cases start
  · exact digitChar_ne (by decide) d (Option.some.inj start)

theorem eq_text_numberName (named : type.isName = true) (typed : key.HasType type)
    (present : key ≠ .null) (same : keyName key = Json.numberName) :
    key = .text Json.numberName := by
  cases key with
  | text s => exact congrArg SqlValue.text same
  | bool b => cases b <;> exact absurd same (by decide)
  | int i => exact absurd same (keyName_int_ne_numberName i)
  | null => exact absurd rfl present
  | _ => cases type <;> first | exact False.elim typed | cases named

end SqlValue

section Rereading

variable {w : Row} {name : String} {key value : LogicalType}

/-- Texts, integers and truth values are written without containers. -/
theorem plain_value {v : SqlValue} (plain : value = .string ∨ value = .int ∨ value = .bool)
    (typed : v.HasType value) : v.toJson.depth = 0 ∧ v.toJson.Unmarked ∧ v.Recoverable := by
  rcases plain with rfl | rfl | rfl <;> cases v <;>
    first | exact ⟨rfl, True.intro, True.intro⟩ | exact False.elim typed

/-- The first key of a map that is read back is read from its name, and the name marks no number. -/
theorem coerce_head_of_rereads {entry : SqlValue × SqlValue} {rest : List (SqlValue × SqlValue)}
    (held : w.get? name = some (.map (entry :: rest)))
    (rereads : w.Rereads (name, .map key value) (.map (entry :: rest))) :
    keyName entry.1 ≠ Json.numberName ∧
      coerce name key (.text (keyName entry.1)) = .ok entry.1 := by
  obtain ⟨shallow, j, parsed, coerced⟩ := (Row.rereads_iff held).mp rereads
  rw [Json.parse?_render_of_lt shallow, toJson, entriesToJson_eq_map] at parsed
  have heads := Json.head?_names_collect
    ((entry :: rest).map fun entry => (keyName entry.1, entry.2.toJson))
  rcases Json.document?_object (Json.nodup_collect _) parsed with
    ⟨n, rfl⟩ | ⟨first, found, rfl, names, _⟩
  · exact absurd coerced (coerce_map_ofJson_number n)
  · rw [heads] at first
    rw [← names] at heads
    refine ⟨fun marked => first (congrArg some marked), ?_⟩
    cases coerce_map_ofJson_iff.mp coerced with
    | cons head _ =>
        have named : _ = keyName entry.1 := Option.some.inj heads
        rw [← named]
        exact head.1

/-- The first name of a map marks a number only if the first key is the text that does. -/
theorem head?_keyNames_ne {entries : List (SqlValue × SqlValue)} (named : key.isName = true)
    (typed : ∀ entry ∈ entries, entry.1.HasType key) (present : .null ∉ entries.map (·.1))
    (first : (entries.map (·.1)).head? ≠ some (.text Json.numberName)) :
    ((entries.map fun entry => (keyName entry.1, entry.2.toJson)).map (·.1)).head? ≠
      some Json.numberName := by
  intro marked
  cases entries with
  | nil => cases marked
  | cons entry rest =>
      have same : keyName entry.1 = Json.numberName := Option.some.inj marked
      have head : entry.1 ≠ .null := fun isNull => present (isNull ▸ List.mem_cons_self)
      have isText := eq_text_numberName named (typed entry List.mem_cons_self) head same
      exact first (congrArg some isText)

/-- A map with keys that are read back from their names is read back, unless it marks a number. -/
theorem rereads_map_of_isName {entries : List (SqlValue × SqlValue)} (named : key.isName = true)
    (plain : value = .string ∨ value = .int ∨ value = .bool)
    (held : w.get? name = some (.map entries))
    (typed : (SqlValue.map entries).HasType (.map key value))
    (present : .null ∉ entries.map (·.1)) (distinct : (entries.map (·.1)).Nodup)
    (first : (entries.map (·.1)).head? ≠ some (.text Json.numberName)) :
    w.Rereads (name, .map key value) (.map entries) := by
  have keysTyped : ∀ entry ∈ entries, entry.1.HasType key :=
    fun entry listed => (typed entry listed).1
  have values : ∀ entry ∈ entries, entry.2.toJson.depth = 0 ∧ entry.2.toJson.Unmarked ∧
      entry.2.Recoverable :=
    fun entry listed => plain_value plain (typed entry listed).2
  have portable : (LogicalType.map key value).isPortable = true := by
    rw [LogicalType.isPortable, named]
    rcases plain with rfl | rfl | rfl <;> rfl
  have recoverable : (SqlValue.map entries).Recoverable :=
    ⟨distinct, present, entriesRecoverable_iff.mpr fun entry listed => (values entry listed).2.2⟩
  have written := toJson_map named keysTyped present distinct
  have shallow : (SqlValue.map entries).toJson.depth < Json.maxDepth := by
    have inner : Json.membersDepth
        (entries.map fun entry => (keyName entry.1, entry.2.toJson)) ≤ 0 := by
      refine Json.membersDepth_le_iff.mpr fun member found => ?_
      obtain ⟨entry, listed, rfl⟩ := List.mem_map.mp found
      exact Nat.le_of_eq (values entry listed).1
    rw [written, Json.depth, Json.maxDepth]
    omega
  have unmarked : (SqlValue.map entries).toJson.Unmarked := by
    rw [written, Json.Unmarked, Json.membersUnmarked_iff]
    refine ⟨head?_keyNames_ne named keysTyped present first, fun member found => ?_⟩
    obtain ⟨entry, listed, rfl⟩ := List.mem_map.mp found
    exact (values entry listed).2.1
  exact Row.rereads_of_isPortable portable held typed recoverable unmarked shallow

/--
A map column is read back exactly if the map has no entries, or its keys are read back from their
names and the first of them does not mark a number.
-/
theorem rereads_map_iff {v : SqlValue} (flat : key.isScalar = true)
    (portable : key.isPortable = true) (plain : value = .string ∨ value = .int ∨ value = .bool)
    (held : w.get? name = some v) (typed : v.HasType (.map key value))
    (present : .null ∉ v.keys) (distinct : v.keys.Nodup) :
    w.Rereads (name, .map key value) v ↔
      v.keys = [] ∨ key.isName = true ∧ v.keys.head? ≠ some (.text Json.numberName) := by
  cases v with
  | null =>
      have read : Json.parse? SqlValue.null.toJson.render = some .null :=
        Json.parse?_render True.intro True.intro (Nat.zero_le _)
      exact iff_of_true ((Row.rereads_iff held).mpr ⟨by decide, .null, read, rfl⟩) (Or.inl rfl)
  | map entries =>
      cases entries with
      | nil =>
          have first : (([] : Json.Members).map (·.1)).head? ≠ some Json.numberName := by
            intro marked
            cases marked
          have read : Json.parse? (SqlValue.map []).toJson.render = some (.object []) :=
            Json.parse?_render ⟨List.nodup_nil, True.intro⟩ ⟨first, True.intro⟩ (by decide)
          exact iff_of_true ((Row.rereads_iff held).mpr ⟨by decide, .object [], read, rfl⟩)
            (Or.inl rfl)
      | cons entry rest =>
          have entryTyped := (typed entry List.mem_cons_self).1
          have entryPresent : entry.1 ≠ .null := fun isNull =>
            present (isNull ▸ List.mem_cons_self)
          constructor
          · intro rereads
            obtain ⟨apart, coerced⟩ := coerce_head_of_rereads held rereads
            cases named : key.isName with
            | false =>
                obtain ⟨tail, quoted⟩ :=
                  exists_trim_keyName flat portable named entryTyped entryPresent
                exact absurd coerced (coerce_quoted flat portable named quoted entry.1)
            | true =>
                refine Or.inr ⟨rfl, fun marked => apart ?_⟩
                have isText : entry.1 = .text Json.numberName := Option.some.inj marked
                rw [isText, keyName]
          · rintro (empty | ⟨named, first⟩)
            · cases empty
            · exact rereads_map_of_isName named plain held typed present distinct first
  | _ => exact False.elim typed

end Rereading

/--
A target row comes back from its document with the entries of a map column, in order, exactly if the
other columns do not keep it from being read and the map has no entries, or keys that are truth
values, integers, numerals or texts, the first of which is not the name that marks a number.
-/
theorem Target.mapColumn_comesBack_iff {table bare : Table} {mapper : TypeMapper} {row w : Row}
    {column : Column} {key value : LogicalType} {v : SqlValue}
    (checked : Table.of table.name table.columns = .ok bare)
    (shaped : (Target.of table mapper).stage.convert row = .converted w)
    (sourced : column ∈ table.sourcedColumns)
    (mapped : mapper.mapColumn column = .map key value)
    (flat : key.isScalar = true) (portable : key.isPortable = true)
    (plain : value = .string ∨ value = .int ∨ value = .bool)
    (held : w.get? column.name = some v) (present : .null ∉ v.keys) (distinct : v.keys.Nodup)
    (schema : SchemaReference) (defaultTable : String) :
    (∃ again, (Target.of table mapper).ComesBack schema defaultTable w again ∧
      again.get? column.name = some v) ↔
      (Target.of table mapper).ReadsBeside w column.name ∧
      (v.keys = [] ∨ key.isName = true ∧ v.keys.head? ≠ some (.text Json.numberName)) := by
  have typed := Target.hasType_of_get? checked shaped sourced mapped held
  rw [Target.comesBack_of_iff checked shaped sourced mapped,
    rereads_map_iff flat portable plain held typed present distinct]

def gauges : Table :=
  ⟨"gauges", [⟨"readings", "map<int, text>", .cassandra, none, none, false⟩,
    ⟨"taken", "date", .cassandra, none, none, false⟩,
    ⟨"level", "double", .cassandra, none, none, false⟩], none, []⟩

def gaugeRow : Row :=
  Row.ofColumns "gauges" ⟨"depot", .cassandra⟩
    [("readings", .map [(.int 7, .text "low"), (.int (-2), .null)]), ("taken", .date leapDay),
      ("level", .float (Number.Binary64.zero true))]

theorem Target.mapColumn_comesBack_gauges :
    let target := Target.of gauges .builtin
    let readings := SqlValue.map [(.int 7, .text "low"), (.int (-2), .null)]
    Table.of gauges.name gauges.columns = .ok gauges ∧
      target.stage.convert gaugeRow = .converted gaugeRow ∧
      target.ReadsBeside gaugeRow "readings" ∧ gaugeRow.get? "readings" = some readings ∧
      ∃ again, target.ComesBack ⟨"depot", .cassandra⟩ "inbox" gaugeRow again ∧
        again.get? "readings" = some readings := by
  intro target readings
  have checked : Table.of gauges.name gauges.columns = .ok gauges := by decide
  have shaped : target.stage.convert gaugeRow = .converted gaugeRow := by cbv
  have columns : target.columns = [("readings", .map .int .string), ("taken", .date),
      ("level", .float)] := by decide +kernel
  have beside : target.ReadsBeside gaugeRow "readings" := by
    rw [Target.ReadsBeside, columns]
    refine ⟨by decide, ?_⟩
    intro other listed apart
    simp only [List.mem_cons, List.not_mem_nil, or_false] at listed
    rcases listed with rfl | rfl | rfl
    · exact absurd rfl apart
    · have string : (SqlValue.date leapDay).toJson = jsonString leapDay.text := rfl
      have rereads : gaugeRow.Rereads ("taken", .date) (.date leapDay) :=
        Row.rereads_of_isPortable rfl rfl True.intro True.intro
          (by rw [string]; exact True.intro) (by rw [string]; exact Nat.zero_lt_succ _)
      exact ⟨_, rereads⟩
    · let level := SqlValue.float (Number.Binary64.zero true)
      have read : Json.parse? level.toJson.render = some level.toJson :=
        Json.parse?_render True.intro True.intro (Nat.zero_le _)
      have coerced : coerce "level" .float (ofJson level.toJson) = .ok level := by cbv
      exact ⟨level, level, level.toJson, rfl, Nat.zero_lt_succ _, read, coerced⟩
  have sourced : gauges.columns[0] ∈ gauges.sourcedColumns := by decide
  have mapped : TypeMapper.builtin.mapColumn gauges.columns[0] = .map .int .string := by
    decide +kernel
  have held : gaugeRow.get? "readings" = some readings := rfl
  have present : .null ∉ readings.keys := by simp [readings, keys]
  have distinct : readings.keys.Nodup := by simp [readings, keys]
  have first : readings.keys.head? ≠ some (.text Json.numberName) := by simp [readings, keys]
  refine ⟨checked, shaped, beside, held, ?_⟩
  exact (Target.mapColumn_comesBack_iff checked shaped sourced mapped rfl rfl (Or.inl rfl) held
    present distinct ⟨"depot", .cassandra⟩ "inbox").mpr ⟨beside, Or.inr ⟨rfl, first⟩⟩

def calendars : Table :=
  ⟨"calendars", [⟨"notes", "map<date, text>", .cassandra, none, none, false⟩], none, []⟩

def calendarRow : Row :=
  Row.ofColumns "calendars" ⟨"depot", .cassandra⟩ [("notes", .map [(.date leapDay, .text "x")])]

/-- A map of dates does not come back: the name of its entry is a date in quotes. -/
theorem Target.mapColumn_lost_calendars :
    let target := Target.of calendars .builtin
    let notes := SqlValue.map [(.date leapDay, .text "x")]
    Table.of calendars.name calendars.columns = .ok calendars ∧
      (∃ column ∈ calendars.sourcedColumns,
        column.name = "notes" ∧ TypeMapper.builtin.mapColumn column = .map .date .string) ∧
      target.stage.convert calendarRow = .converted calendarRow ∧
      calendarRow.get? "notes" = some notes ∧ .null ∉ notes.keys ∧ notes.keys.Nodup ∧
      ¬ ∃ again, target.ComesBack ⟨"depot", .cassandra⟩ "inbox" calendarRow again ∧
        again.get? "notes" = some notes := by
  intro target notes
  have checked : Table.of calendars.name calendars.columns = .ok calendars := by decide
  have shaped : target.stage.convert calendarRow = .converted calendarRow := by cbv
  have sourced : calendars.columns[0] ∈ calendars.sourcedColumns := by decide
  have mapped : TypeMapper.builtin.mapColumn calendars.columns[0] = .map .date .string := by
    decide +kernel
  have held : calendarRow.get? "notes" = some notes := rfl
  have present : .null ∉ notes.keys := by simp [notes, keys]
  have distinct : notes.keys.Nodup := List.nodup_singleton _
  refine ⟨checked, ⟨calendars.columns[0], sourced, rfl, mapped⟩, shaped, held, present,
    distinct, ?_⟩
  intro back
  have rereads := ((Target.comesBack_of_iff checked shaped sourced mapped).mp back).2
  have typed := Target.hasType_of_get? checked shaped sourced mapped held
  rcases (rereads_map_iff rfl rfl (Or.inl rfl) held typed present distinct).mp rereads with
    empty | ⟨named, _⟩
  · cases empty
  · cases named

end RowConduit
