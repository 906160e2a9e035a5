import Mathlib
import RowConduit.Proofs.Schema.Parts

/-!
# Schema documents come back

The document of a sound database is read as that database, since each field is written once, in a
form that its reader takes, and the checked constructors accept what is read.  Whatever else is read
went through the same constructors, so it is sound too, and the tables that its keys refer to are
those that the document lists, each at its first occurrence.
-/

namespace RowConduit

open RowConduit.Json RowConduit.Text

namespace Table

def writtenKeys (d : Draft) : List String :=
  (d.listed 3 "foreign_keys").filterMap Draft.text?

theorem ofParts_eq_ok_iff {name : String} {columns : List Column} {parent : Option String}
    {keys : List String} {table : Table} :
    ofParts name columns parent keys = .ok table ↔
      isBlankText name = false ∧ (columns.map (·.name)).Nodup ∧
        table = ⟨name, columns, parent, keys.eraseDups⟩ := by
  unfold ofParts
  rw [Except.bind_eq_ok_iff]
  constructor
  · rintro ⟨bare, checked, joined⟩
    obtain ⟨named, distinct, rfl⟩ := of_eq_ok_iff.mp checked
    rw [withForeignKeys_of_empty rfl] at joined
    cases joined
    exact ⟨named, distinct, rfl⟩
  · rintro ⟨named, distinct, rfl⟩
    refine ⟨_, of_eq_ok_iff.mpr ⟨named, distinct, rfl⟩, ?_⟩
    rw [withForeignKeys_of_empty rfl]
    rfl

theorem Sound.ofParts {t : Table} (sound : t.Sound) :
    ofParts t.name t.columns t.parent t.foreignKeys = .ok t := by
  refine ofParts_eq_ok_iff.mpr ⟨sound.named, sound.columns, ?_⟩
  rw [eraseDups_eq_self sound.foreignKeys]

theorem Sound.build_parts {t : Table} (sound : t.Sound) : t.parts.build = .ok t :=
  (Parts.build_eq t.parts).trans sound.ofParts

theorem foreignKeys_apart : Field.Apart fields[3] (fields.take 3) [] Partial.foreignKeys
    (readList readText) where
  fills := Field.fills_of_store rfl (fun _ => rfl) fun _ _ => rfl
  others := by
    refine List.forall_mem_cons.mpr ⟨⟨by decide, Field.leaves_of_store rfl fun _ _ => rfl⟩, ?_⟩
    refine List.forall_mem_cons.mpr ⟨⟨by decide, Field.leaves_of_store rfl fun _ _ => rfl⟩, ?_⟩
    refine List.forall_mem_cons.mpr ⟨⟨by decide, Field.leaves_of_store rfl fun _ _ => rfl⟩, ?_⟩
    exact List.forall_mem_nil _

theorem of_read {d : Draft} {t : Table} (reading : Table.read d = .ok t) :
    isBlankText t.name = false ∧ (t.columns.map (·.name)).Nodup ∧
      t.foreignKeys = (writtenKeys d).eraseDups := by
  obtain ⟨s, collected, finished⟩ := readRecord_eq_ok_iff.mp reading
  have keys := texts_of_forall₂ (foreignKeys_apart.listed rfl collected)
  obtain ⟨name, _, finished⟩ := Except.bind_eq_ok_iff.mp finished
  obtain ⟨columns, _, finished⟩ := Except.bind_eq_ok_iff.mp finished
  obtain ⟨named, distinct, rfl⟩ := ofParts_eq_ok_iff.mp (Except.mapError_eq_ok_iff.mp finished)
  exact ⟨named, distinct, congrArg List.eraseDups keys.symm⟩

end Table

namespace Database

def writtenTables (d : Draft) : List Draft :=
  d.listed 1 "tables"

theorem Sound.read_toJson {db : Database} (sound : db.Sound) :
    Database.read db.toJson.toDraft = .ok db := by
  have tables : (db.tables.map Table.parts).mapM Table.Parts.build = .ok db.tables := by
    rw [Except.mapM_eq_ok_iff, List.forall₂_map_left_iff, List.forall₂_same]
    exact fun t listed => (sound.tables t listed).build_parts
  have checked : Database.of db.reference db.tables = .ok db :=
    of_eq_ok_iff.mpr ⟨sound.distinct, rfl⟩
  have built : db.parts.buildUnder db.reference = .ok db :=
    Except.bind_eq_ok_iff.mpr ⟨db.tables, tables, checked⟩
  exact Parts.read_eq_ok_iff.mpr ⟨db.parts, Parts.read_toJson db, built⟩

theorem tables_apart : Field.Apart fields[1] (fields.take 1) [] Partial.tables
    (readList Table.read) where
  fills := Field.fills_of_store rfl (fun _ => rfl) fun _ _ => rfl
  others := List.forall_mem_singleton.mpr
    ⟨by decide, Field.leaves_of_store rfl fun _ _ => rfl⟩

theorem of_read {d : Draft} {db : Database} (reading : Database.read d = .ok db) :
    (db.tables.map (·.name)).Nodup ∧
      List.Forall₂ (fun written table => Table.read written = .ok table) (writtenTables d)
        db.tables := by
  obtain ⟨s, collected, finished⟩ := readRecord_eq_ok_iff.mp reading
  have each := tables_apart.listed rfl collected
  obtain ⟨reference, _, finished⟩ := Except.bind_eq_ok_iff.mp finished
  obtain ⟨tables, given, finished⟩ := Except.bind_eq_ok_iff.mp finished
  obtain ⟨distinct, rfl⟩ := of_eq_ok_iff.mp (Except.mapError_eq_ok_iff.mp finished)
  rw [require_eq_ok_iff.mp given] at each
  exact ⟨distinct, each⟩

/--
A database that can be made is read back from its document.  A database that is read from any text
has tables with names, which differ, as do the columns of each; and the tables that the keys of a
table refer to are those that the text lists for it, later repetitions left out.
-/
theorem ofText_recovers_and_checks :
    (∀ db : Database, db.Built → ofText db.toJson.render = .ok db) ∧
      ∀ (text : String) (db : Database), ofText text = .ok db →
        (∀ table ∈ db.tables, isBlankText table.name = false) ∧
        (db.tables.map (·.name)).Nodup ∧
        (∀ table ∈ db.tables, (table.columns.map (·.name)).Nodup) ∧
        List.Forall₂
          (fun written table => table.foreignKeys = (Table.writtenKeys written).eraseDups)
          (writtenTables (draft text.toList).1) db.tables := by
  refine ⟨fun db built => ?_, fun text db accepted => ?_⟩
  · rw [ofText, decode_render, built.sound.read_toJson]
    rfl
  · have reading := (decode_eq_ok_iff.mp (Except.mapError_eq_ok_iff.mp accepted)).1
    obtain ⟨distinct, each⟩ := of_read reading
    have checked := each.imp fun _ _ => Table.of_read
    have keys := checked.imp fun _ _ each => each.2.2
    refine ⟨fun table listed => ?_, distinct, fun table listed => ?_, keys⟩
    · obtain ⟨_, _, named, _⟩ := exists_of_mem_right checked listed
      exact named
    · obtain ⟨_, _, _, columns, _⟩ := exists_of_mem_right checked listed
      exact columns

def entries : Table :=
  let amount : Column := ⟨"amount", "numeric", .postgreSql, some 12, none, true⟩
  let inBooks := Table.withParent ⟨"entries", [amount], none, []⟩ "books"
  (inBooks.withForeignKey "books").withForeignKey "books"

def ledger : Database :=
  ⟨⟨"ledger", .postgreSql⟩, [entries]⟩

theorem built_ledger : ledger.Built := by
  have bare : Table.of "entries" entries.columns = .ok ⟨"entries", entries.columns, none, []⟩ :=
    by decide
  have table : entries.Built :=
    .withForeignKey "books" (.withForeignKey "books" (.withParent "books" (.of bare)))
  have reference : SchemaReference.of "ledger" .postgreSql = .ok ⟨"ledger", .postgreSql⟩ := by
    decide
  exact .of reference (List.forall_mem_singleton.mpr table) (by decide)

def terseText : String :=
  "\x7b\"tables\":[[\"a\",[],null,[\"b\",\"c\",\"b\"]],\x7b\"foreign_keys\":[\"a\"]," ++
    "\"columns\":[],\"name\":\"b\"\x7d]," ++
    "\"reference\":\x7b\"kind\":\"postgres\",\"name\":\"\"\x7d\x7d"

def terse : Database :=
  ⟨⟨"", .postgreSql⟩, [⟨"a", [], none, ["b", "c"]⟩, ⟨"b", [], none, ["a"]⟩]⟩

theorem ofText_recovers_and_checks_ledger :
    (ledger.Built ∧ ofText ledger.toJson.render = .ok ledger) ∧
      ofText terseText = .ok terse ∧
      (∀ table ∈ terse.tables, isBlankText table.name = false) ∧
      (terse.tables.map (·.name)).Nodup ∧
      (∀ table ∈ terse.tables, (table.columns.map (·.name)).Nodup) ∧
      List.Forall₂
        (fun written table => table.foreignKeys = (Table.writtenKeys written).eraseDups)
        (writtenTables (draft terseText.toList).1) terse.tables := by
  have cut : tokens terseText.toList =
      [.openObject, .string (some "tables"), .colon, .openArray,
        .openArray, .string (some "a"), .comma, .openArray, .closeArray, .comma, .null, .comma,
        .openArray, .string (some "b"), .comma, .string (some "c"), .comma, .string (some "b"),
        .closeArray, .closeArray, .comma,
        .openObject, .string (some "foreign_keys"), .colon, .openArray, .string (some "a"),
        .closeArray, .comma, .string (some "columns"), .colon, .openArray, .closeArray, .comma,
        .string (some "name"), .colon, .string (some "b"), .closeObject, .closeArray, .comma,
        .string (some "reference"), .colon, .openObject, .string (some "kind"), .colon,
        .string (some "postgres"), .comma, .string (some "name"), .colon, .string (some ""),
        .closeObject, .closeObject] := by
    cbv
  have accepted : ofText terseText = .ok terse := by
    rw [ofText, decode, draft, cut]
    rfl
  exact ⟨⟨built_ledger, ofText_recovers_and_checks.1 ledger built_ledger⟩, accepted,
    ofText_recovers_and_checks.2 terseText terse accepted⟩

end Database

end RowConduit
