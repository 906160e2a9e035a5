import Mathlib
import RowConduit.Proofs.Json.Checked
import RowConduit.Proofs.Json.Number
import RowConduit.Proofs.Schema.Table
import RowConduit.Schema.Document

/-!
# Schemas and their parts

What a schema document says before any of it is checked, and what the checked constructors make of
it.  Reading a schema is reading its parts and then making the tables and the database of them; only
the reference is taken as it is, where its constructor refuses a blank name.
-/

namespace RowConduit

open RowConduit.Json RowConduit.Text

theorem readUInt32_uint32Json (n : UInt32) : readUInt32 (uint32Json n).toDraft = .ok n := by
  have small : (n.toNat : Int) < 2 ^ 32 := by exact_mod_cast n.toNat_lt
  have positive : (Json.Number.ofInt n.toNat).negative = false := by simp [Json.Number.ofInt]
  rw [uint32Json, toDraft, readUInt32, Json.Number.integer?_ofInt]
  dsimp only
  rw [positive, if_neg Bool.false_ne_true, if_pos small, Int.toNat_natCast, UInt32.ofNat_toNat]

theorem readOptional_uint32Json (n : UInt32) :
    readOptional readUInt32 (uint32Json n).toDraft = .ok (some n) :=
  readOptional_eq_ok (by simp [uint32Json, toDraft]) (readUInt32_uint32Json n)

theorem readChoice_name (kind : SourceKind) :
    readChoice SourceKind.documentNames (.string (some kind.name)) = .ok kind := by
  cases kind <;> rfl

theorem SchemaReference.read_toJson (r : SchemaReference) :
    SchemaReference.read r.toJson.toDraft = .ok r := by
  simp [SchemaReference.read, toJson, fields, toDraft, membersToDraft, readRecord, readMember,
    readText, readChoice_name, require, Except.ok_bind]

theorem Column.read_toJson (c : Column) : Column.read c.toJson.toDraft = .ok c := by
  obtain ⟨name, rawType, kind, precision, scale, isGenerated⟩ := c
  cases precision <;> cases scale <;>
    simp [Column.read, toJson, fields, toDraft, optionalMember, membersToDraft, readRecord,
      readMember, readText, readBool, readChoice_name, readOptional_uint32Json, require,
      Except.ok_bind]

structure Table.Parts where
  name : String
  columns : List Column
  parent : Option String
  foreignKeys : List String
  deriving DecidableEq, Repr

namespace Table.Parts

def read : Draft → Except JsonFault Parts :=
  readRecord Table.fields ⟨none, none, none, none⟩ fun s => do
    let name ← require "name" s.name
    let columns ← require "columns" s.columns
    return ⟨name, columns, s.parent.join, s.foreignKeys.getD []⟩

def build (p : Parts) : Except SchemaFault Table := do
  let bare ← Table.of p.name p.columns
  return (p.parent.elim bare bare.withParent).withForeignKeys p.foreignKeys

theorem build_eq (p : Parts) :
    p.build = Table.ofParts p.name p.columns p.parent p.foreignKeys := by
  unfold build Table.ofParts
  cases checked : Table.of p.name p.columns with
  | error e => rfl
  | ok bare =>
      obtain ⟨_, _, rfl⟩ := Table.of_eq_ok_iff.mp checked
      cases p.parent <;> rfl

end Table.Parts

def Table.parts (t : Table) : Table.Parts :=
  ⟨t.name, t.columns, t.parent, t.foreignKeys⟩

/-- The parts of a table are read back whether or not it has a parent and foreign keys. -/
theorem Table.Parts.read_toJson (t : Table) : Parts.read t.toJson.toDraft = .ok t.parts := by
  obtain ⟨name, columns, parent, keys⟩ := t
  have readColumns : readList Column.read (Json.array (columns.map Column.toJson)).toDraft =
      .ok columns :=
    readList_array (List.forall₂_same.mpr fun c _ => c.read_toJson)
  have readKeys : readList readText (Json.array (keys.map Json.string)).toDraft = .ok keys :=
    readList_array (List.forall₂_same.mpr fun _ _ => rfl)
  have readParent (name : String) :
      readOptional readText (.string (some name)) = .ok (some name) := rfl
  rw [toDraft] at readColumns readKeys
  -- no keys, and no parent, are written by leaving the member out
  rcases eq_or_ne keys [] with rfl | given <;> cases parent <;>
    simp [Parts.read, Table.parts, Table.toJson, Table.fields, toDraft, optionalMember,
      membersToDraft, readRecord, readMember, readText, require, Except.ok_bind, pure,
      Except.pure, *]

theorem Table.read_eq (d : Draft) :
    Table.read d = Table.Parts.read d >>= fun p => p.build.mapError .schema := by
  rw [Table.Parts.read, ← readRecord_bind, Table.read]
  congr 1
  funext ⟨name, columns, parent, keys⟩
  cases name with
  | none => rfl
  | some name =>
      cases columns with
      | none => rfl
      | some columns =>
          exact congrArg (Except.mapError JsonFault.schema)
            (Table.Parts.build_eq ⟨name, columns, parent.join, keys.getD []⟩).symm

structure Database.Parts where
  name : String
  kind : SourceKind
  tables : List Table.Parts
  deriving DecidableEq, Repr

namespace Database.Parts

def reference (p : Parts) : SchemaReference :=
  ⟨p.name, p.kind⟩

structure Collected where
  reference : Option SchemaReference
  tables : Option (List Table.Parts)

def fields : List (Json.Field Collected) :=
  [⟨"reference", true, fun s => s.reference.isSome, fun s d => do
      return { s with reference := some (← SchemaReference.read d) }⟩,
    ⟨"tables", true, fun s => s.tables.isSome, fun s d => do
      return { s with tables := some (← readList Table.Parts.read d) }⟩]

def Collected.finish (s : Collected) : Except JsonFault Parts := do
  let reference ← require "reference" s.reference
  let tables ← require "tables" s.tables
  return ⟨reference.name, reference.kind, tables⟩

def read : Draft → Except JsonFault Parts :=
  readRecord fields ⟨none, none⟩ Collected.finish

/-- The database that the constructors make of the tables under a given reference. -/
def buildUnder (reference : SchemaReference) (p : Parts) : Except SchemaFault Database := do
  let tables ← p.tables.mapM Table.Parts.build
  Database.of reference tables

def build (p : Parts) : Except JobError Database := do
  let reference ← SchemaReference.of p.name p.kind
  (p.buildUnder reference).mapError .schema

def checkTables (parts : List Table.Parts) : Except JsonFault (List Table) :=
  parts.mapM fun p => p.build.mapError .schema

def Collected.check (s : Collected) : Except JsonFault Database.Partial :=
  match s.tables with
  | none => .ok ⟨s.reference, none⟩
  | some parts => do return ⟨s.reference, some (← checkTables parts)⟩

theorem Collected.check_eq_ok_iff {s : Collected} {t : Database.Partial} :
    s.check = .ok t ↔
      s.reference = t.reference ∧
        Option.Rel (fun parts tables => checkTables parts = .ok tables) s.tables t.tables := by
  obtain ⟨reference, _ | parts⟩ := s <;> obtain ⟨reference', _ | tables⟩ := t <;>
    simp [check, Except.bind_eq_ok_iff, pure, Except.pure, and_comm]

theorem readTables_eq_ok_iff {d : Draft} {tables : List Table} :
    readList Table.read d = .ok tables ↔
      ∃ parts, readList Table.Parts.read d = .ok parts ∧ checkTables parts = .ok tables := by
  rw [funext Table.read_eq]
  exact readList_bind_eq_ok_iff

/-- The tables are made while they are read, and the reference is taken as it is. -/
theorem fields_checks :
    List.Forall₂ (Field.Checks Collected.check) Parts.fields Database.fields := by
  refine .cons ?_ (.cons ?_ .nil)
  · refine Field.checks_of_store rfl rfl ?_ rfl rfl (f := .ok) (by simp) ?_ ?_
    · intro s t checks
      exact congrArg Option.isSome (Collected.check_eq_ok_iff.mp checks).1.symm
    · rintro ⟨reference, _ | parts⟩ t v t' checks
      · cases checks
        simp [Collected.check]
      · obtain ⟨tables, made, same⟩ := Except.bind_eq_ok_iff.mp checks
        cases same
        simp [Collected.check, made, Except.ok_bind, pure, Except.pure]
    · intro s v t' _ checks
      have made := (Collected.check_eq_ok_iff.mp checks).2
      exact ⟨⟨s.reference, t'.tables⟩, Collected.check_eq_ok_iff.mpr ⟨rfl, made⟩⟩
  · refine Field.checks_of_store rfl rfl ?_ rfl rfl readTables_eq_ok_iff ?_ ?_
    · rintro ⟨reference, tables⟩ ⟨reference', tables'⟩ checks
      cases (Collected.check_eq_ok_iff.mp checks).2 <;> rfl
    · intro s t v t' checks
      simp [Collected.check, (Collected.check_eq_ok_iff.mp checks).1, Except.bind_eq_ok_iff, pure,
        Except.pure]
    · rintro ⟨reference, _ | parts⟩ v t' unset _
      · exact ⟨⟨reference, none⟩, rfl⟩
      · cases unset

theorem spared : fields.Pairwise Field.Spares := by
  refine .cons ?_ (.cons (List.forall_mem_nil _) .nil)
  intro tables listed s d s' reading
  obtain ⟨reference, _, same⟩ := Except.bind_eq_ok_iff.mp reading
  cases List.mem_singleton.mp listed
  cases same
  rfl

theorem Collected.finish_eq_ok_iff {s : Collected} {p : Parts} :
    s.finish = .ok p ↔ s = ⟨some p.reference, some p.tables⟩ := by
  obtain ⟨_ | ⟨name, kind⟩, _ | tables⟩ := s <;> obtain ⟨name', kind', tables'⟩ := p <;>
    simp [finish, Parts.reference, require, Except.bind_eq_ok_iff, pure, Except.pure, and_assoc]

theorem checkTables_eq_ok_iff {parts : List Table.Parts} {tables : List Table} :
    checkTables parts = .ok tables ↔ parts.mapM Table.Parts.build = .ok tables := by
  rw [checkTables, Except.mapM_mapError, Except.mapError_eq_ok_iff]

/-- A database is read if its parts are and the constructors take them under their reference. -/
theorem read_eq_ok_iff {d : Draft} {db : Database} :
    Database.read d = .ok db ↔
      ∃ p, Parts.read d = .ok p ∧ p.buildUnder p.reference = .ok db := by
  have unset : ∀ field ∈ fields, field.isSet ⟨none, none⟩ = false := by
    simp [fields]
  have checked {t : Database.Partial} :
      readRecord Database.fields ⟨none, none⟩ .ok d = .ok t ↔
        ∃ s, readRecord fields ⟨none, none⟩ .ok d = .ok s ∧ s.check = .ok t :=
    readRecord_checked_iff fields_checks spared unset rfl
  constructor
  · intro reading
    obtain ⟨t, collected, finished⟩ := readRecord_eq_ok_iff.mp reading
    obtain ⟨⟨given, parts⟩, rawCollected, checks⟩ := checked.mp collected
    obtain ⟨same, made⟩ := Collected.check_eq_ok_iff.mp checks
    obtain ⟨reference, named, finished⟩ := Except.bind_eq_ok_iff.mp finished
    obtain ⟨tables, listed, finished⟩ := Except.bind_eq_ok_iff.mp finished
    rw [require_eq_ok_iff] at named listed
    rw [named] at same
    rw [listed] at made
    cases same
    cases made with
    | @some parts _ made =>
        have joined := Except.mapError_eq_ok_iff.mp finished
        refine ⟨⟨reference.name, reference.kind, parts⟩, ?_, ?_⟩
        · exact readRecord_eq_ok_iff.mpr ⟨_, rawCollected, rfl⟩
        · exact Except.bind_eq_ok_iff.mpr ⟨tables, checkTables_eq_ok_iff.mp made, joined⟩
  · rintro ⟨p, reading, built⟩
    obtain ⟨s, rawCollected, ended⟩ := readRecord_eq_ok_iff.mp reading
    obtain ⟨tables, made, joined⟩ := Except.bind_eq_ok_iff.mp built
    cases Collected.finish_eq_ok_iff.mp ended
    have checks : Collected.check ⟨some p.reference, some p.tables⟩ =
        .ok ⟨some p.reference, some tables⟩ :=
      Collected.check_eq_ok_iff.mpr ⟨rfl, .some (checkTables_eq_ok_iff.mpr made)⟩
    have collected := checked.mpr ⟨_, rawCollected, checks⟩
    exact readRecord_eq_ok_iff.mpr ⟨_, collected, Except.mapError_eq_ok_iff.mpr joined⟩

end Database.Parts

namespace Database

def parts (db : Database) : Parts :=
  ⟨db.reference.name, db.reference.kind, db.tables.map Table.parts⟩

theorem Parts.read_toJson (db : Database) : Parts.read db.toJson.toDraft = .ok db.parts := by
  have reference := db.reference.read_toJson
  have tables : readList Table.Parts.read (Json.array (db.tables.map Table.toJson)).toDraft =
      .ok (db.tables.map Table.parts) := by
    refine readList_array (List.forall₂_map_right_iff.mpr (List.forall₂_same.mpr ?_))
    exact fun t _ => Table.Parts.read_toJson t
  rw [toDraft] at tables
  simp [Parts.read, Database.parts, toJson, Parts.fields, toDraft, membersToDraft, readRecord,
    readMember, require, Except.ok_bind, Parts.Collected.finish, pure, Except.pure, *]

theorem Parts.exists_text (p : Parts) : ∃ text, decode Parts.read text = .ok p := by
  let table (q : Table.Parts) : Table := ⟨q.name, q.columns, q.parent, q.foreignKeys⟩
  have same : Database.parts ⟨⟨p.name, p.kind⟩, p.tables.map table⟩ = p := by
    have tables : (p.tables.map table).map Table.parts = p.tables := by
      rw [List.map_map]
      exact List.map_id p.tables
    rw [Database.parts, tables]
  refine ⟨(Database.toJson ⟨⟨p.name, p.kind⟩, p.tables.map table⟩).render, ?_⟩
  rw [decode_render, Parts.read_toJson, same]

theorem Parts.build_eq_ok_iff {p : Parts} {db : Database} :
    p.build = .ok db ↔
      isBlankText p.name = false ∧ p.buildUnder p.reference = .ok db := by
  unfold Parts.build SchemaReference.of
  cases isBlankText p.name with
  | true => simp [Except.bind_eq_ok_iff]
  | false => simp [Parts.reference, Except.bind_eq_ok_iff, Except.mapError_eq_ok_iff]

/-- What is read from a text is what the constructors make of its parts. -/
theorem ofText_eq_ok_iff {text : String} {db : Database} :
    ofText text = .ok db ↔
      ∃ p, decode Parts.read text = .ok p ∧ p.buildUnder p.reference = .ok db := by
  rw [ofText, Except.mapError_eq_ok_iff, decode_eq_ok_iff, Parts.read_eq_ok_iff]
  simp only [decode_eq_ok_iff]
  exact ⟨fun ⟨⟨p, reading, built⟩, ended⟩ => ⟨p, ⟨reading, ended⟩, built⟩,
    fun ⟨p, ⟨reading, ended⟩, built⟩ => ⟨⟨p, reading, built⟩, ended⟩⟩

/--
Any parts are those of some text.  A text with these parts is read exactly if the constructors make
the tables and the database of them, and then as what they make.  So it is read as all constructors
would have it, the one of the reference included, unless the name of the reference is blank and the
others accept the parts: only the blank name is let through.
-/
theorem ofText_builds (p : Parts) :
    (∃ text, decode Parts.read text = .ok p) ∧
      ∀ text, decode Parts.read text = .ok p →
        (∀ db, ofText text = .ok db ↔ p.buildUnder p.reference = .ok db) ∧
        ((∀ db, ofText text = .ok db ↔ p.build = .ok db) ↔
          isBlankText p.name = false ∨ ∀ db, p.buildUnder p.reference ≠ .ok db) := by
  refine ⟨p.exists_text, fun text decoded => ?_⟩
  have accepted (db : Database) : ofText text = .ok db ↔ p.buildUnder p.reference = .ok db := by
    rw [ofText_eq_ok_iff, decoded]
    simp
  refine ⟨accepted, ?_⟩
  simp only [accepted, Parts.build_eq_ok_iff]
  cases isBlankText p.name <;> simp

def shopText : String :=
  "\x7b\"reference\":\x7b\"name\":\"shop\",\"kind\":\"mysql\"\x7d,\"tables\":[" ++
    "\x7b\"name\":\"lines\",\"columns\":[],\"parent_table\":\"orders\"," ++
    "\"foreign_keys\":[\"items\",\"items\"]\x7d]\x7d"

def shopParts : Parts :=
  ⟨"shop", .mySql, [⟨"lines", [], some "orders", ["items", "items"]⟩]⟩

def shop : Database :=
  ⟨⟨"shop", .mySql⟩, [⟨"lines", [], some "orders", ["items"]⟩]⟩

theorem ofText_builds_shop :
    decode Parts.read shopText = .ok shopParts ∧ isBlankText shopParts.name = false ∧
      (∀ db, ofText shopText = .ok db ↔ shopParts.build = .ok db) ∧
      shopParts.build = .ok shop := by
  have cut : tokens shopText.toList =
      [.openObject, .string (some "reference"), .colon, .openObject, .string (some "name"), .colon,
        .string (some "shop"), .comma, .string (some "kind"), .colon, .string (some "mysql"),
        .closeObject, .comma, .string (some "tables"), .colon, .openArray, .openObject,
        .string (some "name"), .colon, .string (some "lines"), .comma, .string (some "columns"),
        .colon, .openArray, .closeArray, .comma, .string (some "parent_table"), .colon,
        .string (some "orders"), .comma, .string (some "foreign_keys"), .colon, .openArray,
        .string (some "items"), .comma, .string (some "items"), .closeArray, .closeObject,
        .closeArray, .closeObject] := by
    cbv
  have decoded : decode Parts.read shopText = .ok shopParts := by
    rw [decode, draft, cut]
    rfl
  have named : isBlankText shopParts.name = false := by decide
  have built := ((ofText_builds shopParts).2 shopText decoded).2.mpr (.inl named)
  exact ⟨decoded, named, built, rfl⟩

def namelessText : String :=
  "\x7b\"reference\":\x7b\"name\":\" \",\"kind\":\"mysql\"\x7d,\"tables\":[]\x7d"

/-- A blank reference, which its constructor refuses, is read without complaint. -/
theorem ofText_accepts_nameless :
    decode Parts.read namelessText = .ok ⟨" ", .mySql, []⟩ ∧
      ofText namelessText = .ok ⟨⟨" ", .mySql⟩, []⟩ ∧
      Parts.build ⟨" ", .mySql, []⟩ = .error (.schema (.blankReference .mySql)) := by
  have cut : tokens namelessText.toList =
      [.openObject, .string (some "reference"), .colon, .openObject, .string (some "name"), .colon,
        .string (some " "), .comma, .string (some "kind"), .colon, .string (some "mysql"),
        .closeObject, .comma, .string (some "tables"), .colon, .openArray, .closeArray,
        .closeObject] := by
    cbv
  refine ⟨?_, ?_, by decide⟩
  · rw [decode, draft, cut]
    rfl
  · rw [ofText, decode, draft, cut]
    rfl

end Database

end RowConduit
