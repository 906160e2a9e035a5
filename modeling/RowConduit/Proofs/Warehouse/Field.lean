import RowConduit.Proofs.Convert.Soundness
import RowConduit.Warehouse.Field

/-!
# Warehouse columns describe target rows

The column list of a table is computed from the types of its columns, the document of a target row
from the values.  They agree: every value has the type of its column, and what its JSON form looks
like depends on that type only.  An array of arrays is the one shape that a column cannot name; its
column says what the innermost items are.
-/

namespace RowConduit

open SqlValue

namespace LogicalType

/-- How many arrays lie around the elements of the type. -/
def arrayDepth : LogicalType → Nat
  | .array element => element.arrayDepth + 1
  | _ => 0

def isDocumentFree : LogicalType → Bool
  | .json => false
  | .array element => element.isDocumentFree
  | .map key value => key.isDocumentFree && value.isDocumentFree
  | _ => true

end LogicalType

/-- The names under which double-precision values that are no numbers are written. -/
def nonFiniteNames : List String :=
  ["NaN", "Infinity", "-Infinity"]

namespace ColumnType

/-- The JSON form is that of one value of the column type. -/
def Holds : ColumnType → Json → Prop
  | .boolean, j => ∃ b, j = .bool b
  | .integer, j => ∃ n, j = .number n ∧ n.integer?.isSome
  | .float, j => (∃ n, j = .number n) ∨ ∃ name ∈ nonFiniteNames, j = .string name
  | .record, j => ∃ members, j = .object members
  | _, j => ∃ s, j = .string s

/-- Arrays so many deep around values of the column type, with NULL allowed at every level. -/
def HoldsNested (type : ColumnType) : Nat → Json → Prop
  | 0, j => j = .null ∨ type.Holds j
  | depth + 1, j =>
      j = .null ∨ ∃ items, j = .array items ∧ ∀ item ∈ items, type.HoldsNested depth item

theorem holdsNested_null (type : ColumnType) (depth : Nat) : type.HoldsNested depth .null := by
  cases depth <;> exact Or.inl rfl

theorem HoldsNested.array {type : ColumnType} {depth : Nat} {items : List Json}
    (each : ∀ item ∈ items, type.HoldsNested depth item) :
    type.HoldsNested (depth + 1) (.array items) :=
  Or.inr ⟨items, rfl, each⟩

theorem holds_floatJson (x : Number.Binary64) : ColumnType.float.Holds (floatJson x) := by
  cases x with
  | finite negative exponent fraction => exact Or.inl ⟨_, rfl⟩
  | infinite negative =>
      cases negative with
      | false => exact Or.inr ⟨"Infinity", by simp [nonFiniteNames], rfl⟩
      | true => exact Or.inr ⟨"-Infinity", by simp [nonFiniteNames], rfl⟩
  | nan => exact Or.inr ⟨"NaN", by simp [nonFiniteNames], rfl⟩

theorem holds_intJson (i : Int) : ColumnType.integer.Holds (.number (.ofInt i)) :=
  ⟨_, rfl, by rw [Json.Number.integer?_ofInt]; rfl⟩

/-- A value is written as its column type says, inside the arrays of its logical type. -/
theorem holdsNested_toJson {type : LogicalType} {w : SqlValue}
    (free : type.isDocumentFree = true) (typed : w.HasType type) :
    (ofLogical type).HoldsNested type.arrayDepth w.toJson := by
  induction type generalizing w with
  | json => cases free
  | int =>
      cases w with
      | null => exact holdsNested_null _ _
      | int i => exact Or.inr (holds_intJson i.toInt)
      | _ => exact False.elim typed
  | float =>
      cases w with
      | null => exact holdsNested_null _ _
      | float x => exact Or.inr (holds_floatJson x)
      | _ => exact False.elim typed
  | array element ih =>
      cases w with
      | null => exact holdsNested_null _ _
      | array items =>
          rw [SqlValue.toJson, itemsToJson_eq_map]
          refine HoldsNested.array fun item member => ?_
          obtain ⟨value, listed, rfl⟩ := List.mem_map.mp member
          exact ih free (typed value listed)
      | _ => exact False.elim typed
  | _ =>
      cases w <;> first
        | exact holdsNested_null _ _
        | exact Or.inr ⟨_, rfl⟩
        | exact False.elim typed

end ColumnType

namespace WarehouseField

def Fits (field : WarehouseField) (j : Json) : Prop :=
  match field.mode with
  | .nullable => j = .null ∨ field.type.Holds j
  | .required => field.type.Holds j
  | .repeated =>
      j = .null ∨ ∃ items, j = .array items ∧ ∀ item ∈ items, item = .null ∨ field.type.Holds item

/-- A field has no mode for arrays of arrays; without them it says all there is to say. -/
theorem fits_of_holdsNested {mapper : TypeMapper} {column : Column} {j : Json}
    (flat : (mapper.mapColumn column).arrayDepth ≤ 1)
    (held : (ofColumn mapper column).type.HoldsNested (mapper.mapColumn column).arrayDepth j) :
    (ofColumn mapper column).Fits j := by
  rw [ofColumn] at held ⊢
  cases type : mapper.mapColumn column with
  | array element =>
      rw [type, LogicalType.arrayDepth] at flat held
      have innermost : element.arrayDepth = 0 := by omega
      rw [innermost] at held
      exact held
  | _ =>
      rw [type] at held
      exact held

/--
The object that is written for a target row has the names of the warehouse fields of its table, in
order; each value fits its field, and in a column of arrays of arrays the nested arrays hold values
of the type of the field.
-/
theorem describes_targetRow {table bare : Table} {mapper : TypeMapper} {row w : Row}
    (checked : Table.of table.name table.columns = .ok bare)
    (free : ∀ column ∈ table.sourcedColumns, (mapper.mapColumn column).isDocumentFree = true)
    (shaped : (Target.of table mapper).stage.convert row = .converted w) :
    ∃ members, w.toJson = .object members ∧
      rowToDocument.convert w = .converted (Json.object members).render ∧
      members.map (·.1) = (ofTable table mapper).map (·.name) ∧
      List.Forall₂ (fun column member =>
        ((mapper.mapColumn column).arrayDepth ≤ 1 →
          (ofColumn mapper column).Fits member.2) ∧
        (ofColumn mapper column).type.HoldsNested (mapper.mapColumn column).arrayDepth member.2)
        table.sourcedColumns members := by
  obtain ⟨values, shapes, rfl⟩ :=
    Target.shape_eq_ok_iff.mp (Outcome.ofExcept_eq_converted_iff.mp shaped)
  have distinct : (values.map (·.1)).Nodup := by
    rw [shapes.names]
    exact Target.nodup_of mapper checked
  refine ⟨Target.membersOf values, Target.toJson_rowOf distinct, Target.convert_rowOf distinct,
    ?_, ?_⟩
  · rw [Target.names_membersOf, shapes.names, Target.of, ofTable, List.map_map, List.map_map]
    rfl
  · rw [Target.membersOf, List.forall₂_map_right_iff]
    refine forall₂_of_mem shapes.typed fun column sourced value _ typed => ?_
    have held := ColumnType.holdsNested_toJson (free column sourced) typed.2
    exact ⟨fun flat => fits_of_holdsNested flat held, held⟩

def surveys : Table :=
  ⟨"surveys", [⟨"id", "int8", .postgreSql, none, none, false⟩,
    ⟨"depths", "float8[]", .postgreSql, none, none, false⟩,
    ⟨"cells", "int8[][]", .postgreSql, none, none, false⟩,
    ⟨"labels", "map<int, text>", .cassandra, none, none, false⟩,
    ⟨"shape", "polygon", .postgreSql, none, none, false⟩], none, []⟩

def surveyRow : Row :=
  Row.ofColumns "surveys" ⟨"depot", .postgreSql⟩
    [("id", .int 7), ("depths", .array [.float .nan, .null]),
      ("cells", .array [.array [.int 1, .null], .null]),
      ("labels", .map [(.int 2, .text "north")]), ("shape", .null)]

theorem describes_targetRow_surveys :
    Table.of surveys.name surveys.columns = .ok surveys ∧
    (∀ column ∈ surveys.sourcedColumns,
      (TypeMapper.builtin.mapColumn column).isDocumentFree = true) ∧
    (Target.of surveys .builtin).stage.convert surveyRow = .converted surveyRow ∧
    ∃ members, surveyRow.toJson = .object members ∧
      rowToDocument.convert surveyRow = .converted (Json.object members).render ∧
      members.map (·.1) = (ofTable surveys .builtin).map (·.name) ∧
      List.Forall₂ (fun column member =>
        ((TypeMapper.builtin.mapColumn column).arrayDepth ≤ 1 →
          (ofColumn .builtin column).Fits member.2) ∧
        (ofColumn .builtin column).type.HoldsNested
          (TypeMapper.builtin.mapColumn column).arrayDepth member.2)
        surveys.sourcedColumns members := by
  have checked : Table.of surveys.name surveys.columns = .ok surveys := by decide
  have free : ∀ column ∈ surveys.sourcedColumns,
      (TypeMapper.builtin.mapColumn column).isDocumentFree = true := by decide +kernel
  have shaped : (Target.of surveys .builtin).stage.convert surveyRow =
      .converted surveyRow := by cbv
  exact ⟨checked, free, shaped, describes_targetRow checked free shaped⟩

def grids : Table :=
  ⟨"grids", [⟨"cells", "int8[][]", .postgreSql, none, none, false⟩], none, []⟩

def gridRow : Row :=
  Row.ofColumns "grids" ⟨"depot", .postgreSql⟩
    [("cells", .array [.array [.int 1, .int 2]])]

/-- An item of an array of arrays is an array, where the field promises an integer. -/
theorem misdescribes_grids :
    Table.of grids.name grids.columns = .ok grids ∧
    (∀ column ∈ grids.sourcedColumns,
      (TypeMapper.builtin.mapColumn column).isDocumentFree = true) ∧
    (Target.of grids .builtin).stage.convert gridRow = .converted gridRow ∧
    ofTable grids .builtin = [⟨"cells", .integer, .repeated⟩] ∧
    ¬ ∃ members, gridRow.toJson = .object members ∧
      rowToDocument.convert gridRow = .converted (Json.object members).render ∧
      members.map (·.1) = (ofTable grids .builtin).map (·.name) ∧
      List.Forall₂ (fun field member => field.Fits member.2) (ofTable grids .builtin) members := by
  have checked : Table.of grids.name grids.columns = .ok grids := by decide
  have free : ∀ column ∈ grids.sourcedColumns,
      (TypeMapper.builtin.mapColumn column).isDocumentFree = true := by decide +kernel
  have shaped : (Target.of grids .builtin).stage.convert gridRow = .converted gridRow := by cbv
  have fields : ofTable grids .builtin = [⟨"cells", .integer, .repeated⟩] := by decide +kernel
  refine ⟨checked, free, shaped, fields, ?_⟩
  rintro ⟨members, document, _, _, fits⟩
  cases document
  rw [fields] at fits
  rcases List.forall₂_cons.mp fits with ⟨isNull | ⟨items, isArray, each⟩, _⟩
  · cases isNull
  · cases isArray
    rcases each _ List.mem_cons_self with isNull | ⟨n, isNumber, _⟩
    · cases isNull
    · cases isNumber

end WarehouseField

end RowConduit
