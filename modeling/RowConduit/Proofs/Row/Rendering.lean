import Mathlib.Tactic.Common
import RowConduit.Proofs.Row.Representation

/-!
# Rows as they are rendered

The accessors of a row look for the first field of a name, while the object it is rendered as keeps
the last one, at the place of the first.  So both tell the same exactly if the names are distinct.
-/

namespace RowConduit

open Row

/-- What a target reads for a column is the value that the members have under its name. -/
def Target.ReadsAsWritten (row : Row) (members : Json.Members) (column : String × LogicalType) :
    Prop :=
  match row.get? column.1 with
  | some v =>
      columnValue row column = (coerce column.1 column.2 v).map (fun w => (column.1, w)) ∧
        Json.member? column.1 members = some v.toJson
  | none => columnValue row column = .ok (column.1, .null) ∧ Json.member? column.1 members = none

namespace Row

structure ShownBy (r : Row) (members : Json.Members) : Prop where
  names : members.map (·.1) = r.fieldNames
  size : members.length = r.size
  present : ∀ field, (Json.member? field members).isSome = r.contains field
  value : ∀ field, Json.member? field members = (r.get? field).map SqlValue.toJson
  read : ∀ column, Target.ReadsAsWritten r members column

theorem isSome_lookup? {α : Type} (name : String) (fields : List (String × α)) :
    (lookup? name fields).isSome = fields.any fun field => field.1 == name := by
  rw [lookup?, Option.isSome_map, List.isSome_find?]

theorem member?_eq_lookup? (name : String) (members : Json.Members) :
    Json.member? name members = lookup? name members := rfl

/-- What is rendered under a name is the last value of that name. -/
theorem member?_rendered (name : String) (values : List (String × SqlValue)) :
    Json.member? name (Json.collect (values.map fun field => (field.1, field.2.toJson))) =
      (lookup? name values.reverse).map SqlValue.toJson := by
  rw [Json.member?_collect, ← List.map_reverse, member?_eq_lookup?, lookup?_map]

theorem names_rendered (values : List (String × SqlValue)) :
    (Json.collect (values.map fun field => (field.1, field.2.toJson))).map (·.1) =
      (values.map (·.1)).eraseDups := by
  rw [Json.names_collect, List.map_map]
  rfl

theorem readsAsWritten_iff {r : Row} {members : Json.Members} {column : String × LogicalType} :
    Target.ReadsAsWritten r members column ↔
      Json.member? column.1 members = (r.get? column.1).map SqlValue.toJson := by
  unfold Target.ReadsAsWritten Target.columnValue
  cases r.get? column.1 with
  | none => exact and_iff_right rfl
  | some v => exact and_iff_right rfl

theorem shownBy_of_nodup {values : List (String × SqlValue)} (distinct : (values.map (·.1)).Nodup)
    (table : String) (schema : SchemaReference) :
    (ofColumns table schema values).ShownBy
      (Json.collect (values.map fun field => (field.1, field.2.toJson))) := by
  have names : (values.map fun field => (field.1, field.2.toJson)).map (·.1) =
      values.map (·.1) := by
    rw [List.map_map]
    rfl
  have kept := Json.collect_of_nodup (names ▸ distinct)
  have value (field : String) :
      Json.member? field (values.map fun field => (field.1, field.2.toJson)) =
        ((ofColumns table schema values).get? field).map SqlValue.toJson := by
    rw [member?_eq_lookup?, lookup?_map]
    rfl
  rw [kept]
  refine ⟨names, List.length_map _, ?_, value, fun column => readsAsWritten_iff.mpr (value _)⟩
  intro field
  rw [value, Option.isSome_map]
  exact isSome_lookup? field values

/--
A row is rendered as an object with its names at their first occurrences and the last value of
each, where its accessors give the first.  So the object tells the same as the accessors exactly if
no name is repeated, and a column is read as it is written exactly if its first and last value are
alike in JSON.
-/
theorem shownBy_rendered_iff (table : String) (schema : SchemaReference)
    (values : List (String × SqlValue)) :
    ∃ members, (ofColumns table schema values).toJson = .object members ∧
      rowToDocument.convert (ofColumns table schema values) =
        .converted (Json.object members).render ∧
      ((ofColumns table schema values).ShownBy members ↔ (values.map (·.1)).Nodup) ∧
      members.map (·.1) = (ofColumns table schema values).fieldNames.eraseDups ∧
      ∀ field,
        (Json.member? field members).isSome = (ofColumns table schema values).contains field ∧
        Json.member? field members = (lookup? field values.reverse).map SqlValue.toJson ∧
        (ofColumns table schema values).get? field = lookup? field values ∧
        ∀ type, Target.ReadsAsWritten (ofColumns table schema values) members (field, type) ↔
          (lookup? field values.reverse).map SqlValue.toJson =
            (lookup? field values).map SqlValue.toJson := by
  refine ⟨_, rfl, rfl, ⟨?_, fun distinct => shownBy_of_nodup distinct table schema⟩,
    names_rendered values, ?_⟩
  · intro shown
    have distinct := Json.nodup_collect (values.map fun field => (field.1, field.2.toJson))
    rwa [shown.names] at distinct
  · intro field
    have last := member?_rendered field values
    refine ⟨?_, last, rfl, ?_⟩
    · rw [last, Option.isSome_map, isSome_lookup?, List.any_reverse]
      rfl
    · intro type
      rw [readsAsWritten_iff, last]
      rfl

def rushOrder : List (String × SqlValue) :=
  [("id", .int 7), ("note", .text "rush"), ("meta", .null)]

def rushOrderMembers : Json.Members :=
  [("id", .number (.ofInt 7)), ("note", .string "rush"), ("meta", .null)]

theorem shownBy_rendered_iff_rushOrder :
    (rushOrder.map (·.1)).Nodup ∧
      (ofColumns "orders" ⟨"shop", .googleSql⟩ rushOrder).ShownBy rushOrderMembers := by
  have distinct : (rushOrder.map (·.1)).Nodup := by decide
  obtain ⟨members, rendered, -, shown, -⟩ :=
    shownBy_rendered_iff "orders" ⟨"shop", .googleSql⟩ rushOrder
  have same : members = rushOrderMembers := Json.object.inj (rendered.symm.trans rfl)
  exact ⟨distinct, same ▸ shown.mpr distinct⟩

def twiceNoted : Row :=
  ofColumns "orders" ⟨"shop", .googleSql⟩ [("note", .text "rush"), ("note", .text "late")]

/-- Of a repeated name, the first value is read and the last one is written. -/
theorem rendered_twiceNoted :
    twiceNoted.toJson = .object [("note", .string "late")] ∧
      twiceNoted.get? "note" = some (.text "rush") ∧
      twiceNoted.fieldNames = ["note", "note"] ∧ twiceNoted.size = 2 ∧
      ∀ members, twiceNoted.toJson = .object members →
        members.map (·.1) ≠ twiceNoted.fieldNames ∧ members.length ≠ twiceNoted.size ∧
        Json.member? "note" members ≠ (twiceNoted.get? "note").map SqlValue.toJson := by
  refine ⟨rfl, rfl, rfl, rfl, ?_⟩
  intro members rendered
  cases rendered
  have unlike : some (Json.string "late") ≠ some (.string "rush") := by simp
  exact ⟨by decide, by decide, unlike⟩

end Row

end RowConduit
