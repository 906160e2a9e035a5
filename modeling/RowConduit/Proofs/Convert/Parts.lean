import RowConduit.Proofs.Convert.RoundTrip
import RowConduit.Proofs.Json.Place

/-!
# Parts of coerced values

A value that is made from a document has its parts where the document has them, and every part is
made from the part of the document at the same place, by coercion to the type that stands that many
levels down.
-/

namespace RowConduit

open SqlValue

/-- The part of a value at a position; the parts of a map are the values of its entries. -/
def SqlValue.part? (i : Nat) : SqlValue → Option SqlValue
  | .array items => items[i]?
  | .map entries => entries[i]?.map (·.2)
  | _ => none

def SqlValue.at? : List Nat → SqlValue → Option SqlValue
  | [], v => some v
  | i :: place, v => (v.part? i).bind (SqlValue.at? place)

def LogicalType.part? : LogicalType → Option LogicalType
  | .array element => some element
  | .map _ value => some value
  | _ => none

def LogicalType.below? : Nat → LogicalType → Option LogicalType
  | 0, type => some type
  | depth + 1, type => type.part?.bind (LogicalType.below? depth)

section Parts

variable {field : String}

theorem coerce_part {type element : LogicalType} {j inner : Json} {w : SqlValue} {i : Nat}
    (coerced : coerce field type (ofJson j) = .ok w) (parts : type.part? = some element)
    (found : j.part? i = some inner) :
    ∃ part, w.part? i = some part ∧ coerce field element (ofJson inner) = .ok part := by
  cases type with
  | array =>
      cases parts
      cases j with
      | array items =>
          rw [ofJson, itemsOfJson_eq_map] at coerced
          cases coerced_of_eq_ok coerced with
          | scalar flat => cases flat
          | items each => exact exists_of_getElem? (List.forall₂_map_left_iff.mp each) found
      | object members => cases coerced
      | _ => cases found
  | map key =>
      cases parts
      cases j with
      | array items => cases coerced
      | object members =>
          rw [ofJson] at coerced
          obtain ⟨member, listed, rfl⟩ := Option.map_eq_some_iff.mp found
          cases coerced_of_eq_ok coerced with
          | scalar flat => cases flat
          | members each =>
              obtain ⟨entry, stored, _, value⟩ := exists_of_getElem? each listed
              refine ⟨entry.2, ?_, value⟩
              rw [SqlValue.part?, stored, Option.map_some]
      | _ => cases found
  | _ => cases parts

/-- What is coerced has the parts at every place coerced to the type they have there. -/
theorem coerce_at {place : List Nat} {type inner : LogicalType} {j part : Json} {w : SqlValue}
    (coerced : coerce field type (ofJson j) = .ok w) (below : type.below? place.length = some inner)
    (found : j.at? place = some part) :
    ∃ v, w.at? place = some v ∧ coerce field inner (ofJson part) = .ok v := by
  induction place generalizing type j w with
  | nil =>
      cases below
      cases found
      exact ⟨w, rfl, coerced⟩
  | cons i place ih =>
      obtain ⟨element, parts, deeper⟩ := Option.bind_eq_some_iff.mp below
      obtain ⟨next, first, rest⟩ := Json.at?_cons_eq_some.mp found
      obtain ⟨u, stored, taken⟩ := coerce_part coerced parts first
      obtain ⟨v, held, inside⟩ := ih taken deeper rest
      refine ⟨v, ?_, inside⟩
      rw [SqlValue.at?, stored, Option.bind_some, held]

end Parts

/-- A sourced column of a row that was a document holds what became of the member of its name. -/
theorem Target.exists_coerced_of_document {table bare : Table} {mapper : TypeMapper} {row w : Row}
    {members : Json.Members} (checked : Table.of table.name table.columns = .ok bare)
    (payload : row.payload = .document members) (distinct : (members.map (·.1)).Nodup)
    (shaped : (Target.of table mapper).stage.convert row = .converted w) {column : Column}
    (sourced : column ∈ table.sourcedColumns) {member : String × Json} (listed : member ∈ members)
    (named : member.1 = column.name) :
    ∃ v, w.get? column.name = some v ∧
      coerce column.name (mapper.mapColumn column) (ofJson member.2) = .ok v := by
  obtain ⟨values, shapes, rfl⟩ :=
    Target.shape_eq_ok_iff.mp (Outcome.ofExcept_eq_converted_iff.mp shaped)
  obtain ⟨field, ofValues, step⟩ := exists_of_mem_left shapes (Target.mem_columns_of sourced rfl)
  have asked : row.get? column.name = some (ofJson member.2) := by
    rw [← named]
    exact Target.get?_of_document payload distinct listed
  rw [Target.columnValue_of_get? asked] at step
  obtain ⟨v, coerced, rfl⟩ := Except.map_eq_ok_iff.mp step
  exact ⟨v, Target.get?_of_columns rfl (shapes.names ▸ Target.nodup_of mapper checked) ofValues,
    coerced⟩

end RowConduit
