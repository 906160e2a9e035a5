import RowConduit.Proofs.Convert.TargetRow

/-!
# Coercing again changes nothing

A coercion leaves exactly the values of its type as they are.  What a coercion gives is such a
value, whatever branch it came from, so a second coercion gives it again; and a row in the shape of
a target is shaped to itself, field by field.
-/

namespace RowConduit

open SqlValue Coercion

variable {field : String} {type : LogicalType} {w : SqlValue}

theorem coerce_of_hasType (field : String) (typed : w.HasType type) :
    coerce field type w = .ok w := by
  induction type generalizing w with
  | numericString =>
      cases w with
      | null => rfl
      | text s => exact toNumericString_numeral field typed
      | _ => exact False.elim typed
  | array element ih =>
      cases w with
      | null => rfl
      | array items =>
          rw [coerce, Except.bind_eq_ok_iff]
          refine ⟨items, Except.mapM_eq_ok_iff.mpr (List.forall₂_same.mpr ?_), rfl⟩
          exact fun item member => ih (typed item member)
      | _ => exact False.elim typed
  | map key value keyIh valueIh =>
      cases w with
      | null => rfl
      | map entries =>
          rw [coerce, Except.bind_eq_ok_iff]
          refine ⟨entries, Except.mapM_eq_ok_iff.mpr (List.forall₂_same.mpr ?_), rfl⟩
          intro entry member
          obtain ⟨keyTyped, valueTyped⟩ := typed entry member
          exact Except.pair_eq_ok_iff.mpr ⟨keyIh keyTyped, valueIh valueTyped⟩
      | _ => exact False.elim typed
  | _ => cases w <;> first | rfl | exact False.elim typed

/-- The values that a coercion leaves as they are are those of its type. -/
theorem coerce_eq_self_iff : coerce field type w = .ok w ↔ w.HasType type :=
  ⟨coerce_hasType, coerce_of_hasType field⟩

namespace Target

variable {target : Target} {row : Row} {values : List (String × SqlValue)}

theorem Shapes.again (shapes : target.Shapes row values)
    (distinct : (values.map (·.1)).Nodup) : target.Shapes (target.rowOf row values) values := by
  refine forall₂_of_mem shapes fun column _ value listed step => ?_
  obtain ⟨named, typed⟩ := columnValue_eq_ok step
  have found : (target.rowOf row values).get? value.1 = some value.2 :=
    get?_of_columns rfl distinct listed
  rw [named] at found
  rw [columnValue_of_get? found, coerce_of_hasType column.1 typed, ← named]
  rfl

theorem shape_of_shape {w : Row} (distinct : (target.columns.map (·.1)).Nodup)
    (shaped : target.shape row = .ok w) : target.shape w = .ok w := by
  obtain ⟨values, shapes, rfl⟩ := shape_eq_ok_iff.mp shaped
  have names : (values.map (·.1)).Nodup := by
    rw [shapes.names]
    exact distinct
  exact shape_eq_ok_iff.mpr ⟨values, shapes.again names, rfl⟩

end Target

/--
A coerced value is coerced to itself, at every depth and whatever field it is for; a target row is
shaped to itself, with its fields, table, schema, stream position and diagnostics.
-/
theorem coerce_idempotent :
    (∀ (field other : String) (type : LogicalType) (v w : SqlValue),
      coerce field type v = .ok w → coerce other type w = .ok w) ∧
    (∀ (table bare : Table) (mapper : TypeMapper) (row w : Row),
      Table.of table.name table.columns = .ok bare →
      (Target.of table mapper).stage.convert row = .converted w →
        (Target.of table mapper).stage.convert w = .converted w) := by
  constructor
  · intro field other type v w coerced
    exact coerce_of_hasType other (coerce_hasType coerced)
  · intro table bare mapper row w checked shaped
    have again := Target.shape_of_shape (Target.nodup_of mapper checked)
      (Outcome.ofExcept_eq_converted_iff.mp shaped)
    exact Outcome.ofExcept_eq_converted_iff.mpr again

/-- An object becomes a map with bare numerals as keys, numbers become truth values, and stay so. -/
theorem coerce_idempotent_parcels :
    let type := LogicalType.map .numericString (.array .bool)
    let one : Json.Number := ⟨false, .positive 0 [], [], none⟩
    let v := SqlValue.json (.object [(" 1.50", .array [.number one, .null]), ("-7e3", .null)])
    let w := SqlValue.map [(.text "1.50", .array [.bool true, .null]), (.text "-7e3", .null)]
    coerce "labels" type v = .ok w ∧ coerce "notes" type w = .ok w ∧
      Table.of parcels.name parcels.columns = .ok parcels ∧
      (Target.of parcels .builtin).stage.convert parcelRow = .converted parcelTargetRow ∧
      (Target.of parcels .builtin).stage.convert parcelTargetRow = .converted parcelTargetRow := by
  intro type one v w
  have coerced : coerce "labels" type v = .ok w := by cbv
  have checked : Table.of parcels.name parcels.columns = .ok parcels := by decide
  have shaped : (Target.of parcels .builtin).stage.convert parcelRow =
      .converted parcelTargetRow := by cbv
  exact ⟨coerced, coerce_idempotent.1 "labels" "notes" type v w coerced, checked, shaped,
    coerce_idempotent.2 parcels parcels .builtin _ _ checked shaped⟩

end RowConduit
