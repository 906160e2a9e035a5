import RowConduit.Proofs.Convert.TargetRow

/-!
# Coercion is sound

A coerced value has its type and is NULL for two reasons only, at every depth: the value was NULL,
or its type cannot be mapped.  The parts of an array or a map are the coercions of the parts of the
value, each at its own place.  A row in the shape of a target therefore has the columns of the
target in order, each with a value of its type.
-/

namespace RowConduit

open SqlValue

/--
What a value becomes in a type: NULL comes of NULL or of a type that cannot be mapped, an array of
the coercions of the items of an array, and a map of those of the entries of a map or of the members
of an object, each in order.  What becomes of the parts is bound in the same way.
-/
def SqlValue.Becomes (field : String) : LogicalType → SqlValue → SqlValue → Prop
  | .unsupported, _, w => w = .null
  | .array element, v, w =>
      (w = .null ↔ v = .null) ∧
      (v ≠ .null → ∃ items results, v = .array items ∧ w = .array results ∧
        List.Forall₂ (fun item result => coerce field element item = .ok result ∧
          Becomes field element item result) items results)
  | .map key value, v, w =>
      (w = .null ↔ v = .null) ∧
      (v ≠ .null →
        (∃ entries results, v = .map entries ∧ w = .map results ∧
          List.Forall₂ (fun entry result =>
            (coerce field key entry.1 = .ok result.1 ∧ Becomes field key entry.1 result.1) ∧
            (coerce field value entry.2 = .ok result.2 ∧ Becomes field value entry.2 result.2))
            entries results) ∨
        (∃ members results, v = .json (.object members) ∧ w = .map results ∧
          List.Forall₂ (fun member result =>
            (coerce field key (.text member.1) = .ok result.1 ∧
              Becomes field key (.text member.1) result.1) ∧
            (coerce field value (.ofJson member.2) = .ok result.2 ∧
              Becomes field value (.ofJson member.2) result.2)) members results))
  | _, v, w => w = .null ↔ v = .null

theorem SqlValue.becomes_null (field : String) (type : LogicalType) :
    SqlValue.null.Becomes field type .null := by
  cases type <;> simp [Becomes]

theorem SqlValue.becomes_of_isScalar {field : String} {type : LogicalType} {v w : SqlValue}
    (flat : type.isScalar = true) (present : v ≠ .null) (found : w ≠ .null) :
    v.Becomes field type w := by
  have kept : w = .null ↔ v = .null := iff_of_false found present
  cases type with
  | array element => cases flat
  | map key value => cases flat
  | unsupported => cases flat
  | _ => exact kept

theorem Coerced.null_iff {field : String} {type : LogicalType} {v w : SqlValue}
    (coerced : Coerced field type v w) : w = .null ↔ v = .null ∨ type = .unsupported := by
  cases coerced with
  | null => exact iff_of_true rfl (Or.inl rfl)
  | unsupported => exact iff_of_true rfl (Or.inr rfl)
  | scalar flat present found typed =>
      have supported : type ≠ .unsupported := by
        rintro rfl
        cases flat
      simp [present, found, supported]
  | items each => simp
  | entries each => simp
  | members each => simp

/-- A coercion that succeeds invents no NULL and coerces part by part, at every depth. -/
theorem coerce_becomes {field : String} {type : LogicalType} {v w : SqlValue}
    (coerced : coerce field type v = .ok w) : v.Becomes field type w := by
  cases coerced_of_eq_ok coerced with
  | null => exact becomes_null field type
  | unsupported => rfl
  | scalar flat present found typed => exact becomes_of_isScalar flat present found
  | @items element items results each =>
      refine ⟨by simp, fun _ => ⟨items, results, rfl, rfl, ?_⟩⟩
      exact each.imp fun item result step => ⟨step, coerce_becomes step⟩
  | @entries key value entries results each =>
      refine ⟨by simp, fun _ => Or.inl ⟨entries, results, rfl, rfl, ?_⟩⟩
      exact each.imp fun entry result step =>
        ⟨⟨step.1, coerce_becomes step.1⟩, step.2, coerce_becomes step.2⟩
  | @members key value members results each =>
      refine ⟨by simp, fun _ => Or.inr ⟨members, results, rfl, rfl, ?_⟩⟩
      exact each.imp fun member result step =>
        ⟨⟨step.1, coerce_becomes step.1⟩, step.2, coerce_becomes step.2⟩
termination_by type

/-- The fields of a shaped row are those of the sourced columns of its table, each of its type. -/
theorem Target.Shapes.typed {table : Table} {mapper : TypeMapper} {row : Row}
    {values : List (String × SqlValue)} (shapes : (Target.of table mapper).Shapes row values) :
    List.Forall₂ (fun column field =>
      field.1 = column.name ∧ field.2.HasType (mapper.mapColumn column))
      table.sourcedColumns values := by
  rw [Shapes, Target.of, List.forall₂_map_left_iff] at shapes
  exact shapes.imp fun column field shaped => columnValue_eq_ok shaped

/--
A coercion that succeeds gives a value of its type that is NULL only where the value was or the type
cannot be mapped, at every depth; the parts of arrays and maps are the coercions of the parts of the
value, each at its own place.  A target row has exactly the sourced columns of its table, in order
and each with a value of its type.
-/
theorem coerce_sound :
    (∀ (field : String) (type : LogicalType) (v w : SqlValue), coerce field type v = .ok w →
      w.HasType type ∧ (w = .null ↔ v = .null ∨ type = .unsupported) ∧ v.Becomes field type w) ∧
    (∀ (table : Table) (mapper : TypeMapper) (row w : Row),
      (Target.of table mapper).stage.convert row = .converted w →
        ∃ values, w.payload = .columns values ∧
          List.Forall₂ (fun column field =>
            field.1 = column.name ∧ field.2.HasType (mapper.mapColumn column))
            table.sourcedColumns values) := by
  constructor
  · intro field type v w coerced
    exact ⟨coerce_hasType coerced, (coerced_of_eq_ok coerced).null_iff, coerce_becomes coerced⟩
  · intro table mapper row w shaped
    obtain ⟨values, shapes, rfl⟩ :=
      Target.shape_eq_ok_iff.mp (Outcome.ofExcept_eq_converted_iff.mp shaped)
    exact ⟨values, rfl, shapes.typed⟩

/-- The members of an object become the entries of a map, with NULL where a type is unsupported. -/
theorem coerce_sound_parcels :
    let type := LogicalType.map .numericString (.array .unsupported)
    let v := SqlValue.json (.object [("1.50", .array [.string "a", .null]), (" -7e3", .null)])
    let w := SqlValue.map [(.text "1.50", .array [.null, .null]), (.text "-7e3", .null)]
    coerce "labels" type v = .ok w ∧ w.HasType type ∧ v.Becomes "labels" type w ∧
      (Target.of parcels .builtin).stage.convert parcelRow = .converted parcelTargetRow ∧
      ∃ values, parcelTargetRow.payload = .columns values ∧
        List.Forall₂ (fun column field =>
          field.1 = column.name ∧ field.2.HasType (TypeMapper.builtin.mapColumn column))
          parcels.sourcedColumns values := by
  intro type v w
  have coerced : coerce "labels" type v = .ok w := by cbv
  have shaped : (Target.of parcels .builtin).stage.convert parcelRow =
      .converted parcelTargetRow := by cbv
  obtain ⟨typed, _, becomes⟩ := coerce_sound.1 "labels" type v w coerced
  exact ⟨coerced, typed, becomes, shaped, coerce_sound.2 parcels .builtin _ _ shaped⟩

end RowConduit
