import RowConduit.Proofs.Fallible
import RowConduit.Query.Plan

/-!
# The read of one table

When the read of a table can be planned: exactly if the names of its sourced columns and its own
name are identifiers.  The query is then put together from these identifiers and the types of the
columns.
-/

namespace RowConduit

theorem Identifier.of_eq_ok_iff {name : String} {id : Identifier} :
    Identifier.of name = .ok id ↔ id.name = name := by
  constructor
  · intro checked
    unfold Identifier.of at checked
    split at checked
    · cases checked
      rfl
    · simp at checked
  · rintro rfl
    exact Identifier.of_name id

theorem Identifier.of_succeeds_iff {name : String} :
    (∃ id, Identifier.of name = .ok id) ↔ Identifier.fault? name = none := by
  constructor
  · rintro ⟨id, checked⟩
    rw [← Identifier.of_eq_ok_iff.mp checked]
    exact id.faultless
  · intro faultless
    exact ⟨⟨name, faultless⟩, Identifier.of_name ⟨name, faultless⟩⟩

theorem Dialect.columnFragments_eq_ok_iff {d : Dialect} {column : String} {type : LogicalType}
    {fragments : List Fragment} :
    d.columnFragments column type = .ok fragments ↔
      ∃ id : Identifier, id.name = column ∧ d.projection id type = fragments := by
  simp only [Dialect.columnFragments, Except.map_eq_ok_iff, Identifier.of_eq_ok_iff]

theorem Dialect.columnFragments_succeeds_iff {d : Dialect} {column : String}
    {type : LogicalType} :
    (∃ fragments, d.columnFragments column type = .ok fragments) ↔
      Identifier.fault? column = none := by
  rw [← Identifier.of_succeeds_iff]
  constructor
  · rintro ⟨fragments, projected⟩
    obtain ⟨id, named, _⟩ := Dialect.columnFragments_eq_ok_iff.mp projected
    exact ⟨id, Identifier.of_eq_ok_iff.mpr named⟩
  · rintro ⟨id, checked⟩
    exact ⟨d.projection id type,
      Dialect.columnFragments_eq_ok_iff.mpr ⟨id, Identifier.of_eq_ok_iff.mp checked, rfl⟩⟩

namespace Planner

variable {p : Planner} {table : Table} {read : TableRead}

/-- The projections of the sourced columns, in declaration order. -/
def Projected (p : Planner) (table : Table) (projections : List (List Fragment)) : Prop :=
  List.Forall₂ (fun column fragments => ∃ id : Identifier, id.name = column.name ∧
    p.dialect.projection id (p.mapper.mapColumn column) = fragments)
    table.sourcedColumns projections

theorem planTable_eq_ok_iff :
    p.planTable table = .ok read ↔
      ∃ projections id, p.Projected table projections ∧ id.name = table.name ∧
        read = ⟨table.name, p.dialect.write (queryFragments id projections),
          RowConduit.maxPartitions⟩ := by
  simp only [planTable, Except.bind_eq_ok_iff, Except.mapM_eq_ok_iff,
    Dialect.columnFragments_eq_ok_iff, Identifier.of_eq_ok_iff, Projected]
  constructor
  · rintro ⟨projections, projected, id, named, result⟩
    cases result
    exact ⟨projections, id, projected, named, rfl⟩
  · rintro ⟨projections, id, projected, named, rfl⟩
    exact ⟨projections, projected, id, named, rfl⟩

theorem planTable_table (planned : p.planTable table = .ok read) : read.table = table.name := by
  obtain ⟨projections, id, _, _, rfl⟩ := planTable_eq_ok_iff.mp planned
  rfl

/-- A read can be planned exactly if every name that goes into the query is an identifier. -/
theorem planTable_succeeds_iff :
    (∃ read, p.planTable table = .ok read) ↔
      (∀ column ∈ table.sourcedColumns, Identifier.fault? column.name = none) ∧
        Identifier.fault? table.name = none := by
  have parts : (∃ read, p.planTable table = .ok read) ↔
      (∃ projections, (table.sourcedColumns.mapM fun column =>
        p.dialect.columnFragments column.name (p.mapper.mapColumn column)) = .ok projections) ∧
      ∃ id, Identifier.of table.name = .ok id := by
    simp only [planTable, Except.bind_eq_ok_iff]
    constructor
    · rintro ⟨read, projections, projected, id, checked, _⟩
      exact ⟨⟨projections, projected⟩, id, checked⟩
    · rintro ⟨⟨projections, projected⟩, id, checked⟩
      exact ⟨_, projections, projected, id, checked, rfl⟩
  rw [parts, Except.exists_mapM_eq_ok_iff, Identifier.of_succeeds_iff]
  simp only [Dialect.columnFragments_succeeds_iff]

end Planner

end RowConduit
