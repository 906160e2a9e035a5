import RowConduit.Warehouse.Destination

/-!
# Destinations are told apart by their texts

The text of a destination is read from its end: the table follows the last point, the data set the
last colon before that, and the project is the rest.  Points and colons of the project do no harm,
because the two resolved names have none: whatever a template resolves to, its table name has no
point and its data set name has letters, digits and underscores only.
-/

namespace RowConduit

open RowConduit.Text

theorem tableNameChar_ne (c : Char) : tableNameChar c ≠ '$' ∧ tableNameChar c ≠ '.' := by
  unfold tableNameChar
  split
  · decide
  · next kept => simpa [not_or] using kept

theorem datasetNameChar_plain (c : Char) :
    (datasetNameChar c).isAlphanum ∨ datasetNameChar c = '_' := by
  unfold datasetNameChar
  split
  · next kept => simpa using kept
  · exact Or.inr rfl

namespace Destination

/--
The data set name has ASCII letters, digits and underscores only, and the table name neither dollar
signs nor points.
-/
structure Sanitized (d : Destination) : Prop where
  dataset : ∀ c ∈ d.dataset.toList, c.isAlphanum ∨ c = '_'
  table : ∀ c ∈ d.table.toList, c ≠ '$' ∧ c ≠ '.'

/-- The destination of a text: cut at the last point, and in front of it at the last colon. -/
def ofDisplay? (s : String) : Option Destination :=
  match cutAt? (· = '.') s.toList.reverse with
  | none => none
  | some (table, front) =>
      match cutAt? (· = ':') front with
      | none => none
      | some (dataset, project) =>
          some ⟨String.ofList project.reverse, String.ofList dataset.reverse,
            String.ofList table.reverse⟩

theorem Sanitized.colonFree {d : Destination} (sanitized : d.Sanitized) :
    ':' ∉ d.dataset.toList := by
  intro listed
  rcases sanitized.dataset ':' listed with letter | underscore
  · exact absurd letter (by decide)
  · exact absurd underscore (by decide)

theorem display_reverse (d : Destination) :
    d.display.toList.reverse = d.table.toList.reverse ++
      '.' :: (d.dataset.toList.reverse ++ ':' :: d.project.toList.reverse) := by
  simp [display, tableSpec]

theorem Sanitized.pointFree {d : Destination} (sanitized : d.Sanitized) :
    '.' ∉ d.table.toList :=
  fun listed => (sanitized.table '.' listed).2 rfl

/-- A destination is read back from its text, whatever its project is. -/
theorem ofDisplay?_display {d : Destination} (sanitized : d.Sanitized) :
    ofDisplay? d.display = some d := by
  have pointFree : '.' ∉ d.table.toList.reverse := by
    rw [List.mem_reverse]
    exact sanitized.pointFree
  have colonFree : ':' ∉ d.dataset.toList.reverse := by
    rw [List.mem_reverse]
    exact sanitized.colonFree
  have point := cutAt?_mark_eq_some_iff.mpr ⟨pointFree, d.display_reverse⟩
  have colon := cutAt?_mark_eq_some_iff.mpr
    ⟨colonFree, Eq.refl (d.dataset.toList.reverse ++ ':' :: d.project.toList.reverse)⟩
  rw [ofDisplay?, point]
  dsimp only
  rw [colon]
  simp

example : ofDisplay? "org:lab.eu:shop.parts:a" = some ⟨"org:lab.eu", "shop", "parts:a"⟩ := by
  decide

end Destination

namespace OutputTable

theorem sanitized_destination (output : OutputTable) (row : Row) :
    (output.destination row).Sanitized where
  dataset := by
    intro c listed
    simp only [destination, Row.formatDatasetName, String.toList_ofList, List.mem_map] at listed
    obtain ⟨d, _, rfl⟩ := listed
    exact datasetNameChar_plain d
  table := by
    intro c listed
    simp only [destination, Row.formatTableName, String.toList_ofList, List.mem_map] at listed
    obtain ⟨d, _, rfl⟩ := listed
    exact tableNameChar_ne d

/--
Two destinations with one text are one destination, whatever the outputs and the rows; the names in
it are sanitized.
-/
theorem destination_unambiguous (output other : OutputTable) (row another : Row) :
    ((output.destination row).display = (other.destination another).display ↔
        output.destination row = other.destination another) ∧
      (output.destination row).Sanitized := by
  refine ⟨⟨fun same => ?_, fun same => by rw [same]⟩, output.sanitized_destination row⟩
  have first := Destination.ofDisplay?_display (output.sanitized_destination row)
  have second := Destination.ofDisplay?_display (other.sanitized_destination another)
  rw [same, second] at first
  exact (Option.some.inj first).symm

end OutputTable

end RowConduit
