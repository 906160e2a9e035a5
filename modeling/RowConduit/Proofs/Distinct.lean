import Mathlib.Data.List.Nodup

/-!
# Lists without repetitions

Names added one after the other, each unless it is there already, make the list of the names at
their first occurrences.
-/

namespace RowConduit

/-- The names with one more at the end, unless it is listed. -/
def addFresh (names : List String) (name : String) : List String :=
  if name ∈ names then names else names ++ [name]

theorem nodup_addFresh {names : List String} (distinct : names.Nodup) (name : String) :
    (addFresh names name).Nodup := by
  unfold addFresh
  split
  · exact distinct
  · next fresh =>
    have apart : names.Disjoint [name] := by simpa using fresh
    exact distinct.append (List.nodup_singleton name) apart

/-- Names are appended in order at their first occurrences, those listed before left out. -/
theorem foldl_addFresh (names listed : List String) :
    names.foldl addFresh listed =
      listed ++ (names.filter fun name => name ∉ listed).eraseDups := by
  induction names generalizing listed with
  | nil => simp
  | cons name rest ih =>
      rw [List.foldl_cons, ih]
      by_cases known : name ∈ listed
      · simp [addFresh, known]
      · have unlisted : (rest.filter fun other => other ∉ listed ++ [name]) =
            (rest.filter fun other => other ∉ listed).filter fun other => !other == name := by
          rw [List.filter_filter]
          refine List.filter_congr fun other _ => ?_
          by_cases same : other = name <;> simp [same]
        rw [addFresh, if_neg known, unlisted, List.filter_cons_of_pos (by simpa using known),
          List.eraseDups_cons, List.append_assoc, List.singleton_append]

theorem foldl_addFresh_nil (names : List String) : names.foldl addFresh [] = names.eraseDups := by
  simp [foldl_addFresh]

theorem eraseDups_eq_self {names : List String} (distinct : names.Nodup) :
    names.eraseDups = names := by
  induction names with
  | nil => rfl
  | cons name rest ih =>
      obtain ⟨fresh, others⟩ := List.nodup_cons.mp distinct
      have kept : rest.filter (fun other => !other == name) = rest := by
        refine List.filter_eq_self.mpr fun other listed => ?_
        have different : other ≠ name := fun same => fresh (same ▸ listed)
        simpa using different
      rw [List.eraseDups_cons, kept, ih others]

end RowConduit
