import RowConduit.Proofs.Reading.Account

/-!
# Cells by name and by position

A result row gives its cells by name, or by position next to a list of column names.  The second
form is the first one with each name at its cell: names without a cell and cells without a name
belong to no pair, and in both forms the first of equal names counts.  Where the names differ, a
name has one cell at most, so the order of the pairs makes no difference.
-/

namespace RowConduit

theorem namedCell?_cons (pair : String × Cell) (cells : List (String × Cell)) (name : String) :
    namedCell? (pair :: cells) name =
      if pair.1 = name then some pair.2 else namedCell? cells name := by
  rw [namedCell?, namedCell?]
  by_cases same : pair.1 = name
  · rw [if_pos same, List.find?_cons_of_pos (by simpa using same), Option.map_some]
  · rw [if_neg same, List.find?_cons_of_neg (by simpa using same)]

theorem positionalCell?_eq_namedCell? (columns : List String) (cells : List Cell) (name : String) :
    positionalCell? columns cells name = namedCell? (columns.zip cells) name := by
  induction columns generalizing cells with
  | nil => rfl
  | cons first names ih =>
      cases cells with
      | nil =>
          -- a position that the name may have is behind the end of the cells
          rw [positionalCell?]
          cases (first :: names).findIdx? (· == name) <;> rfl
      | cons cell cells =>
          rw [positionalCell?_cons, List.zip_cons_cons, namedCell?_cons, ih]

theorem positionalReader_eq_namedReader (columns : List String) (cells : List Cell) :
    positionalReader columns cells = namedReader (columns.zip cells) := by
  funext name
  rw [positionalReader, namedReader, positionalCell?_eq_namedCell?]

section Distinct

variable {cells others : List (String × Cell)} (distinct : (cells.map (·.1)).Nodup)
include distinct

/-- Among pairs with distinct names every pair is found under its name. -/
theorem namedCell?_eq_some_iff {name : String} {cell : Cell} :
    namedCell? cells name = some cell ↔ (name, cell) ∈ cells := by
  constructor
  · intro found
    obtain ⟨pair, first, rfl⟩ := Option.map_eq_some_iff.mp found
    have same : pair.1 = name := by simpa using List.find?_some first
    rw [← same]
    exact List.mem_of_find?_eq_some first
  · intro listed
    exact Row.lookup?_of_mem distinct listed

theorem namedReader_of_perm (moved : cells.Perm others) :
    namedReader others = namedReader cells := by
  have otherDistinct : (others.map (·.1)).Nodup := (moved.map (·.1)).nodup_iff.mp distinct
  have same (name : String) : namedCell? others name = namedCell? cells name := by
    apply Option.ext
    intro cell
    rw [namedCell?_eq_some_iff otherDistinct, namedCell?_eq_some_iff distinct, moved.mem_iff]
  funext name
  rw [namedReader, namedReader, same]

end Distinct

/--
A row addressed by position is mapped as the row of its pairs of names and cells, whichever list is
the longer one and whichever names repeat.  If the names differ and there is a cell for each, names
and cells may change places together.
-/
theorem RowMapper.mapRow_positional (m : RowMapper) (columns : List String) (cells : List Cell) :
    m.mapRow (positionalReader columns cells) = m.mapRow (namedReader (columns.zip cells)) ∧
    ∀ others moved, columns.Nodup → columns.length = cells.length →
      others.length = moved.length → (columns.zip cells).Perm (others.zip moved) →
        m.mapRow (positionalReader others moved) = m.mapRow (positionalReader columns cells) := by
  constructor
  · rw [positionalReader_eq_namedReader]
  · intro others moved distinct paired _ rearranged
    have names : ((columns.zip cells).map (·.1)).Nodup := by
      rw [List.map_fst_zip (Nat.le_of_eq paired)]
      exact distinct
    rw [positionalReader_eq_namedReader, positionalReader_eq_namedReader,
      namedReader_of_perm names rearranged]

/-- A result row with a cell that cannot be decoded, and its columns in another order. -/
theorem RowMapper.mapRow_positional_players :
    let m : RowMapper := ⟨⟨"league", .cassandra⟩, playersTable, TypeMapper.builtin⟩
    let id := Cell.value (.text "ada-1")
    let name := Cell.unreadable "invalid utf-8"
    let scores := Cell.value (.array [.int 7])
    m.mapRow (positionalReader ["scores", "id", "name"] [scores, id, name]) =
        m.mapRow (positionalReader ["id", "name", "scores"] [id, name, scores]) ∧
      m.mapRow (positionalReader ["id", "name", "id", "scores"] [id, name]) =
        m.mapRow (namedReader [("id", id), ("name", name)]) := by
  intro m id name scores
  have rotated : (["id", "name", "scores"].zip [id, name, scores]).Perm
      (["scores", "id", "name"].zip [scores, id, name]) :=
    (List.perm_append_comm : ([("id", id), ("name", name)] ++ [("scores", scores)]).Perm _)
  obtain ⟨_, rearranged⟩ := mapRow_positional m ["id", "name", "scores"] [id, name, scores]
  obtain ⟨shortened, _⟩ := mapRow_positional m ["id", "name", "id", "scores"] [id, name]
  exact ⟨rearranged _ _ (by decide) rfl rfl rotated, shortened⟩

end RowConduit
