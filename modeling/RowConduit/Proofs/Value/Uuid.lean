import RowConduit.Proofs.Text.Trim
import RowConduit.Value.Uuid

/-!
# Reading a UUID undoes writing it

The grouped form in lower case is read as a grouped form: the hyphens keep it from being plain
digits.
-/

namespace RowConduit

open RowConduit.Text

theorem hexDigits?_map_hexChar (ds : List HexDigit) : hexDigits? (ds.map hexChar) = some ds := by
  induction ds with
  | nil => rfl
  | cons d ds ih => simp [hexDigits?, hexDigit?_hexChar, ih]

theorem hexDigits?_eq_none {cs : List Char} {c : Char} (member : c ∈ cs)
    (other : hexDigit? c = none) : hexDigits? cs = none := by
  induction cs with
  | nil => cases member
  | cons first rest ih =>
      rcases List.mem_cons.mp member with rfl | inRest
      · simp [hexDigits?, other]
      · simp [hexDigits?, ih inRest]

theorem isBlank_hexChar (d : HexDigit) : isBlank (hexChar d) = false := by
  revert d
  decide

namespace Uuid

theorem cut_joined {p q r s t : List Char} (first : p.length = 8) (second : q.length = 4)
    (third : r.length = 4) (fourth : s.length = 4) :
    let joined := p ++ '-' :: q ++ '-' :: r ++ '-' :: s ++ '-' :: t
    joined.take 8 ++ (joined.drop 9).take 4 ++ (joined.drop 14).take 4 ++
      (joined.drop 19).take 4 ++ joined.drop 24 = p ++ q ++ r ++ s ++ t := by
  simp (disch := omega) [List.drop_append, first, second, third, fourth,
    List.drop_eq_nil_of_le]

theorem ungroup?_group {cs : List Char} (long : cs.length = 32) :
    ungroup? (group cs) = some cs := by
  have grouped : (group cs).length = 36 := by
    simp only [group, List.length_append, List.length_cons, List.length_take, List.length_drop,
      long]
    decide
  have whole : cs.take 8 ++ (cs.drop 8).take 4 ++ (cs.drop 12).take 4 ++ (cs.drop 16).take 4 ++
      cs.drop 20 = cs := by
    simp only [← List.take_add, List.take_append_drop]
  have bare : (group cs).take 8 ++ ((group cs).drop 9).take 4 ++ ((group cs).drop 14).take 4 ++
      ((group cs).drop 19).take 4 ++ (group cs).drop 24 = cs := by
    have first : (cs.take 8).length = 8 := by simp [long]
    have second : ((cs.drop 8).take 4).length = 4 := by simp [long]
    have third : ((cs.drop 12).take 4).length = 4 := by simp [long]
    have fourth : ((cs.drop 16).take 4).length = 4 := by simp [long]
    exact (cut_joined first second third fourth).trans whole
  simp only [ungroup?, grouped, bare]
  simp

theorem visible_text (u : Uuid) : Visible u.text := by
  have digits : ∀ c ∈ u.digits.map hexChar, isBlank c = false := by
    intro c member
    obtain ⟨d, _, rfl⟩ := List.mem_map.mp member
    exact isBlank_hexChar d
  have part : ∀ cs, cs ⊆ u.digits.map hexChar → Visible cs :=
    fun cs within c member => digits c (within member)
  have hyphen : isBlank '-' = false := by decide
  rw [text, group]
  refine Visible.append (Visible.append (Visible.append (Visible.append ?_ ?_) ?_) ?_) ?_
  · exact part _ (List.take_subset _ _)
  all_goals
    refine Visible.cons hyphen (part _ ?_)
  · exact fun c member => List.mem_of_mem_drop (List.mem_of_mem_take member)
  · exact fun c member => List.mem_of_mem_drop (List.mem_of_mem_take member)
  · exact fun c member => List.mem_of_mem_drop (List.mem_of_mem_take member)
  · exact fun c member => List.mem_of_mem_drop member

theorem read?_text (u : Uuid) : read? u.text = some u := by
  have long : (u.digits.map hexChar).length = 32 := by rw [List.length_map, u.length_eq]
  have plain : readPlain? u.text = none := by
    have hyphen : '-' ∈ u.text := by
      rw [text, group]
      simp
    rw [readPlain?, hexDigits?_eq_none hyphen (by decide)]
    rfl
  have grouped : readGrouped? u.text = some u := by
    rw [readGrouped?, text, ungroup?_group long, Option.bind_some, readPlain?,
      hexDigits?_map_hexChar, Option.bind_some, ofDigits?, dif_pos u.length_eq]
  rw [read?, plain, grouped]
  rfl

end Uuid

end RowConduit
