import RowConduit.Calendar.Date
import RowConduit.Proofs.Fallible
import RowConduit.Proofs.Text.Digits
import RowConduit.Proofs.Text.Trim

/-!
# Reading a date undoes writing it

Numbers of a fixed width are taken off a text again, and so is a year of any size: one outside 0 to
9999 carries its sign.
-/

namespace RowConduit.Calendar

open RowConduit.Text

theorem visible_paddedText (width n : Nat) : Visible (paddedText width n) := by
  intro c member
  rw [paddedText_eq, digitChars] at member
  obtain ⟨d, _, rfl⟩ := List.mem_map.mp member
  exact isBlank_digitChar d

theorem paddedText_head (width n : Nat) : ∃ d rest, paddedText width n = digitChar d :: rest := by
  rw [paddedText_eq]
  cases digits : paddedDigits width n with
  | nil => exact absurd digits (paddedDigits_ne_nil width n)
  | cons d rest => exact ⟨d, digitChars rest, rfl⟩

theorem trimStart_paddedText (width n : Nat) (rest : List Char) :
    trimStart (paddedText width n ++ rest) = paddedText width n ++ rest := by
  obtain ⟨d, others, shape⟩ := paddedText_head width n
  rw [shape, List.cons_append]
  exact trimStart_cons_of_not_blank _ (isBlank_digitChar d)

theorem limitDigits_of_le {most : Nat} {ds : List Digit} (short : ds.length ≤ most)
    (rest : List Char) : limitDigits most (ds, rest) = (ds, rest) := by
  simp [limitDigits, List.take_of_length_le short, List.drop_eq_nil_of_le short, digitChars]

theorem takeChar?_self (c : Char) (rest : List Char) : takeChar? c (c :: rest) = some rest := by
  simp [takeChar?]

theorem takeNumber?_paddedText {width n : Nat} (small : n < 10 ^ width) (wide : 0 < width)
    {rest : List Char} (ended : DigitsEnd rest) :
    takeNumber? width (paddedText width n ++ rest) = some (n, rest) := by
  have length := paddedDigits_length small wide
  rw [paddedText_eq, takeNumber?, takeDigits_digitChars _ ended,
    limitDigits_of_le (Nat.le_of_eq length)]
  simp [paddedDigits_ne_nil, valueOf_paddedDigits]

theorem takeLongNumber?_paddedText (width n : Nat) {rest : List Char} (ended : DigitsEnd rest) :
    takeLongNumber? (paddedText width n ++ rest) = some (n, rest) := by
  rw [paddedText_eq, takeLongNumber?, takeDigits_digitChars _ ended]
  simp [paddedDigits_ne_nil, valueOf_paddedDigits]

/-- A month, day, hour, minute or second is taken off again. -/
theorem takeField?_paddedText {n : Nat} (small : n < 100) {rest : List Char}
    (ended : DigitsEnd rest) : takeField? (paddedText 2 n ++ rest) = some (n, rest) := by
  rw [takeField?, trimStart_paddedText]
  exact takeNumber?_paddedText small (by decide) ended

theorem takeYear?_yearText (year : Int) {rest : List Char} (ended : DigitsEnd rest) :
    takeYear? (yearText year ++ rest) = some (year, rest) := by
  unfold yearText
  split
  · next negative =>
      have start : trimStart ('-' :: (paddedText 4 year.natAbs ++ rest)) =
          '-' :: (paddedText 4 year.natAbs ++ rest) :=
        trimStart_cons_of_not_blank _ (by decide)
      have value : -((year.natAbs : Nat) : Int) = year := by omega
      rw [List.cons_append, takeYear?, start]
      simp only [takeLongNumber?_paddedText _ _ ended, Option.map_some, value]
  · next nonnegative =>
      have value : ((year.natAbs : Nat) : Int) = year := by omega
      split
      · have start : trimStart ('+' :: (paddedText 4 year.natAbs ++ rest)) =
            '+' :: (paddedText 4 year.natAbs ++ rest) :=
          trimStart_cons_of_not_blank _ (by decide)
        rw [List.cons_append, takeYear?, start]
        simp only [takeLongNumber?_paddedText _ _ ended, Option.map_some, value]
      · next usual =>
          have small : year.natAbs < 10 ^ 4 := by omega
          have taken := takeNumber?_paddedText small (by decide) ended
          obtain ⟨d, others, shape⟩ := paddedText_head 4 year.natAbs
          have minus : digitChar d ≠ '-' := digitChar_ne (by decide) d
          have plus : digitChar d ≠ '+' := digitChar_ne (by decide) d
          rw [takeYear?, trimStart_paddedText]
          rw [shape, List.cons_append] at taken ⊢
          split
          · next same => exact absurd (List.cons.inj same).1 minus
          · next same => exact absurd (List.cons.inj same).1 plus
          · rw [taken, Option.map_some, value]

theorem Date.of?_self (d : Date) : Date.of? d.year d.month d.day = some d := by
  rw [Date.of?, dif_pos ⟨d.year_valid, d.month_valid, d.day_valid⟩]

theorem daysInMonth_le (year : Int) (month : Nat) : daysInMonth year month ≤ 31 := by
  unfold daysInMonth
  split
  · split <;> omega
  · split <;> omega

theorem Date.day_lt (d : Date) : d.day < 100 := by
  have most := daysInMonth_le d.year d.month
  have within := d.day_valid.2
  omega

theorem Date.month_lt (d : Date) : d.month < 100 := by
  have within := d.month_valid.2
  omega

theorem Date.take?_text (d : Date) {rest : List Char} (ended : DigitsEnd rest) :
    Date.take? (d.text ++ rest) = some (d, rest) := by
  have hyphen : digit? '-' = none := by decide
  have shape : d.text ++ rest = yearText d.year ++ '-' :: (paddedText 2 d.month ++
      '-' :: (paddedText 2 d.day ++ rest)) := by
    simp [Date.text]
  have year := takeYear?_yearText d.year (digitsEnd_cons (paddedText 2 d.month ++
    '-' :: (paddedText 2 d.day ++ rest)) hyphen)
  have month := takeField?_paddedText d.month_lt
    (digitsEnd_cons (paddedText 2 d.day ++ rest) hyphen)
  have day := takeField?_paddedText d.day_lt ended
  rw [shape, Date.take?]
  refine (bind_of_eq_some year).trans ?_
  refine (bind_of_eq_some (takeChar?_self '-' _)).trans ?_
  refine (bind_of_eq_some month).trans ?_
  refine (bind_of_eq_some (takeChar?_self '-' _)).trans ?_
  refine (bind_of_eq_some day).trans ?_
  exact bind_of_eq_some d.of?_self

theorem Date.read?_text (d : Date) : Date.read? d.text = some d := by
  have taken := d.take?_text digitsEnd_nil
  rw [List.append_nil] at taken
  simp [Date.read?, taken]

theorem visible_yearText (year : Int) : Visible (yearText year) := by
  have digits := visible_paddedText 4 year.natAbs
  unfold yearText
  split
  · exact Visible.cons (by decide) digits
  · split
    · exact Visible.cons (by decide) digits
    · exact digits

theorem Date.visible_text (d : Date) : Visible d.text := by
  have hyphen : isBlank '-' = false := by decide
  have month := Visible.cons hyphen (visible_paddedText 2 d.month)
  have day := Visible.cons hyphen (visible_paddedText 2 d.day)
  exact ((visible_yearText d.year).append month).append day

end RowConduit.Calendar
