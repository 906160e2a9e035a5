import RowConduit.Proofs.Calendar.Instant

/-!
# The year of an instant

The text of an instant names its year in UTC.  Texts of instants have years of four digits, but the
years are those of the local clock: the offset can carry an instant into the year before 0 or after
9999, and the text of such an instant carries a sign that no text of an instant starts with.
-/

namespace RowConduit.Calendar

open RowConduit.Text

/-- The year in UTC is written with four digits and no sign. -/
def Timestamp.HasPlainYear (ts : Timestamp) : Prop :=
  0 ≤ ts.utc.date.year ∧ ts.utc.date.year ≤ 9999

instance (ts : Timestamp) : Decidable ts.HasPlainYear :=
  inferInstanceAs (Decidable (_ ∧ _))

theorem yearText_of_neg {year : Int} (before : year < 0) :
    ∃ rest, yearText year = '-' :: rest := by
  rw [yearText, if_pos before]
  exact ⟨_, rfl⟩

theorem yearText_of_large {year : Int} (after : 9999 < year) :
    ∃ rest, yearText year = '+' :: rest := by
  rw [yearText, if_neg (by omega), if_pos after]
  exact ⟨_, rfl⟩

namespace Timestamp

theorem not_hasPlainYear_iff {ts : Timestamp} :
    ¬ ts.HasPlainYear ↔ ts.utc.date.year < 0 ∨ 9999 < ts.utc.date.year := by
  unfold HasPlainYear
  omega

theorem text_of_yearText {ts : Timestamp} {c : Char} {rest : List Char}
    (shape : yearText ts.utc.date.year = c :: rest) : ∃ behind, ts.text = c :: behind := by
  rw [Timestamp.text, DateTime.text, Date.text, shape]
  exact ⟨_, rfl⟩

theorem text_of_neg {ts : Timestamp} (before : ts.utc.date.year < 0) :
    ∃ rest, ts.text = '-' :: rest := by
  obtain ⟨_, shape⟩ := yearText_of_neg before
  exact text_of_yearText shape

theorem text_of_large {ts : Timestamp} (after : 9999 < ts.utc.date.year) :
    ∃ rest, ts.text = '+' :: rest := by
  obtain ⟨_, shape⟩ := yearText_of_large after
  exact text_of_yearText shape

/-- An instant is read back from its text exactly if its year has no sign. -/
theorem read?_text_eq (ts : Timestamp) :
    Timestamp.read? ts.text = if ts.HasPlainYear then some ts else none := by
  split
  · next plain => exact ts.read?_text plain
  · next signed =>
      -- Neither sign is a digit, and the text of an instant starts with one.
      rcases not_hasPlainYear_iff.mp signed with before | after
      · obtain ⟨rest, shape⟩ := text_of_neg before
        rw [shape]
        exact read?_of_no_digit (by decide) _
      · obtain ⟨rest, shape⟩ := text_of_large after
        rw [shape]
        exact read?_of_no_digit (by decide) _

end Timestamp

theorem Date.year_of? {year : Int} {month day : Nat} {d : Date}
    (made : Date.of? year month day = some d) : d.year = year := by
  unfold Date.of? at made
  split at made
  · cases made
    rfl
  · cases made

theorem Date.year_next? {d after : Date} (found : d.next? = some after) :
    after.year = d.year ∨ after.year = d.year + 1 := by
  unfold Date.next? at found
  split at found
  · next same =>
      cases found
      exact Or.inl (Date.year_of? same)
  · split at found
    · next same =>
        cases found
        exact Or.inl (Date.year_of? same)
    · exact Or.inr (Date.year_of? found)

theorem Date.year_previous? {d before : Date} (found : d.previous? = some before) :
    before.year = d.year ∨ before.year = d.year - 1 := by
  unfold Date.previous? at found
  split at found
  · next same =>
      cases found
      exact Or.inl (Date.year_of? same)
  · split at found
    · next same =>
        cases found
        exact Or.inl (Date.year_of? same)
    · exact Or.inr (Date.year_of? found)

theorem Date.year_shiftDay? {d shifted : Date} {days : Int}
    (found : d.shiftDay? days = some shifted) :
    d.year - 1 ≤ shifted.year ∧ shifted.year ≤ d.year + 1 := by
  unfold Date.shiftDay? at found
  split at found
  · have year := Date.year_previous? found
    omega
  · split at found
    · have year := Date.year_next? found
      omega
    · cases found
      omega

theorem DateTime.year_toUtc? {dt utc : DateTime} {offset : Int}
    (found : dt.toUtc? offset = some utc) :
    dt.date.year - 1 ≤ utc.date.year ∧ utc.date.year ≤ dt.date.year + 1 := by
  unfold DateTime.toUtc? at found
  obtain ⟨date, shifted, found⟩ := Option.bind_eq_some_iff.mp found
  obtain ⟨time, _, found⟩ := Option.bind_eq_some_iff.mp found
  cases found
  exact Date.year_shiftDay? shifted

theorem takeExactly?_lt {count n : Nat} {cs rest : List Char}
    (taken : takeExactly? count cs = some (n, rest)) : n < 10 ^ count := by
  unfold takeExactly? at taken
  dsimp only at taken
  split at taken
  · next whole =>
      cases taken
      have small := valueOf_lt (limitDigits count (takeDigits cs)).1
      rw [whole] at small
      exact small
  · cases taken

/-- The text of an instant names a local clock with a year of four digits, and its offset. -/
theorem Timestamp.clock_of_read? {cs : List Char} {ts : Timestamp}
    (accepted : Timestamp.read? cs = some ts) :
    ∃ (clock : DateTime) (offset : Int), (0 ≤ clock.date.year ∧ clock.date.year ≤ 9999) ∧
      clock.toUtc? offset = some ts.utc := by
  unfold Timestamp.read? at accepted
  -- The fields are taken off one after the other; only the year, the date and the offset matter.
  obtain ⟨⟨year, _⟩, yearTaken, accepted⟩ := Option.bind_eq_some_iff.mp accepted
  obtain ⟨_, _, accepted⟩ := Option.bind_eq_some_iff.mp accepted
  obtain ⟨⟨month, _⟩, _, accepted⟩ := Option.bind_eq_some_iff.mp accepted
  obtain ⟨_, _, accepted⟩ := Option.bind_eq_some_iff.mp accepted
  obtain ⟨⟨day, _⟩, _, accepted⟩ := Option.bind_eq_some_iff.mp accepted
  obtain ⟨_, _, accepted⟩ := Option.bind_eq_some_iff.mp accepted
  obtain ⟨⟨hour, _⟩, _, accepted⟩ := Option.bind_eq_some_iff.mp accepted
  obtain ⟨_, _, accepted⟩ := Option.bind_eq_some_iff.mp accepted
  obtain ⟨⟨minute, _⟩, _, accepted⟩ := Option.bind_eq_some_iff.mp accepted
  obtain ⟨_, _, accepted⟩ := Option.bind_eq_some_iff.mp accepted
  obtain ⟨⟨second, _⟩, _, accepted⟩ := Option.bind_eq_some_iff.mp accepted
  obtain ⟨⟨nanos, _⟩, _, accepted⟩ := Option.bind_eq_some_iff.mp accepted
  obtain ⟨⟨offset, rest⟩, _, accepted⟩ := Option.bind_eq_some_iff.mp accepted
  obtain ⟨date, made, accepted⟩ := Option.bind_eq_some_iff.mp accepted
  obtain ⟨time, _, accepted⟩ := Option.bind_eq_some_iff.mp accepted
  obtain ⟨utc, carried, accepted⟩ := Option.bind_eq_some_iff.mp accepted
  have short : year < 10000 := takeExactly?_lt yearTaken
  have named : date.year = year := Date.year_of? made
  split at accepted
  · cases accepted
    exact ⟨⟨date, time⟩, offset, ⟨by dsimp only; omega, by dsimp only; omega⟩, carried⟩
  · cases accepted

/-- The offset of a text carries its instant at most into the year before 0 or after 9999. -/
theorem Timestamp.year_read? {cs : List Char} {ts : Timestamp}
    (accepted : Timestamp.read? cs = some ts) :
    -1 ≤ ts.utc.date.year ∧ ts.utc.date.year ≤ 10000 := by
  obtain ⟨clock, offset, plain, carried⟩ := Timestamp.clock_of_read? accepted
  have near := DateTime.year_toUtc? carried
  omega

end RowConduit.Calendar
