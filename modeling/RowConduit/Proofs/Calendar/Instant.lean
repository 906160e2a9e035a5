import RowConduit.Calendar.Timestamp
import RowConduit.Proofs.Calendar.Date

/-!
# Reading a time undoes writing it

Times of day to the nanosecond, leap seconds included, and instants.  A leap second is written as
second 60 and read as second 59 with a fraction of one second or more.
-/

namespace RowConduit.Calendar

open RowConduit.Text

/-- A text that goes on neither with a digit nor with a point. -/
def NumberEnd (rest : List Char) : Prop :=
  DigitsEnd rest ∧ rest.head? ≠ some '.'

theorem numberEnd_nil : NumberEnd [] :=
  ⟨digitsEnd_nil, by decide⟩

theorem digitsEnd_fractionText (nanos : Nat) {rest : List Char} (ended : NumberEnd rest) :
    DigitsEnd (fractionText nanos ++ rest) := by
  have point : digit? '.' = none := by decide
  unfold fractionText
  split
  · exact ended.1
  · split
    · exact digitsEnd_cons _ point
    · split
      · exact digitsEnd_cons _ point
      · exact digitsEnd_cons _ point

theorem takeNanos?_paddedText {width n : Nat} (small : n < 10 ^ width) (wide : 0 < width)
    (most : width ≤ 9) {rest : List Char} (ended : DigitsEnd rest) :
    takeNanos? ('.' :: (paddedText width n ++ rest)) = some (n * 10 ^ (9 - width), rest) := by
  have length := paddedDigits_length small wide
  have short : (paddedDigits width n).length ≤ 9 := by omega
  rw [paddedText_eq, takeNanos?, takeDigits_digitChars _ ended]
  simp [paddedDigits_ne_nil, nanosOfDigits, List.take_of_length_le short, valueOf_paddedDigits,
    length]

/-- A fraction of a second is taken off again, whichever number of digits it was written with. -/
theorem takeNanos?_fractionText {nanos : Nat} (small : nanos < nanosPerSecond)
    {rest : List Char} (ended : NumberEnd rest) :
    takeNanos? (fractionText nanos ++ rest) = some (nanos, rest) := by
  unfold nanosPerSecond at small
  unfold fractionText
  split
  · next zero =>
      subst zero
      cases rest with
      | nil => rfl
      | cons c rest =>
          have other : c ≠ '.' := fun same => ended.2 (by rw [same]; rfl)
          unfold takeNanos?
          split
          · next same => exact absurd (List.cons.inj same).1 other
          · rfl
  · split
    · next thousands =>
        have few : nanos / 1000000 < 10 ^ 3 := by omega
        have value : nanos / 1000000 * 10 ^ (9 - 3) = nanos := by omega
        rw [List.cons_append, takeNanos?_paddedText few (by decide) (by decide) ended.1, value]
    · split
      · next millions =>
          have few : nanos / 1000 < 10 ^ 6 := by omega
          have value : nanos / 1000 * 10 ^ (9 - 6) = nanos := by omega
          rw [List.cons_append, takeNanos?_paddedText few (by decide) (by decide) ended.1, value]
      · rw [List.cons_append, takeNanos?_paddedText small (by decide) (by decide) ended.1,
          Nat.sub_self, Nat.pow_zero, Nat.mul_one]

namespace TimeOfDay

theorem of?_self (t : TimeOfDay) :
    TimeOfDay.of? t.hour t.minute t.second t.nanosecond = some t := by
  rw [TimeOfDay.of?, dif_pos ⟨t.hour_valid, t.minute_valid, t.second_valid, t.nanosecond_valid,
    t.leap_valid⟩]

theorem writtenFraction_lt (t : TimeOfDay) : t.writtenFraction < nanosPerSecond :=
  Nat.mod_lt _ (by decide)

theorem writtenSecond_lt (t : TimeOfDay) : t.writtenSecond < 100 := by
  have second := t.second_valid
  have nanosecond := t.nanosecond_valid
  unfold writtenSecond nanosPerSecond
  unfold nanosPerSecond at nanosecond
  omega

/-- What is written of a time gives the time, in a leap second as at any other. -/
theorem ofWritten?_written (t : TimeOfDay) :
    TimeOfDay.ofWritten? t.hour t.minute t.writtenSecond t.writtenFraction = some t := by
  have fraction := t.writtenFraction_lt
  have nanosecond := t.nanosecond_valid
  have second := t.second_valid
  by_cases leap : nanosPerSecond ≤ t.nanosecond
  · have last := t.leap_valid leap
    have written : t.writtenSecond = 60 := by
      unfold writtenSecond
      unfold nanosPerSecond at leap nanosecond ⊢
      omega
    have whole : nanosPerSecond + t.writtenFraction = t.nanosecond := by
      unfold writtenFraction
      unfold nanosPerSecond at leap nanosecond ⊢
      omega
    rw [ofWritten?, if_pos written, whole, ← last]
    exact t.of?_self
  · have written : t.writtenSecond = t.second := by
      unfold writtenSecond
      unfold nanosPerSecond at leap ⊢
      omega
    have whole : t.writtenFraction = t.nanosecond := by
      unfold writtenFraction
      exact Nat.mod_eq_of_lt (Nat.lt_of_not_le leap)
    rw [ofWritten?, written, if_neg (by omega), if_neg (by omega), whole]
    exact t.of?_self

theorem take?_text (t : TimeOfDay) {rest : List Char} (ended : NumberEnd rest) :
    TimeOfDay.take? (t.text ++ rest) = some (t, rest) := by
  have colon : digit? ':' = none := by decide
  have hourSmall : t.hour < 100 := Nat.lt_trans t.hour_valid (by decide)
  have minuteSmall : t.minute < 100 := Nat.lt_trans t.minute_valid (by decide)
  have shape : t.text ++ rest = paddedText 2 t.hour ++ ':' :: (paddedText 2 t.minute ++
      ':' :: (paddedText 2 t.writtenSecond ++ (fractionText t.writtenFraction ++ rest))) := by
    simp [TimeOfDay.text]
  have hour := takeField?_paddedText hourSmall (digitsEnd_cons (paddedText 2 t.minute ++
    ':' :: (paddedText 2 t.writtenSecond ++ (fractionText t.writtenFraction ++ rest))) colon)
  have minute := takeField?_paddedText minuteSmall (digitsEnd_cons
    (paddedText 2 t.writtenSecond ++ (fractionText t.writtenFraction ++ rest)) colon)
  have second := takeField?_paddedText t.writtenSecond_lt
    (digitsEnd_fractionText t.writtenFraction ended)
  have nanos := takeNanos?_fractionText t.writtenFraction_lt ended
  rw [shape, TimeOfDay.take?]
  refine (bind_of_eq_some hour).trans ?_
  refine (bind_of_eq_some (takeChar?_self ':' _)).trans ?_
  refine (bind_of_eq_some minute).trans ?_
  refine (bind_of_eq_some (takeChar?_self ':' _)).trans ?_
  refine (bind_of_eq_some second).trans ?_
  refine (bind_of_eq_some nanos).trans ?_
  exact bind_of_eq_some t.ofWritten?_written

theorem visible_fractionText (nanos : Nat) : Visible (fractionText nanos) := by
  have point : isBlank '.' = false := by decide
  unfold fractionText
  split
  · exact visible_nil
  · split
    · exact Visible.cons point (visible_paddedText 3 _)
    · split
      · exact Visible.cons point (visible_paddedText 6 _)
      · exact Visible.cons point (visible_paddedText 9 _)

theorem visible_text (t : TimeOfDay) : Visible t.text := by
  have colon : isBlank ':' = false := by decide
  have minute := Visible.cons colon (visible_paddedText 2 t.minute)
  have second := Visible.cons colon (visible_paddedText 2 t.writtenSecond)
  exact (((visible_paddedText 2 t.hour).append minute).append second).append
    (visible_fractionText t.writtenFraction)

end TimeOfDay

theorem DateTime.read?_text (dt : DateTime) : DateTime.read? dt.text = some dt := by
  have letter : digit? 'T' = none := by decide
  have date := dt.date.take?_text (digitsEnd_cons dt.time.text letter)
  have time := dt.time.take?_text numberEnd_nil
  rw [List.append_nil] at time
  have whole : DateTime.readWithT? dt.text = some dt := by
    simp [DateTime.readWithT?, DateTime.text, date, takeChar?_self, DateTime.finish?, time]
  rw [DateTime.read?, whole]

theorem DateTime.visible_text (dt : DateTime) : Visible dt.text :=
  dt.date.visible_text.append (Visible.cons (by decide) dt.time.visible_text)

namespace Timestamp

theorem takeExactly?_paddedText {width n : Nat} (small : n < 10 ^ width) (wide : 0 < width)
    {rest : List Char} (ended : DigitsEnd rest) :
    takeExactly? width (paddedText width n ++ rest) = some (n, rest) := by
  have length := paddedDigits_length small wide
  rw [paddedText_eq, takeExactly?, takeDigits_digitChars _ ended,
    limitDigits_of_le (Nat.le_of_eq length)]
  simp [length, valueOf_paddedDigits]

theorem toUtc?_zero (dt : DateTime) : dt.toUtc? 0 = some dt := by
  have hour := dt.time.hour_valid
  have minute := dt.time.minute_valid
  have sameDay : ((dt.time.hour * 60 + dt.time.minute : Nat) - (0 : Int)) / minutesPerDay = 0 := by
    unfold minutesPerDay
    omega
  have ofDay : (((dt.time.hour * 60 + dt.time.minute : Nat) - (0 : Int)) % minutesPerDay).toNat =
      dt.time.hour * 60 + dt.time.minute := by
    unfold minutesPerDay
    omega
  have hours : (dt.time.hour * 60 + dt.time.minute) / 60 = dt.time.hour := by omega
  have minutes : (dt.time.hour * 60 + dt.time.minute) % 60 = dt.time.minute := by omega
  have date : dt.date.shiftDay? 0 = some dt.date := by
    rw [Date.shiftDay?, if_neg (by decide), if_neg (by decide)]
  simp only [DateTime.toUtc?, sameDay, ofDay, hours, minutes, date, dt.time.of?_self]
  rfl

theorem takeOffset?_zero : takeOffset? ['+', '0', '0', ':', '0', '0'] = some (0, []) := by
  decide

theorem read?_text (ts : Timestamp)
    (usual : 0 ≤ ts.utc.date.year ∧ ts.utc.date.year ≤ 9999) :
    Timestamp.read? ts.text = some ts := by
  have hyphen : digit? '-' = none := by decide
  have letter : digit? 'T' = none := by decide
  have colon : digit? ':' = none := by decide
  have value : ((ts.utc.date.year.natAbs : Nat) : Int) = ts.utc.date.year := by omega
  have yearSmall : ts.utc.date.year.natAbs < 10 ^ 4 := by omega
  have hourSmall : ts.utc.time.hour < 10 ^ 2 := Nat.lt_trans ts.utc.time.hour_valid (by decide)
  have minuteSmall : ts.utc.time.minute < 10 ^ 2 :=
    Nat.lt_trans ts.utc.time.minute_valid (by decide)
  have secondSmall : ts.utc.time.writtenSecond < 10 ^ 2 := ts.utc.time.writtenSecond_lt
  have daySmall : ts.utc.date.day < 10 ^ 2 := ts.utc.date.day_lt
  have monthSmall : ts.utc.date.month < 10 ^ 2 := ts.utc.date.month_lt
  have offsetEnd : NumberEnd ['+', '0', '0', ':', '0', '0'] :=
    ⟨digitsEnd_cons _ (by decide), by decide⟩
  -- The text from each field on, with the step that takes the field off.
  have nanos := takeNanos?_fractionText ts.utc.time.writtenFraction_lt offsetEnd
  have second := takeExactly?_paddedText secondSmall (by decide)
    (digitsEnd_fractionText ts.utc.time.writtenFraction offsetEnd)
  have minute := fun rest => takeExactly?_paddedText minuteSmall (by decide)
    (digitsEnd_cons rest colon)
  have hour := fun rest => takeExactly?_paddedText hourSmall (by decide)
    (digitsEnd_cons rest colon)
  have day := fun rest => takeExactly?_paddedText daySmall (by decide)
    (digitsEnd_cons rest letter)
  have month := fun rest => takeExactly?_paddedText monthSmall (by decide)
    (digitsEnd_cons rest hyphen)
  have year := fun rest => takeExactly?_paddedText yearSmall (by decide)
    (digitsEnd_cons rest hyphen)
  have separator : ∀ rest, takeSeparator? ('T' :: rest) = some rest := by
    intro rest
    simp [takeSeparator?]
  have yearText_eq : yearText ts.utc.date.year = paddedText 4 ts.utc.date.year.natAbs := by
    rw [yearText, if_neg (by omega), if_neg (by omega)]
  have date : Date.of? ((ts.utc.date.year.natAbs : Nat) : Int) ts.utc.date.month
      ts.utc.date.day = some ts.utc.date := by
    rw [value, Date.of?_self]
  simp only [Timestamp.text, DateTime.text, Date.text, TimeOfDay.text, yearText_eq,
    List.append_assoc, List.cons_append]
  rw [Timestamp.read?]
  refine (bind_of_eq_some (year _)).trans ?_
  refine (bind_of_eq_some (takeChar?_self '-' _)).trans ?_
  refine (bind_of_eq_some (month _)).trans ?_
  refine (bind_of_eq_some (takeChar?_self '-' _)).trans ?_
  refine (bind_of_eq_some (day _)).trans ?_
  refine (bind_of_eq_some (separator _)).trans ?_
  refine (bind_of_eq_some (hour _)).trans ?_
  refine (bind_of_eq_some (takeChar?_self ':' _)).trans ?_
  refine (bind_of_eq_some (minute _)).trans ?_
  refine (bind_of_eq_some (takeChar?_self ':' _)).trans ?_
  refine (bind_of_eq_some second).trans ?_
  refine (bind_of_eq_some nanos).trans ?_
  refine (bind_of_eq_some takeOffset?_zero).trans ?_
  refine (bind_of_eq_some date).trans ?_
  refine (bind_of_eq_some ts.utc.time.ofWritten?_written).trans ?_
  exact bind_of_eq_some (toUtc?_zero ts.utc)

theorem read?_of_no_digit {c : Char} (other : digit? c = none) (rest : List Char) :
    Timestamp.read? (c :: rest) = none := by
  rw [Timestamp.read?, takeExactly?, takeDigits_of_digitsEnd (digitsEnd_cons rest other)]
  rfl

theorem visible_text (ts : Timestamp) : Visible ts.text := by
  have offset : Visible ['+', '0', '0', ':', '0', '0'] := visible_of_all (by decide)
  exact ts.utc.visible_text.append offset

end Timestamp

end RowConduit.Calendar
