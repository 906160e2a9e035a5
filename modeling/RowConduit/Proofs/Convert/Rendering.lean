import Mathlib
import RowConduit.Proofs.Calendar.UtcYear
import RowConduit.Proofs.Convert.Recovery

/-!
# Instants rendered and read again

An instant is rendered with the offset of UTC, so the text that is read again names its year in UTC,
whatever year the first text named.
-/

namespace RowConduit

open RowConduit.Text RowConduit.Calendar Coercion

theorem toJson_timestamp (ts : Timestamp) :
    (SqlValue.timestamp ts).toJson = .string (String.ofList ts.text) := by
  rw [SqlValue.toJson, SqlValue.jsonString]

theorem coerce_timestampText (field : String) (ts : Timestamp) :
    coerce field .timestamp (.ofJson (SqlValue.timestamp ts).toJson) =
      if ts.HasPlainYear then .ok (.timestamp ts) else unreadable field .timestamp .calendar := by
  rw [toJson_timestamp]
  change toTimestamp field (.text (String.ofList ts.text)) = _
  rw [toTimestamp, String.toList_ofList, trim_of_visible ts.visible_text, ts.read?_text_eq]
  by_cases plain : ts.HasPlainYear
  · rw [if_pos plain, if_pos plain]
  · rw [if_neg plain, if_neg plain]

theorem timestamp_of_text {field s : String} {w : SqlValue}
    (accepted : coerce field .timestamp (.text s) = .ok w) :
    ∃ ts, Timestamp.read? (trim s.toList) = some ts ∧ w = .timestamp ts := by
  have read : toTimestamp field (.text s) = .ok w := accepted
  unfold toTimestamp unreadable at read
  dsimp only at read
  split at read
  · next ts found =>
      cases read
      exact ⟨ts, found, rfl⟩
  · cases read

/--
An instant read from a text is rendered to a text that gives the same instant again exactly if its
year in UTC is one of 0 to 9999.  Otherwise the offset has carried it into the year before or after
these; what is rendered starts with the sign of that year and is refused.
-/
theorem timestamp_survives {field s : String} {w : SqlValue}
    (accepted : coerce field .timestamp (.text s) = .ok w) :
    ∃ ts : Timestamp, w = .timestamp ts ∧
      coerce field .timestamp (.ofJson w.toJson) =
        (if ts.HasPlainYear then .ok w else unreadable field .timestamp .calendar) ∧
      (¬ ts.HasPlainYear →
        (ts.utc.date.year = -1 ∧ ∃ rest, w.toJson = .string (String.ofList ('-' :: rest))) ∨
        (ts.utc.date.year = 10000 ∧ ∃ rest, w.toJson = .string (String.ofList ('+' :: rest)))) := by
  obtain ⟨ts, found, rfl⟩ := timestamp_of_text accepted
  refine ⟨ts, rfl, coerce_timestampText field ts, ?_⟩
  intro signed
  obtain ⟨lowest, highest⟩ := Timestamp.year_read? found
  rw [toJson_timestamp]
  rcases Timestamp.not_hasPlainYear_iff.mp signed with before | after
  · obtain ⟨rest, shape⟩ := Timestamp.text_of_neg before
    exact Or.inl ⟨by omega, rest, by rw [shape]⟩
  · obtain ⟨rest, shape⟩ := Timestamp.text_of_large after
    exact Or.inr ⟨by omega, rest, by rw [shape]⟩

def leapSecond : SqlValue :=
  .text "2017-01-01T01:29:60.5+01:30"

def leapSecondInstant : Timestamp :=
  ⟨⟨⟨2016, 12, 31, by decide, by decide, by decide⟩,
    ⟨23, 59, 59, 1500000000, by decide, by decide, by decide, by decide, by decide⟩⟩⟩

theorem timestamp_survives_leapSecond :
    coerce "at" .timestamp leapSecond = .ok (.timestamp leapSecondInstant) ∧
      (SqlValue.timestamp leapSecondInstant).toJson = .string "2016-12-31T23:59:60.500+00:00" ∧
      leapSecondInstant.HasPlainYear ∧
      coerce "at" .timestamp (.ofJson (SqlValue.timestamp leapSecondInstant).toJson) =
        .ok (.timestamp leapSecondInstant) := by
  have accepted : coerce "at" .timestamp leapSecond = .ok (.timestamp leapSecondInstant) := by
    rfl
  have plain : leapSecondInstant.HasPlainYear := by decide
  obtain ⟨ts, same, again, _⟩ := timestamp_survives accepted
  cases same
  rw [if_pos plain] at again
  exact ⟨accepted, by cbv, plain, again⟩

/-- The start of year 0 on a clock one minute ahead of UTC. -/
def yearZero : SqlValue :=
  .text "0000-01-01T00:00:00+00:01"

def yearZeroInstant : Timestamp :=
  ⟨⟨⟨-1, 12, 31, by decide, by decide, by decide⟩,
    ⟨23, 59, 0, 0, by decide, by decide, by decide, by decide, by decide⟩⟩⟩

/-- The start of year 0 on such a clock lies in the year before, whose text is refused. -/
theorem timestamp_lost_yearZero :
    coerce "at" .timestamp yearZero = .ok (.timestamp yearZeroInstant) ∧
      (SqlValue.timestamp yearZeroInstant).toJson = .string "-0001-12-31T23:59:00+00:00" ∧
      coerce "at" .timestamp (.ofJson (SqlValue.timestamp yearZeroInstant).toJson) =
        unreadable "at" .timestamp .calendar := by
  refine ⟨by rfl, by cbv, ?_⟩
  rw [coerce_timestampText, if_neg (by decide)]

end RowConduit
