import RowConduit.Calendar.Date

/-!
# Dates with a time of day

A time of day to the nanosecond on a date.  A leap second is second 59 with a fraction of one second
or more, and is written as second 60.
-/

namespace RowConduit.Calendar

open RowConduit.Text

def nanosPerSecond : Nat :=
  1000000000

/-- A time of day; only second 59 can run on into a leap second. -/
structure TimeOfDay where
  hour : Nat
  minute : Nat
  second : Nat
  nanosecond : Nat
  hour_valid : hour < 24
  minute_valid : minute < 60
  second_valid : second < 60
  nanosecond_valid : nanosecond < 2 * nanosPerSecond
  leap_valid : nanosPerSecond ≤ nanosecond → second = 59
  deriving DecidableEq, Repr

def TimeOfDay.of? (hour minute second nanosecond : Nat) : Option TimeOfDay :=
  if h : hour < 24 ∧ minute < 60 ∧ second < 60 ∧ nanosecond < 2 * nanosPerSecond ∧
      (nanosPerSecond ≤ nanosecond → second = 59) then
    some ⟨hour, minute, second, nanosecond, h.1, h.2.1, h.2.2.1, h.2.2.2.1, h.2.2.2.2⟩
  else
    none

def TimeOfDay.ofWritten? (hour minute second fraction : Nat) : Option TimeOfDay :=
  if second = 60 then TimeOfDay.of? hour minute 59 (nanosPerSecond + fraction)
  else if nanosPerSecond ≤ fraction then none
  else TimeOfDay.of? hour minute second fraction

/-- The second as written: 60 in a leap second. -/
def TimeOfDay.writtenSecond (t : TimeOfDay) : Nat :=
  t.second + t.nanosecond / nanosPerSecond

def TimeOfDay.writtenFraction (t : TimeOfDay) : Nat :=
  t.nanosecond % nanosPerSecond

/-- The point and digits of a fraction: none, three, six or nine, the fewest that are exact. -/
def fractionText (nanos : Nat) : List Char :=
  if nanos = 0 then []
  else if nanos % 1000000 = 0 then '.' :: paddedText 3 (nanos / 1000000)
  else if nanos % 1000 = 0 then '.' :: paddedText 6 (nanos / 1000)
  else '.' :: paddedText 9 nanos

def TimeOfDay.text (t : TimeOfDay) : List Char :=
  paddedText 2 t.hour ++ ':' :: paddedText 2 t.minute ++ ':' :: paddedText 2 t.writtenSecond ++
    fractionText t.writtenFraction

structure DateTime where
  date : Date
  time : TimeOfDay
  deriving DecidableEq, Repr

def DateTime.text (dt : DateTime) : List Char :=
  dt.date.text ++ 'T' :: dt.time.text

/-- Nanoseconds of the digits after a point; digits past the ninth are dropped. -/
def nanosOfDigits (ds : List Digit) : Nat :=
  valueOf (ds.take 9) * 10 ^ (9 - ds.length)

/-- Take a fraction of a second off a text; a point needs a digit. -/
def takeNanos? : List Char → Option (Nat × List Char)
  | '.' :: rest =>
      let taken := takeDigits rest
      if taken.1.isEmpty then none else some (nanosOfDigits taken.1, taken.2)
  | cs => some (0, cs)

/-- Take a time of day off a text: numbers of one or two digits, with or without blanks before. -/
def TimeOfDay.take? (cs : List Char) : Option (TimeOfDay × List Char) := do
  let (hour, rest) ← takeField? cs
  let rest ← takeChar? ':' rest
  let (minute, rest) ← takeField? rest
  let rest ← takeChar? ':' rest
  let (second, rest) ← takeField? rest
  let (nanos, rest) ← takeNanos? rest
  let time ← TimeOfDay.ofWritten? hour minute second nanos
  return (time, rest)

def DateTime.finish? (date : Date) (cs : List Char) : Option DateTime := do
  let (time, rest) ← TimeOfDay.take? cs
  if rest.isEmpty then some ⟨date, time⟩ else none

def DateTime.readWithT? (cs : List Char) : Option DateTime := do
  let (date, rest) ← Date.take? cs
  let rest ← takeChar? 'T' rest
  DateTime.finish? date rest

def DateTime.readWithBlank? (cs : List Char) : Option DateTime := do
  let (date, rest) ← Date.take? cs
  DateTime.finish? date (trimStart rest)

def DateTime.read? (cs : List Char) : Option DateTime :=
  match DateTime.readWithT? cs with
  | some dt => some dt
  | none => DateTime.readWithBlank? cs

end RowConduit.Calendar
