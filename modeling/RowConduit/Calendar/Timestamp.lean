import RowConduit.Calendar.DateTime

/-!
# Instants

An instant is kept as its date and time of day in UTC.  Its text names the UTC offset; a text with
another offset is read as the instant it denotes.
-/

namespace RowConduit.Calendar

open RowConduit.Text

structure Timestamp where
  utc : DateTime
  deriving DecidableEq, Repr

def Timestamp.text (ts : Timestamp) : List Char :=
  ts.utc.text ++ ['+', '0', '0', ':', '0', '0']

def minutesPerDay : Int :=
  1440

def Date.shiftDay? (d : Date) (days : Int) : Option Date :=
  if days < 0 then d.previous? else if 0 < days then d.next? else some d

/--
The date and time in UTC of a local date and time, the local clock being ahead by `offset` minutes.
The second and its fraction stay as they are.
-/
def DateTime.toUtc? (dt : DateTime) (offset : Int) : Option DateTime := do
  let minutes : Int := (dt.time.hour * 60 + dt.time.minute : Nat) - offset
  let date ← dt.date.shiftDay? (minutes / minutesPerDay)
  let ofDay := (minutes % minutesPerDay).toNat
  let time ← TimeOfDay.of? (ofDay / 60) (ofDay % 60) dt.time.second dt.time.nanosecond
  return ⟨date, time⟩

def takeExactly? (count : Nat) (cs : List Char) : Option (Nat × List Char) :=
  let taken := limitDigits count (takeDigits cs)
  if taken.1.length = count then some (valueOf taken.1, taken.2) else none

/-- Take the separator of date and time off a text: either case of T, or a space. -/
def takeSeparator? : List Char → Option (List Char)
  | [] => none
  | c :: rest => if c = 'T' || c = 't' || c = ' ' then some rest else none

def takeOffsetMinutes? (cs : List Char) : Option (Nat × List Char) := do
  let (hours, rest) ← takeExactly? 2 cs
  let rest ← takeChar? ':' rest
  let (minutes, rest) ← takeExactly? 2 rest
  if minutes < 60 && hours < 24 then some (hours * 60 + minutes, rest) else none

/-- Take an offset in minutes off a text; the minus sign may be the typographic one. -/
def takeOffset? : List Char → Option (Int × List Char)
  | [] => none
  | c :: rest =>
      if c = 'Z' || c = 'z' then some (0, rest)
      else if c = '+' then
        (takeOffsetMinutes? rest).map fun taken => ((taken.1 : Int), taken.2)
      else if c = '-' || c = '−' then
        (takeOffsetMinutes? rest).map fun taken => (-(taken.1 : Int), taken.2)
      else none

/-- Read an instant: date and time with every digit written, and an offset. -/
def Timestamp.read? (cs : List Char) : Option Timestamp := do
  let (year, rest) ← takeExactly? 4 cs
  let rest ← takeChar? '-' rest
  let (month, rest) ← takeExactly? 2 rest
  let rest ← takeChar? '-' rest
  let (day, rest) ← takeExactly? 2 rest
  let rest ← takeSeparator? rest
  let (hour, rest) ← takeExactly? 2 rest
  let rest ← takeChar? ':' rest
  let (minute, rest) ← takeExactly? 2 rest
  let rest ← takeChar? ':' rest
  let (second, rest) ← takeExactly? 2 rest
  let (nanos, rest) ← takeNanos? rest
  let (offset, rest) ← takeOffset? rest
  let date ← Date.of? year month day
  let time ← TimeOfDay.ofWritten? hour minute second nanos
  let utc ← DateTime.toUtc? ⟨date, time⟩ offset
  if rest.isEmpty then some ⟨utc⟩ else none

end RowConduit.Calendar
