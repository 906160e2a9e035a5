import RowConduit.Number.Integer
import RowConduit.Text.Blank

/-!
# Dates

Days of the proleptic Gregorian calendar with a signed year, their text `year-month-day`, and the
reading of such a text.
-/

namespace RowConduit.Calendar

open RowConduit.Text

/-- A leap year: divisible by four, but of the full centuries only those divisible by 400. -/
def isLeapYear (year : Int) : Bool :=
  year % 4 == 0 && (year % 100 != 0 || year % 400 == 0)

def daysInMonth (year : Int) (month : Nat) : Nat :=
  if month = 2 then
    if isLeapYear year then 29 else 28
  else if month = 4 || month = 6 || month = 9 || month = 11 then 30
  else 31

def minYear : Int :=
  -262143

def maxYear : Int :=
  262142

structure Date where
  year : Int
  month : Nat
  day : Nat
  year_valid : minYear ≤ year ∧ year ≤ maxYear
  month_valid : 1 ≤ month ∧ month ≤ 12
  day_valid : 1 ≤ day ∧ day ≤ daysInMonth year month
  deriving DecidableEq, Repr

def Date.of? (year : Int) (month day : Nat) : Option Date :=
  if h : (minYear ≤ year ∧ year ≤ maxYear) ∧ (1 ≤ month ∧ month ≤ 12) ∧
      (1 ≤ day ∧ day ≤ daysInMonth year month) then
    some ⟨year, month, day, h.1, h.2.1, h.2.2⟩
  else
    none

def Date.next? (d : Date) : Option Date :=
  match Date.of? d.year d.month (d.day + 1) with
  | some found => some found
  | none =>
      match Date.of? d.year (d.month + 1) 1 with
      | some found => some found
      | none => Date.of? (d.year + 1) 1 1

def Date.previous? (d : Date) : Option Date :=
  match Date.of? d.year d.month (d.day - 1) with
  | some found => some found
  | none =>
      match Date.of? d.year (d.month - 1) (daysInMonth d.year (d.month - 1)) with
      | some found => some found
      | none => Date.of? (d.year - 1) 12 31

/-- Four digits at least; years outside 0 to 9999 carry a sign. -/
def yearText (year : Int) : List Char :=
  if year < 0 then '-' :: paddedText 4 year.natAbs
  else if 9999 < year then '+' :: paddedText 4 year.natAbs
  else paddedText 4 year.natAbs

def Date.text (d : Date) : List Char :=
  yearText d.year ++ '-' :: paddedText 2 d.month ++ '-' :: paddedText 2 d.day

def takeChar? (expected : Char) : List Char → Option (List Char)
  | [] => none
  | c :: rest => if c = expected then some rest else none

/-- Split digits after the first `most` of them; those beyond go back to the text. -/
def limitDigits (most : Nat) (taken : List Digit × List Char) : List Digit × List Char :=
  (taken.1.take most, digitChars (taken.1.drop most) ++ taken.2)

def takeNumber? (most : Nat) (cs : List Char) : Option (Nat × List Char) :=
  let taken := limitDigits most (takeDigits cs)
  if taken.1.isEmpty then none else some (valueOf taken.1, taken.2)

def takeLongNumber? (cs : List Char) : Option (Nat × List Char) :=
  let taken := takeDigits cs
  if taken.1.isEmpty then none else some (valueOf taken.1, taken.2)

/-- Take a year off a text, blanks before it allowed: four digits at most, or a sign and digits. -/
def takeYear? (cs : List Char) : Option (Int × List Char) :=
  match trimStart cs with
  | '-' :: rest => (takeLongNumber? rest).map fun taken => (-(taken.1 : Int), taken.2)
  | '+' :: rest => (takeLongNumber? rest).map fun taken => ((taken.1 : Int), taken.2)
  | rest => (takeNumber? 4 rest).map fun taken => ((taken.1 : Int), taken.2)

/-- Take a number of at most two digits off a text, blanks before it allowed. -/
def takeField? (cs : List Char) : Option (Nat × List Char) :=
  takeNumber? 2 (trimStart cs)

def Date.take? (cs : List Char) : Option (Date × List Char) := do
  let (year, rest) ← takeYear? cs
  let rest ← takeChar? '-' rest
  let (month, rest) ← takeField? rest
  let rest ← takeChar? '-' rest
  let (day, rest) ← takeField? rest
  let date ← Date.of? year month day
  return (date, rest)

def Date.read? (cs : List Char) : Option Date := do
  let (date, rest) ← Date.take? cs
  if rest.isEmpty then some date else none

end RowConduit.Calendar
