import RowConduit.Number.Literal

/-!
# Exact decimals

A decimal of at most 96 bits with up to 28 places.  The number of places is part of the value, so
`1.50` and `1.5` differ; zero has no sign.
-/

namespace RowConduit.Number

open RowConduit.Text

/-- An integer coefficient and the number of its digits that stand after the point. -/
structure Decimal where
  coefficient : Int
  places : Fin 29
  bounded : coefficient.natAbs < 2 ^ 96
  deriving DecidableEq, Repr

/-- Digits with the last `places` of them after the point, and at least one before it. -/
def placedText (places magnitude : Nat) : List Char :=
  let digits := paddedText (places + 1) magnitude
  if places = 0 then digits
  else digits.take (digits.length - places) ++ '.' :: digits.drop (digits.length - places)

def Decimal.text (d : Decimal) : List Char :=
  let magnitude := placedText d.places.val d.coefficient.natAbs
  if d.coefficient < 0 then '-' :: magnitude else magnitude

/--
Add digits after the point to a magnitude with some places.  The first digit for which there is no
room rounds, a half away from zero, and ends the reading; a magnitude that outgrows its bits by that
gives up a place.
-/
def addPlaces? (magnitude places : Nat) : List Digit → Option (Nat × Nat)
  | [] => some (magnitude, places)
  | d :: rest =>
      let longer := 10 * magnitude + d.val
      if places < 28 && longer < 2 ^ 96 then addPlaces? longer (places + 1) rest
      else if d.val < 5 then some (magnitude, places)
      else if magnitude + 1 < 2 ^ 96 then some (magnitude + 1, places)
      else if places = 0 then none
      else some ((magnitude + 5) / 10, places - 1)

/-- The text without the underscores that stand behind its first digit. -/
def dropSeparators (cs : List Char) : List Char :=
  let start := cs.takeWhile fun c => !c.isDigit
  start ++ (cs.drop start.length).filter (· != '_')

/--
Read a decimal without a power of ten; its whole part must fit, its places are rounded, and
underscores may separate its digits.
-/
def Decimal.read? (cs : List Char) : Option Decimal :=
  match DecimalLiteral.read? (dropSeparators cs) with
  | none => none
  | some l =>
      match addPlaces? (valueOf l.whole) 0 l.fraction with
      | none => none
      | some (magnitude, places) =>
          let coefficient : Int := if l.negative then -(magnitude : Int) else magnitude
          if h : places < 29 ∧ coefficient.natAbs < 2 ^ 96 ∧ l.exponent = 0 then
            some ⟨coefficient, ⟨places, h.1⟩, h.2.1⟩
          else
            none

end RowConduit.Number
