import RowConduit.Number.Binary64

/-!
# Shortest decimals

The decimal with the fewest digits that still reads back as a given double-precision number.  All
reals between the two midpoints around the number round to it, the midpoints included when its
significand is even.  For one digit, two digits and so on, the two decimals of that many digits on
either side of the number are tried; the first length with a hit wins, and of two hits the nearer.
-/

namespace RowConduit.Number

open RowConduit.Text

/-- Which of two equally near decimals is taken. -/
inductive TieRule where
  | toEven
  | upward
  deriving DecidableEq, Repr

structure ScaledDecimal where
  coefficient : Nat
  exponent : Int
  deriving DecidableEq, Repr

/-- The reals that round to one number, as numerators over a common denominator. -/
structure RoundingInterval where
  low : Nat
  center : Nat
  high : Nat
  denominator : Nat
  closed : Bool
  deriving Repr

/--
The interval of a positive finite number.  Below a power of two the numbers lie twice as close, so
the lower midpoint is nearer there.
-/
def Binary64.interval (exponent : Fin 2047) (fraction : Fin (2 ^ 52)) : RoundingInterval :=
  let m := significand exponent fraction
  let shift := power exponent - 2
  let scale := 2 ^ shift.toNat
  let below := if fraction.val = 0 && 1 < exponent.val then 4 * m - 1 else 4 * m - 2
  { low := below * scale
    center := 4 * m * scale
    high := (4 * m + 2) * scale
    denominator := 2 ^ (-shift).toNat
    closed := m % 2 == 0 }

def leadingPower (numerator denominator : Nat) : Int :=
  if denominator ≤ numerator then
    ((digitsOf (numerator / denominator)).length : Int) - 1
  else
    let inverse := (denominator + numerator - 1) / numerator
    (-(digitsOf (inverse - 1)).length : Int)

/-- The decimal `coefficient * 10 ^ grid` lies in the interval. -/
def RoundingInterval.holds (i : RoundingInterval) (grid : Int) (coefficient : Nat) : Bool :=
  let point := coefficient * 10 ^ grid.toNat * i.denominator
  let unit := 10 ^ (-grid).toNat
  if i.closed then i.low * unit ≤ point && point ≤ i.high * unit
  else i.low * unit < point && point < i.high * unit

/-- The better of the two decimals next to the center on a grid of powers of ten, if one is in. -/
def RoundingInterval.onGrid? (i : RoundingInterval) (tie : TieRule) (grid : Int) : Option Nat :=
  let numerator := i.center * 10 ^ (-grid).toNat
  let denominator := i.denominator * 10 ^ grid.toNat
  let down := numerator / denominator
  let rest := 2 * (numerator % denominator)
  let nearer :=
    if rest < denominator then down
    else if denominator < rest then down + 1
    else match tie with
      | .toEven => down + down % 2
      | .upward => down + 1
  match i.holds grid down, i.holds grid (down + 1) with
  | true, true => some nearer
  | true, false => some down
  | false, true => some (down + 1)
  | false, false => none

/-- Try ever finer grids, `steps` of them, starting from `grid`. -/
def RoundingInterval.search (i : RoundingInterval) (tie : TieRule) :
    Nat → Int → ScaledDecimal
  | 0, grid => ⟨i.center * 10 ^ (-grid).toNat / (i.denominator * 10 ^ grid.toNat), grid⟩
  | steps + 1, grid =>
      match i.onGrid? tie grid with
      | some coefficient => ⟨coefficient, grid⟩
      | none => i.search tie steps (grid - 1)

/-- The shortest decimal in an interval; seventeen digits always suffice. -/
def RoundingInterval.shortest (i : RoundingInterval) (tie : TieRule) : ScaledDecimal :=
  i.search tie 17 (leadingPower i.center i.denominator)

/-- Digits without the zeros at their end, which move into the power of ten. -/
def dropTrailingZeros (ds : List Digit) : List Digit :=
  (ds.reverse.dropWhile (· = 0)).reverse

structure Positional where
  whole : List Digit
  fraction : List Digit
  deriving DecidableEq, Repr

/-- Write digits that end at a power of ten positionally, with a digit before the point always. -/
def Positional.ofDigits (ds : List Digit) (exponent : Int) : Positional :=
  if 0 ≤ exponent then
    ⟨ds ++ List.replicate exponent.toNat 0, []⟩
  else
    let places := exponent.natAbs
    if places < ds.length then
      ⟨ds.take (ds.length - places), ds.drop (ds.length - places)⟩
    else
      ⟨[0], List.replicate (places - ds.length) 0 ++ ds⟩

def Binary64.shortestDigits (tie : TieRule) (exponent : Fin 2047) (fraction : Fin (2 ^ 52)) :
    List Digit × Int :=
  let shortest := (interval exponent fraction).shortest tie
  let all := digitsOf shortest.coefficient
  let kept := dropTrailingZeros all
  (kept, shortest.exponent + ((all.length : Int) - kept.length))

/--
The plain text of a finite number: its shortest decimal, written positionally at every size and
without a point when there is no fraction.  Of two equally near decimals the larger is taken.
-/
def Binary64.plainText (negative : Bool) (exponent : Fin 2047) (fraction : Fin (2 ^ 52)) :
    List Char :=
  let unsigned :=
    if significand exponent fraction = 0 then ['0']
    else
      let digits := shortestDigits .upward exponent fraction
      let written := Positional.ofDigits digits.1 digits.2
      digitChars written.whole ++
        (if written.fraction.isEmpty then [] else '.' :: digitChars written.fraction)
  if negative then '-' :: unsigned else unsigned

end RowConduit.Number
