import RowConduit.Number.Literal

/-!
# Double-precision numbers

A binary number of 53 significant bits as the fields of its interchange format, the exact value of
a finite one, and correct rounding of an exact ratio: to the nearest number, a half to the even one.
-/

namespace RowConduit.Number

open RowConduit.Text

/--
A double-precision number.  A finite one has a sign, an exponent field and a fraction field; the
largest exponent field is left to the values that are no numbers, which have their own cases.
-/
inductive Binary64 where
  | finite (negative : Bool) (exponent : Fin 2047) (fraction : Fin (2 ^ 52))
  | infinite (negative : Bool)
  | nan
  deriving DecidableEq, Repr

namespace Binary64

def zero (negative : Bool) : Binary64 :=
  .finite negative 0 0

/-- The significand of a finite number: the fraction, with the implicit bit of a normal number. -/
def significand (exponent : Fin 2047) (fraction : Fin (2 ^ 52)) : Nat :=
  if exponent.val = 0 then fraction.val else 2 ^ 52 + fraction.val

def power (exponent : Fin 2047) : Int :=
  (max exponent.val 1 : Nat) - 1075

/-- Numerator and denominator of `numerator / denominator / 2 ^ shift`. -/
def scaledRatio (numerator denominator : Nat) (shift : Int) : Nat × Nat :=
  (numerator * 2 ^ (-shift).toNat, denominator * 2 ^ shift.toNat)

/-- The nearest integer to a ratio, a half to the even neighbour. -/
def roundHalfEven (numerator denominator : Nat) : Nat :=
  let low := numerator / denominator
  let rest := 2 * (numerator % denominator)
  if rest < denominator then low
  else if denominator < rest then low + 1
  else low + low % 2

/--
The number whose exponent and fraction fields, read as one integer, are `code`; past the largest
finite code it is infinite.  A significand that rounds up to the next power of two carries into the
exponent field by itself.
-/
def ofCode (negative : Bool) (code : Nat) : Binary64 :=
  if h : code < 2047 * 2 ^ 52 then
    .finite negative ⟨code / 2 ^ 52, by omega⟩ ⟨code % 2 ^ 52, Nat.mod_lt _ (by decide)⟩
  else
    .infinite negative

/-- The power of two of the last significand bit with which a positive ratio is written. -/
def lastBit (numerator denominator : Nat) : Int :=
  let low : Int := max ((numerator.log2 : Int) - denominator.log2 - 53) (-1074)
  let ratio := scaledRatio numerator denominator low
  if ratio.1 / ratio.2 < 2 ^ 53 then low else low + 1

def ofRatio (negative : Bool) (numerator denominator : Nat) : Binary64 :=
  if numerator = 0 then zero negative
  else
    let last := lastBit numerator denominator
    let ratio := scaledRatio numerator denominator last
    ofCode negative ((last + 1074).toNat * 2 ^ 52 + roundHalfEven ratio.1 ratio.2)

def ofInt (i : Int) : Binary64 :=
  ofRatio (i < 0) i.natAbs 1

/--
The double-precision number nearest to a literal.  The two bounds on the leading digit's power of
ten keep absurd exponents from being raised: past them the answer is infinity or zero.
-/
def ofLiteral (l : DecimalLiteral) : Binary64 :=
  if l.coefficient = 0 then zero l.negative
  else
    let leading := l.power + (digitsOf l.coefficient).length
    if 400 < leading then .infinite l.negative
    else if leading < -400 then zero l.negative
    else ofRatio l.negative (l.coefficient * 10 ^ l.power.toNat) (10 ^ (-l.power).toNat)

inductive ReadFault where
  | empty
  | invalid
  deriving DecidableEq, Repr

def ReadFault.message : ReadFault → String
  | .empty => "cannot parse float from empty string"
  | .invalid => "invalid float literal"

def named? (negative : Bool) (cs : List Char) : Option Binary64 :=
  let name := cs.map Char.toLower
  if name = "inf".toList || name = "infinity".toList then some (.infinite negative)
  else if name = "nan".toList then some .nan
  else none

def read (cs : List Char) : Except ReadFault Binary64 :=
  if cs.isEmpty then .error .empty
  else
    match DecimalLiteral.read? cs with
    | some l => .ok (ofLiteral l)
    | none =>
        match named? (takeSign cs).1 (takeSign cs).2 with
        | some x => .ok x
        | none => .error .invalid

end Binary64

end RowConduit.Number
