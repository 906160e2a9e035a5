import RowConduit.Text.Digits

/-!
# Decimal literals

An optional sign, digits with at most one point and at least one digit, and an optional power of
ten: the texts that denote an exact decimal number.
-/

namespace RowConduit.Number

open RowConduit.Text

structure DecimalLiteral where
  negative : Bool
  whole : List Digit
  fraction : List Digit
  exponent : Int
  deriving DecidableEq, Repr

/-- Take one sign off a text; `true` is a minus sign. -/
def takeSign : List Char → Bool × List Char
  | '-' :: rest => (true, rest)
  | '+' :: rest => (false, rest)
  | cs => (false, cs)

def takeFraction : List Char → List Digit × List Char
  | '.' :: rest => takeDigits rest
  | cs => ([], cs)

def readExponent? (cs : List Char) : Option Int :=
  let signed := takeSign cs
  let digits := takeDigits signed.2
  if digits.1.isEmpty || !digits.2.isEmpty then none
  else if signed.1 then some (-(valueOf digits.1 : Int))
  else some (valueOf digits.1)

def readScale? : List Char → Option Int
  | [] => some 0
  | c :: rest => if c = 'e' || c = 'E' then readExponent? rest else none

def DecimalLiteral.read? (cs : List Char) : Option DecimalLiteral :=
  let signed := takeSign cs
  let whole := takeDigits signed.2
  let fraction := takeFraction whole.2
  if whole.1.isEmpty && fraction.1.isEmpty then none
  else (readScale? fraction.2).map fun exponent => ⟨signed.1, whole.1, fraction.1, exponent⟩

def isDecimalLiteral (cs : List Char) : Bool :=
  (DecimalLiteral.read? cs).isSome

def DecimalLiteral.coefficient (l : DecimalLiteral) : Nat :=
  valueOf (l.whole ++ l.fraction)

def DecimalLiteral.power (l : DecimalLiteral) : Int :=
  l.exponent - l.fraction.length

end RowConduit.Number
