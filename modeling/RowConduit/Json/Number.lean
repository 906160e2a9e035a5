import RowConduit.Number.Integer
import RowConduit.Number.Shortest

/-!
# JSON numbers

A number of a document is kept digit by digit, so that no precision is lost: trailing zeros, the
sign of a zero and the zeros of a power of ten are part of it.  Only the letter and the sign of the
power are fixed: a power is always written `e+` or `e-`.
-/

namespace RowConduit

open RowConduit.Text RowConduit.Number

namespace Json

/-- The digits before the point: a lone zero, or digits that do not start with zero. -/
inductive Whole where
  | zero
  | positive (lead : Fin 9) (rest : List Digit)
  deriving DecidableEq, Repr

def Whole.digits : Whole → List Digit
  | .zero => [0]
  | .positive lead rest => lead.succ :: rest

theorem pred_lt_nine (d : Digit) : d.val - 1 < 9 := by
  omega

def Whole.ofDigits : List Digit → Whole
  | [] => .zero
  | d :: rest =>
      if d.val = 0 then Whole.ofDigits rest
      else .positive ⟨d.val - 1, pred_lt_nine d⟩ rest

/-- A power of ten as written: its sign and at least one digit. -/
structure Power where
  negative : Bool
  first : Digit
  rest : List Digit
  deriving DecidableEq, Repr

/-- A JSON number as written.  No fraction digits means that there is no point. -/
structure Number where
  negative : Bool
  whole : Whole
  fraction : List Digit
  power : Option Power
  deriving DecidableEq, Repr

def Power.text (p : Power) : List Char :=
  'e' :: (if p.negative then '-' else '+') :: digitChars (p.first :: p.rest)

def fractionText : List Digit → List Char
  | [] => []
  | d :: rest => '.' :: digitChars (d :: rest)

def Number.text (n : Number) : List Char :=
  (if n.negative then ['-'] else []) ++ digitChars n.whole.digits ++ fractionText n.fraction ++
    (match n.power with
     | none => []
     | some p => p.text)

/-- Take the whole part off a text; a zero is not followed by another digit. -/
def takeWhole? (cs : List Char) : Option (Whole × List Char) :=
  let digits := takeDigits cs
  match digits.1 with
  | [] => none
  | d :: rest =>
      if d.val = 0 then
        if rest.isEmpty then some (.zero, digits.2) else none
      else
        some (.positive ⟨d.val - 1, pred_lt_nine d⟩ rest, digits.2)

/-- Take a point and the digits after it off a text; a point needs a digit. -/
def takeFraction? : List Char → Option (List Digit × List Char)
  | '.' :: rest =>
      let digits := takeDigits rest
      if digits.1.isEmpty then none else some digits
  | cs => some ([], cs)

/-- Take a power of ten off a text; its letter needs a digit. -/
def takePower? : List Char → Option (Option Power × List Char)
  | [] => some (none, [])
  | c :: rest =>
      if c = 'e' || c = 'E' then
        let signed := takeSign rest
        let digits := takeDigits signed.2
        match digits.1 with
        | [] => none
        | first :: others => some (some ⟨signed.1, first, others⟩, digits.2)
      else
        some (none, c :: rest)

def takeMinus : List Char → Bool × List Char
  | '-' :: rest => (true, rest)
  | cs => (false, cs)

def Number.take? (cs : List Char) : Option (Number × List Char) :=
  let signed := takeMinus cs
  match takeWhole? signed.2 with
  | none => none
  | some (whole, afterWhole) =>
      match takeFraction? afterWhole with
      | none => none
      | some (fraction, afterFraction) =>
          match takePower? afterFraction with
          | none => none
          | some (power, rest) => some (⟨signed.1, whole, fraction, power⟩, rest)

def Number.ofText? (cs : List Char) : Option Number :=
  match Number.take? cs with
  | some (n, []) => some n
  | _ => none

/-- JSON white space: tab, line feed, carriage return and space. -/
def isSpace (c : Char) : Bool :=
  c = ' ' || c = '\n' || c = '\t' || c = '\r'

def Number.read? (cs : List Char) : Option Number :=
  match Number.take? (cs.dropWhile isSpace) with
  | none => none
  | some (n, rest) => if rest.all isSpace then some n else none

def Number.integer? (n : Number) : Option Int :=
  if n.fraction.isEmpty && n.power.isNone then
    let magnitude := valueOf n.whole.digits
    some (if n.negative then -(magnitude : Int) else magnitude)
  else
    none

/-- The number as a 64-bit integer, if it is written as one and lies in the range. -/
def Number.int64? (n : Number) : Option Int64 :=
  match n.integer? with
  | none => none
  | some i => if -(2 ^ 63) ≤ i && i < 2 ^ 63 then some (Int64.ofInt i) else none

def Number.ofInt (i : Int) : Number :=
  ⟨i < 0, Whole.ofDigits (digitsOf i.natAbs), [], none⟩

def Power.ofInt (i : Int) : Power :=
  match digitsOf i.natAbs with
  | [] => ⟨i < 0, 0, []⟩
  | first :: rest => ⟨i < 0, first, rest⟩

/--
The number of a finite double-precision number: its shortest decimal.  A leading digit between
`10 ^ -5` and `10 ^ 15` is written positionally with at least one digit after the point; any other
number has one digit before the point and a power of ten.
-/
def Number.ofBinary64 (negative : Bool) (exponent : Fin 2047) (fraction : Fin (2 ^ 52)) : Number :=
  if Binary64.significand exponent fraction = 0 then
    ⟨negative, .zero, [0], none⟩
  else
    let digits := Binary64.shortestDigits .toEven exponent fraction
    let leading := digits.2 + digits.1.length - 1
    if -5 ≤ leading && leading < 16 then
      let written := Positional.ofDigits digits.1 digits.2
      ⟨negative, Whole.ofDigits written.whole,
        if written.fraction.isEmpty then [0] else written.fraction, none⟩
    else
      ⟨negative, Whole.ofDigits (digits.1.take 1), digits.1.drop 1, some (Power.ofInt leading)⟩

def Number.literal (n : Number) : DecimalLiteral where
  negative := n.negative
  whole := n.whole.digits
  fraction := n.fraction
  exponent :=
    match n.power with
    | none => 0
    | some p =>
        let magnitude : Int := valueOf (p.first :: p.rest)
        if p.negative then -magnitude else magnitude

def Number.overflows (n : Number) : Bool :=
  match Binary64.ofLiteral n.literal with
  | .infinite _ => true
  | _ => false

end Json

end RowConduit
