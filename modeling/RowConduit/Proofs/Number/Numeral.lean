import Mathlib.Algebra.Field.Rat
import Mathlib.Tactic.FieldSimp
import Mathlib.Tactic.Ring
import RowConduit.Proofs.Number.Literal

/-!
# Numbers as they are written

An integer is a sign or none and digits; a decimal number has digits on either side of at most one
point and may have a power of ten.  The texts of such numbers are exactly what the readers accept,
and a text is that of numbers of one value only, since reading it gives the parts the value comes
from.
-/

namespace RowConduit.Number

open RowConduit.Text

inductive Sign where
  | none
  | plus
  | minus
  deriving DecidableEq, Repr

namespace Sign

def text : Sign → List Char
  | .none => []
  | .plus => ['+']
  | .minus => ['-']

def isMinus : Sign → Bool
  | .none => false
  | .plus => false
  | .minus => true

def unit (s : Sign) : Int :=
  if s.isMinus then -1 else 1

def ofNegative (negative : Bool) : Sign :=
  if negative then .minus else .none

theorem text_ofNegative (negative : Bool) :
    (ofNegative negative).text = if negative then ['-'] else [] := by
  cases negative <;> rfl

theorem isMinus_ofNegative (negative : Bool) : (ofNegative negative).isMinus = negative := by
  cases negative <;> rfl

end Sign

/-- An integer as written: a sign or none, and at least one digit. -/
structure WrittenInteger where
  sign : Sign
  digits : List Digit
  written : digits ≠ []

namespace WrittenInteger

def text (n : WrittenInteger) : List Char :=
  n.sign.text ++ digitChars n.digits

def value (n : WrittenInteger) : Int :=
  n.sign.unit * valueOf n.digits

end WrittenInteger

structure WrittenPower where
  capital : Bool
  exponent : WrittenInteger

/--
A decimal number as written: a sign or none, digits before a point, digits after the point if there
is one, and a power of ten if there is one.  There is at least one digit before or after the point.
-/
structure WrittenDecimal where
  sign : Sign
  whole : List Digit
  fraction : Option (List Digit)
  power : Option WrittenPower
  written : whole ++ fraction.getD [] ≠ []

namespace WrittenDecimal

def fractionText : Option (List Digit) → List Char
  | none => []
  | some digits => '.' :: digitChars digits

def powerText : Option WrittenPower → List Char
  | none => []
  | some p => (if p.capital then 'E' else 'e') :: p.exponent.text

def exponentOf : Option WrittenPower → Int
  | none => 0
  | some p => p.exponent.value

def text (n : WrittenDecimal) : List Char :=
  n.sign.text ++ (digitChars n.whole ++ (fractionText n.fraction ++ powerText n.power))

def places (n : WrittenDecimal) : List Digit :=
  n.fraction.getD []

def exponent (n : WrittenDecimal) : Int :=
  exponentOf n.power

def value (n : WrittenDecimal) : ℚ :=
  n.sign.unit * (valueOf n.whole + valueOf n.places / 10 ^ n.places.length) *
    (10 : ℚ) ^ n.exponent

def literal (n : WrittenDecimal) : DecimalLiteral :=
  ⟨n.sign.isMinus, n.whole, n.places, n.exponent⟩

end WrittenDecimal

def DecimalLiteral.value (l : DecimalLiteral) : ℚ :=
  (if l.negative then -1 else 1) * l.coefficient * (10 : ℚ) ^ l.power

theorem WrittenDecimal.value_literal (n : WrittenDecimal) : n.literal.value = n.value := by
  have ten : (10 : ℚ) ≠ 0 := by norm_num
  have sign : ((n.sign.unit : Int) : ℚ) = if n.sign.isMinus then -1 else 1 := by
    rw [Sign.unit]
    split <;> norm_num
  have digits : ((valueOf (n.whole ++ n.places) : Nat) : ℚ) =
      valueOf n.whole * 10 ^ n.places.length + valueOf n.places := by
    rw [valueOf_append]
    push_cast
    ring
  rw [DecimalLiteral.value, DecimalLiteral.coefficient, DecimalLiteral.power, literal, value,
    digits, sign, zpow_sub₀ ten, zpow_natCast]
  field_simp

section Signs

def Unsigned (cs : List Char) : Prop :=
  ∀ c, cs.head? = some c → c ≠ '-' ∧ c ≠ '+'

theorem unsigned_cons {c : Char} (rest : List Char) (other : c ≠ '-' ∧ c ≠ '+') :
    Unsigned (c :: rest) := by
  intro first same
  cases same
  exact other

theorem unsigned_digitChars {ds : List Digit} (written : ds ≠ []) (rest : List Char) :
    Unsigned (digitChars ds ++ rest) := by
  cases ds with
  | nil => exact absurd rfl written
  | cons d ds =>
      have minus : digitChar d ≠ '-' := digitChar_ne (by decide) d
      have plus : digitChar d ≠ '+' := digitChar_ne (by decide) d
      exact unsigned_cons _ ⟨minus, plus⟩

theorem takeSign_text (s : Sign) {cs : List Char} (plain : Unsigned cs) :
    takeSign (s.text ++ cs) = (s.isMinus, cs) := by
  cases s with
  | plus => rfl
  | minus => rfl
  | none =>
      change takeSign cs = (false, cs)
      unfold takeSign
      split
      · exact absurd rfl (plain _ rfl).1
      · exact absurd rfl (plain _ rfl).2
      · rfl

/-- A text is a sign and what is left without it; if there was none, what is left has none. -/
theorem exists_sign (cs : List Char) :
    ∃ s : Sign, s.text ++ (takeSign cs).2 = cs ∧ s.isMinus = (takeSign cs).1 ∧
      (s = .none → Unsigned cs) := by
  unfold takeSign
  split
  · exact ⟨.minus, rfl, rfl, nofun⟩
  · exact ⟨.plus, rfl, rfl, nofun⟩
  · next minus plus =>
      refine ⟨.none, rfl, rfl, fun _ c first => ?_⟩
      cases cs with
      | nil => cases first
      | cons other rest =>
          cases first
          exact ⟨fun same => minus rest (by rw [same]), fun same => plus rest (by rw [same])⟩

end Signs

namespace WrittenInteger

theorem value_eq (n : WrittenInteger) :
    n.value = if n.sign.isMinus then -(valueOf n.digits : Int) else valueOf n.digits := by
  rw [value, Sign.unit]
  split
  · exact Int.neg_one_mul _
  · exact Int.one_mul _

theorem readExponent?_text (n : WrittenInteger) : readExponent? n.text = some n.value := by
  have signed := takeSign_text n.sign (unsigned_digitChars n.written [])
  have digits := takeDigits_digitChars n.digits digitsEnd_nil
  rw [List.append_nil] at signed digits
  rw [readExponent?, text, signed, value_eq]
  dsimp only
  rw [digits]
  cases n.sign.isMinus <;> simp [n.written]

theorem of_readExponent? {cs : List Char} {e : Int} (read : readExponent? cs = some e) :
    ∃ n : WrittenInteger, n.text = cs ∧ n.value = e := by
  obtain ⟨s, first, minus, _⟩ := exists_sign cs
  have digits := takeDigits_append (takeSign cs).2
  unfold readExponent? at read
  dsimp only at read
  split at read
  · cases read
  · next whole =>
      have parts : (takeDigits (takeSign cs).2).1 ≠ [] ∧ (takeDigits (takeSign cs).2).2 = [] := by
        simpa using whole
      rw [parts.2, List.append_nil] at digits
      refine ⟨⟨s, (takeDigits (takeSign cs).2).1, parts.1⟩, ?_, ?_⟩
      · rw [text, digits, first]
      · rw [value_eq, minus]
        split at read
        · next negative =>
            cases read
            exact if_pos negative
        · next positive =>
            cases read
            exact if_neg positive

def toDecimal (n : WrittenInteger) : WrittenDecimal :=
  ⟨n.sign, n.digits, none, none, by rw [Option.getD_none, List.append_nil]; exact n.written⟩

theorem text_toDecimal (n : WrittenInteger) : n.toDecimal.text = n.text := by
  simp [toDecimal, WrittenDecimal.text, WrittenDecimal.fractionText, WrittenDecimal.powerText, text]

theorem value_toDecimal (n : WrittenInteger) : n.toDecimal.value = n.value := by
  simp [toDecimal, WrittenDecimal.value, WrittenDecimal.places, WrittenDecimal.exponent,
    WrittenDecimal.exponentOf, value, valueOf, valueFrom]

end WrittenInteger

namespace WrittenDecimal

theorem powerText_head {p : Option WrittenPower} {c : Char}
    (first : (powerText p).head? = some c) : c = 'e' ∨ c = 'E' := by
  cases p with
  | none => cases first
  | some p =>
      cases first
      cases p.capital
      · exact Or.inl rfl
      · exact Or.inr rfl

theorem digitsEnd_powerText (p : Option WrittenPower) : DigitsEnd (powerText p) := by
  intro c first
  rcases powerText_head first with rfl | rfl <;> decide

theorem point_powerText (p : Option WrittenPower) : (powerText p).head? ≠ some '.' := by
  intro first
  rcases powerText_head first with same | same <;> cases same

theorem digitsEnd_rest (fraction : Option (List Digit)) (p : Option WrittenPower) :
    DigitsEnd (fractionText fraction ++ powerText p) := by
  cases fraction with
  | none => exact digitsEnd_powerText p
  | some digits => exact digitsEnd_cons _ (by decide)

theorem takeFraction_fractionText (fraction : Option (List Digit)) (p : Option WrittenPower) :
    takeFraction (fractionText fraction ++ powerText p) = (fraction.getD [], powerText p) := by
  cases fraction with
  | none =>
      change takeFraction (powerText p) = ([], powerText p)
      unfold takeFraction
      split
      · next shape => exact absurd (by rw [shape]; rfl) (point_powerText p)
      · rfl
  | some digits =>
      rw [fractionText, List.cons_append, takeFraction,
        takeDigits_digitChars digits (digitsEnd_powerText p)]
      rfl

theorem exists_fraction (cs : List Char) :
    ∃ fraction, fractionText fraction ++ (takeFraction cs).2 = cs ∧
      fraction.getD [] = (takeFraction cs).1 := by
  unfold takeFraction
  split
  · next rest =>
      refine ⟨some (takeDigits rest).1, ?_, rfl⟩
      rw [fractionText, List.cons_append, takeDigits_append]
  · exact ⟨none, rfl, rfl⟩

theorem readScale?_powerText (p : Option WrittenPower) :
    readScale? (powerText p) = some (exponentOf p) := by
  cases p with
  | none => rfl
  | some p =>
      rw [powerText, readScale?, p.exponent.readExponent?_text]
      cases p.capital <;> rfl

theorem of_readScale? {cs : List Char} {e : Int} (read : readScale? cs = some e) :
    ∃ p, powerText p = cs ∧ exponentOf p = e := by
  unfold readScale? at read
  split at read
  · cases read
    exact ⟨none, rfl, rfl⟩
  · next c rest =>
      rw [Option.ite_none_right_eq_some, Bool.or_eq_true, decide_eq_true_eq,
        decide_eq_true_eq] at read
      obtain ⟨letter, read⟩ := read
      obtain ⟨n, shape, value⟩ := WrittenInteger.of_readExponent? read
      rcases letter with rfl | rfl
      · exact ⟨some ⟨false, n⟩, by rw [powerText, shape]; rfl, value⟩
      · exact ⟨some ⟨true, n⟩, by rw [powerText, shape]; rfl, value⟩

theorem unsigned_digits (n : WrittenDecimal) :
    Unsigned (digitChars n.whole ++ (fractionText n.fraction ++ powerText n.power)) := by
  have written := n.written
  cases whole : n.whole with
  | cons d rest => exact unsigned_digitChars (List.cons_ne_nil d rest) _
  | nil =>
      cases fraction : n.fraction with
      | some digits => exact unsigned_cons _ (by decide)
      | none =>
          rw [whole, fraction] at written
          exact absurd rfl written

theorem read?_text (n : WrittenDecimal) : DecimalLiteral.read? n.text = some n.literal := by
  have written : (n.whole.isEmpty && n.places.isEmpty) = false := by
    rw [Bool.eq_false_iff, ne_eq, Bool.and_eq_true, List.isEmpty_iff, List.isEmpty_iff,
      ← List.append_eq_nil_iff]
    exact n.written
  -- No part can go on with the first character of the next, so each is taken off whole.
  rw [DecimalLiteral.read?, text, takeSign_text n.sign n.unsigned_digits]
  dsimp only
  rw [takeDigits_digitChars n.whole (digitsEnd_rest n.fraction n.power)]
  dsimp only
  rw [takeFraction_fractionText]
  dsimp only
  rw [readScale?_powerText, if_neg (by rw [← places, written]; decide)]
  rfl

/-- Whatever text can be taken apart is the text of a number. -/
theorem of_read? {cs : List Char} {l : DecimalLiteral} (read : DecimalLiteral.read? cs = some l) :
    ∃ n : WrittenDecimal, n.text = cs ∧ n.literal = l := by
  obtain ⟨s, sign, minus, _⟩ := exists_sign cs
  have whole := takeDigits_append (takeSign cs).2
  obtain ⟨fraction, point, places⟩ := exists_fraction (takeDigits (takeSign cs).2).2
  unfold DecimalLiteral.read? at read
  dsimp only at read
  split at read
  · cases read
  · next written =>
      obtain ⟨e, scale, parts⟩ := Option.map_eq_some_iff.mp read
      obtain ⟨p, power, exponent⟩ := of_readScale? scale
      cases parts
      refine ⟨⟨s, (takeDigits (takeSign cs).2).1, fraction, p, ?_⟩, ?_, ?_⟩
      · rwa [places, ne_eq, List.append_eq_nil_iff, ← List.isEmpty_iff, ← List.isEmpty_iff,
          ← Bool.and_eq_true]
      · rw [text, power, point, whole, sign]
      · rw [literal, DecimalLiteral.mk.injEq]
        exact ⟨minus, rfl, places, exponent⟩

end WrittenDecimal

theorem isDecimalLiteral_iff {cs : List Char} :
    isDecimalLiteral cs = true ↔ ∃ n : WrittenDecimal, n.text = cs := by
  rw [isDecimalLiteral, Option.isSome_iff_exists]
  constructor
  · rintro ⟨l, read⟩
    obtain ⟨n, shape, _⟩ := WrittenDecimal.of_read? read
    exact ⟨n, shape⟩
  · rintro ⟨n, rfl⟩
    exact ⟨n.literal, n.read?_text⟩

theorem WrittenDecimal.value_of_text {m n : WrittenDecimal} (same : m.text = n.text) :
    m.value = n.value := by
  have parts : some m.literal = some n.literal := by
    rw [← m.read?_text, ← n.read?_text, same]
  rw [← m.value_literal, ← n.value_literal, Option.some.inj parts]

end RowConduit.Number
