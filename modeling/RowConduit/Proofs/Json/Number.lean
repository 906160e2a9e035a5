import RowConduit.Json.Number
import RowConduit.Proofs.Number.Integer

/-!
# Reading a JSON number undoes writing it

A number is taken off the front of a text digit by digit as it was written, and the number of a
64-bit integer is that integer again.
-/

namespace RowConduit.Json

open RowConduit.Text RowConduit.Number

/-- A text that cannot go on a number. -/
structure NumberEnded (rest : List Char) : Prop where
  digits : DigitsEnd rest
  point : rest.head? ≠ some '.'
  power : ∀ c, rest.head? = some c → c ≠ 'e' ∧ c ≠ 'E'

theorem numberEnded_nil : NumberEnded [] where
  digits := digitsEnd_nil
  point := by decide
  power := by
    intro c first
    cases first

theorem numberEnded_cons {c : Char} (rest : List Char) (digit : digit? c = none)
    (point : c ≠ '.') (power : c ≠ 'e' ∧ c ≠ 'E') : NumberEnded (c :: rest) where
  digits := digitsEnd_cons rest digit
  point := by simpa using point
  power := by
    intro first same
    cases same
    exact power

theorem Whole.digits_head (w : Whole) : ∃ d rest, w.digits = d :: rest := by
  cases w with
  | zero => exact ⟨0, [], rfl⟩
  | positive lead rest => exact ⟨lead.succ, rest, rfl⟩

theorem takeWhole?_digits (w : Whole) {rest : List Char} (ended : DigitsEnd rest) :
    takeWhole? (digitChars w.digits ++ rest) = some (w, rest) := by
  rw [takeWhole?, takeDigits_digitChars _ ended]
  cases w with
  | zero => simp [Whole.digits]
  | positive lead others => simp [Whole.digits]

def powerText : Option Power → List Char
  | none => []
  | some p => p.text

theorem digitsEnd_powerText (p : Option Power) {rest : List Char} (ended : NumberEnded rest) :
    DigitsEnd (powerText p ++ rest) := by
  cases p with
  | none => exact ended.digits
  | some p => exact digitsEnd_cons _ (by decide)

theorem digitsEnd_fractionText (fraction : List Digit) {rest : List Char}
    (ended : DigitsEnd rest) : DigitsEnd (fractionText fraction ++ rest) := by
  cases fraction with
  | nil => exact ended
  | cons d others => exact digitsEnd_cons _ (by decide)

theorem takeFraction?_fractionText (fraction : List Digit) {rest : List Char}
    (ended : DigitsEnd rest) (point : rest.head? ≠ some '.') :
    takeFraction? (fractionText fraction ++ rest) = some (fraction, rest) := by
  cases fraction with
  | nil =>
      rw [fractionText, List.nil_append]
      unfold takeFraction?
      split
      · exact absurd rfl point
      · rfl
  | cons d others =>
      rw [fractionText, List.cons_append, takeFraction?, takeDigits_digitChars _ ended]
      simp

theorem takeSign_sign (negative : Bool) (cs : List Char) :
    Number.takeSign ((if negative then '-' else '+') :: cs) = (negative, cs) := by
  cases negative <;> rfl

theorem takePower?_powerText (p : Option Power) {rest : List Char} (ended : NumberEnded rest) :
    takePower? (powerText p ++ rest) = some (p, rest) := by
  cases p with
  | none =>
      rw [powerText, List.nil_append]
      cases rest with
      | nil => rfl
      | cons c rest =>
          have other := ended.power c rfl
          simp [takePower?, other]
  | some p =>
      have digits := takeDigits_digitChars (p.first :: p.rest) ended.digits
      have shape : powerText (some p) ++ rest =
          'e' :: ((if p.negative then '-' else '+') ::
            (digitChars (p.first :: p.rest) ++ rest)) := by
        simp [powerText, Power.text]
      rw [shape, takePower?]
      simp [takeSign_sign, digits]

theorem takeMinus_sign (negative : Bool) {cs : List Char}
    (digit : ∃ d rest, cs = digitChar d :: rest) :
    takeMinus ((if negative then ['-'] else []) ++ cs) = (negative, cs) := by
  obtain ⟨d, rest, rfl⟩ := digit
  cases negative with
  | true => rfl
  | false =>
      have other : digitChar d ≠ '-' := digitChar_ne (by decide) d
      simp only [Bool.false_eq_true, if_false, List.nil_append]
      unfold takeMinus
      split
      · next same => exact absurd (List.cons.inj same).1 other
      · rfl

namespace Number

theorem text_eq (n : Number) :
    n.text = (if n.negative then ['-'] else []) ++ (digitChars n.whole.digits ++
      (fractionText n.fraction ++ powerText n.power)) := by
  cases power : n.power <;> simp [text, powerText, power]

theorem text_head (n : Number) :
    ∃ c rest, n.text = c :: rest ∧ (c = '-' ∨ ∃ d, c = digitChar d) := by
  obtain ⟨d, others, digits⟩ := n.whole.digits_head
  rw [text_eq, digits]
  cases n.negative with
  | true => exact ⟨'-', _, rfl, Or.inl rfl⟩
  | false => exact ⟨digitChar d, _, rfl, Or.inr ⟨d, rfl⟩⟩

theorem take?_text (n : Number) {rest : List Char} (ended : NumberEnded rest) :
    take? (n.text ++ rest) = some (n, rest) := by
  have power := takePower?_powerText n.power ended
  have powerEnd := digitsEnd_powerText n.power ended
  have point : (powerText n.power ++ rest).head? ≠ some '.' := by
    cases shape : n.power with
    | none => exact ended.point
    | some p => simp [powerText, Power.text]
  have fraction := takeFraction?_fractionText n.fraction powerEnd point
  have whole := takeWhole?_digits n.whole (digitsEnd_fractionText n.fraction powerEnd)
  have digit : ∃ d others, digitChars n.whole.digits ++ (fractionText n.fraction ++
      (powerText n.power ++ rest)) = digitChar d :: others := by
    obtain ⟨d, others, shape⟩ := n.whole.digits_head
    exact ⟨d, _, by rw [shape, digitChars, List.map_cons, List.cons_append]⟩
  have signed := takeMinus_sign n.negative digit
  rw [text_eq]
  simp only [List.append_assoc]
  rw [take?, signed]
  dsimp only
  rw [whole]
  dsimp only
  rw [fraction]
  dsimp only
  rw [power]

theorem read?_text (n : Number) : read? n.text = some n := by
  obtain ⟨c, rest, shape, start⟩ := n.text_head
  have visible : isSpace c = false := by
    rcases start with rfl | ⟨d, rfl⟩
    · decide
    · clear shape
      revert d
      decide
  have whole := n.take?_text numberEnded_nil
  rw [List.append_nil, shape] at whole
  rw [read?, shape, List.dropWhile_cons_of_neg (by simp [visible]), whole]
  rfl

end Number

theorem Whole.ofDigits_digits {d : Digit} {rest : List Digit} (nonzero : d.val ≠ 0) :
    (Whole.ofDigits (d :: rest)).digits = d :: rest := by
  have lead : Fin.succ ⟨d.val - 1, by omega⟩ = d := by
    apply Fin.ext
    simp only [Fin.succ_mk]
    omega
  rw [Whole.ofDigits, if_neg nonzero, Whole.digits, lead]

theorem Whole.digits_ofDigits_digitsOf (n : Nat) :
    (Whole.ofDigits (digitsOf n)).digits = digitsOf n := by
  rcases Nat.eq_zero_or_pos n with rfl | positive
  · simp [digitsOf, Whole.ofDigits, Whole.digits]
  · obtain ⟨d, rest, digits, nonzero⟩ := digitsOf_head positive
    rw [digits]
    exact Whole.ofDigits_digits nonzero

theorem Whole.digitsOf_digits (w : Whole) : digitsOf (valueOf w.digits) = w.digits := by
  cases w with
  | zero => rw [digits, digitsOf]; rfl
  | positive lead rest => exact digitsOf_valueOf (Nat.succ_ne_zero _) rest

theorem Whole.ofDigits_self (w : Whole) : Whole.ofDigits w.digits = w := by
  cases w with
  | zero => rfl
  | positive lead rest => simp [digits, ofDigits]

namespace Number

theorem text_ofInt (i : Int) : (ofInt i).text = intText i := by
  rw [text_eq, ofInt]
  simp only [Whole.digits_ofDigits_digitsOf, fractionText, powerText, List.append_nil, intText,
    natText]
  by_cases negative : i < 0 <;> simp [negative]

theorem integer?_ofInt (i : Int) : (ofInt i).integer? = some i := by
  simp only [integer?, ofInt, Whole.digits_ofDigits_digitsOf, valueOf_digitsOf, List.isEmpty_nil,
    Option.isNone_none, Bool.and_self, if_true, decide_eq_true_eq]
  split
  · next negative =>
      have magnitude : -((i.natAbs : Nat) : Int) = i := by omega
      rw [magnitude]
  · next nonnegative =>
      have magnitude : ((i.natAbs : Nat) : Int) = i := by omega
      rw [magnitude]

theorem int64?_ofInt (i : Int64) : (ofInt i.toInt).int64? = some i := by
  have low : -(2 ^ 63) ≤ i.toInt := i.le_toInt
  have high : i.toInt < 2 ^ 63 := i.toInt_lt
  have within : (decide (-(2 ^ 63) ≤ i.toInt) && decide (i.toInt < 2 ^ 63)) = true := by
    rw [Bool.and_eq_true, decide_eq_true_eq, decide_eq_true_eq]
    exact ⟨low, high⟩
  rw [int64?, integer?_ofInt]
  dsimp only
  rw [if_pos within, Int64.ofInt_toInt]

def negativeZero : Number :=
  ⟨true, .zero, [], none⟩

/-- A number that is written as an integer is the number of that integer, but for `-0`. -/
theorem ofInt_integer? {n : Number} {i : Int} (denotes : n.integer? = some i)
    (signed : n ≠ negativeZero) : ofInt i = n := by
  obtain ⟨negative, whole, fraction, power⟩ := n
  rw [integer?, Option.ite_none_right_eq_some, Bool.and_eq_true, List.isEmpty_iff,
    Option.isNone_iff_eq_none] at denotes
  obtain ⟨⟨rfl, rfl⟩, value⟩ := denotes
  rw [Option.some.injEq] at value
  subst value
  cases negative with
  | false => simp [ofInt, Whole.digitsOf_digits, Whole.ofDigits_self]
  | true =>
      cases whole with
      | zero => exact absurd rfl signed
      | positive lead rest =>
          have positive : 0 < valueOf (Whole.positive lead rest).digits :=
            Nat.lt_of_lt_of_le (Nat.succ_pos _) (le_valueFrom _ rest)
          simp [ofInt, Whole.digitsOf_digits, Whole.ofDigits_self, positive]

theorem ofInt_int64? {n : Number} {i : Int64} (denotes : n.int64? = some i)
    (signed : n ≠ negativeZero) : ofInt i.toInt = n := by
  rw [int64?] at denotes
  split at denotes
  · cases denotes
  · next whole integer =>
      rw [Option.ite_none_right_eq_some, Bool.and_eq_true, decide_eq_true_eq,
        decide_eq_true_eq] at denotes
      obtain ⟨⟨low, high⟩, value⟩ := denotes
      cases value
      rw [Int64.toInt_ofInt_of_le low high]
      exact ofInt_integer? integer signed

end Number

end RowConduit.Json
