import RowConduit.Proofs.Fallible
import RowConduit.Proofs.Json.Number
import RowConduit.Proofs.Number.Numeral

/-!
# What is read and written as a number

A 64-bit integer is read from exactly the texts of integers in its range.  Integers, exact decimals
and the numbers of documents are written as decimal numbers of just their value.
-/

namespace RowConduit

open RowConduit.Text RowConduit.Number

namespace Number

theorem readMagnitude_eq_ok {limit high v : Nat} {overflow : IntegerFault} {cs : List Char}
    (read : readMagnitude limit overflow high cs = .ok v) :
    ∃ ds, digitChars ds = cs ∧ valueFrom high ds = v := by
  induction cs generalizing high with
  | nil =>
      cases read
      exact ⟨[], rfl, rfl⟩
  | cons c rest ih =>
      unfold readMagnitude at read
      split at read
      · cases read
      · next d digit =>
          split at read
          · cases read
          · obtain ⟨ds, shape, value⟩ := ih read
            refine ⟨d :: ds, ?_, value⟩
            rw [digitChars, List.map_cons, digitChar_of_digit? digit, ← shape]
            rfl

/-- A magnitude is read from digits that stand for a number within the limit. -/
theorem readSigned_eq_ok_iff {limit v : Nat} {overflow : IntegerFault} {cs : List Char} :
    readSigned limit overflow cs = .ok v ↔
      ∃ ds, ds ≠ [] ∧ digitChars ds = cs ∧ valueOf ds = v ∧ v ≤ limit := by
  rw [readSigned]
  constructor
  · intro read
    split at read
    · cases read
    · next some =>
        have within := readMagnitude_le (Nat.zero_le limit) read
        obtain ⟨ds, rfl, value⟩ := readMagnitude_eq_ok read
        refine ⟨ds, ?_, rfl, value, within⟩
        rintro rfl
        exact some rfl
  · rintro ⟨ds, some, rfl, rfl, within⟩
    have written : (digitChars ds).isEmpty = false := by
      rw [List.isEmpty_eq_false_iff, digitChars, ne_eq, List.map_eq_nil_iff]
      exact some
    rw [written, if_neg (by decide)]
    exact readMagnitude_digitChars overflow within

theorem readMagnitude_eq_readSigned {limit : Nat} {overflow : IntegerFault} (c : Char)
    (rest : List Char) :
    readMagnitude limit overflow 0 (c :: rest) = readSigned limit overflow (c :: rest) := by
  rw [readSigned, List.isEmpty_cons, if_neg (by decide)]

theorem map_magnitude_eq_ok_iff {magnitude : Except IntegerFault Nat} {f : Int → Int64}
    {i : Int64} : (magnitude >>= fun v => pure (v : Int)).map f = .ok i ↔
      ∃ v : Nat, magnitude = .ok v ∧ f v = i := by
  cases magnitude <;> simp [Bind.bind, Except.bind, pure, Except.pure, Except.map]

namespace Sign

/-- The greatest magnitude that a 64-bit integer has with the sign. -/
def limit : Sign → Nat
  | .none => maxInt64
  | .plus => maxInt64
  | .minus => maxInt64 + 1

def overflow : Sign → IntegerFault
  | .none => .tooLarge
  | .plus => .tooLarge
  | .minus => .tooSmall

theorem le_limit_iff (s : Sign) (v : Nat) :
    v ≤ s.limit ↔ -(2 ^ 63) ≤ s.unit * v ∧ s.unit * v < 2 ^ 63 := by
  cases s <;> simp [limit, unit, isMinus, maxInt64] <;> omega

/-- A magnitude within the limit gives the integer of its value and its sign. -/
theorem ofInt_signed_iff (s : Sign) {v : Nat} {i : Int64} :
    v ≤ s.limit ∧ Int64.ofInt (s.unit * v) = i ↔ s.unit * v = i.toInt := by
  rw [le_limit_iff]
  constructor
  · rintro ⟨⟨low, high⟩, rfl⟩
    exact (Int64.toInt_ofInt_of_le low high).symm
  · intro value
    rw [value, Int64.ofInt_toInt]
    exact ⟨⟨i.le_toInt, i.toInt_lt⟩, rfl⟩

end Sign

/-- An integer is read after its sign; without a sign there must be a digit first. -/
theorem readInt64_text (s : Sign) {cs : List Char} {i : Int64}
    (plain : s = .none → Unsigned cs ∧ cs ≠ []) :
    readInt64 (s.text ++ cs) = .ok i ↔
      ∃ v, readSigned s.limit s.overflow cs = .ok v ∧ Int64.ofInt (s.unit * v) = i := by
  cases s with
  | minus =>
      have unit : ∀ v : Nat, Sign.minus.unit * (v : Int) = -v := fun v => Int.neg_one_mul v
      simp only [unit]
      exact map_magnitude_eq_ok_iff
  | plus =>
      have unit : ∀ v : Nat, Sign.plus.unit * (v : Int) = v := fun v => Int.one_mul v
      simp only [unit]
      exact map_magnitude_eq_ok_iff
  | none =>
      have unit : ∀ v : Nat, Sign.none.unit * (v : Int) = v := fun v => Int.one_mul v
      simp only [unit]
      obtain ⟨unsigned, some⟩ := plain rfl
      cases cs with
      | nil => exact absurd rfl some
      | cons c rest =>
          obtain ⟨minus, plus⟩ := unsigned c rfl
          change readInt64 (c :: rest) = .ok i ↔ _
          rw [readInt64.eq_4 _ _ minus plus, readMagnitude_eq_readSigned]
          exact map_magnitude_eq_ok_iff

theorem readInt64_eq_ok_iff {cs : List Char} {i : Int64} :
    readInt64 cs = .ok i ↔ ∃ n : WrittenInteger, n.text = cs ∧ n.value = i.toInt := by
  constructor
  · intro read
    obtain ⟨s, shape, _, unsigned⟩ := exists_sign cs
    have plain : s = .none → Unsigned (takeSign cs).2 ∧ (takeSign cs).2 ≠ [] := by
      rintro rfl
      have whole : (takeSign cs).2 = cs := shape
      rw [whole]
      refine ⟨unsigned rfl, ?_⟩
      rintro rfl
      cases read
    rw [← shape, readInt64_text s plain] at read
    obtain ⟨v, magnitude, value⟩ := read
    obtain ⟨ds, some, digits, rfl, within⟩ := readSigned_eq_ok_iff.mp magnitude
    refine ⟨⟨s, ds, some⟩, ?_, s.ofInt_signed_iff.mp ⟨within, value⟩⟩
    rw [WrittenInteger.text, digits, shape]
  · rintro ⟨⟨s, ds, some⟩, rfl, value⟩
    obtain ⟨within, signed⟩ := s.ofInt_signed_iff.mpr value
    have plain := unsigned_digitChars some []
    rw [List.append_nil] at plain
    have written : digitChars ds ≠ [] := fun empty => some (List.map_eq_nil_iff.mp empty)
    rw [WrittenInteger.text, readInt64_text s fun _ => ⟨plain, written⟩]
    exact ⟨valueOf ds, readSigned_eq_ok_iff.mpr ⟨ds, some, rfl, rfl, within⟩, signed⟩

theorem exists_readInt64_iff {cs : List Char} :
    (∃ i, readInt64 cs = .ok i) ↔
      ∃ n : WrittenInteger, n.text = cs ∧ -(2 ^ 63) ≤ n.value ∧ n.value < 2 ^ 63 := by
  simp only [readInt64_eq_ok_iff]
  constructor
  · rintro ⟨i, n, shape, value⟩
    refine ⟨n, shape, ?_⟩
    rw [value]
    exact ⟨i.le_toInt, i.toInt_lt⟩
  · rintro ⟨n, shape, low, high⟩
    exact ⟨Int64.ofInt n.value, n, shape, (Int64.toInt_ofInt_of_le low high).symm⟩

/-- Digits give the unsigned integer of 32 bits that they stand for, if there is one. -/
theorem map_readSigned_eq_ok_iff {ds : List Digit} (written : ds ≠ []) {i : UInt32} :
    (readSigned (2 ^ 32 - 1) .tooLarge (digitChars ds)).map UInt32.ofNat = .ok i ↔
      valueOf ds = i.toNat := by
  rw [Except.map_eq_ok_iff]
  constructor
  · rintro ⟨v, read, rfl⟩
    obtain ⟨others, _, same, rfl, within⟩ := readSigned_eq_ok_iff.mp read
    rw [digitChars_injective same] at within ⊢
    exact (UInt32.toNat_ofNat_of_lt' (Nat.lt_of_le_of_lt within (by decide))).symm
  · intro value
    have below := i.toNat_lt
    refine ⟨valueOf ds, readSigned_eq_ok_iff.mpr ⟨ds, written, rfl, rfl, by omega⟩, ?_⟩
    rw [value, UInt32.ofNat_toNat]

/-- An unsigned integer of 32 bits is read from its texts, a minus sign being none of them. -/
theorem readUInt32_text_eq_ok_iff {n : WrittenInteger} {i : UInt32} :
    readUInt32 n.text = .ok i ↔ n.sign ≠ .minus ∧ n.value = i.toNat := by
  obtain ⟨s, ds, written⟩ := n
  cases s with
  | minus =>
      have refused : readUInt32 (WrittenInteger.mk .minus ds written).text =
          .error .invalidDigit := rfl
      rw [refused]
      exact ⟨nofun, fun positive => absurd rfl positive.1⟩
  | plus =>
      have value : (WrittenInteger.mk .plus ds written).value = valueOf ds := Int.one_mul _
      rw [value, Int.natCast_inj]
      exact (map_readSigned_eq_ok_iff written).trans ⟨fun same => ⟨nofun, same⟩, And.right⟩
  | none =>
      have value : (WrittenInteger.mk .none ds written).value = valueOf ds := Int.one_mul _
      rw [value, Int.natCast_inj]
      cases ds with
      | nil => exact absurd rfl written
      | cons d rest =>
          have plus : digitChar d ≠ '+' := digitChar_ne (by decide) d
          change readUInt32 (digitChar d :: digitChars rest) = .ok i ↔ _
          rw [readUInt32.eq_3 _ _ plus, readMagnitude_eq_readSigned]
          exact (map_readSigned_eq_ok_iff written).trans ⟨fun same => ⟨nofun, same⟩, And.right⟩

/-- An unsigned integer of 32 bits is read from the texts of that integer without a minus sign. -/
theorem readUInt32_eq_ok_iff {cs : List Char} {i : UInt32} :
    readUInt32 cs = .ok i ↔
      ∃ n : WrittenInteger, n.text = cs ∧ n.sign ≠ .minus ∧ n.value = i.toNat := by
  constructor
  · intro read
    suffices written : ∃ n : WrittenInteger, n.text = cs by
      obtain ⟨n, rfl⟩ := written
      exact ⟨n, rfl, readUInt32_text_eq_ok_iff.mp read⟩
    cases cs with
    | nil => cases read
    | cons c rest =>
        by_cases plus : c = '+'
        · subst plus
          obtain ⟨_, magnitude, _⟩ := Except.map_eq_ok_iff.mp read
          obtain ⟨ds, some, rfl, _⟩ := readSigned_eq_ok_iff.mp magnitude
          exact ⟨⟨.plus, ds, some⟩, rfl⟩
        · rw [readUInt32.eq_3 _ _ plus, readMagnitude_eq_readSigned] at read
          obtain ⟨_, magnitude, _⟩ := Except.map_eq_ok_iff.mp read
          obtain ⟨ds, some, shape, _⟩ := readSigned_eq_ok_iff.mp magnitude
          exact ⟨⟨.none, ds, some⟩, shape⟩
  · rintro ⟨n, rfl, plus, value⟩
    exact readUInt32_text_eq_ok_iff.mpr ⟨plus, value⟩

def WrittenDecimal.plain (negative : Bool) (whole fraction : List Digit) (written : whole ≠ []) :
    WrittenDecimal where
  sign := .ofNegative negative
  whole := whole
  fraction := if fraction.isEmpty then none else some fraction
  power := none
  written := List.append_ne_nil_of_left_ne_nil written _

section Plain

variable (negative : Bool) {whole : List Digit} (fraction : List Digit) (written : whole ≠ [])

theorem WrittenDecimal.text_plain :
    (WrittenDecimal.plain negative whole fraction written).text =
      plainLiteral negative whole fraction := by
  rw [text, plain, plainLiteral, Sign.text_ofNegative, powerText, List.append_nil]
  cases fraction <;> rfl

theorem WrittenDecimal.value_plain :
    (WrittenDecimal.plain negative whole fraction written).value =
      (if negative then -1 else 1) * valueOf (whole ++ fraction) / 10 ^ fraction.length := by
  have places : (WrittenDecimal.plain negative whole fraction written).places = fraction := by
    cases fraction <;> rfl
  rw [← value_literal, literal, places, DecimalLiteral.value, DecimalLiteral.power]
  simp [plain, Sign.isMinus_ofNegative, DecimalLiteral.coefficient, exponent, exponentOf,
    div_eq_mul_inv]

end Plain

def Decimal.value (d : Decimal) : ℚ :=
  d.coefficient / 10 ^ d.places.val

theorem signed_natAbs (i : Int) :
    (if decide (i < 0) then -1 else 1) * ((i.natAbs : Nat) : ℚ) = i := by
  have cast : ((i.natAbs : Nat) : ℚ) = ((i.natAbs : Int) : ℚ) := (Int.cast_natCast _).symm
  rw [cast]
  by_cases negative : i < 0
  · have magnitude : (i.natAbs : Int) = -i := by omega
    rw [magnitude, Int.cast_neg, if_pos (decide_eq_true negative), neg_one_mul, neg_neg]
  · have magnitude : (i.natAbs : Int) = i := by omega
    rw [magnitude, if_neg (by simpa using negative), one_mul]

theorem Decimal.exists_written (d : Decimal) :
    ∃ n : WrittenDecimal, n.text = d.text ∧ n.value = d.value := by
  obtain ⟨whole, fraction, written, shape, digits, places⟩ := d.text_eq
  refine ⟨.plain (decide (d.coefficient < 0)) whole fraction written, ?_, ?_⟩
  · rw [WrittenDecimal.text_plain, shape]
  · rw [WrittenDecimal.value_plain, digits, places, signed_natAbs, Decimal.value]

theorem exists_written_int64Text (i : Int64) :
    ∃ n : WrittenDecimal, n.text = int64Text i ∧ n.value = i.toInt := by
  refine ⟨.plain (decide (i.toInt < 0)) (digitsOf i.toInt.natAbs) [] (digitsOf_ne_nil _), ?_, ?_⟩
  · rw [WrittenDecimal.text_plain, int64Text_eq]
  · rw [WrittenDecimal.value_plain, List.append_nil, valueOf_digitsOf, signed_natAbs,
      List.length_nil, pow_zero, div_one]

theorem WrittenInteger.visible_text (n : WrittenInteger) : Visible n.text := by
  have sign : Visible n.sign.text := by cases n.sign <;> exact visible_of_all (by decide)
  exact sign.append (visible_digitChars n.digits)

theorem isAlpha_digitChar (d : Digit) : (digitChar d).isAlpha = false := by
  revert d
  decide

theorem WrittenInteger.letterless_text (n : WrittenInteger) :
    ∀ c ∈ n.text, c.isAlpha = false := by
  intro c listed
  have sign : ∀ d ∈ n.sign.text, d.isAlpha = false := by cases n.sign <;> simp [Sign.text]
  rcases List.mem_append.mp listed with inSign | inDigits
  · exact sign c inSign
  · obtain ⟨d, _, rfl⟩ := List.mem_map.mp inDigits
    exact isAlpha_digitChar d

theorem WrittenDecimal.visible_text (n : WrittenDecimal) : Visible n.text := by
  have sign : Visible n.sign.text := by cases n.sign <;> exact visible_of_all (by decide)
  have point : Visible (fractionText n.fraction) := by
    cases n.fraction with
    | none => exact visible_nil
    | some digits => exact Visible.cons (by decide) (visible_digitChars digits)
  have power : Visible (powerText n.power) := by
    cases n.power with
    | none => exact visible_nil
    | some p =>
        refine Visible.cons ?_ p.exponent.visible_text
        cases p.capital <;> decide
  exact sign.append ((visible_digitChars n.whole).append (point.append power))

end Number

namespace Json

def Power.written (p : Power) : WrittenPower :=
  ⟨false, if p.negative then .minus else .plus, p.first :: p.rest, List.cons_ne_nil _ _⟩

def Number.written (n : Number) : WrittenDecimal where
  sign := .ofNegative n.negative
  whole := n.whole.digits
  fraction := if n.fraction.isEmpty then none else some n.fraction
  power := n.power.map Power.written
  written := by
    obtain ⟨d, rest, digits⟩ := n.whole.digits_head
    rw [digits]
    exact List.cons_ne_nil _ _

theorem Number.text_written (n : Number) : n.written.text = n.text := by
  have power : WrittenDecimal.powerText (n.power.map Power.written) = powerText n.power := by
    cases n.power with
    | none => rfl
    | some p => cases negative : p.negative <;>
        simp [WrittenDecimal.powerText, Power.written, powerText, Power.text, negative,
          WrittenInteger.text, Sign.text]
  have point : WrittenDecimal.fractionText (if n.fraction.isEmpty then none else some n.fraction) =
      fractionText n.fraction := by
    cases n.fraction <;> rfl
  rw [text_eq, WrittenDecimal.text, written, Sign.text_ofNegative, power, point]

end Json

end RowConduit
