import RowConduit.Number.Integer
import RowConduit.Proofs.Text.Digits

/-!
# Integers in text

A 64-bit integer is read back from its decimal text.
-/

namespace RowConduit.Number

open RowConduit.Text

theorem readMagnitude_digitChars {limit high : Nat} (overflow : IntegerFault) {ds : List Digit}
    (within : valueFrom high ds ≤ limit) :
    readMagnitude limit overflow high (digitChars ds) = .ok (valueFrom high ds) := by
  induction ds generalizing high with
  | nil => rfl
  | cons d ds ih =>
      have step := le_valueFrom (10 * high + d.val) ds
      have bounded : ¬ limit < 10 * high + d.val := by
        rw [valueFrom] at within
        omega
      have rest : readMagnitude limit overflow (10 * high + d.val) (digitChars ds) =
          .ok (valueFrom (10 * high + d.val) ds) := ih within
      rw [digitChars] at rest
      rw [digitChars, List.map_cons, readMagnitude, digit?_digitChar]
      dsimp only
      rw [if_neg bounded, rest]
      rfl

theorem readMagnitude_natText {limit n : Nat} (overflow : IntegerFault) (within : n ≤ limit) :
    readMagnitude limit overflow 0 (natText n) = .ok n := by
  have value : valueFrom 0 (digitsOf n) = n := valueOf_digitsOf n
  rw [natText, readMagnitude_digitChars overflow (by rw [value]; exact within), value]

theorem natText_ne_nil (n : Nat) : natText n ≠ [] := by
  have some := digitsOf_ne_nil n
  simpa [natText, digitChars] using some

theorem natText_head (n : Nat) : ∃ d rest, natText n = digitChar d :: rest := by
  cases digits : digitsOf n with
  | nil => exact absurd digits (digitsOf_ne_nil n)
  | cons d rest => exact ⟨d, digitChars rest, by rw [natText, digits]; rfl⟩

theorem readInt64_int64Text (i : Int64) : readInt64 (int64Text i) = .ok i := by
  have low : -(2 ^ 63) ≤ i.toInt := i.le_toInt
  have high : i.toInt < 2 ^ 63 := i.toInt_lt
  rw [int64Text, intText]
  split
  · next negative =>
      have within : i.toInt.natAbs ≤ maxInt64 + 1 := by
        unfold maxInt64
        omega
      have magnitude : -((i.toInt.natAbs : Nat) : Int) = i.toInt := by omega
      have nonempty : (natText i.toInt.natAbs).isEmpty = false := by
        rw [List.isEmpty_eq_false_iff]
        exact natText_ne_nil _
      have read : readSigned (maxInt64 + 1) .tooSmall (natText i.toInt.natAbs) =
          .ok i.toInt.natAbs := by
        rw [readSigned, if_neg (by rw [nonempty]; decide), readMagnitude_natText .tooSmall within]
      have result : readInt64 ('-' :: natText i.toInt.natAbs) =
          .ok (Int64.ofInt (-((i.toInt.natAbs : Nat) : Int))) := by
        rw [readInt64, read]
        rfl
      rw [result, magnitude, Int64.ofInt_toInt]
  · next nonnegative =>
      have within : i.toInt.natAbs ≤ maxInt64 := by
        unfold maxInt64
        omega
      have magnitude : ((i.toInt.natAbs : Nat) : Int) = i.toInt := by omega
      obtain ⟨d, rest, shape⟩ := natText_head i.toInt.natAbs
      have read := readMagnitude_natText .tooLarge within
      rw [shape] at read ⊢
      have minus : digitChar d ≠ '-' := digitChar_ne (by decide) d
      have plus : digitChar d ≠ '+' := digitChar_ne (by decide) d
      have result : readInt64 (digitChar d :: rest) =
          .ok (Int64.ofInt ((i.toInt.natAbs : Nat) : Int)) := by
        rw [readInt64.eq_4 _ _ minus plus, read]
        rfl
      rw [result, magnitude, Int64.ofInt_toInt]

end RowConduit.Number
