import Mathlib.Data.List.Induction
import Mathlib.Tactic.Common
import RowConduit.Text.Blank
import RowConduit.Text.Digits

/-!
# Runs of digits

Digits written are taken off a text again, up to the first character that is no digit; padding adds
zeros and changes no value.
-/

namespace RowConduit.Text

def DigitsEnd (rest : List Char) : Prop :=
  ∀ c, rest.head? = some c → digit? c = none

theorem digitsEnd_nil : DigitsEnd [] := by
  intro c first
  cases first

theorem digitsEnd_cons {c : Char} (rest : List Char) (other : digit? c = none) :
    DigitsEnd (c :: rest) := by
  intro first same
  cases same
  exact other

theorem digitChar_ne {c : Char} (other : digit? c = none) (d : Digit) : digitChar d ≠ c := by
  rintro rfl
  rw [digit?_digitChar] at other
  cases other

theorem isBlank_digitChar (d : Digit) : isBlank (digitChar d) = false := by
  revert d
  decide

theorem takeDigits_of_digitsEnd {rest : List Char} (ended : DigitsEnd rest) :
    takeDigits rest = ([], rest) := by
  cases rest with
  | nil => rfl
  | cons c rest =>
      have other : digit? c = none := ended c rfl
      simp [takeDigits, other]

theorem takeDigits_digitChars (ds : List Digit) {rest : List Char} (ended : DigitsEnd rest) :
    takeDigits (digitChars ds ++ rest) = (ds, rest) := by
  induction ds with
  | nil => exact takeDigits_of_digitsEnd ended
  | cons d ds ih =>
      rw [digitChars] at ih
      simp [digitChars, takeDigits, digit?_digitChar, ih]

theorem digitChars_injective : Function.Injective digitChars := by
  intro ds others same
  have first := takeDigits_digitChars ds digitsEnd_nil
  have second := takeDigits_digitChars others digitsEnd_nil
  rw [same, second] at first
  exact (congrArg Prod.fst first).symm

theorem le_valueFrom (high : Nat) (ds : List Digit) : high ≤ valueFrom high ds := by
  induction ds generalizing high with
  | nil => exact Nat.le_refl high
  | cons d ds ih =>
      have further := ih (10 * high + d.val)
      rw [valueFrom]
      omega

theorem valueFrom_eq (high : Nat) (ds : List Digit) :
    valueFrom high ds = high * 10 ^ ds.length + valueOf ds := by
  induction ds generalizing high with
  | nil => simp [valueFrom, valueOf]
  | cons d ds ih =>
      have rest := ih (10 * high + d.val)
      have alone := ih (10 * 0 + d.val)
      have power : 10 ^ (d :: ds).length = 10 * 10 ^ ds.length := by
        rw [List.length_cons, Nat.pow_succ, Nat.mul_comm]
      rw [valueOf, valueFrom, valueFrom, rest, alone, power]
      grind

theorem valueOf_append (front back : List Digit) :
    valueOf (front ++ back) = valueOf front * 10 ^ back.length + valueOf back := by
  rw [valueOf, valueFrom_append, valueFrom_eq]
  rfl

theorem valueOf_lt (ds : List Digit) : valueOf ds < 10 ^ ds.length := by
  induction ds using List.reverseRecOn with
  | nil => decide
  | append_singleton front last ih =>
      have below := last.isLt
      have digit : valueOf [last] = last.val := by simp [valueOf, valueFrom]
      rw [valueOf_append, digit, List.length_append, List.length_singleton, Nat.pow_succ]
      omega

theorem valueOf_replicate_zero (count : Nat) (ds : List Digit) :
    valueOf (List.replicate count 0 ++ ds) = valueOf ds := by
  induction count with
  | zero => rfl
  | succ count ih =>
      rw [List.replicate_succ, List.cons_append]
      exact ih

theorem digitsOf_length_le {n width : Nat} (small : n < 10 ^ width) (wide : 0 < width) :
    (digitsOf n).length ≤ width := by
  induction width generalizing n with
  | zero => omega
  | succ width ih =>
      unfold digitsOf
      split
      · simp
      · next big =>
          have shorter : n / 10 < 10 ^ width := by
            rw [Nat.pow_succ] at small
            omega
          have nonzero : 0 < width := by
            rcases Nat.eq_zero_or_pos width with rfl | positive
            · simp at small
              omega
            · exact positive
          have rest := ih shorter nonzero
          simp only [List.length_append, List.length_singleton]
          omega

def paddedDigits (width n : Nat) : List Digit :=
  List.replicate (width - (digitsOf n).length) 0 ++ digitsOf n

theorem paddedText_eq (width n : Nat) : paddedText width n = digitChars (paddedDigits width n) := by
  have zero : digitChar 0 = '0' := by decide
  simp [paddedText, natText, paddedDigits, digitChars, zero]

theorem valueOf_paddedDigits (width n : Nat) : valueOf (paddedDigits width n) = n := by
  rw [paddedDigits, valueOf_replicate_zero, valueOf_digitsOf]

theorem paddedDigits_length {width n : Nat} (small : n < 10 ^ width) (wide : 0 < width) :
    (paddedDigits width n).length = width := by
  have fits := digitsOf_length_le small wide
  rw [paddedDigits, List.length_append, List.length_replicate]
  omega

theorem paddedDigits_ne_nil (width n : Nat) : paddedDigits width n ≠ [] := by
  have some := digitsOf_ne_nil n
  simp [paddedDigits, some]

theorem digitsOf_head {n : Nat} (positive : 0 < n) :
    ∃ d rest, digitsOf n = d :: rest ∧ d.val ≠ 0 := by
  induction n using Nat.strongRecOn with
  | ind n ih =>
      unfold digitsOf
      split
      · exact ⟨_, [], rfl, Nat.ne_of_gt positive⟩
      · next big =>
          obtain ⟨d, rest, front, nonzero⟩ := ih (n / 10) (by omega) (by omega)
          refine ⟨d, rest ++ [⟨n % 10, Nat.mod_lt n (by decide)⟩], ?_, nonzero⟩
          rw [front, List.cons_append]

theorem digitsOf_valueOf {d : Digit} (nonzero : d.val ≠ 0) (rest : List Digit) :
    digitsOf (valueOf (d :: rest)) = d :: rest := by
  induction rest using List.reverseRecOn with
  | nil =>
      have small : valueOf [d] = d.val := by simp [valueOf, valueFrom]
      rw [small, digitsOf, dif_pos d.isLt]
  | append_singleton rest last ih =>
      have value : valueOf (d :: (rest ++ [last])) = 10 * valueOf (d :: rest) + last.val := by
        rw [← List.cons_append, valueOf, valueFrom_append]
        rfl
      have positive : d.val ≤ valueOf (d :: rest) :=
        Nat.le_trans (by omega) (le_valueFrom (10 * 0 + d.val) rest)
      have below := last.isLt
      have front : (10 * valueOf (d :: rest) + last.val) / 10 = valueOf (d :: rest) := by omega
      have digit : (10 * valueOf (d :: rest) + last.val) % 10 = last.val := by omega
      rw [value, digitsOf, dif_neg (by omega)]
      simp only [front, digit, ih, List.cons_append]

end RowConduit.Text
