import Mathlib.Data.List.TakeWhile
import RowConduit.Proofs.Number.Literal

/-!
# The shortest decimal has a digit

On every grid that the search tries, the decimal below a positive number is at least one unit of the
grid, because the grids are no coarser than the leading digit.  So the plain text of a finite number
is a literal at every size.
-/

namespace RowConduit.Number

open RowConduit.Text

theorem pow_le_of_digitsOf {n : Nat} (positive : 0 < n) : 10 ^ ((digitsOf n).length - 1) ≤ n := by
  induction n using Nat.strongRecOn with
  | ind n ih =>
      unfold digitsOf
      split
      · exact positive
      · next big =>
          have smaller := ih (n / 10) (by omega) (by omega)
          have some : 0 < (digitsOf (n / 10)).length :=
            List.length_pos_iff.mpr (digitsOf_ne_nil (n / 10))
          have step : (digitsOf (n / 10)).length - 1 + 1 = (digitsOf (n / 10)).length := by omega
          rw [List.length_append, List.length_singleton, Nat.add_sub_cancel, ← step, Nat.pow_succ]
          omega

theorem lt_pow_digitsOf (n : Nat) : n < 10 ^ (digitsOf n).length := by
  induction n using Nat.strongRecOn with
  | ind n ih =>
      unfold digitsOf
      split
      · next small => simpa using small
      · next big =>
          have smaller := ih (n / 10) (by omega)
          rw [List.length_append, List.length_singleton, Nat.pow_succ]
          omega

def ReachesGrid (numerator denominator : Nat) (grid : Int) : Prop :=
  denominator * 10 ^ grid.toNat ≤ numerator * 10 ^ (-grid).toNat

theorem ReachesGrid.finer {numerator denominator : Nat} {grid finer : Int}
    (reaches : ReachesGrid numerator denominator grid) (below : finer ≤ grid) :
    ReachesGrid numerator denominator finer := by
  unfold ReachesGrid at reaches ⊢
  have coarse : 10 ^ finer.toNat ≤ 10 ^ grid.toNat :=
    Nat.pow_le_pow_right (by decide) (by omega)
  have fine : 10 ^ (-grid).toNat ≤ 10 ^ (-finer).toNat :=
    Nat.pow_le_pow_right (by decide) (by omega)
  calc denominator * 10 ^ finer.toNat
      ≤ denominator * 10 ^ grid.toNat := Nat.mul_le_mul_left _ coarse
    _ ≤ numerator * 10 ^ (-grid).toNat := reaches
    _ ≤ numerator * 10 ^ (-finer).toNat := Nat.mul_le_mul_left _ fine

theorem reachesGrid_leadingPower {numerator denominator : Nat} (positive : 0 < numerator)
    (divisible : 0 < denominator) :
    ReachesGrid numerator denominator (leadingPower numerator denominator) := by
  unfold ReachesGrid leadingPower
  split
  · next above =>
      have quotient : 0 < numerator / denominator := Nat.div_pos above divisible
      have lower := pow_le_of_digitsOf quotient
      have some := 
        List.length_pos_iff.mpr (digitsOf_ne_nil (numerator / denominator))
      have exponent : (((digitsOf (numerator / denominator)).length : Int) - 1).toNat =
          (digitsOf (numerator / denominator)).length - 1 := by omega
      have none : (-(((digitsOf (numerator / denominator)).length : Int) - 1)).toNat = 0 := by omega
      rw [exponent, none, Nat.pow_zero, Nat.mul_one]
      calc denominator * 10 ^ ((digitsOf (numerator / denominator)).length - 1)
          ≤ denominator * (numerator / denominator) := Nat.mul_le_mul_left _ lower
        _ ≤ numerator := Nat.mul_div_le numerator denominator
  · next below =>
      generalize inverse : (denominator + numerator - 1) / numerator = n
      have upper := lt_pow_digitsOf (n - 1)
      have covers : denominator ≤ numerator * n := by
        have remainder := Nat.mod_lt (denominator + numerator - 1) positive
        have division := Nat.div_add_mod (denominator + numerator - 1) numerator
        rw [inverse] at division
        omega
      have exponent : (-(-((digitsOf (n - 1)).length : Int))).toNat =
          (digitsOf (n - 1)).length := by omega
      have none : (-((digitsOf (n - 1)).length : Int)).toNat = 0 := by omega
      rw [exponent, none, Nat.pow_zero, Nat.mul_one]
      calc denominator ≤ numerator * n := covers
        _ ≤ numerator * 10 ^ (digitsOf (n - 1)).length := Nat.mul_le_mul_left _ (by omega)

namespace RoundingInterval

variable {i : RoundingInterval} {tie : TieRule} {grid : Int}

theorem quotient_pos (divisible : 0 < i.denominator)
    (reaches : ReachesGrid i.center i.denominator grid) :
    0 < i.center * 10 ^ (-grid).toNat / (i.denominator * 10 ^ grid.toNat) :=
  Nat.div_pos reaches (Nat.mul_pos divisible (Nat.pow_pos (by decide)))

theorem onGrid?_pos (divisible : 0 < i.denominator)
    (reaches : ReachesGrid i.center i.denominator grid) {coefficient : Nat}
    (found : i.onGrid? tie grid = some coefficient) : 0 < coefficient := by
  have down := quotient_pos divisible reaches
  unfold onGrid? at found
  grind

theorem search_pos (divisible : 0 < i.denominator) (steps : Nat)
    (reaches : ReachesGrid i.center i.denominator grid) :
    0 < (i.search tie steps grid).coefficient := by
  induction steps generalizing grid with
  | zero => exact quotient_pos divisible reaches
  | succ steps ih =>
      rw [search]
      split
      · next coefficient found => exact onGrid?_pos divisible reaches found
      · exact ih (reaches.finer (by omega))

end RoundingInterval

theorem dropTrailingZeros_ne_nil {n : Nat} (positive : 0 < n) :
    dropTrailingZeros (digitsOf n) ≠ [] := by
  obtain ⟨d, rest, digits, nonzero⟩ := digitsOf_head positive
  rw [digits, dropTrailingZeros]
  intro empty
  rw [List.reverse_eq_nil_iff, List.dropWhile_eq_nil_iff] at empty
  have zero := empty d (by simp)
  rw [decide_eq_true_eq] at zero
  subst zero
  exact nonzero rfl

namespace Binary64

theorem shortest_pos {exponent : Fin 2047} {fraction : Fin (2 ^ 52)} (tie : TieRule)
    (nonzero : significand exponent fraction ≠ 0) :
    0 < ((interval exponent fraction).shortest tie).coefficient := by
  have divisible : 0 < (interval exponent fraction).denominator := Nat.pow_pos (by decide)
  have center : 0 < (interval exponent fraction).center :=
    Nat.mul_pos (Nat.mul_pos (by decide) (Nat.pos_of_ne_zero nonzero)) (Nat.pow_pos (by decide))
  exact RoundingInterval.search_pos divisible 17 (reachesGrid_leadingPower center divisible)

theorem ofDigits_whole_ne_nil {ds : List Digit} (exponent : Int) (written : ds ≠ []) :
    (Positional.ofDigits ds exponent).whole ≠ [] := by
  have some := List.length_pos_iff.mpr written
  unfold Positional.ofDigits
  split
  · simp [written]
  · dsimp only
    split
    · next places =>
        apply List.ne_nil_of_length_pos
        rw [List.length_take]
        omega
    · simp

theorem pointText_eq (fraction : List Digit) :
    pointText fraction = if fraction.isEmpty then [] else '.' :: digitChars fraction := by
  cases fraction <;> rfl

theorem plainText_eq (negative : Bool) (exponent : Fin 2047) (fraction : Fin (2 ^ 52)) :
    ∃ whole places, whole ≠ [] ∧
      plainText negative exponent fraction = plainLiteral negative whole places := by
  have sign : ∀ unsigned : List Char, (if negative then '-' :: unsigned else unsigned) =
      (if negative then ['-'] else []) ++ unsigned := by
    intro unsigned
    cases negative <;> rfl
  rw [plainText, sign]
  by_cases zero : significand exponent fraction = 0
  · refine ⟨[0], [], by decide, ?_⟩
    have digit : ['0'] = digitChars [0] := by decide
    simp [zero, plainLiteral, pointText, digit]
  · have digits : (shortestDigits .upward exponent fraction).1 ≠ [] :=
      dropTrailingZeros_ne_nil (shortest_pos .upward zero)
    have written := ofDigits_whole_ne_nil (shortestDigits .upward exponent fraction).2 digits
    refine ⟨_, (Positional.ofDigits (shortestDigits .upward exponent fraction).1
      (shortestDigits .upward exponent fraction).2).fraction, written, ?_⟩
    rw [if_neg zero, plainLiteral, pointText_eq]

end Binary64

end RowConduit.Number
