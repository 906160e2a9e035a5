import RowConduit.Number.Decimal
import RowConduit.Number.Shortest
import RowConduit.Proofs.Number.Integer
import RowConduit.Proofs.Text.Trim

/-!
# Numbers are written as literals

The texts of integers, exact decimals and finite double-precision numbers are decimal literals
without blanks.
-/

namespace RowConduit.Number

open RowConduit.Text

def pointText : List Digit → List Char
  | [] => []
  | d :: rest => '.' :: digitChars (d :: rest)

def plainLiteral (negative : Bool) (whole fraction : List Digit) : List Char :=
  (if negative then ['-'] else []) ++ (digitChars whole ++ pointText fraction)

theorem visible_digitChars (ds : List Digit) : Visible (digitChars ds) := by
  intro c member
  obtain ⟨d, _, rfl⟩ := List.mem_map.mp member
  exact isBlank_digitChar d

theorem visible_plainLiteral (negative : Bool) (whole fraction : List Digit) :
    Visible (plainLiteral negative whole fraction) := by
  have sign : Visible (if negative then ['-'] else []) := by
    cases negative with
    | false => exact visible_nil
    | true => exact Visible.cons (by decide) visible_nil
  have point : Visible (pointText fraction) := by
    cases fraction with
    | nil => exact visible_nil
    | cons d rest => exact Visible.cons (by decide) (visible_digitChars _)
  exact sign.append ((visible_digitChars whole).append point)

theorem takeSign_plain (negative : Bool) {d : Digit} (rest : List Char) :
    takeSign ((if negative then ['-'] else []) ++ digitChar d :: rest) =
      (negative, digitChar d :: rest) := by
  cases negative with
  | true => rfl
  | false =>
      have minus : digitChar d ≠ '-' := digitChar_ne (by decide) d
      have plus : digitChar d ≠ '+' := digitChar_ne (by decide) d
      simp only [Bool.false_eq_true, if_false, List.nil_append]
      unfold takeSign
      split
      · next same => exact absurd (List.cons.inj same).1 minus
      · next same => exact absurd (List.cons.inj same).1 plus
      · rfl

theorem takeFraction_pointText (fraction : List Digit) :
    takeFraction (pointText fraction) = (fraction, []) := by
  cases fraction with
  | nil => rfl
  | cons d rest =>
      have taken := takeDigits_digitChars (d :: rest) digitsEnd_nil
      rw [List.append_nil] at taken
      rw [pointText, takeFraction, taken]

theorem digitsEnd_pointText (fraction : List Digit) : DigitsEnd (pointText fraction) := by
  cases fraction with
  | nil => exact digitsEnd_nil
  | cons d rest => exact digitsEnd_cons _ (by decide)

/-- A literal with a digit before the point is taken apart into its parts. -/
theorem read?_plainLiteral (negative : Bool) {whole : List Digit} (fraction : List Digit)
    (written : whole ≠ []) :
    DecimalLiteral.read? (plainLiteral negative whole fraction) =
      some ⟨negative, whole, fraction, 0⟩ := by
  cases whole with
  | nil => exact absurd rfl written
  | cons d rest =>
      have digits := takeDigits_digitChars (d :: rest) (digitsEnd_pointText fraction)
      have signed := takeSign_plain negative (d := d) (digitChars rest ++ pointText fraction)
      have shape : plainLiteral negative (d :: rest) fraction =
          (if negative then ['-'] else []) ++
            digitChar d :: (digitChars rest ++ pointText fraction) := rfl
      rw [shape, DecimalLiteral.read?, signed]
      dsimp only
      rw [show digitChar d :: (digitChars rest ++ pointText fraction) =
        digitChars (d :: rest) ++ pointText fraction from rfl, digits]
      dsimp only
      rw [takeFraction_pointText]
      rfl

theorem isDecimalLiteral_plainLiteral (negative : Bool) {whole : List Digit}
    (fraction : List Digit) (written : whole ≠ []) :
    isDecimalLiteral (plainLiteral negative whole fraction) = true := by
  rw [isDecimalLiteral, read?_plainLiteral negative fraction written]
  rfl

theorem int64Text_eq (i : Int64) :
    int64Text i = plainLiteral (decide (i.toInt < 0)) (digitsOf i.toInt.natAbs) [] := by
  rw [int64Text, intText, plainLiteral, pointText, List.append_nil]
  by_cases negative : i.toInt < 0
  · simp [negative, natText]
  · simp [negative, natText]

/-- The places of a decimal are digits after the point, and at least one digit stands before. -/
theorem Decimal.text_eq (d : Decimal) :
    ∃ whole fraction, whole ≠ [] ∧
      d.text = plainLiteral (decide (d.coefficient < 0)) whole fraction ∧
      valueOf (whole ++ fraction) = d.coefficient.natAbs ∧ fraction.length = d.places.val := by
  have length : d.places.val + 1 ≤
      (paddedDigits (d.places.val + 1) d.coefficient.natAbs).length := by
    rw [paddedDigits, List.length_append, List.length_replicate]
    omega
  have sign : ∀ magnitude : List Char,
      (if d.coefficient < 0 then '-' :: magnitude else magnitude) =
        (if decide (d.coefficient < 0) then ['-'] else []) ++ magnitude := by
    intro magnitude
    by_cases negative : d.coefficient < 0 <;> simp [negative]
  have value := valueOf_paddedDigits (d.places.val + 1) d.coefficient.natAbs
  generalize shape : paddedDigits (d.places.val + 1) d.coefficient.natAbs = digits at length value
  rw [Decimal.text, sign, placedText, paddedText_eq, shape]
  by_cases integral : d.places.val = 0
  · refine ⟨digits, [], ?_, ?_, ?_, ?_⟩
    · exact List.ne_nil_of_length_pos (by omega)
    · simp [integral, plainLiteral, pointText]
    · rw [List.append_nil, value]
    · rw [integral, List.length_nil]
  · have nonempty : digits.drop (digits.length - d.places.val) ≠ [] := by
      apply List.ne_nil_of_length_pos
      rw [List.length_drop]
      omega
    refine ⟨digits.take (digits.length - d.places.val),
      digits.drop (digits.length - d.places.val), ?_, ?_, ?_, ?_⟩
    · apply List.ne_nil_of_length_pos
      rw [List.length_take]
      omega
    · have point : pointText (digits.drop (digits.length - d.places.val)) =
          '.' :: digitChars (digits.drop (digits.length - d.places.val)) := by
        cases after : digits.drop (digits.length - d.places.val) with
        | nil => exact absurd after nonempty
        | cons first rest => rfl
      simp [integral, plainLiteral, point, digitChars]
    · rw [List.take_append_drop, value]
    · rw [List.length_drop]
      omega

end RowConduit.Number
