import RowConduit.Proofs.Number.Written
import RowConduit.Proofs.Types.Grammar
import RowConduit.Proofs.Types.LookupName

/-!
# Oracle numbers

An Oracle number type gives a precision and perhaps a scale.  Its values are the whole numbers of at
most so many digits, moved behind the point by the scale.  The type is an integer if the precision
is at most eighteen and the scale is taken for zero: it is not given, it is zero, or it is one of
those that are not read, which are the negative ones and those beyond 32 bits.  A negative scale
puts zeros behind the digits, and so the values of an integer column may be too large for one.
-/

namespace RowConduit

open RowConduit.Text RowConduit.Number

namespace Text

inductive Padded (cs : List Char) : List Char → Prop where
  | around {before after : List Char} (first : AllBlank before) (last : AllBlank after) :
      Padded cs (before ++ (cs ++ after))

namespace Padded

variable {cs whole : List Char}

theorem trim_eq (padded : Padded cs whole) : trim whole = trim cs := by
  obtain ⟨first, last⟩ := padded
  exact trim_padded first last cs

theorem free {c : Char} (padded : Padded cs whole) (visible : isBlank c = false)
    (without : ∀ d ∈ cs, d ≠ c) : ∀ d ∈ whole, d ≠ c := by
  obtain ⟨first, last⟩ := padded
  intro d listed
  rcases List.mem_append.mp listed with inBefore | inRest
  · exact first.ne visible d inBefore
  · rcases List.mem_append.mp inRest with inText | inAfter
    · exact without d inText
    · exact last.ne visible d inAfter

end Padded

end Text

namespace Number.WrittenInteger

theorem text_free {c : Char} (n : WrittenInteger) (other : digit? c = none) (plus : c ≠ '+')
    (minus : c ≠ '-') : ∀ d ∈ n.text, d ≠ c := by
  intro d listed
  rcases List.mem_append.mp listed with inSign | inDigits
  · cases sign : n.sign <;> simp_all [Sign.text, ne_comm]
  · obtain ⟨digit, _, rfl⟩ := List.mem_map.mp inDigits
    exact digitChar_ne other digit

theorem value_nonpos_of_minus {n : WrittenInteger} (minus : n.sign = .minus) : n.value ≤ 0 := by
  rw [value_eq, minus]
  simp [Sign.isMinus]

end Number.WrittenInteger

namespace TypeExpr

section Sizes

variable {n : WrittenInteger} {cs : List Char}

theorem sizeNumber?_eq_some_iff (padded : Padded n.text cs) {i : UInt32} :
    sizeNumber? cs = some i ↔ n.sign ≠ .minus ∧ n.value = i.toNat := by
  rw [← readUInt32_text_eq_ok_iff, sizeNumber?_eq_some_iff_read, padded.trim_eq,
    trim_of_visible n.visible_text]

theorem exists_sizeNumber? (padded : Padded n.text cs) (positive : 0 < n.value)
    (narrow : n.value < 2 ^ 32) : ∃ i, sizeNumber? cs = some i ∧ n.value = i.toNat := by
  have plus : n.sign ≠ .minus := by
    intro minus
    have nonpos := n.value_nonpos_of_minus minus
    omega
  have below : n.value.toNat < UInt32.size := by
    rw [UInt32.size]
    omega
  have value : n.value = (UInt32.ofNat n.value.toNat).toNat := by
    rw [UInt32.toNat_ofNat_of_lt' below]
    omega
  exact ⟨_, (sizeNumber?_eq_some_iff padded).mpr ⟨plus, value⟩, value⟩

/-- A number that is not read is taken for zero, and so is zero. -/
theorem sizeNumber?_getD_eq_zero_iff (padded : Padded n.text cs) :
    (sizeNumber? cs).getD 0 = 0 ↔ n.value ≤ 0 ∨ 2 ^ 32 ≤ n.value := by
  cases read : sizeNumber? cs with
  | some i =>
      have value := ((sizeNumber?_eq_some_iff padded).mp read).2
      have below := i.toNat_lt
      rw [Option.getD_some, ← UInt32.toNat_inj, UInt32.toNat_zero]
      omega
  | none =>
      refine ⟨fun _ => ?_, fun _ => rfl⟩
      by_contra other
      obtain ⟨i, found, _⟩ := exists_sizeNumber? padded (by omega) (by omega)
      rw [read] at found
      cases found

theorem fitsInteger_sizeNumber?_iff (padded : Padded n.text cs) (positive : 0 < n.value)
    (scale : Option UInt32) :
    TypeMapper.fitsInteger (sizeNumber? cs) scale = true ↔ n.value ≤ 18 ∧ scale.getD 0 = 0 := by
  cases read : sizeNumber? cs with
  | some i =>
      have value := ((sizeNumber?_eq_some_iff padded).mp read).2
      have above : (0 < i) ↔ 0 < n.value := by
        rw [UInt32.lt_iff_toNat_lt, UInt32.toNat_zero]
        omega
      have eighteen : TypeMapper.maxIntegerPrecision.toNat = 18 := rfl
      have within : i ≤ TypeMapper.maxIntegerPrecision ↔ n.value ≤ 18 := by
        rw [UInt32.le_iff_toNat_le, eighteen]
        omega
      simp only [TypeMapper.fitsInteger, Bool.and_eq_true, decide_eq_true_eq, beq_iff_eq, above,
        within, positive, true_and]
  | none =>
      refine ⟨nofun, fun fits => ?_⟩
      obtain ⟨i, found, _⟩ := exists_sizeNumber? padded positive (by omega)
      rw [read] at found
      cases found

def sized (name gap arguments : List Char) : List Char :=
  name ++ (gap ++ '(' :: (arguments ++ [')']))

variable {name gap arguments : List Char} (word : IsWord name) (blank : AllBlank gap)

section Sized

include word blank

theorem cutAt?_sized :
    cutAt? (· = '(') (sized name gap arguments) = some (name ++ gap, arguments ++ [')']) :=
  cutAt?_word word blank (by decide) (by decide) _

theorem stripSize_sized : stripSize (sized name gap arguments) = name := by
  have closed : dropEnd? [')'] (sized name gap arguments) =
      some (name ++ (gap ++ '(' :: arguments)) := by
    have dropped := dropEnd?_append (name ++ (gap ++ '(' :: arguments)) [')']
    simpa [sized] using dropped
  have trimmed : trimEnd name = name := by
    have ends := trim_of_visible (visible_word word)
    rw [trim, trimStart, dropWhile_eq_self] at ends
    · exact ends
    · exact fun c first => visible_word word c (List.mem_of_mem_head? first)
  rw [stripSize, cutAt?_sized word blank, closed]
  dsimp only
  rw [trimEnd_append_of_allBlank name blank, trimmed]

omit blank in
theorem trim_sized : trim (sized name gap arguments) = sized name gap arguments := by
  have ends := trim_word_concat word (by decide : isBlank ')' = false) (gap ++ '(' :: arguments)
  simpa [sized] using ends

theorem parse_sized :
    parse (sized name gap arguments) = leafOf name (sized name gap arguments) := by
  have last : (sized name gap arguments).getLast? = some ')' := by
    rw [sized, ← List.cons_append, ← List.append_assoc, ← List.append_assoc, List.getLast?_concat]
  rw [parse_of_end, trim_sized word, stripSize_sized word blank]
  rw [trim_sized word, last]
  rintro _ ⟨⟩
  decide

theorem sizeNumbers_sized (unclosed : ∀ c ∈ arguments, c ≠ ')') :
    sizeNumbers (sized name gap arguments) =
      match pieces (· = ',') arguments with
      | [] => (none, none)
      | [only] => (sizeNumber? only, none)
      | first :: second :: _ => (sizeNumber? first, sizeNumber? second) := by
  have free : ∀ c ∈ arguments, decide (c = ')') = false := by simpa using unclosed
  rw [sizeNumbers, cutAt?_sized word blank]
  dsimp only
  rewrite [cutAt?_append_cons free (by decide)]
  rfl

end Sized

end Sizes

end TypeExpr

/-- An Oracle number type as written: a positive precision and perhaps a scale. -/
structure NumberType where
  precision : WrittenInteger
  scale : Option WrittenInteger
  positive : 0 < precision.value

namespace NumberType

inductive Lists (precision : WrittenInteger) : Option WrittenInteger → List Char → Prop where
  | single {first : List Char} (padded : Padded precision.text first) :
      Lists precision none first
  | pair {scale : WrittenInteger} {first second : List Char}
      (padded : Padded precision.text first) (scalePadded : Padded scale.text second) :
      Lists precision (some scale) (first ++ ',' :: second)

inductive Renders (t : NumberType) : List Char → Prop where
  | written {name gap arguments cs : List Char} (spelled : Spells "number" name)
      (blank : AllBlank gap) (lists : Lists t.precision t.scale arguments)
      (padded : Padded (TypeExpr.sized name gap arguments) cs) : Renders t cs

def places (t : NumberType) : Int :=
  t.scale.elim 0 WrittenInteger.value

def IsValue (t : NumberType) (v : ℚ) : Prop :=
  ∃ n : Int, |n| < 10 ^ t.precision.value.toNat ∧ v = n * (10 : ℚ) ^ (-t.places)

variable {precision : WrittenInteger} {scale : Option WrittenInteger} {arguments : List Char}

theorem Lists.free {c : Char} (lists : Lists precision scale arguments)
    (visible : isBlank c = false) (other : digit? c = none) (sign : c ≠ '+' ∧ c ≠ '-')
    (comma : c ≠ ',') : ∀ d ∈ arguments, d ≠ c := by
  cases lists with
  | single padded => exact padded.free visible (precision.text_free other sign.1 sign.2)
  | @pair scale first second padded scalePadded =>
      intro d listed
      rcases List.mem_append.mp listed with inFirst | behind
      · exact padded.free visible (precision.text_free other sign.1 sign.2) d inFirst
      · rcases List.mem_cons.mp behind with rfl | inSecond
        · exact comma.symm
        · exact scalePadded.free visible (scale.text_free other sign.1 sign.2) d inSecond

theorem comma_free {n : WrittenInteger} {cs : List Char} (padded : Padded n.text cs) :
    ∀ c ∈ cs, decide (c = ',') = false := by
  have other : digit? ',' = none := by decide
  have free := padded.free (by decide) (n.text_free other (by decide) (by decide))
  exact fun c listed => decide_eq_false (free c listed)

/-- The precision is read from its text; the scale is zero, or it is taken for zero. -/
theorem Lists.sizeNumbers {name gap : List Char} (lists : Lists precision scale arguments)
    (word : TypeExpr.IsWord name) (blank : AllBlank gap) :
    ∃ first, Padded precision.text first ∧
      (TypeExpr.sizeNumbers (TypeExpr.sized name gap arguments)).1 =
        TypeExpr.sizeNumber? first ∧
      ((TypeExpr.sizeNumbers (TypeExpr.sized name gap arguments)).2.getD 0 = 0 ↔
        scale.elim 0 WrittenInteger.value ≤ 0 ∨
          2 ^ 32 ≤ scale.elim 0 WrittenInteger.value) := by
  rw [TypeExpr.sizeNumbers_sized word blank
    (lists.free (by decide) (by decide) (by decide) (by decide))]
  cases lists with
  | single padded =>
      rw [pieces_of_free (comma_free padded)]
      exact ⟨_, padded, rfl, by simp⟩
  | @pair scale first second padded scalePadded =>
      rw [pieces_append_cons (comma_free padded) (by decide),
        pieces_of_free (comma_free scalePadded)]
      exact ⟨first, padded, rfl, TypeExpr.sizeNumber?_getD_eq_zero_iff scalePadded⟩

variable {t : NumberType}

/-- A number type is mapped to integers or to exact numbers, by its precision and its scale. -/
theorem Renders.mapType {raw : String} (rendered : t.Renders raw.toList) :
    TypeMapper.builtin.mapType .oracle raw none none =
      if t.precision.value ≤ 18 ∧ (t.places ≤ 0 ∨ 2 ^ 32 ≤ t.places) then .int
      else .numericString := by
  obtain @⟨name, gap, arguments, _, spelled, blank, lists, padded⟩ := rendered
  have word : TypeExpr.IsWord name := TypeExpr.isWord_of_spells spelled ⟨by simp, by simp⟩
  obtain ⟨first, firstPadded, firstRead, scaleRead⟩ := lists.sizeNumbers word blank
  have number : lookupName name = "number" := by
    rw [TypeExpr.lookupName_of_isWord word, spelled, String.ofList_toList]
  have fits := TypeExpr.fitsInteger_sizeNumber?_iff firstPadded t.positive
    (TypeExpr.sizeNumbers (TypeExpr.sized name gap arguments)).2
  rw [scaleRead] at fits
  have listed : TypeMapper.builtin.lookup? .oracle "number" = some .numericString := by decide
  have apart : ¬ (SourceKind.oracle = .mySql ∧ "number" = "tinyint" ∧
      TypeExpr.sizeNumber? first = some 1) := fun other => absurd other.1 (by decide)
  rw [TypeMapper.mapType, TypeExpr.parse_congr padded.trim_eq,
    TypeExpr.parse_sized word blank, TypeExpr.leafOf, TypeMapper.mapExpr,
    TypeMapper.mapScalar, number, firstRead, Option.none_or, Option.none_or, if_neg apart, listed]
  simp only [fits, true_and, Option.getD_some]
  rfl

section Range

variable (t)

/-- The greatest number of so many digits, with the zeros that a negative scale puts behind it. -/
def greatest : Int :=
  (10 ^ t.precision.value.toNat - 1) * 10 ^ (-t.places).toNat

theorem isValue_greatest (whole : t.places ≤ 0) : t.IsValue t.greatest := by
  refine ⟨10 ^ t.precision.value.toNat - 1, ?_, ?_⟩
  · have positive : (0 : Int) < 10 ^ t.precision.value.toNat := by positivity
    rw [abs_of_nonneg (by omega)]
    omega
  · have power : -t.places = ((-t.places).toNat : Int) := by omega
    rw [greatest, power, zpow_natCast, Int.toNat_natCast]
    push_cast
    rfl

theorem abs_le_of_isValue {v : ℚ} (value : t.IsValue v) : |v| ≤ t.greatest := by
  obtain ⟨n, small, rfl⟩ := value
  have digits : |(n : ℚ)| ≤ 10 ^ t.precision.value.toNat - 1 := by
    have below : |n| ≤ 10 ^ t.precision.value.toNat - 1 := by omega
    exact_mod_cast below
  have power : (10 : ℚ) ^ (-t.places) ≤ 10 ^ (-t.places).toNat := by
    rw [← zpow_natCast]
    exact zpow_le_zpow_right₀ (by norm_num) (by omega)
  rw [abs_mul, abs_of_pos (by positivity : (0 : ℚ) < 10 ^ (-t.places)), greatest]
  push_cast
  exact mul_le_mul digits power (by positivity) ((abs_nonneg _).trans digits)

theorem greatest_lt (narrow : t.precision.value ≤ 18) (fractional : 0 < t.places) :
    t.greatest < 2 ^ 63 := by
  have zeroless : (-t.places).toNat = 0 := by omega
  have digits : (10 : Int) ^ t.precision.value.toNat ≤ 10 ^ 18 :=
    pow_le_pow_right₀ (by norm_num) (by omega)
  rw [greatest, zeroless, pow_zero, mul_one]
  omega

theorem values_in_range_iff (narrow : t.precision.value ≤ 18) :
    (∀ v, t.IsValue v → -(2 ^ 63) ≤ v ∧ v ≤ 2 ^ 63 - 1) ↔ t.greatest < 2 ^ 63 := by
  constructor
  · intro within
    rcases le_or_gt t.places 0 with whole | fractional
    · have top := (within _ (t.isValue_greatest whole)).2
      have bounded : t.greatest ≤ 2 ^ 63 - 1 := by exact_mod_cast top
      omega
    · exact t.greatest_lt narrow fractional
  · intro below v value
    have bounded : t.greatest ≤ 2 ^ 63 - 1 := by omega
    have top : (t.greatest : ℚ) ≤ 2 ^ 63 - 1 := by exact_mod_cast bounded
    obtain ⟨low, high⟩ := abs_le.mp (t.abs_le_of_isValue value)
    exact ⟨by linarith, by linarith⟩

end Range

/--
A number type is mapped to integers if its precision is at most eighteen and its scale is negative,
zero, not given or beyond 32 bits, and to exact numbers otherwise.  The values of a type that is
mapped to integers are all in the range of 64 bits if and only if the greatest number of so many
digits is, with the zeros that a negative scale puts behind it.
-/
theorem mapType_number {raw : String} (rendered : t.Renders raw.toList) :
    (TypeMapper.builtin.mapType .oracle raw none none =
      if t.precision.value ≤ 18 ∧ (t.places ≤ 0 ∨ 2 ^ 32 ≤ t.places) then .int
      else .numericString) ∧
    (TypeMapper.builtin.mapType .oracle raw none none = .int →
      ((∀ v, t.IsValue v → -(2 ^ 63) ≤ v ∧ v ≤ 2 ^ 63 - 1) ↔ t.greatest < 2 ^ 63)) := by
  refine ⟨rendered.mapType, fun mapped => t.values_in_range_iff ?_⟩
  by_contra wide
  rw [rendered.mapType, if_neg (fun narrow => wide narrow.1)] at mapped
  cases mapped

def paddedNumber : NumberType where
  precision := ⟨.none, [0, 1, 8], by simp⟩
  scale := some ⟨.plus, [0], by simp⟩
  positive := by decide

theorem mapType_number_padded :
    paddedNumber.Renders " Number ( 018 , +0)".toList ∧
      TypeMapper.builtin.mapType .oracle " Number ( 018 , +0)" none none = .int ∧
      ∀ v, paddedNumber.IsValue v → -(2 ^ 63) ≤ v ∧ v ≤ 2 ^ 63 - 1 := by
  have empty : AllBlank [] := List.forall_mem_nil _
  have space : AllBlank [' '] := by simp [AllBlank, isBlank]
  have number : Spells "number" "Number".toList := by simp [Spells]
  have precision : Padded paddedNumber.precision.text " 018 ".toList := .around space space
  have scale : Padded (WrittenInteger.text ⟨.plus, [0], by simp⟩) " +0".toList :=
    .around space empty
  have rendered : paddedNumber.Renders " Number ( 018 , +0)".toList :=
    .written number space (.pair precision scale) (.around space empty)
  obtain ⟨mapped, ranged⟩ := mapType_number rendered
  have integer : TypeMapper.builtin.mapType .oracle " Number ( 018 , +0)" none none = .int :=
    mapped.trans (if_pos (by decide))
  exact ⟨rendered, integer, (ranged integer).mpr (by decide)⟩

def roundedNumber : NumberType where
  precision := ⟨.none, [1, 8], by simp⟩
  scale := some ⟨.minus, [2], by simp⟩
  positive := by decide

/-- A number with a negative scale is mapped to integers that its values do not fit. -/
theorem mapType_number_rounded :
    roundedNumber.Renders "NUMBER(18,-2)".toList ∧ roundedNumber.places ≠ 0 ∧
      TypeMapper.builtin.mapType .oracle "NUMBER(18,-2)" none none = .int ∧
      ∃ v, roundedNumber.IsValue v ∧ 2 ^ 63 - 1 < v := by
  have empty : AllBlank [] := List.forall_mem_nil _
  have number : Spells "number" "NUMBER".toList := by simp [Spells]
  have precision : Padded roundedNumber.precision.text "18".toList := .around empty empty
  have scale : Padded (WrittenInteger.text ⟨.minus, [2], by simp⟩) "-2".toList :=
    .around empty empty
  have rendered : roundedNumber.Renders "NUMBER(18,-2)".toList :=
    .written number empty (.pair precision scale) (.around empty empty)
  have value := roundedNumber.isValue_greatest (by decide)
  have greatest : roundedNumber.greatest = 99999999999999999900 := by decide
  rw [greatest] at value
  exact ⟨rendered, by decide, by decide +kernel, _, value, by norm_num⟩

end NumberType

end RowConduit
