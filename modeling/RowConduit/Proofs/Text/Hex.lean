import Mathlib
import RowConduit.Proofs.Text.Spelling
import RowConduit.Text.Hex

/-!
# Hexadecimal texts of bytes

A text is read as bytes exactly if it becomes their written form when it is put in lower case: each
byte has two digits, in order, and each digit may be written in either case.
-/

namespace RowConduit.Text

theorem isUpper_iff {c : Char} : c.isUpper = true ↔ 65 ≤ c.toNat ∧ c.toNat ≤ 90 := by
  simp [Char.isUpper, UInt32.le_iff_toNat_le, ← Char.toNat_val]

theorem hexDigit?_toLower (c : Char) : hexDigit? c.toLower = hexDigit? c := by
  by_cases upper : c.isUpper = true
  · obtain ⟨above, below⟩ := isUpper_iff.mp upper
    have valid : (c.toNat + 32).isValidChar := Or.inl (by omega)
    have code : c.toLower.toNat = c.toNat + 32 := by
      rw [Char.toLower_eq_of_isUpper upper, Char.toNat_ofNat, if_pos valid]
    have shift : c.toNat + 32 - 87 = c.toNat - 55 := by omega
    simp only [hexDigit?, code, shift]
    grind
  · rw [Char.toLower_eq_of_not_isUpper upper]

theorem hexChar_of_hexDigit? {c : Char} {d : HexDigit} (lower : c.isUpper = false)
    (read : hexDigit? c = some d) : hexChar d = c := by
  unfold hexDigit? at read
  dsimp only at read
  split at read
  · next decimal =>
    cases read
    have small : c.toNat - 48 < 10 := by omega
    rw [hexChar, if_pos small, Nat.add_sub_cancel' decimal.1, Char.ofNat_toNat]
  · split at read
    · next letter =>
      cases read
      have large : ¬ c.toNat - 87 < 10 := by omega
      have start : 87 ≤ c.toNat := by omega
      rw [hexChar, if_neg large, Nat.add_sub_cancel' start, Char.ofNat_toNat]
    · split at read
      · next capital =>
        have upper := isUpper_iff.mpr ⟨capital.1, by omega⟩
        rw [lower] at upper
        cases upper
      · cases read

theorem hexDigit?_eq_some_iff {c : Char} {d : HexDigit} :
    hexDigit? c = some d ↔ c.toLower = hexChar d := by
  constructor
  · intro read
    rw [← hexDigit?_toLower] at read
    exact (hexChar_of_hexDigit? (Char.isUpper_toLower_eq_false c) read).symm
  · intro same
    rw [← hexDigit?_toLower, same, hexDigit?_hexChar]

theorem isBlank_hexChar (d : HexDigit) : isBlank (hexChar d) = false := by
  revert d
  decide

theorem visible_bytesHex (bytes : List UInt8) : Visible (bytesHex bytes) := by
  intro c member
  obtain ⟨b, _, digit⟩ := List.mem_flatMap.mp member
  simp only [byteHex, List.mem_cons, List.not_mem_nil, or_false] at digit
  rcases digit with rfl | rfl <;> exact isBlank_hexChar _

theorem byteHex_byteOf (high low : HexDigit) :
    byteHex (byteOf high low) = [hexChar high, hexChar low] := by
  have code : (byteOf high low).toNat = 16 * high.val + low.val := by
    rw [byteOf, UInt8.toNat_ofNat', Nat.mod_eq_of_lt (by omega)]
  have first : Fin.ofNat 16 ((16 * high.val + low.val) / 16) = high := by
    apply Fin.ext
    rw [Fin.val_ofNat]
    omega
  have second : Fin.ofNat 16 (16 * high.val + low.val) = low := by
    apply Fin.ext
    rw [Fin.val_ofNat]
    omega
  rw [byteHex, code, first, second]

theorem readHexBytes?_map_toLower (cs : List Char) :
    readHexBytes? (cs.map Char.toLower) = readHexBytes? cs := by
  fun_induction readHexBytes? cs <;> simp_all [readHexBytes?, hexDigit?_toLower]

theorem readHexBytes?_eq_some_iff {cs : List Char} {bytes : List UInt8} :
    readHexBytes? cs = some bytes ↔ cs.map Char.toLower = bytesHex bytes := by
  constructor
  · intro read
    fun_induction readHexBytes? cs generalizing bytes with
    | case1 =>
        cases read
        rfl
    | case2 => cases read
    | case3 a b rest high low found later second first ih =>
        cases read
        have digits := byteHex_byteOf high low
        rw [hexDigit?_eq_some_iff] at first second
        rw [List.map_cons, List.map_cons, first, second, ih later, bytesHex, bytesHex,
          List.flatMap_cons, digits]
        rfl
    | case4 => cases read
  · intro same
    rw [← readHexBytes?_map_toLower, same, readHexBytes?_bytesHex]

end RowConduit.Text
