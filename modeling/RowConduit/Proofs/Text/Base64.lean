import RowConduit.Proofs.Text.Trim
import RowConduit.Text.Base64

/-!
# Reading base64 undoes writing it

Every byte string is read back from its text, and from no other: a group is read only as it would be
written, since the fill must be there and the bits that are left over must be zero.  The text holds
no blank and no backslash, so it can be trimmed and is never taken for hexadecimal.
-/

namespace RowConduit.Text

theorem sextetChar_ne {c : Char} (other : sextet? c = none) (s : Sextet) : sextetChar s ≠ c := by
  rintro rfl
  rw [sextet?_sextetChar] at other
  cases other

theorem isBlank_sextetChar (s : Sextet) : isBlank (sextetChar s) = false := by
  revert s
  decide

/-- The characters of base64: those of six bits, and the fill. -/
def IsBase64Char (c : Char) : Prop :=
  c = '=' ∨ ∃ s, c = sextetChar s

theorem isBase64Char_of_mem {bytes : List UInt8} {c : Char} (member : c ∈ base64Text bytes) :
    IsBase64Char c := by
  fun_induction base64Text bytes with
  | case1 => cases member
  | case2 a n =>
      simp only [List.mem_cons, List.not_mem_nil, or_false, or_self] at member
      rcases member with rfl | rfl | rfl
      · exact Or.inr ⟨_, rfl⟩
      · exact Or.inr ⟨_, rfl⟩
      · exact Or.inl rfl
  | case3 a b n =>
      simp only [List.mem_cons, List.not_mem_nil, or_false] at member
      rcases member with rfl | rfl | rfl | rfl
      · exact Or.inr ⟨_, rfl⟩
      · exact Or.inr ⟨_, rfl⟩
      · exact Or.inr ⟨_, rfl⟩
      · exact Or.inl rfl
  | case4 a b c' rest n ih =>
      simp only [List.mem_cons] at member
      rcases member with rfl | rfl | rfl | rfl | inRest
      · exact Or.inr ⟨_, rfl⟩
      · exact Or.inr ⟨_, rfl⟩
      · exact Or.inr ⟨_, rfl⟩
      · exact Or.inr ⟨_, rfl⟩
      · exact ih inRest

theorem visible_base64Text (bytes : List UInt8) : Visible (base64Text bytes) := by
  intro c member
  rcases isBase64Char_of_mem member with rfl | ⟨s, rfl⟩
  · decide
  · exact isBlank_sextetChar s

theorem notMem_base64Text {c : Char} (foreign : sextet? c = none) (unfilled : c ≠ '=')
    (bytes : List UInt8) : c ∉ base64Text bytes := by
  intro member
  rcases isBase64Char_of_mem member with filler | ⟨s, same⟩
  · exact unfilled filler
  · exact sextetChar_ne foreign s same.symm

theorem oneByte?_sextetAt (a : UInt8) :
    oneByte? (sextetAt (a.toNat * 16) 1) (sextetAt (a.toNat * 16) 0) = some [a] := by
  have small := a.toNat_lt
  have spare : a.toNat * 16 / 64 ^ 0 % 64 % 16 = 0 := by omega
  have value : a.toNat * 16 / 64 ^ 1 % 64 * 4 + a.toNat * 16 / 64 ^ 0 % 64 / 16 = a.toNat := by
    omega
  simp only [oneByte?, sextetAt, Fin.ofNat, spare, value, if_true, UInt8.ofNat_toNat]

theorem twoBytes?_sextetAt (a b : UInt8) :
    twoBytes? (sextetAt ((a.toNat * 256 + b.toNat) * 4) 2)
      (sextetAt ((a.toNat * 256 + b.toNat) * 4) 1)
      (sextetAt ((a.toNat * 256 + b.toNat) * 4) 0) = some [a, b] := by
  have smallA := a.toNat_lt
  have smallB := b.toNat_lt
  generalize number : (a.toNat * 256 + b.toNat) * 4 = n
  have spare : n / 64 ^ 0 % 64 % 4 = 0 := by omega
  have first : n / 64 ^ 2 % 64 * 4 + n / 64 ^ 1 % 64 / 16 = a.toNat := by omega
  have second : n / 64 ^ 1 % 64 % 16 * 16 + n / 64 ^ 0 % 64 / 4 = b.toNat := by omega
  simp only [twoBytes?, sextetAt, Fin.ofNat, spare, first, second, if_true, UInt8.ofNat_toNat]

theorem threeBytes_sextetAt (a b c : UInt8) :
    threeBytes (sextetAt ((a.toNat * 256 + b.toNat) * 256 + c.toNat) 3)
      (sextetAt ((a.toNat * 256 + b.toNat) * 256 + c.toNat) 2)
      (sextetAt ((a.toNat * 256 + b.toNat) * 256 + c.toNat) 1)
      (sextetAt ((a.toNat * 256 + b.toNat) * 256 + c.toNat) 0) = [a, b, c] := by
  have smallA := a.toNat_lt
  have smallB := b.toNat_lt
  have smallC := c.toNat_lt
  generalize number : (a.toNat * 256 + b.toNat) * 256 + c.toNat = n
  have first : n / 64 ^ 3 % 64 * 4 + n / 64 ^ 2 % 64 / 16 = a.toNat := by omega
  have second : n / 64 ^ 2 % 64 % 16 * 16 + n / 64 ^ 1 % 64 / 4 = b.toNat := by omega
  have third : n / 64 ^ 1 % 64 % 4 * 64 + n / 64 ^ 0 % 64 = c.toNat := by omega
  simp only [threeBytes, sextetAt, Fin.ofNat, first, second, third, UInt8.ofNat_toNat]

theorem readBase64?_base64Text (bytes : List UInt8) :
    readBase64? (base64Text bytes) = some bytes := by
  have filler : sextet? '=' = none := by decide
  have written : ∀ s, sextetChar s ≠ '=' := sextetChar_ne filler
  fun_induction base64Text bytes with
  | case1 => rfl
  | case2 a n =>
      have byte := oneByte?_sextetAt a
      simp [readBase64?, sextet?_sextetChar, n, byte]
  | case3 a b n =>
      have both := twoBytes?_sextetAt a b
      simp [readBase64?, sextet?_sextetChar, written, n, both]
  | case4 a b c rest n ih =>
      have group := threeBytes_sextetAt a b c
      simp [readBase64?, sextet?_sextetChar, written, n, group, ih]

theorem sextetChar_of_sextet? {c : Char} {s : Sextet} (read : sextet? c = some s) :
    sextetChar s = c := by
  have code : Char.ofNat c.toNat = c := Char.ofNat_toNat c
  by_cases plus : c.toNat = 43
  · rw [plus] at code
    subst code
    cases read
    rfl
  · by_cases slash : c.toNat = 47
    · rw [slash] at code
      subst code
      cases read
      rfl
    · unfold sextet? at read
      unfold sextetChar
      grind

theorem sextetAt_eq {n place : Nat} {s : Sextet} (bits : n / 64 ^ place % 64 = s.val) :
    sextetAt n place = s :=
  Fin.ext bits

theorem toNat_byte {n : Nat} (small : n < 256) : (UInt8.ofNat n).toNat = n :=
  UInt8.toNat_ofNat_of_lt' small

theorem base64Text_of_oneByte? {a b : Sextet} {bytes : List UInt8}
    (read : oneByte? a b = some bytes) :
    base64Text bytes = [sextetChar a, sextetChar b, '=', '='] := by
  unfold oneByte? at read
  split at read
  · cases read
    have byte := toNat_byte (n := a.val * 4 + b.val / 16) (by omega)
    have first : sextetAt ((a.val * 4 + b.val / 16) * 16) 1 = a := sextetAt_eq (by omega)
    have second : sextetAt ((a.val * 4 + b.val / 16) * 16) 0 = b := sextetAt_eq (by omega)
    simp only [base64Text, byte, first, second]
  · cases read

theorem base64Text_of_twoBytes? {a b c : Sextet} {bytes : List UInt8}
    (read : twoBytes? a b c = some bytes) :
    base64Text bytes = [sextetChar a, sextetChar b, sextetChar c, '='] := by
  unfold twoBytes? at read
  split at read
  · cases read
    have byte₁ := toNat_byte (n := a.val * 4 + b.val / 16) (by omega)
    have byte₂ := toNat_byte (n := b.val % 16 * 16 + c.val / 4) (by omega)
    generalize number :
      ((a.val * 4 + b.val / 16) * 256 + (b.val % 16 * 16 + c.val / 4)) * 4 = n
    have first : sextetAt n 2 = a := sextetAt_eq (by omega)
    have second : sextetAt n 1 = b := sextetAt_eq (by omega)
    have third : sextetAt n 0 = c := sextetAt_eq (by omega)
    simp only [base64Text, byte₁, byte₂, number, first, second, third]
  · cases read

theorem base64Text_threeBytes (a b c d : Sextet) (bytes : List UInt8) :
    base64Text (threeBytes a b c d ++ bytes) =
      sextetChar a :: sextetChar b :: sextetChar c :: sextetChar d :: base64Text bytes := by
  have byte₁ := toNat_byte (n := a.val * 4 + b.val / 16) (by omega)
  have byte₂ := toNat_byte (n := b.val % 16 * 16 + c.val / 4) (by omega)
  have byte₃ := toNat_byte (n := c.val % 4 * 64 + d.val) (by omega)
  generalize number :
    ((a.val * 4 + b.val / 16) * 256 + (b.val % 16 * 16 + c.val / 4)) * 256 +
      (c.val % 4 * 64 + d.val) = n
  have first : sextetAt n 3 = a := sextetAt_eq (by omega)
  have second : sextetAt n 2 = b := sextetAt_eq (by omega)
  have third : sextetAt n 1 = c := sextetAt_eq (by omega)
  have fourth : sextetAt n 0 = d := sextetAt_eq (by omega)
  simp only [threeBytes, List.cons_append, List.nil_append, base64Text, byte₁, byte₂, byte₃,
    number, first, second, third, fourth]

theorem base64Text_of_readBase64? {cs : List Char} {bytes : List UInt8}
    (read : readBase64? cs = some bytes) : base64Text bytes = cs := by
  -- each group that can be read is written with the characters it was read from
  fun_induction readBase64? cs generalizing bytes with
  | case1 =>
      cases read
      rfl
  | case2 a b d rest sa sb second first last =>
      obtain ⟨fill, ended⟩ := (Bool.and_eq_true _ _).mp last
      rw [base64Text_of_oneByte? read, sextetChar_of_sextet? first, sextetChar_of_sextet? second,
        of_decide_eq_true fill, List.isEmpty_iff.mp ended]
  | case5 a b c rest sa sb second first _ sc third ended =>
      rw [base64Text_of_twoBytes? read, sextetChar_of_sextet? first, sextetChar_of_sextet? second,
        sextetChar_of_sextet? third, List.isEmpty_iff.mp ended]
  | case7 a b c d rest sa sb second first _ sc third _ sd later reading fourth ih =>
      cases read
      rw [base64Text_threeBytes, sextetChar_of_sextet? first, sextetChar_of_sextet? second,
        sextetChar_of_sextet? third, sextetChar_of_sextet? fourth, ih reading]
  | _ => cases read

/-- Bytes are read from their text, and from no other. -/
theorem readBase64?_eq_some_iff {cs : List Char} {bytes : List UInt8} :
    readBase64? cs = some bytes ↔ cs = base64Text bytes := by
  constructor
  · intro read
    exact (base64Text_of_readBase64? read).symm
  · rintro rfl
    exact readBase64?_base64Text bytes

theorem readBase64?_foreign {c : Char} (foreign : sextet? c = none) (unfilled : c ≠ '=')
    (rest : List Char) : readBase64? (c :: rest) = none := by
  refine Option.eq_none_iff_forall_ne_some.mpr fun bytes read => ?_
  have written := readBase64?_eq_some_iff.mp read
  apply notMem_base64Text foreign unfilled bytes
  rw [← written]
  exact List.mem_cons_self

end RowConduit.Text
