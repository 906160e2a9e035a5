import RowConduit.Number.Builtin

/-!
# Hexadecimal digits

Digits to base sixteen: written in lower case, read in either case, and the text of bytes as two
digits each.
-/

namespace RowConduit.Text

abbrev HexDigit : Type :=
  Fin 16

def hexChar (d : HexDigit) : Char :=
  if d.val < 10 then Char.ofNat (48 + d.val) else Char.ofNat (87 + d.val)

def hexDigit? (c : Char) : Option HexDigit :=
  let n := c.toNat
  if h : 48 ≤ n ∧ n ≤ 57 then some ⟨n - 48, by omega⟩
  else if h : 97 ≤ n ∧ n ≤ 102 then some ⟨n - 87, by omega⟩
  else if h : 65 ≤ n ∧ n ≤ 70 then some ⟨n - 55, by omega⟩
  else none

def hexDigits? : List Char → Option (List HexDigit)
  | [] => some []
  | c :: rest =>
      match hexDigit? c, hexDigits? rest with
      | some d, some ds => some (d :: ds)
      | _, _ => none

def byteOf (high low : HexDigit) : UInt8 :=
  UInt8.ofNat (16 * high.val + low.val)

def byteHex (b : UInt8) : List Char :=
  [hexChar (Fin.ofNat 16 (b.toNat / 16)), hexChar (Fin.ofNat 16 b.toNat)]

def bytesHex (bytes : List UInt8) : List Char :=
  bytes.flatMap byteHex

def readHexBytes? : List Char → Option (List UInt8)
  | [] => some []
  | [_] => none
  | a :: b :: rest =>
      match hexDigit? a, hexDigit? b, readHexBytes? rest with
      | some high, some low, some bytes => some (byteOf high low :: bytes)
      | _, _, _ => none

theorem hexDigit?_hexChar (d : HexDigit) : hexDigit? (hexChar d) = some d := by
  revert d
  decide

theorem readHexBytes?_bytesHex (bytes : List UInt8) :
    readHexBytes? (bytesHex bytes) = some bytes := by
  induction bytes with
  | nil => rfl
  | cons b rest ih =>
      have small := b.toNat_lt
      have split : UInt8.ofNat (16 * (b.toNat / 16 % 16) + b.toNat % 16) = b := by
        have whole : 16 * (b.toNat / 16 % 16) + b.toNat % 16 = b.toNat := by omega
        rw [whole, UInt8.ofNat_toNat]
      simp only [bytesHex] at ih
      simp [bytesHex, byteHex, readHexBytes?, hexDigit?_hexChar, ih, byteOf, Fin.ofNat, split]

end RowConduit.Text
