import RowConduit.Number.Builtin

/-!
# Base64

Bytes as text of the standard alphabet, three bytes to four characters, the last group filled up
with `=`.  Reading wants the fill and no left-over bits, so every byte string has one text only.
-/

namespace RowConduit.Text

abbrev Sextet : Type :=
  Fin 64

def sextetChar (s : Sextet) : Char :=
  let n := s.val
  if n < 26 then Char.ofNat (65 + n)
  else if n < 52 then Char.ofNat (71 + n)
  else if n < 62 then Char.ofNat (n - 4)
  else if n = 62 then '+'
  else '/'

def sextet? (c : Char) : Option Sextet :=
  let n := c.toNat
  if h : 65 ≤ n ∧ n ≤ 90 then some ⟨n - 65, by omega⟩
  else if h : 97 ≤ n ∧ n ≤ 122 then some ⟨n - 71, by omega⟩
  else if h : 48 ≤ n ∧ n ≤ 57 then some ⟨n + 4, by omega⟩
  else if n = 43 then some 62
  else if n = 47 then some 63
  else none

/-- The six bits at a place of a number, places counted from the right. -/
def sextetAt (n place : Nat) : Sextet :=
  Fin.ofNat 64 (n / 64 ^ place)

def base64Text : List UInt8 → List Char
  | [] => []
  | [a] =>
      let n := a.toNat * 16
      [sextetChar (sextetAt n 1), sextetChar (sextetAt n 0), '=', '=']
  | [a, b] =>
      let n := (a.toNat * 256 + b.toNat) * 4
      [sextetChar (sextetAt n 2), sextetChar (sextetAt n 1), sextetChar (sextetAt n 0), '=']
  | a :: b :: c :: rest =>
      let n := (a.toNat * 256 + b.toNat) * 256 + c.toNat
      sextetChar (sextetAt n 3) :: sextetChar (sextetAt n 2) :: sextetChar (sextetAt n 1) ::
        sextetChar (sextetAt n 0) :: base64Text rest

/-- The byte of a two-character group; its last four bits are left over and must be zero. -/
def oneByte? (a b : Sextet) : Option (List UInt8) :=
  if b.val % 16 = 0 then some [UInt8.ofNat (a.val * 4 + b.val / 16)] else none

/-- The bytes of a three-character group; its last two bits are left over and must be zero. -/
def twoBytes? (a b c : Sextet) : Option (List UInt8) :=
  if c.val % 4 = 0 then
    some [UInt8.ofNat (a.val * 4 + b.val / 16), UInt8.ofNat (b.val % 16 * 16 + c.val / 4)]
  else
    none

def threeBytes (a b c d : Sextet) : List UInt8 :=
  [UInt8.ofNat (a.val * 4 + b.val / 16), UInt8.ofNat (b.val % 16 * 16 + c.val / 4),
    UInt8.ofNat (c.val % 4 * 64 + d.val)]

/-- Read bytes; only the last group may be filled up. -/
def readBase64? : List Char → Option (List UInt8)
  | [] => some []
  | a :: b :: c :: d :: rest =>
      match sextet? a, sextet? b with
      | some a, some b =>
          if c = '=' then
            if d = '=' && rest.isEmpty then oneByte? a b else none
          else
            match sextet? c with
            | none => none
            | some c =>
                if d = '=' then
                  if rest.isEmpty then twoBytes? a b c else none
                else
                  match sextet? d, readBase64? rest with
                  | some d, some bytes => some (threeBytes a b c d ++ bytes)
                  | _, _ => none
      | _, _ => none
  | _ => none

theorem sextet?_sextetChar (s : Sextet) : sextet? (sextetChar s) = some s := by
  revert s
  decide

end RowConduit.Text
