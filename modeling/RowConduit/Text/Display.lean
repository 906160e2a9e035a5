import RowConduit.Text.Invisible

/-!
# Quotations in messages

A text as messages show it: between double quotes, with escapes for the quote, the backslash and
everything that has no visible form, so that two texts that differ also look different.
-/

namespace RowConduit.Text

/-- Lower-case hexadecimal digits of a code point, without leading zeros. -/
def hexCode (c : Char) : List Char :=
  Nat.toDigits 16 c.toNat

def showChar (c : Char) : List Char :=
  if c = '\x00' then ['\\', '0']
  else if c = '\t' then ['\\', 't']
  else if c = '\r' then ['\\', 'r']
  else if c = '\n' then ['\\', 'n']
  else if c = '"' || c = '\\' then ['\\', c]
  else if isInvisible c then ['\\', 'u', '\x7b'] ++ hexCode c ++ ['\x7d']
  else [c]

def quotation (s : String) : String :=
  String.ofList ('"' :: (s.toList.flatMap showChar ++ ['"']))

end RowConduit.Text
