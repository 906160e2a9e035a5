import RowConduit.Text.Hex
import RowConduit.Text.Split

/-!
# UUIDs

An identifier of 128 bits as its 32 hexadecimal digits.  It is written in lower case in five groups
joined by hyphens, and read in four forms: plain digits, grouped, grouped in braces, and grouped
after the URN name.
-/

namespace RowConduit

open RowConduit.Text

structure Uuid where
  digits : List HexDigit
  length_eq : digits.length = 32
  deriving DecidableEq, Repr

namespace Uuid

def ofDigits? (digits : List HexDigit) : Option Uuid :=
  if h : digits.length = 32 then some ⟨digits, h⟩ else none

def group (cs : List Char) : List Char :=
  cs.take 8 ++ '-' :: (cs.drop 8).take 4 ++ '-' :: (cs.drop 12).take 4 ++
    '-' :: (cs.drop 16).take 4 ++ '-' :: cs.drop 20

def text (u : Uuid) : List Char :=
  group (u.digits.map hexChar)

/-- The characters of a grouped text without its hyphens, if they stand where they must. -/
def ungroup? (cs : List Char) : Option (List Char) :=
  let bare := cs.take 8 ++ (cs.drop 9).take 4 ++ (cs.drop 14).take 4 ++ (cs.drop 19).take 4 ++
    cs.drop 24
  if cs.length = 36 ∧ group bare = cs then some bare else none

def readPlain? (cs : List Char) : Option Uuid :=
  (hexDigits? cs).bind ofDigits?

def readGrouped? (cs : List Char) : Option Uuid :=
  (ungroup? cs).bind readPlain?

def readBraced? (cs : List Char) : Option Uuid :=
  (dropStart? ['\x7b'] cs).bind fun rest => (dropEnd? ['\x7d'] rest).bind readGrouped?

/-- Read the grouped form after the URN name, all in lower or all in upper case. -/
def readUrn? (cs : List Char) : Option Uuid :=
  match dropStart? "urn:uuid:".toList cs with
  | some rest => readGrouped? rest
  | none => (dropStart? "URN:UUID:".toList cs).bind readGrouped?

def read? (cs : List Char) : Option Uuid :=
  (readPlain? cs).or ((readGrouped? cs).or ((readBraced? cs).or (readUrn? cs)))

end Uuid

end RowConduit
