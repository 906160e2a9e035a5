import RowConduit.Text.LetterCaseTable

/-!
# Lower case

The lower-case form of a text in full Unicode, for names that are matched without regard to case.
A capital sigma becomes the final form at the end of a word, and the capital I with a dot becomes a
small i that keeps the dot as a mark of its own.
-/

namespace RowConduit.Text

def isCased (c : Char) : Bool :=
  inRanges casedRanges c.toNat

/-- The character is passed over when looking for a cased neighbour. -/
def isCaseIgnorable (c : Char) : Bool :=
  inRanges caseIgnorableRanges c.toNat

def meetsCased (cs : List Char) : Bool :=
  match cs.dropWhile isCaseIgnorable with
  | [] => false
  | c :: _ => isCased c

def lowerChar (c : Char) : Char :=
  match capitalRuns.find? (·.holds c.toNat) with
  | some run => Char.ofNat (Int.toNat (c.toNat + run.shift))
  | none => c

def lowerFrom (before : List Char) : List Char → List Char
  | [] => []
  | c :: rest =>
      let lowered :=
        if c = 'Σ' then
          if meetsCased before && !meetsCased rest then ['ς'] else ['σ']
        else if c = 'İ' then ['i', '\u0307']
        else [lowerChar c]
      lowered ++ lowerFrom (c :: before) rest

def lower (s : String) : String :=
  String.ofList (lowerFrom [] s.toList)

end RowConduit.Text
