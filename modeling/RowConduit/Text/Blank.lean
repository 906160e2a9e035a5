/-!
# Blanks

The characters that separate words and may surround a text, trimming at both ends, and the words
of a text.  A blank is any character with the white-space property, not only the ASCII ones.
-/

namespace RowConduit.Text

/-- The character is white space: the five controls, space, and the separators of other scripts. -/
def isBlank (c : Char) : Bool :=
  let n := c.toNat
  (9 ≤ n && n ≤ 13) || n == 32 || n == 0x85 || n == 0xA0 || n == 0x1680 ||
    (0x2000 ≤ n && n ≤ 0x200A) || n == 0x2028 || n == 0x2029 || n == 0x202F || n == 0x205F ||
    n == 0x3000

def trimStart (cs : List Char) : List Char :=
  cs.dropWhile isBlank

def trimEnd (cs : List Char) : List Char :=
  (cs.reverse.dropWhile isBlank).reverse

def trim (cs : List Char) : List Char :=
  trimEnd (trimStart cs)

def trimmed (s : String) : String :=
  String.ofList (trim s.toList)

def isBlankText (s : String) : Bool :=
  s.toList.all isBlank

/--
The words of a text: its longest runs of characters that are not blank.  `pending` is the word
being read, last character first.
-/
def wordsFrom (pending : List Char) : List Char → List (List Char)
  | [] => if pending.isEmpty then [] else [pending.reverse]
  | c :: rest =>
      if isBlank c then
        if pending.isEmpty then wordsFrom [] rest else pending.reverse :: wordsFrom [] rest
      else
        wordsFrom (c :: pending) rest

def words (cs : List Char) : List (List Char) :=
  wordsFrom [] cs

def join (separator : List Char) : List (List Char) → List Char
  | [] => []
  | [only] => only
  | first :: rest => first ++ separator ++ join separator rest

theorem trimEnd_nil : trimEnd [] = [] :=
  rfl

theorem trimStart_cons_of_not_blank {c : Char} (rest : List Char) (visible : isBlank c = false) :
    trimStart (c :: rest) = c :: rest := by
  simp [trimStart, visible]

theorem isBlankText_iff (s : String) :
    isBlankText s = true ↔ ∀ c ∈ s.toList, isBlank c = true := by
  simp [isBlankText]

end RowConduit.Text
