import RowConduit.Text.Digits
import RowConduit.Text.Hex
import RowConduit.Text.Split
import RowConduit.Yaml.Cursor

/-!
# Tags and directives

A tag says which kind of thing a node is.  It is written whole, between angle brackets, or as a
handle, which stands for the start of the tag, and the suffix.  A directive before a document states
the version that its text is written in, or gives a handle a meaning.
-/

namespace RowConduit.Yaml

open RowConduit.Text

/-- A tag.  An escape stands for one octet, so the octets of a tag need not be those of a text. -/
structure Tag where
  octets : List UInt8
  deriving DecidableEq, Repr

namespace Tag

def ofText (s : String) : Tag :=
  ⟨s.toUTF8.data.toList⟩

def text? (tag : Tag) : Option String :=
  String.fromUTF8? ⟨tag.octets.toArray⟩

def append (start suffix : Tag) : Tag :=
  ⟨start.octets ++ suffix.octets⟩

def local? (tag : Tag) : Option String :=
  (tag.text?.bind fun s => dropStart? ['!'] s.toList).map String.ofList

/-- An exclamation mark alone: a tag, and the start of the tags that are a document's own. -/
def bare : Tag :=
  ofText "!"

def standardStart : Tag :=
  ofText "tag:yaml.org,2002:"

def null : Tag :=
  standardStart.append (ofText "null")

def bool : Tag :=
  standardStart.append (ofText "bool")

def octetCount? (first : UInt8) : Option Nat :=
  if first < 0x80 then some 1
  else if first < 0xC0 then none
  else if first < 0xE0 then some 2
  else if first < 0xF0 then some 3
  else if first < 0xF8 then some 4
  else none

/--
The octets of a written tag.  `pending` is how many octets are missing of a character; all octets of
one character are escaped if the first is.
-/
def octets? (pending : Nat) : List Char → Option (List UInt8)
  | [] => if pending = 0 then some [] else none
  | '%' :: a :: b :: rest =>
      match hexDigit? a, hexDigit? b with
      | some high, some low =>
          let octet := byteOf high low
          if pending = 0 then
            match octetCount? octet with
            | some count => (octets? (count - 1) rest).map (octet :: ·)
            | none => none
          else if 0x80 ≤ octet && octet < 0xC0 then
            (octets? (pending - 1) rest).map (octet :: ·)
          else none
      | _, _ => none
  | c :: rest =>
      if pending = 0 && c != '%' then (octets? 0 rest).map (UInt8.ofNat c.toNat :: ·) else none

/-- The tag of a written text: a zero octet ends it. -/
def ofWritten? (written : List Char) : Option Tag :=
  (octets? 0 written).map fun octets => ⟨octets.takeWhile (· != 0)⟩

end Tag

def isNameChar (c : Char) : Bool :=
  c.isAlphanum || c = '_' || c = '-'

def isTagChar (c : Char) : Bool :=
  isNameChar c ||
    c ∈ [';', '/', '?', ':', '@', '&', '=', '+', '$', '.', '%', '!', '~', '*', '\x27', '(', ')']

/-- The character may stand in a tag between angle brackets, or in the meaning of a handle. -/
def isWholeTagChar (c : Char) : Bool :=
  isTagChar c || c = ',' || c = '[' || c = ']'

/-- Take the tag that some characters form off a text; there must be one at least. -/
def takeTag? (belongs : Char → Bool) (cs : List Char) : Option (Tag × List Char) :=
  let written := cs.takeWhile belongs
  if written.isEmpty then none
  else (Tag.ofWritten? written).map fun tag => (tag, cs.drop written.length)

/-- Take a handle off the text behind an exclamation mark: a name, or nothing, and another mark. -/
def takeHandle? (cs : List Char) : Option (String × List Char) :=
  let name := cs.takeWhile isNameChar
  match cs.drop name.length with
  | '!' :: rest => some (String.ofList ('!' :: (name ++ ['!'])), rest)
  | _ => none

structure WrittenTag where
  handle : Option String
  suffix : Tag
  deriving DecidableEq, Repr

namespace WrittenTag

def whole (tag : Tag) : WrittenTag :=
  ⟨none, tag⟩

def ofSuffix (suffix : Tag) : WrittenTag :=
  if suffix.octets.isEmpty then whole Tag.bare else ⟨some "!", suffix⟩

def take? (cs : List Char) : Option (WrittenTag × List Char) :=
  match cs with
  | '<' :: inside =>
      match takeTag? isWholeTagChar inside with
      | some (tag, '>' :: rest) => some (whole tag, rest)
      | _ => none
  | _ =>
      match takeHandle? cs with
      | some (handle, after) =>
          (takeTag? isTagChar after).map fun taken => (⟨some handle, taken.1⟩, taken.2)
      | none =>
          let written := cs.takeWhile isTagChar
          (Tag.ofWritten? written).map fun tag => (ofSuffix tag, cs.drop written.length)

end WrittenTag

/-- A line before a document: the version, which has one meaning, or the meaning of a handle. -/
inductive Directive where
  | version
  | handle (name : String) (start : Tag)
  deriving DecidableEq, Repr

namespace Directive

def endsLine (line : List Char) : Bool :=
  match line.dropWhile isSpacing with
  | [] => true
  | c :: _ => c = '#'

def maxVersionLength : Nat :=
  9

def takeVersionPart? (cs : List Char) : Option (Nat × List Char) :=
  let (digits, rest) := takeDigits cs
  if digits.isEmpty || maxVersionLength < digits.length then none else some (valueOf digits, rest)

/-- Read the version behind its name: 1.1 or 1.2. -/
def ofVersion? (cs : List Char) : Option Directive :=
  match takeVersionPart? (cs.dropWhile isSpacing) with
  | some (1, '.' :: rest) =>
      match takeVersionPart? rest with
      | some (minor, after) =>
          if (minor = 1 || minor = 2) && endsLine after then some .version else none
      | none => none
  | _ => none

/-- Take a handle that is given a meaning off a text: a single exclamation mark is one too. -/
def takeName? (cs : List Char) : Option (String × List Char) :=
  match cs with
  | '!' :: rest =>
      match takeHandle? rest with
      | some taken => some taken
      | none => if (rest.head?.map isNameChar).getD false then none else some ("!", rest)
  | _ => none

def ofHandle? (cs : List Char) : Option Directive :=
  match takeName? (cs.dropWhile isSpacing) with
  | some (name, c :: rest) =>
      if isSpacing c then
        match takeTag? isWholeTagChar (rest.dropWhile isSpacing) with
        | some (start, after) =>
            if endsWord after && endsLine after then some (.handle name start) else none
        | none => none
      else none
  | _ => none

def ofLine? (line : List Char) : Option Directive :=
  let name := line.takeWhile isNameChar
  let rest := line.drop name.length
  if !endsWord rest then none
  else if String.ofList name = "YAML" then ofVersion? rest
  else if String.ofList name = "TAG" then ofHandle? rest
  else none

end Directive

end RowConduit.Yaml
