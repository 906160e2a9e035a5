/-!
# Places in a YAML text

Where a reader stands in a text: what is left to read, and the line and column it is at.  Structure
is a matter of columns, so every reader keeps count of them.
-/

namespace RowConduit.Yaml

/-- The character ends a line; the other line breaks are line feeds by the time a text is read. -/
def isBreak (c : Char) : Bool :=
  c = '\n' || c = '\u2028' || c = '\u2029'

def isSpacing (c : Char) : Bool :=
  c = ' ' || c = '\t'

def isGap (c : Char) : Bool :=
  isSpacing c || isBreak c

def endsWord : List Char → Bool
  | [] => true
  | c :: _ => isGap c

structure Place where
  line : Nat
  column : Nat
  deriving DecidableEq, Repr

def Place.after (place : Place) (c : Char) : Place :=
  if isBreak c then ⟨place.line + 1, 0⟩ else ⟨place.line, place.column + 1⟩

structure Cursor where
  rest : List Char
  place : Place
  deriving Repr

def Cursor.drop (cursor : Cursor) (count : Nat) : Cursor :=
  ⟨cursor.rest.drop count, ⟨cursor.place.line, cursor.place.column + count⟩⟩

def startsWithMark (mark : Char) : List Char → Bool
  | a :: b :: c :: rest => a == mark && b == mark && c == mark && endsWord rest
  | _ => false

def atDocumentMark (place : Place) (cs : List Char) : Bool :=
  place.column == 0 && (startsWithMark '-' cs || startsWithMark '.' cs)

/-- The character may occur in a text: a printable one, a tab or a line break. -/
def isPermitted (c : Char) : Bool :=
  let n := c.toNat
  n == 9 || n == 10 || n == 13 || (0x20 ≤ n && n ≤ 0x7E) || n == 0x85 ||
    (0xA0 ≤ n && n ≤ 0xFFFD) || 0x10000 ≤ n

/-- The text with every line break of one or two control characters as a line feed. -/
def unifyBreaks : List Char → List Char
  | [] => []
  | '\r' :: '\n' :: rest => '\n' :: unifyBreaks rest
  | c :: rest => (if c = '\r' || c = '\u0085' then '\n' else c) :: unifyBreaks rest

/--
The cursor at the start of a text, if all its characters may occur.  A byte-order mark there is no
part of the text; a second one is passed over too, and takes up a column.
-/
def Cursor.ofText? (s : String) : Option Cursor :=
  let cs := s.toList
  if cs.all isPermitted then
    match cs with
    | '\ufeff' :: '\ufeff' :: rest => some ⟨unifyBreaks rest, ⟨0, 1⟩⟩
    | '\ufeff' :: rest => some ⟨unifyBreaks rest, ⟨0, 0⟩⟩
    | _ => some ⟨unifyBreaks cs, ⟨0, 0⟩⟩
  else none

end RowConduit.Yaml
