import RowConduit.Text.Hex
import RowConduit.Yaml.Cursor

/-!
# Scalars

The four ways to write a text: plain, in single quotes, in double quotes with escapes, and as a
block of indented lines.  Plain and quoted texts may go on over several lines, which are folded: one
line break becomes a space, and of several the first is dropped.
-/

namespace RowConduit.Yaml

inductive ScalarStyle where
  | plain
  | singleQuoted
  | doubleQuoted
  | literal
  | folded
  deriving DecidableEq, Repr

structure Scanned where
  text : List Char
  broken : Bool
  cursor : Cursor

/--
What stands between two words of a scalar: spacing on one line, or line breaks.  The first of the
line breaks is missing where it was escaped.
-/
inductive Gap where
  | spacing (cs : List Char)
  | lines (first : Option Char) (more : List Char)

namespace Gap

def empty : Gap :=
  .spacing []

def isEmpty : Gap → Bool
  | .spacing cs => cs.isEmpty
  | .lines _ _ => false

def isBroken : Gap → Bool
  | .spacing _ => false
  | .lines _ _ => true

/-- The gap with one more character; spacing around line breaks is dropped. -/
def add : Gap → Char → Gap
  | .spacing cs, c => if isBreak c then .lines (some c) [] else .spacing (cs ++ [c])
  | .lines first more, c => if isBreak c then .lines first (more ++ [c]) else .lines first more

def text : Gap → List Char
  | .spacing cs => cs
  | .lines (some '\n') [] => [' ']
  | .lines (some '\n') more => more
  | .lines first more => first.toList ++ more

end Gap

/-- The character has a meaning of its own between brackets or braces. -/
def isFlowIndicator (c : Char) : Bool :=
  c = ',' || c = '[' || c = ']' || c = '\x7b' || c = '\x7d'

/-- A colon between brackets or braces that would end a plain scalar in a way that is refused. -/
def isMisplacedColon (inFlow : Bool) (c : Char) (rest : List Char) : Bool :=
  inFlow && c = ':' &&
    match rest with
    | [] => false
    | next :: _ => isFlowIndicator next || next = '?'

def endsPlain (inFlow : Bool) (floor : Nat) (place : Place) (gap : Gap) (c : Char)
    (rest : List Char) : Bool :=
  (gap.isBroken && !inFlow && place.column < floor) || atDocumentMark place (c :: rest) ||
    (c = '#' && !gap.isEmpty) || (c = ':' && endsWord rest) || (inFlow && isFlowIndicator c)

/--
Read a plain scalar.  `taken` is what was read so far, last character first, and `gap` what followed
it; lines of the scalar are indented to `floor` at least.
-/
def scanPlain (inFlow : Bool) (floor : Nat) (place : Place) (taken : List Char) (gap : Gap) :
    List Char → Option Scanned
  | [] => some ⟨taken.reverse, gap.isBroken, ⟨[], place⟩⟩
  | c :: rest =>
      if isGap c then
        if gap.isBroken && c = '\t' && place.column < floor then none
        else scanPlain inFlow floor (place.after c) taken (gap.add c) rest
      else if isMisplacedColon inFlow c rest then none
      else if endsPlain inFlow floor place gap c rest then
        some ⟨taken.reverse, gap.isBroken, ⟨c :: rest, place⟩⟩
      else
        scanPlain inFlow floor (place.after c) (c :: (gap.text.reverse ++ taken)) Gap.empty rest

/-- Read the rest of a scalar in single quotes, in which a quote is written twice. -/
def scanSingleQuoted (place : Place) (taken : List Char) (gap : Gap) : List Char → Option Scanned
  | [] => none
  | c :: rest =>
      if isGap c then scanSingleQuoted (place.after c) taken (gap.add c) rest
      else if atDocumentMark place (c :: rest) then none
      else if c = '\x27' then
        match rest with
        | [] => some ⟨(gap.text.reverse ++ taken).reverse, false, ⟨[], place.after c⟩⟩
        | next :: more =>
            if next = '\x27' then
              scanSingleQuoted ((place.after c).after next) (c :: (gap.text.reverse ++ taken))
                Gap.empty more
            else
              some ⟨(gap.text.reverse ++ taken).reverse, false, ⟨next :: more, place.after c⟩⟩
      else scanSingleQuoted (place.after c) (c :: (gap.text.reverse ++ taken)) Gap.empty rest

def escaped? : Char → Option Char
  | '0' => some '\x00'
  | 'a' => some '\x07'
  | 'b' => some '\x08'
  | 't' => some '\t'
  | '\t' => some '\t'
  | 'n' => some '\n'
  | 'v' => some '\x0b'
  | 'f' => some '\x0c'
  | 'r' => some '\r'
  | 'e' => some '\x1b'
  | ' ' => some ' '
  | '"' => some '"'
  | '/' => some '/'
  | '\\' => some '\\'
  | 'N' => some '\u0085'
  | '_' => some '\u00a0'
  | 'L' => some '\u2028'
  | 'P' => some '\u2029'
  | _ => none

/-- How many digits follow a letter after a backslash that introduces a character code. -/
def codeLength? : Char → Option Nat
  | 'x' => some 2
  | 'u' => some 4
  | 'U' => some 8
  | _ => none

/-- What a reader of a double-quoted scalar expects: text, the rest of an escape, or code digits. -/
inductive QuotedPart where
  | text
  | escape
  | code (digitsLeft value : Nat)

def scanDoubleQuoted (place : Place) (taken : List Char) (gap : Gap) :
    QuotedPart → List Char → Option Scanned
  | _, [] => none
  | .text, c :: rest =>
      if isGap c then scanDoubleQuoted (place.after c) taken (gap.add c) .text rest
      else if atDocumentMark place (c :: rest) then none
      else if c = '"' then
        some ⟨(gap.text.reverse ++ taken).reverse, false, ⟨rest, place.after c⟩⟩
      else if c = '\\' then
        scanDoubleQuoted (place.after c) (gap.text.reverse ++ taken) Gap.empty .escape rest
      else
        scanDoubleQuoted (place.after c) (c :: (gap.text.reverse ++ taken)) Gap.empty .text rest
  | .escape, c :: rest =>
      if isBreak c then scanDoubleQuoted (place.after c) taken (.lines none []) .text rest
      else
        match codeLength? c, escaped? c with
        | some count, _ => scanDoubleQuoted (place.after c) taken Gap.empty (.code count 0) rest
        | none, some meant =>
            scanDoubleQuoted (place.after c) (meant :: taken) Gap.empty .text rest
        | none, none => none
  | .code digitsLeft value, c :: rest =>
      match Text.hexDigit? c with
      | none => none
      | some digit =>
          let code := 16 * value + digit.val
          if 1 < digitsLeft then
            scanDoubleQuoted (place.after c) taken Gap.empty (.code (digitsLeft - 1) code) rest
          else if code.isValidChar then
            scanDoubleQuoted (place.after c) (Char.ofNat code :: taken) Gap.empty .text rest
          else none

/-- What becomes of the line breaks at the end of a block. -/
inductive Chomping where
  | strip
  | clip
  | keep

/-- The first line of a block: what becomes of its end, and the indentation it states. -/
structure BlockHeader where
  chomping : Chomping
  indentation : Option Nat

def chomping? : Char → Option Chomping
  | '-' => some .strip
  | '+' => some .keep
  | _ => none

def takeIndentation? : List Char → Option (Option Nat × List Char)
  | [] => some (none, [])
  | c :: rest =>
      if c = '0' then none
      else if c.isDigit then some (some (c.toNat - 48), rest)
      else some (none, c :: rest)

/-- Read what follows a block indicator: the chomping and the indentation, in either order. -/
def takeHeader? (cs : List Char) : Option (BlockHeader × List Char) :=
  match cs with
  | [] => some (⟨.clip, none⟩, [])
  | c :: rest =>
      match chomping? c with
      | some chomping =>
          (takeIndentation? rest).map fun taken => (⟨chomping, taken.1⟩, taken.2)
      | none =>
          match takeIndentation? cs with
          | none => none
          | some (none, after) => some (⟨.clip, none⟩, after)
          | some (some width, []) => some (⟨.clip, some width⟩, [])
          | some (some width, next :: after) =>
              match chomping? next with
              | some chomping => some (⟨chomping, some width⟩, after)
              | none => some (⟨.clip, some width⟩, next :: after)

/-- The rest of a text after a line on which nothing but spacing and a comment is left. -/
def finishLine? (cs : List Char) : Option (List Char) :=
  match cs.dropWhile isSpacing with
  | [] => some []
  | c :: rest =>
      if c = '#' then some ((rest.dropWhile fun d => !isBreak d).drop 1)
      else if isBreak c then some rest
      else none

/--
A block as far as it is read: its text, last character first; the break after its last line and the
breaks of empty lines since; whether that line began with spacing; and the widest empty line.
-/
structure BlockText where
  taken : List Char
  lastBreak : List Char
  emptyLines : List Char
  spaced : Bool
  widest : Nat

namespace BlockText

def empty : BlockText :=
  ⟨[], [], [], false, 0⟩

/-- The text of the breaks before a line; folding joins two lines that do not begin with spacing. -/
def joint (folds : Bool) (b : BlockText) (first : Char) : List Char :=
  if folds && b.lastBreak == ['\n'] && !b.spaced && !isSpacing first then
    if b.emptyLines.isEmpty then [' '] else b.emptyLines
  else b.lastBreak ++ b.emptyLines

def beginLine (folds : Bool) (b : BlockText) (first : Char) : BlockText :=
  ⟨first :: ((b.joint folds first).reverse ++ b.taken), [], [], isSpacing first, 0⟩

def endLine (b : BlockText) (lineBreak : Char) : BlockText :=
  { b with lastBreak := [lineBreak], emptyLines := [], widest := 0 }

def addEmptyLine (b : BlockText) (lineBreak : Char) (width : Nat) : BlockText :=
  { b with emptyLines := b.emptyLines ++ [lineBreak], widest := max b.widest width }

def text (b : BlockText) : Chomping → List Char
  | .strip => b.taken.reverse
  | .clip => b.taken.reverse ++ b.lastBreak
  | .keep => b.taken.reverse ++ b.lastBreak ++ b.emptyLines

end BlockText

/-- A column lies in the indentation of a block; one that is not known yet has no end. -/
def inIndentation (indentation : Option Nat) (column : Nat) : Bool :=
  match indentation with
  | none => true
  | some width => column < width

/--
Read the lines of a block.  An indentation that is not stated is that of the first line that is not
empty, and no less than `floor`.
-/
def scanBlockLines (folds : Bool) (floor : Nat) (indentation : Option Nat) (inLine : Bool)
    (place : Place) (b : BlockText) : List Char → Option (BlockText × Cursor)
  | [] => some (b, ⟨[], place⟩)
  | c :: rest =>
      if inLine then
        if isBreak c then
          scanBlockLines folds floor indentation false (place.after c) (b.endLine c) rest
        else
          scanBlockLines folds floor indentation true (place.after c)
            { b with taken := c :: b.taken } rest
      else if c = ' ' && inIndentation indentation place.column then
        scanBlockLines folds floor indentation false (place.after c) b rest
      else if c = '\t' && inIndentation indentation place.column then none
      else if isBreak c then
        scanBlockLines folds floor indentation false (place.after c)
          (b.addEmptyLine c place.column) rest
      else
        let width := indentation.getD (max (max b.widest place.column) (max floor 1))
        if place.column = width then
          scanBlockLines folds floor (some width) true (place.after c) (b.beginLine folds c) rest
        else some (b, ⟨c :: rest, place⟩)

def scanBlock (folds : Bool) (floor : Nat) (place : Place) (cs : List Char) : Option Scanned := do
  let (header, afterHeader) ← takeHeader? cs
  let lines ← finishLine? afterHeader
  let indentation := header.indentation.map fun width => floor - 1 + width
  let (block, cursor) ←
    scanBlockLines folds floor indentation false ⟨place.line + 1, 0⟩ BlockText.empty lines
  return ⟨block.text header.chomping, true, cursor⟩

end RowConduit.Yaml
