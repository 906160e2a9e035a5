import RowConduit.Yaml.Scalar
import RowConduit.Yaml.Tag

/-!
# Tokens

A YAML text as tokens.  Collections without brackets show only in the columns of their lines, so the
scanner keeps the columns of those that are open and puts their starts and ends among the tokens.
That a word was the key of a mapping is known at the colon behind it; its token is put in front of
the word then.
-/

namespace RowConduit.Yaml

inductive Token where
  | directive (d : Directive)
  | documentStart
  | documentEnd
  | blockSequenceStart
  | blockMappingStart
  | blockEnd
  | flowSequenceStart
  | flowSequenceEnd
  | flowMappingStart
  | flowMappingEnd
  | blockEntry
  | flowEntry
  | key
  | value
  | anchor (name : String)
  | reference (name : String)
  | tag (written : WrittenTag)
  | scalar (text : String) (style : ScalarStyle)
  deriving DecidableEq, Repr

/-- A token that may turn out to be a key: how many stand before it, where, and if it has to be. -/
structure KeyMark where
  position : Nat
  place : Place
  required : Bool

/--
A text as far as it is scanned: the tokens, last first; the columns of the open block collections,
innermost first; the possible key at the present level, and those at the levels around it, one for
each open bracket; and whether a key may start here.
-/
structure Scanner where
  cursor : Cursor
  tokens : List Token
  columns : List Nat
  key : Option KeyMark
  outerKeys : List (Option KeyMark)
  keyAllowed : Bool

def maxKeyLength : Nat :=
  1024

namespace Scanner

def start (cursor : Cursor) : Scanner :=
  ⟨cursor, [], [], none, [], true⟩

def inFlow (s : Scanner) : Bool :=
  !s.outerKeys.isEmpty

/-- The first column that belongs to a value of the innermost open block collection. -/
def floor (s : Scanner) : Nat :=
  match s.columns with
  | [] => 0
  | column :: _ => column + 1

def column (s : Scanner) : Nat :=
  s.cursor.place.column

def emit (s : Scanner) (token : Token) : Scanner :=
  { s with tokens := token :: s.tokens }

def insertAt (s : Scanner) (position : Nat) (token : Token) : Scanner :=
  { s with tokens := s.tokens.insertIdx (s.tokens.length - position) token }

def drop (s : Scanner) (count : Nat) : Scanner :=
  { s with cursor := s.cursor.drop count }

def allowKey (s : Scanner) (allowed : Bool) : Scanner :=
  { s with keyAllowed := allowed }

/-- Find the next character that belongs to a token: past spacing, comments and line breaks. -/
def skipFrom (inFlow keyAllowed inComment : Bool) (place : Place) : List Char → Cursor × Bool
  | [] => (⟨[], place⟩, keyAllowed)
  | c :: rest =>
      if isBreak c then
        skipFrom inFlow (keyAllowed || !inFlow) false (place.after c) rest
      else if inComment then skipFrom inFlow keyAllowed true (place.after c) rest
      else if c = ' ' || (c = '\t' && (inFlow || !keyAllowed)) then
        skipFrom inFlow keyAllowed false (place.after c) rest
      else if c = '#' then skipFrom inFlow keyAllowed true (place.after c) rest
      else (⟨c :: rest, place⟩, keyAllowed)

def skip (s : Scanner) : Scanner :=
  let found := skipFrom s.inFlow s.keyAllowed false s.cursor.place s.cursor.rest
  { s with cursor := found.1, keyAllowed := found.2 }

/-- A possible key is out of reach: on an earlier line, or too far back. -/
def isStale (s : Scanner) (mark : KeyMark) : Bool :=
  mark.place.line < s.cursor.place.line || mark.place.column + maxKeyLength < s.column

def dropKey? (s : Scanner) : Option Scanner :=
  match s.key with
  | some mark => if mark.required then none else some { s with key := none }
  | none => some s

def dropStaleKey? (s : Scanner) : Option Scanner :=
  match s.key with
  | some mark => if s.isStale mark then s.dropKey? else some s
  | none => some s

def markKey? (s : Scanner) : Option Scanner :=
  if s.keyAllowed then
    let mark : KeyMark :=
      ⟨s.tokens.length, s.cursor.place, !s.inFlow && s.columns.head? == some s.column⟩
    s.dropKey?.map fun cleared => { cleared with key := some mark }
  else some s

/-- The columns that stay open when a line begins at a column, and how many are closed. -/
def closing (column : Nat) : List Nat → List Nat × Nat
  | [] => ([], 0)
  | c :: columns =>
      if column < c then
        let closed := closing column columns
        (closed.1, closed.2 + 1)
      else (c :: columns, 0)

def closeBlocks (s : Scanner) (columns : List Nat) (count : Nat) : Scanner :=
  if s.inFlow then s
  else { s with columns := columns, tokens := List.replicate count .blockEnd ++ s.tokens }

/-- Close the block collections to the right of the present column. -/
def closeDeeper (s : Scanner) : Scanner :=
  let closed := closing s.column s.columns
  s.closeBlocks closed.1 closed.2

def closeAll (s : Scanner) : Scanner :=
  s.closeBlocks [] s.columns.length

/-- Open a block collection at a column, unless one is open there; its start goes to a position. -/
def openBlock (s : Scanner) (column position : Nat) (token : Token) : Scanner :=
  if s.inFlow || column < s.floor then s
  else { s.insertAt position token with columns := column :: s.columns }

def openBlockHere (s : Scanner) (token : Token) : Scanner :=
  s.openBlock s.column s.tokens.length token

def documentMark? (s : Scanner) (token : Token) : Option Scanner := do
  let s ← s.closeAll.dropKey?
  return ((s.allowKey false).drop 3).emit token

def directive? (s : Scanner) : Option Scanner := do
  let s ← s.closeAll.dropKey?
  let line := s.cursor.rest.takeWhile fun c => !isBreak c
  let directive ← Directive.ofLine? (line.drop 1)
  return ((s.allowKey false).drop line.length).emit (.directive directive)

def openFlow? (s : Scanner) (token : Token) : Option Scanner := do
  let s ← s.markKey?
  return (({ s with key := none, outerKeys := s.key :: s.outerKeys }.allowKey true).drop 1).emit
    token

def closeFlow? (s : Scanner) (token : Token) : Option Scanner := do
  let s ← s.dropKey?
  let inner :=
    match s.outerKeys with
    | [] => s
    | outer :: outers => { s with key := outer, outerKeys := outers }
  return ((inner.allowKey false).drop 1).emit token

def flowEntry? (s : Scanner) : Option Scanner := do
  let s ← s.dropKey?
  return ((s.allowKey true).drop 1).emit .flowEntry

def blockEntry? (s : Scanner) : Option Scanner := do
  if !s.inFlow && !s.keyAllowed then none
  let s ← (s.openBlockHere .blockSequenceStart).dropKey?
  return ((s.allowKey true).drop 1).emit .blockEntry

def explicitKey? (s : Scanner) : Option Scanner := do
  if !s.inFlow && !s.keyAllowed then none
  let s ← (s.openBlockHere .blockMappingStart).dropKey?
  return ((s.allowKey (!s.inFlow)).drop 1).emit .key

/-- Read the colon of a value: what stands before it was a key, if it could be one. -/
def value? (s : Scanner) : Option Scanner :=
  match s.key with
  | some mark =>
      let keyed := (s.insertAt mark.position .key).openBlock mark.place.column mark.position
        .blockMappingStart
      some ((({ keyed with key := none }.allowKey false).drop 1).emit .value)
  | none =>
      if !s.inFlow && !s.keyAllowed then none
      else
        let opened := s.openBlockHere .blockMappingStart
        some (((opened.allowKey (!s.inFlow)).drop 1).emit .value)

def endsName (cs : List Char) : Bool :=
  endsWord cs ||
    match cs with
    | [] => true
    | c :: _ => c ∈ ['?', ':', ',', ']', '\x7d', '%', '@', '\x60']

def anchor? (s : Scanner) (token : String → Token) : Option Scanner := do
  let s ← s.markKey?
  let name := (s.cursor.rest.drop 1).takeWhile isNameChar
  if name.isEmpty || !endsName (s.cursor.rest.drop (name.length + 1)) then none
  return ((s.allowKey false).drop (name.length + 1)).emit (token (String.ofList name))

def tag? (s : Scanner) : Option Scanner := do
  let s ← s.markKey?
  let (written, after) ← WrittenTag.take? (s.cursor.rest.drop 1)
  if !endsWord after && !(s.inFlow && after.head? == some ',') then none
  return ((s.allowKey false).drop (s.cursor.rest.length - after.length)).emit (.tag written)

def addScalar (s : Scanner) (style : ScalarStyle) (scanned : Scanned) : Scanner :=
  { s with cursor := scanned.cursor, keyAllowed := scanned.broken }.emit
    (.scalar (String.ofList scanned.text) style)

def plain? (s : Scanner) : Option Scanner := do
  let s ← s.markKey?
  let scanned ← scanPlain s.inFlow s.floor s.cursor.place [] Gap.empty s.cursor.rest
  return s.addScalar .plain scanned

def singleQuoted? (s : Scanner) : Option Scanner := do
  let s ← s.markKey?
  let inside := s.cursor.drop 1
  let scanned ← scanSingleQuoted inside.place [] Gap.empty inside.rest
  return s.addScalar .singleQuoted scanned

def doubleQuoted? (s : Scanner) : Option Scanner := do
  let s ← s.markKey?
  let inside := s.cursor.drop 1
  let scanned ← scanDoubleQuoted inside.place [] Gap.empty .text inside.rest
  return s.addScalar .doubleQuoted scanned

def block? (s : Scanner) (folds : Bool) : Option Scanner := do
  let s ← s.dropKey?
  let inside := s.cursor.drop 1
  let scanned ← scanBlock folds s.floor inside.place inside.rest
  return s.addScalar (if folds then .folded else .literal) scanned

/-- The characters that no plain scalar begins with, unless what follows makes them one. -/
def indicators : List Char :=
  ['-', '?', ':', ',', '[', ']', '\x7b', '\x7d', '#', '&', '*', '!', '|', '>', '\x27', '"', '%',
    '@', '\x60']

def beginsPlain (inFlow : Bool) (c : Char) (rest : List Char) : Bool :=
  !(isGap c || c ∈ indicators) || (c = '-' && !(rest.head?.map isSpacing).getD false) ||
    (!inFlow && (c = '?' || c = ':') && !endsWord rest)

def token? (s : Scanner) (c : Char) (rest : List Char) : Option Scanner :=
  let lone := s.inFlow || endsWord rest
  if s.column = 0 && c = '%' then s.directive?
  else if s.column = 0 && startsWithMark '-' (c :: rest) then s.documentMark? .documentStart
  else if s.column = 0 && startsWithMark '.' (c :: rest) then s.documentMark? .documentEnd
  else if c = '[' then s.openFlow? .flowSequenceStart
  else if c = '\x7b' then s.openFlow? .flowMappingStart
  else if c = ']' then s.closeFlow? .flowSequenceEnd
  else if c = '\x7d' then s.closeFlow? .flowMappingEnd
  else if c = ',' then s.flowEntry?
  else if c = '-' && endsWord rest then s.blockEntry?
  else if c = '?' && lone then s.explicitKey?
  else if c = ':' && lone then s.value?
  else if c = '*' then s.anchor? .reference
  else if c = '&' then s.anchor? .anchor
  else if c = '!' then s.tag?
  else if c = '|' && !s.inFlow then s.block? false
  else if c = '>' && !s.inFlow then s.block? true
  else if c = '\x27' then s.singleQuoted?
  else if c = '"' then s.doubleQuoted?
  else if beginsPlain s.inFlow c rest then s.plain?
  else none

def finish? (s : Scanner) : Option (List Token) :=
  s.closeAll.dropKey?.map fun finished => finished.tokens.reverse

def next? (s : Scanner) : Option Scanner :=
  match s.cursor.rest with
  | [] => none
  | c :: rest => s.closeDeeper.token? c rest

/-- Read the tokens up to the end of the text; every token takes at least one character. -/
def run (s : Scanner) : Option (List Token) :=
  match s.skip.dropStaleKey? with
  | none => none
  | some ready =>
      if ready.cursor.rest.isEmpty then ready.finish?
      else
        match ready.next? with
        | none => none
        | some after =>
            if after.cursor.rest.length < s.cursor.rest.length then after.run else none
termination_by s.cursor.rest.length

end Scanner

def tokens? (s : String) : Option (List Token) :=
  (Cursor.ofText? s).bind fun cursor => (Scanner.start cursor).run

end RowConduit.Yaml
