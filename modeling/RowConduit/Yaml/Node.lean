import RowConduit.Yaml.Token

/-!
# Nodes

The nodes that tokens form: scalars, sequences and mappings, names and references to them.

A named node gets a number: how many names the document had up to there, which counts its own name
if that is not new.  A reference to a name stands for the number that the name has there.  Two nodes
may so have the same number; the one that a reference leads to is known once all nodes are read.
-/

namespace RowConduit.Yaml

/-- A node; a node that was given a name is inside one with its number. -/
inductive Node where
  | scalar (text : String) (style : ScalarStyle) (tag : Option Tag)
  | sequence (items : List Node)
  | mapping (entries : List (Node × Node))
  | named (number : Nat) (node : Node)
  | reference (number : Nat)
  deriving Repr

namespace Node

def empty (tag : Option Tag) : Node :=
  .scalar "" .plain tag

def withNumber (node : Node) : Option Nat → Node
  | some number => .named number node
  | none => node

end Node

def standardHandles : List (String × Tag) :=
  [("!", Tag.bare), ("!!", Tag.standardStart)]

/--
The tokens that are left to read, what the handles stand for, and the names of nodes with their
numbers.
-/
structure Feed where
  tokens : List Token
  handles : List (String × Tag)
  numbers : List (String × Nat)

abbrev Reader : Type → Type :=
  StateT Feed Option

namespace Reader

def peek : Reader (Option Token) := do
  return (← get).tokens.head?

def pass : Reader Unit :=
  modify fun feed => { feed with tokens := feed.tokens.tail }

def take : Reader (Option Token) := do
  let token ← peek
  pass
  return token

def accept (token : Token) : Reader Bool := do
  if (← peek) = some token then
    pass
    return true
  else
    return false

def expect (token : Token) : Reader Unit := do
  if ← accept token then return () else failure

def numberOf (name : String) : Reader Nat := do
  match (← get).numbers.lookup name with
  | some number => return number
  | none => failure

def assignNumber (name : String) : Reader Nat := do
  let feed ← get
  let number := feed.numbers.length
  let others := feed.numbers.filter fun given => given.1 != name
  set { feed with numbers := (name, number) :: others }
  return number

def tagOf (written : WrittenTag) : Reader Tag := do
  match written.handle with
  | none => return written.suffix
  | some handle =>
      match (← get).handles.lookup handle with
      | some start => return start.append written.suffix
      | none => failure

def acceptAnchor : Reader (Option String) := do
  match ← peek with
  | some (.anchor name) =>
      pass
      return some name
  | _ => return none

def acceptTag : Reader (Option Tag) := do
  match ← peek with
  | some (.tag written) =>
      pass
      return some (← tagOf written)
  | _ => return none

/-- The name and the tag that stand before a node, in either order. -/
def properties : Reader (Option String × Option Tag) := do
  let anchor ← acceptAnchor
  let tag ← acceptTag
  match anchor with
  | some _ => return (anchor, tag)
  | none => return (← acceptAnchor, tag)

end Reader

open Reader

def bareNode (isNamed : Bool) (tag : Option Tag) : Reader Node :=
  if isNamed || tag.isSome then return Node.empty tag else failure

def endsBlockItem (token : Token) : Bool :=
  token == .blockEntry || token == .blockEnd

/-- The token ends an item of a sequence that is indented no deeper than its key. -/
def endsLooseItem (token : Token) : Bool :=
  endsBlockItem token || token == .key || token == .value

def endsBlockPart (token : Token) : Bool :=
  token == .key || token == .value || token == .blockEnd

def endsFlowKey (closing token : Token) : Bool :=
  token == .value || token == .flowEntry || token == closing

def endsFlowValue (closing token : Token) : Bool :=
  token == .flowEntry || token == closing

mutual

/--
Read a node.  `block` allows collections without brackets, and `loose` a sequence that is indented
no deeper than its key.  `fuel` bounds the calls.
-/
def readNode (fuel : Nat) (block loose : Bool) : Reader Node :=
  match fuel with
  | 0 => failure
  | fuel + 1 => do
      match ← peek with
      | some (.reference name) =>
          pass
          return .reference (← numberOf name)
      | _ =>
          let (name, tag) ← properties
          let number ← name.mapM assignNumber
          let node ← readContent fuel block loose number.isSome tag
          return node.withNumber number

def readContent (fuel : Nat) (block loose isNamed : Bool) (tag : Option Tag) : Reader Node :=
  match fuel with
  | 0 => failure
  | fuel + 1 => do
      match ← peek with
      | some (.scalar text style) =>
          pass
          return .scalar text style tag
      | some .flowSequenceStart =>
          pass
          return .sequence (← readFlowItems fuel true)
      | some .flowMappingStart =>
          pass
          return .mapping (← readFlowEntries fuel true)
      | some .blockSequenceStart =>
          if block then
            pass
            return .sequence (← readBlockItems fuel)
          else bareNode isNamed tag
      | some .blockMappingStart =>
          if block then
            pass
            return .mapping (← readBlockEntries fuel)
          else bareNode isNamed tag
      | some .blockEntry =>
          if loose then return .sequence (← readLooseItems fuel) else bareNode isNamed tag
      | _ => bareNode isNamed tag

def readOrEmpty (fuel : Nat) (ends : Token → Bool) (block loose : Bool) : Reader Node :=
  match fuel with
  | 0 => failure
  | fuel + 1 => do
      match ← peek with
      | some token =>
          if ends token then return Node.empty none else readNode fuel block loose
      | none => failure

def readBlockItems (fuel : Nat) : Reader (List Node) :=
  match fuel with
  | 0 => failure
  | fuel + 1 => do
      match ← take with
      | some .blockEntry =>
          let item ← readOrEmpty fuel endsBlockItem true false
          return item :: (← readBlockItems fuel)
      | some .blockEnd => return []
      | _ => failure

/-- Read the items of a sequence that has no end of its own. -/
def readLooseItems (fuel : Nat) : Reader (List Node) :=
  match fuel with
  | 0 => failure
  | fuel + 1 => do
      if ← accept .blockEntry then
        let item ← readOrEmpty fuel endsLooseItem true false
        return item :: (← readLooseItems fuel)
      else return []

def readBlockEntries (fuel : Nat) : Reader (List (Node × Node)) :=
  match fuel with
  | 0 => failure
  | fuel + 1 => do
      match ← take with
      | some .key =>
          let key ← readOrEmpty fuel endsBlockPart true true
          let value ←
            if ← accept .value then readOrEmpty fuel endsBlockPart true true
            else pure (Node.empty none)
          return (key, value) :: (← readBlockEntries fuel)
      | some .blockEnd => return []
      | _ => failure

/-- Read the value of an entry between brackets or braces, which may be missing. -/
def readFlowValue (fuel : Nat) (closing : Token) : Reader Node :=
  match fuel with
  | 0 => failure
  | fuel + 1 => do
      if ← accept .value then readOrEmpty fuel (endsFlowValue closing) false false
      else return Node.empty none

def readPairKey (fuel : Nat) : Reader Node :=
  match fuel with
  | 0 => failure
  | fuel + 1 => do
      match ← peek with
      | some token =>
          if endsFlowKey .flowSequenceEnd token then
            pass
            return Node.empty none
          else readNode fuel false false
      | none => failure

def readFlowItems (fuel : Nat) (first : Bool) : Reader (List Node) :=
  match fuel with
  | 0 => failure
  | fuel + 1 => do
      if ← accept .flowSequenceEnd then return []
      if !first then expect .flowEntry
      match ← peek with
      | some .flowSequenceEnd =>
          pass
          return []
      | some .key =>
          pass
          let key ← readPairKey fuel
          let value ← readFlowValue fuel .flowSequenceEnd
          return .mapping [(key, value)] :: (← readFlowItems fuel false)
      | _ =>
          let item ← readNode fuel false false
          return item :: (← readFlowItems fuel false)

/-- Read the entries of a mapping in braces and its end; a node alone is a key without a value. -/
def readFlowEntries (fuel : Nat) (first : Bool) : Reader (List (Node × Node)) :=
  match fuel with
  | 0 => failure
  | fuel + 1 => do
      if ← accept .flowMappingEnd then return []
      if !first then expect .flowEntry
      match ← peek with
      | some .flowMappingEnd =>
          pass
          return []
      | some .key =>
          pass
          let key ← readOrEmpty fuel (endsFlowKey .flowMappingEnd) false false
          let value ← readFlowValue fuel .flowMappingEnd
          return (key, value) :: (← readFlowEntries fuel false)
      | _ =>
          let key ← readNode fuel false false
          return (key, Node.empty none) :: (← readFlowEntries fuel false)

end

/--
Take the directives before a document off its tokens, with the handles that they give a meaning: the
version is stated once at most, and so is the meaning of a handle.
-/
def takeDirectives? (versioned : Bool) (handles : List (String × Tag)) :
    List Token → Option (List (String × Tag) × List Token)
  | .directive .version :: rest => if versioned then none else takeDirectives? true handles rest
  | .directive (.handle name start) :: rest =>
      if handles.any fun given => given.1 == name then none
      else takeDirectives? versioned ((name, start) :: handles) rest
  | tokens => some (handles, tokens)

def readDirectives : Reader Unit := do
  let feed ← get
  match takeDirectives? false [] feed.tokens with
  | some (handles, tokens) =>
      set { feed with tokens := tokens, handles := handles ++ feed.handles }
  | none => failure

def readAnnounced (fuel : Nat) : Reader Node := do
  match ← peek with
  | none => return Node.empty none
  | some (.directive _) => return Node.empty none
  | some .documentStart => return Node.empty none
  | some .documentEnd => return Node.empty none
  | some _ => readNode fuel true false

def readRoot (fuel : Nat) : Reader Node := do
  match ← peek with
  | none => failure
  | some (.directive _) =>
      readDirectives
      expect .documentStart
      readAnnounced fuel
  | some .documentStart =>
      pass
      readAnnounced fuel
  | some _ => readNode fuel true false

/-- The root of the document that tokens form: one, and nothing behind it but its end mark. -/
def Node.ofTokens? (tokens : List Token) : Option Node :=
  match (readRoot (4 * tokens.length + 4)).run ⟨tokens, standardHandles, []⟩ with
  | some (node, feed) => if feed.tokens.all (· == .documentEnd) then some node else none
  | none => none

end RowConduit.Yaml
