import RowConduit.Yaml.Node

/-!
# YAML documents

A document of one text, and what a reader of settings asks its nodes: a text, a truth value, a value
or null, the entries of a mapping.  A question about a reference is one about the node that it leads
to: of the nodes with its number the last one, wherever the reference stands.  A reference that
nothing is asked about may so lead anywhere, to a node around it too.
-/

namespace RowConduit.Yaml

mutual

def Node.namedNodes : Node → List (Nat × Node)
  | .scalar _ _ _ => []
  | .sequence items => itemsNamedNodes items
  | .mapping entries => entriesNamedNodes entries
  | .named number node => (number, node) :: node.namedNodes
  | .reference _ => []

def itemsNamedNodes : List Node → List (Nat × Node)
  | [] => []
  | item :: rest => item.namedNodes ++ itemsNamedNodes rest

def entriesNamedNodes : List (Node × Node) → List (Nat × Node)
  | [] => []
  | (key, value) :: rest => key.namedNodes ++ (value.namedNodes ++ entriesNamedNodes rest)

end

def nullWords : List String :=
  ["null", "Null", "NULL", "~"]

def boolWords : List (String × Bool) :=
  [("true", true), ("True", true), ("TRUE", true), ("false", false), ("False", false),
    ("FALSE", false)]

/-- A scalar is written plain and stands for null, or nothing is written. -/
def isNullText (text : String) (style : ScalarStyle) : Bool :=
  style = .plain && (text.isEmpty || text ∈ nullWords)

structure Document where
  root : Node
  deriving Repr

namespace Document

def ofText? (s : String) : Option Document :=
  ((tokens? s).bind Node.ofTokens?).map Document.mk

def target? (d : Document) (number : Nat) : Option Node :=
  (d.root.namedNodes.reverse.find? fun named => named.1 == number).map (·.2)

def resolve? (d : Document) : Node → Option Node
  | .reference number => d.target? number
  | .named _ node => some node
  | node => some node

def text? (d : Document) (node : Node) : Option String :=
  match d.resolve? node with
  | some (.scalar text _ _) => some text
  | _ => none

/-- The truth value of a scalar that is plain, or a literal block with the tag of truth values. -/
def bool? (d : Document) (node : Node) : Option Bool :=
  match d.resolve? node with
  | some (.scalar text .plain _) => boolWords.lookup text
  | some (.scalar text .literal (some tag)) =>
      if tag = Tag.bool then boolWords.lookup text else none
  | _ => none

/-- Read a node that may be null; a plain scalar with the tag of null must be a word for it. -/
def optional? {α : Type} (d : Document) (read : Node → Option α) (node : Node) :
    Option (Option α) :=
  match d.resolve? node with
  | none => none
  | some (.scalar text .plain (some tag)) =>
      if tag = Tag.null then
        if text ∈ nullWords then some none else none
      else (read node).map some
  | some (.scalar text style none) =>
      if isNullText text style then some none else (read node).map some
  | some _ => (read node).map some

/-- The entries of a section with their names, which are scalars; a section may be empty. -/
def entries? (d : Document) (node : Node) : Option (List (String × Node)) :=
  match d.resolve? node with
  | some (.mapping entries) =>
      entries.mapM fun entry => (d.text? entry.1).map fun name => (name, entry.2)
  | some (.scalar text .plain _) => if text.isEmpty then some [] else none
  | _ => none

end Document

/-- An entry of a section that is there once, if it is there and can be read. -/
def entry? {α : Type} (entries : List (String × Node)) (name : String)
    (read : Node → Option α) : Option (Option α) :=
  match entries.filter fun entry => entry.1 == name with
  | [] => some none
  | [entry] => (read entry.2).map some
  | _ => none

end RowConduit.Yaml
