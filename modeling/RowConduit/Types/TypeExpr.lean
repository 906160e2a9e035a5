import RowConduit.Number.Integer
import RowConduit.Text.Blank
import RowConduit.Text.Split

/-!
# Source type texts

The type text of a source, taken apart: `T[]`, `array<T>`, `list<T>` and `set<T>` are arrays,
`map<K, V>` is a map, `frozen<T>` is `T` itself, and everything else is a leaf, which is a name with
the numbers in its first parentheses.  Constructor names are matched without regard to case.
-/

namespace RowConduit

open RowConduit.Text RowConduit.Number

/-- A scalar type as written: its name text and the numbers of its first parenthesised group. -/
structure TypeLeaf where
  name : List Char
  precision : Option UInt32
  scale : Option UInt32
  deriving DecidableEq, Repr

inductive TypeExpr where
  | leaf (leaf : TypeLeaf)
  | array (element : TypeExpr)
  | map (key value : TypeExpr)
  deriving DecidableEq, Repr

namespace TypeExpr

def solid? (cs : List Char) : Option (List Char) :=
  if (trim cs).isEmpty then none else some (trim cs)

/-- Split `name<arguments>` at its first opening and its last closing bracket. -/
def splitAngle? (raw : List Char) : Option (List Char × List Char) := do
  let (before, after) ← cutAt? (· = '<') raw
  let inside ← dropEnd? ['>'] after
  let name ← solid? before
  let arguments ← solid? inside
  return (name, arguments)

def depthStep (c : Char) : Int :=
  if c = '<' || c = '(' then 1
  else if c = '>' || c = ')' then -1
  else 0

/-- The two sides of the first comma at depth zero, the text starting at depth `depth`. -/
def cutAtComma? (depth : Int) : List Char → Option (List Char × List Char)
  | [] => none
  | c :: rest =>
      if c = ',' ∧ depth = 0 then some ([], rest)
      else (cutAtComma? (depth + depthStep c) rest).map fun sides => (c :: sides.1, sides.2)

def splitPair? (arguments : List Char) : Option (List Char × List Char) := do
  let (before, after) ← cutAtComma? 0 arguments
  let key ← solid? before
  let value ← solid? after
  return (key, value)

/-- Cut a name that ends in a closing parenthesis at its first opening one. -/
def stripSize (raw : List Char) : List Char :=
  match cutAt? (· = '(') raw, dropEnd? [')'] raw with
  | some (before, _), some _ => trimEnd before
  | _, _ => raw

def sizeNumber? (cs : List Char) : Option UInt32 :=
  match readUInt32 (trim cs) with
  | .ok n => some n
  | .error _ => none

/-- The first two size arguments of the first parenthesised group, where they are numbers. -/
def sizeNumbers (raw : List Char) : Option UInt32 × Option UInt32 :=
  match cutAt? (· = '(') raw with
  | none => (none, none)
  | some (_, after) =>
      match cutAt? (· = ')') after with
      | none => (none, none)
      | some (inside, _) =>
          match pieces (· = ',') inside with
          | [] => (none, none)
          | [only] => (sizeNumber? only, none)
          | first :: second :: _ => (sizeNumber? first, sizeNumber? second)

def leafOf (name whole : List Char) : TypeExpr :=
  .leaf ⟨name, (sizeNumbers whole).1, (sizeNumbers whole).2⟩

/-- What the name before an angle bracket makes of its arguments. -/
inductive Constructor where
  | transparent
  | collection
  | pairing
  | unknown
  deriving DecidableEq, Repr

def Constructor.ofName (name : List Char) : Constructor :=
  let lowered := String.ofList (name.map Char.toLower)
  if lowered = "frozen" then .transparent
  else if lowered = "array" || lowered = "list" || lowered = "set" then .collection
  else if lowered = "map" then .pairing
  else .unknown

theorem trimStart_length (cs : List Char) : (trimStart cs).length ≤ cs.length :=
  (List.dropWhile_suffix isBlank).length_le

theorem trimEnd_length (cs : List Char) : (trimEnd cs).length ≤ cs.length := by
  have shorter := (List.dropWhile_suffix isBlank (l := cs.reverse)).length_le
  simpa [trimEnd] using shorter

theorem trim_length (cs : List Char) : (trim cs).length ≤ cs.length :=
  Nat.le_trans (trimEnd_length _) (trimStart_length cs)

theorem solid?_length {cs found : List Char} (h : solid? cs = some found) :
    found.length ≤ cs.length := by
  unfold solid? at h
  split at h
  · simp at h
  · simp only [Option.some.injEq] at h
    rw [← h]
    exact trim_length cs

theorem dropEnd?_length {ending cs rest : List Char} (h : dropEnd? ending cs = some rest) :
    rest.length + ending.length = cs.length := by
  simp only [dropEnd?, Option.map_eq_some_iff] at h
  obtain ⟨reversed, found, rfl⟩ := h
  have shape := congrArg List.length (eq_append_of_dropStart? found)
  simp only [List.length_reverse, List.length_append] at shape
  simp only [List.length_reverse]
  omega

theorem cutAt?_length {separates : Char → Bool} {cs before after : List Char}
    (h : cutAt? separates cs = some (before, after)) :
    before.length + after.length + 1 = cs.length := by
  induction cs generalizing before with
  | nil => simp [cutAt?] at h
  | cons c rest ih =>
      unfold cutAt? at h
      split at h
      · simp only [Option.some.injEq, Prod.mk.injEq] at h
        obtain ⟨rfl, rfl⟩ := h
        simp
      · simp only [Option.map_eq_some_iff, Prod.mk.injEq, Prod.exists] at h
        obtain ⟨front, back, found, rfl, rfl⟩ := h
        have smaller := ih found
        simp only [List.length_cons]
        omega

theorem cutAtComma?_length {depth : Int} {cs before after : List Char}
    (h : cutAtComma? depth cs = some (before, after)) :
    before.length + after.length + 1 = cs.length := by
  induction cs generalizing before depth with
  | nil => simp [cutAtComma?] at h
  | cons c rest ih =>
      unfold cutAtComma? at h
      split at h
      · simp only [Option.some.injEq, Prod.mk.injEq] at h
        obtain ⟨rfl, rfl⟩ := h
        simp
      · simp only [Option.map_eq_some_iff, Prod.mk.injEq, Prod.exists] at h
        obtain ⟨front, back, found, rfl, rfl⟩ := h
        have smaller := ih found
        simp only [List.length_cons]
        omega

theorem splitAngle?_length {raw name arguments : List Char}
    (h : splitAngle? raw = some (name, arguments)) : arguments.length < raw.length := by
  simp only [splitAngle?, Option.bind_eq_bind, Option.bind_eq_some_iff, Prod.exists,
    Option.pure_def, Option.some.injEq, Prod.mk.injEq] at h
  obtain ⟨before, after, cut, inside, dropped, _, _, found, solid, _, rfl⟩ := h
  have first := cutAt?_length cut
  have second := dropEnd?_length dropped
  have third := solid?_length solid
  simp only [List.length_cons, List.length_nil] at second
  omega

theorem splitPair?_length {arguments key value : List Char}
    (h : splitPair? arguments = some (key, value)) :
    key.length < arguments.length ∧ value.length < arguments.length := by
  simp only [splitPair?, Option.bind_eq_bind, Option.bind_eq_some_iff, Prod.exists,
    Option.pure_def, Option.some.injEq, Prod.mk.injEq] at h
  obtain ⟨before, after, cut, _, keySolid, _, valueSolid, rfl, rfl⟩ := h
  have whole := cutAtComma?_length cut
  have first := solid?_length keySolid
  have second := solid?_length valueSolid
  omega

/--
Take a type text apart.  The numbers of a leaf are read from `whole`: the text itself, or the text
with the `frozen` names that were taken off around it.
-/
def parseIn (whole text : List Char) : TypeExpr :=
  let raw := trim text
  match _suffix : dropEnd? ['[', ']'] raw with
  | some element => .array (parseIn element element)
  | none =>
      match _angle : splitAngle? raw with
      | none => leafOf (stripSize raw) whole
      | some (name, arguments) =>
          match Constructor.ofName name with
          | .transparent => parseIn whole arguments
          | .collection => .array (parseIn arguments arguments)
          | .pairing =>
              match _pair : splitPair? arguments with
              | some (key, value) => .map (parseIn key key) (parseIn value value)
              | none => leafOf raw whole
          | .unknown => leafOf raw whole
termination_by text.length
decreasing_by
  · have dropped := dropEnd?_length _suffix
    have trimmed : raw.length ≤ text.length := trim_length text
    simp only [List.length_cons, List.length_nil] at dropped
    omega
  · exact Nat.lt_of_lt_of_le (splitAngle?_length _angle) (trim_length text)
  · exact Nat.lt_of_lt_of_le (splitAngle?_length _angle) (trim_length text)
  · have inner := splitAngle?_length _angle
    have parts := splitPair?_length _pair
    have trimmed : raw.length ≤ text.length := trim_length text
    omega
  · have inner := splitAngle?_length _angle
    have parts := splitPair?_length _pair
    have trimmed : raw.length ≤ text.length := trim_length text
    omega

def parse (text : List Char) : TypeExpr :=
  parseIn text text

def leaves : TypeExpr → List TypeLeaf
  | .leaf l => [l]
  | .array element => element.leaves
  | .map key value => key.leaves ++ value.leaves

end TypeExpr

/-- The characters outside parentheses, the text starting inside `depth` of them. -/
def outsideParentheses (depth : Nat) : List Char → List Char
  | [] => []
  | c :: rest =>
      if c = '(' then outsideParentheses (depth + 1) rest
      else if c = ')' then outsideParentheses (depth - 1) rest
      else if depth = 0 then c :: outsideParentheses depth rest
      else outsideParentheses depth rest

/--
The name under which a scalar type is looked up: lower case, without parenthesised groups, and with
one space between its words.
-/
def lookupName (cs : List Char) : String :=
  String.ofList (join [' '] (words ((outsideParentheses 0 cs).map Char.toLower)))

end RowConduit
