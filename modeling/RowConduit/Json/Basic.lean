import RowConduit.Json.Number
import RowConduit.Text.Hex

/-!
# JSON documents

A document as a value, and its compact text.  The members of an object keep their order, and a name
occurs once: writing a name again replaces its value and leaves it in its place.
-/

namespace RowConduit

open RowConduit.Text

inductive Json where
  | null
  | bool (value : Bool)
  | number (value : Json.Number)
  | string (value : String)
  | array (items : List Json)
  | object (members : List (String × Json))
  deriving Repr

namespace Json

abbrev Members : Type :=
  List (String × Json)

/-- Set a member: in its place if the name is there already, at the end otherwise. -/
def setMember (name : String) (value : Json) : Members → Members
  | [] => [(name, value)]
  | member :: rest =>
      if member.1 = name then (name, value) :: rest else member :: setMember name value rest

/-- Members written one after the other, a later value of a name replacing an earlier one. -/
def collect (members : Members) : Members :=
  members.foldl (fun done member => setMember member.1 member.2 done) []

def member? (name : String) (members : Members) : Option Json :=
  (members.find? fun member => member.1 == name).map (·.2)

def asString? : Json → Option String
  | .string s => some s
  | _ => none

def controlEscape (c : Char) : List Char :=
  if c = '\n' then ['\\', 'n']
  else if c = '\r' then ['\\', 'r']
  else if c = '\t' then ['\\', 't']
  else if c.toNat = 8 then ['\\', 'b']
  else if c.toNat = 12 then ['\\', 'f']
  else
    ['\\', 'u', '0', '0', hexChar (Fin.ofNat 16 (c.toNat / 16)), hexChar (Fin.ofNat 16 c.toNat)]

/-- One character of a string: only quotes, backslashes and control characters are escaped. -/
def escapeChar (c : Char) : List Char :=
  if c = '"' || c = '\\' then ['\\', c]
  else if c.toNat < 32 then controlEscape c
  else [c]

def quote (cs : List Char) : List Char :=
  '"' :: (cs.flatMap escapeChar ++ ['"'])

mutual

def text : Json → List Char
  | .null => ['n', 'u', 'l', 'l']
  | .bool true => ['t', 'r', 'u', 'e']
  | .bool false => ['f', 'a', 'l', 's', 'e']
  | .number n => n.text
  | .string s => quote s.toList
  | .array items => '[' :: (itemsText items ++ [']'])
  | .object members => '\x7b' :: (membersText members ++ ['\x7d'])

def itemsText : List Json → List Char
  | [] => []
  | item :: rest => item.text ++ moreItemsText rest

def moreItemsText : List Json → List Char
  | [] => []
  | item :: rest => ',' :: (item.text ++ moreItemsText rest)

def membersText : List (String × Json) → List Char
  | [] => []
  | (name, value) :: rest => quote name.toList ++ ':' :: (value.text ++ moreMembersText rest)

def moreMembersText : List (String × Json) → List Char
  | [] => []
  | (name, value) :: rest =>
      ',' :: (quote name.toList ++ ':' :: (value.text ++ moreMembersText rest))

end

def render (j : Json) : String :=
  String.ofList j.text

def kindName : Json → String
  | .null => "null"
  | .bool _ => "a boolean"
  | .number _ => "a number"
  | .string _ => "a string"
  | .array _ => "an array"
  | .object _ => "an object"

mutual

def depth : Json → Nat
  | .null => 0
  | .bool _ => 0
  | .number _ => 0
  | .string _ => 0
  | .array items => itemsDepth items + 1
  | .object members => membersDepth members + 1

def itemsDepth : List Json → Nat
  | [] => 0
  | item :: rest => max item.depth (itemsDepth rest)

def membersDepth : List (String × Json) → Nat
  | [] => 0
  | (_, value) :: rest => max value.depth (membersDepth rest)

end

mutual

def WellFormed : Json → Prop
  | .null => True
  | .bool _ => True
  | .number _ => True
  | .string _ => True
  | .array items => ItemsWellFormed items
  | .object members => (members.map (·.1)).Nodup ∧ MembersWellFormed members

def ItemsWellFormed : List Json → Prop
  | [] => True
  | item :: rest => item.WellFormed ∧ ItemsWellFormed rest

def MembersWellFormed : List (String × Json) → Prop
  | [] => True
  | (_, value) :: rest => value.WellFormed ∧ MembersWellFormed rest

end

theorem member?_setMember_self (name : String) (value : Json) (members : Members) :
    member? name (setMember name value members) = some value := by
  induction members with
  | nil => simp [setMember, member?]
  | cons member rest ih =>
      unfold setMember
      split
      · simp [member?]
      · next other =>
          rw [member?] at ih ⊢
          simp [other, ih]

theorem member?_setMember_of_ne {name other : String} (value : Json) (members : Members)
    (different : name ≠ other) :
    member? other (setMember name value members) = member? other members := by
  induction members with
  | nil => simp [setMember, member?, different]
  | cons member rest ih =>
      unfold setMember
      split
      · next same =>
          have unlike : member.1 ≠ other := by rw [same]; exact different
          simp [member?, different, unlike]
      · by_cases here : member.1 = other
        · simp [member?, here]
        · rw [member?, member?] at ih ⊢
          simp [here, ih]

end Json

end RowConduit
