import RowConduit.Json.Token

/-!
# Drafts

A draft is what can be read of a document up to its first fault: every container that was opened
holds what was read of it and says whether it was closed.  A reader that wants a certain shape can
so report a wrong shape that comes before the fault, and the fault otherwise.

Tokens are fed one at a time to a machine with a stack of open containers.
-/

namespace RowConduit.Json

open RowConduit.Text

/-- A document as far as it could be read; a name that is no string is kept as it was found. -/
inductive Draft where
  | broken
  | null
  | bool (value : Bool)
  | number (value : Number)
  | string (text : Option String)
  | array (items : List Draft) (closed : Bool)
  | object (members : List (Draft × Draft)) (closed : Bool)
  deriving Repr

/-- An open container around the value being read, with what it holds so far, newest first. -/
inductive Frame where
  | item (done : List Draft)
  | member (done : List (Draft × Draft)) (name : Draft)

/-- What may come next.  The lists hold what the innermost container has so far, newest first. -/
inductive State where
  | value (stack : List Frame)
  | firstItem (stack : List Frame)
  | firstName (stack : List Frame)
  | memberName (done : List (Draft × Draft)) (stack : List Frame)
  | colon (done : List (Draft × Draft)) (name : Draft) (stack : List Frame)
  | afterItem (done : List Draft) (stack : List Frame)
  | afterMember (done : List (Draft × Draft)) (stack : List Frame)
  | finished (root : Draft)
  | failed (root : Draft)

def Draft.ofItems (done : List Draft) (closed : Bool) : Draft :=
  .array done.reverse closed

def Draft.ofMembers (done : List (Draft × Draft)) (closed : Bool) : Draft :=
  .object done.reverse closed

def deliver (d : Draft) : List Frame → State
  | [] => .finished d
  | .item done :: outer => .afterItem (d :: done) outer
  | .member done name :: outer => .afterMember ((name, d) :: done) outer

def abandon (d : Draft) : List Frame → Draft
  | [] => d
  | .item done :: outer => abandon (.ofItems (d :: done) false) outer
  | .member done name :: outer => abandon (.ofMembers ((name, d) :: done) false) outer

def startValue (stack : List Frame) : Token → State
  | .openArray => .firstItem stack
  | .openObject => .firstName stack
  | .null => deliver .null stack
  | .bool b => deliver (.bool b) stack
  | .number n => deliver (.number n) stack
  | .string s => deliver (.string s) stack
  | .closeArray => .failed (abandon .broken stack)
  | .closeObject => .failed (abandon .broken stack)
  | .comma => .failed (abandon .broken stack)
  | .colon => .failed (abandon .broken stack)
  | .broken => .failed (abandon .broken stack)

def Token.glimpse : Token → Draft
  | .openArray => .array [] false
  | .openObject => .object [] false
  | .null => .null
  | .bool b => .bool b
  | .number n => .number n
  | .string s => .string s
  | .closeArray => .broken
  | .closeObject => .broken
  | .comma => .broken
  | .colon => .broken
  | .broken => .broken

def startName (done : List (Draft × Draft)) (stack : List Frame) : Token → State
  | .string s => .colon done (.string s) stack
  | token => .failed (abandon (.ofMembers ((token.glimpse, .broken) :: done) false) stack)

def State.step : State → Token → State
  | .value stack, token => startValue stack token
  | .firstItem stack, .closeArray => deliver (.array [] true) stack
  | .firstItem stack, token => startValue (.item [] :: stack) token
  | .firstName stack, .closeObject => deliver (.object [] true) stack
  | .firstName stack, token => startName [] stack token
  | .memberName done stack, token => startName done stack token
  | .colon done name stack, .colon => .value (.member done name :: stack)
  | .colon done name stack, _ =>
      .failed (abandon (.ofMembers ((name, .broken) :: done) false) stack)
  | .afterItem done stack, .comma => .value (.item done :: stack)
  | .afterItem done stack, .closeArray => deliver (.ofItems done true) stack
  | .afterItem done stack, _ => .failed (abandon (.ofItems done false) stack)
  | .afterMember done stack, .comma => .memberName done stack
  | .afterMember done stack, .closeObject => deliver (.ofMembers done true) stack
  | .afterMember done stack, _ => .failed (abandon (.ofMembers done false) stack)
  | .finished root, _ => .finished root
  | .failed root, _ => .failed root

def State.atEnd : State → Draft
  | .value stack => abandon .broken stack
  | .firstItem stack => abandon (.array [] false) stack
  | .firstName stack => abandon (.object [] false) stack
  | .memberName done stack => abandon (.ofMembers done false) stack
  | .colon done name stack => abandon (.ofMembers ((name, .broken) :: done) false) stack
  | .afterItem done stack => abandon (.ofItems done false) stack
  | .afterMember done stack => abandon (.ofMembers done false) stack
  | .finished root => root
  | .failed root => root

/-- Read tokens up to the end of the value or the first fault; the tokens after the value remain. -/
def State.run : State → List Token → Draft × List Token
  | .finished root, rest => (root, rest)
  | state, [] => (state.atEnd, [])
  | state, token :: rest => (state.step token).run rest

def draft (cs : List Char) : Draft × List Token :=
  (State.value []).run (tokens cs)

mutual

/-- The draft has no fault: nothing is broken and everything was closed. -/
def Draft.isComplete : Draft → Bool
  | .broken => false
  | .null => true
  | .bool _ => true
  | .number _ => true
  | .string _ => true
  | .array items closed => closed && itemsComplete items
  | .object members closed => closed && membersComplete members

def itemsComplete : List Draft → Bool
  | [] => true
  | item :: rest => item.isComplete && itemsComplete rest

def membersComplete : List (Draft × Draft) → Bool
  | [] => true
  | (name, value) :: rest => name.isComplete && value.isComplete && membersComplete rest

end

mutual

def Draft.depth : Draft → Nat
  | .broken => 0
  | .null => 0
  | .bool _ => 0
  | .number _ => 0
  | .string _ => 0
  | .array items _ => draftItemsDepth items + 1
  | .object members _ => draftMembersDepth members + 1

def draftItemsDepth : List Draft → Nat
  | [] => 0
  | item :: rest => max item.depth (draftItemsDepth rest)

def draftMembersDepth : List (Draft × Draft) → Nat
  | [] => 0
  | (_, value) :: rest => max value.depth (draftMembersDepth rest)

end

def numberName : String :=
  "$serde_json::private::Number"

def marksNumber : List (Draft × Draft) → Bool
  | (.string (some name), _) :: _ => name == numberName
  | _ => false

/-- The number of an object that is marked as one: its only value is the text of the number. -/
def markedNumber? : List (Draft × Draft) → Option Number
  | [(_, .string (some text))] => Number.ofText? text.toList
  | _ => none

mutual

/--
The document of a draft without faults; names and strings must be texts, and an object that is
marked as a number must be one.
-/
def Draft.document? : Draft → Option Json
  | .broken => none
  | .null => some .null
  | .bool b => some (.bool b)
  | .number n => some (.number n)
  | .string none => none
  | .string (some s) => some (.string s)
  | .array items true => (documents? items).map .array
  | .object members true =>
      if marksNumber members then (markedNumber? members).map .number
      else (membersOf? members).map fun found => .object (collect found)
  | .array _ false => none
  | .object _ false => none

def documents? : List Draft → Option (List Json)
  | [] => some []
  | item :: rest =>
      match item.document?, documents? rest with
      | some j, some js => some (j :: js)
      | _, _ => none

/-- The members in the order in which they were written, repeated names included. -/
def membersOf? : List (Draft × Draft) → Option Members
  | [] => some []
  | (name, value) :: rest =>
      match name, value.document?, membersOf? rest with
      | .string (some s), some j, some members => some ((s, j) :: members)
      | _, _, _ => none

end

def maxDepth : Nat :=
  127

def parse? (s : String) : Option Json :=
  let read := draft s.toList
  if read.2.isEmpty && read.1.depth ≤ maxDepth then read.1.document? else none

end RowConduit.Json
