import RowConduit.Proofs.Text.Quoting
import RowConduit.Query.Dialect

/-!
# Queries as their reader sees them

A query scanned from left to right by the quoting rules of its dialect: quoted tokens, each with the
text it stands for, and the characters between them.  Commas, keywords and parentheses count only
outside tokens, so the parts of a select list and their output names are read off the symbols.
-/

namespace RowConduit

open RowConduit.Text

/-- A quoted token with the text it stands for, or a character outside tokens. -/
inductive Symbol where
  | char (c : Char)
  | token (style : QuoteStyle) (value : List Char)
  deriving DecidableEq, Repr

namespace Symbol

/-- The symbol without the text of a token: what is left of it outside tokens. -/
def blank : Symbol → Symbol
  | .char c => .char c
  | .token style _ => .token style []

def deepen (depth : Nat) : Symbol → Nat
  | .char c =>
      if c = '(' || c = '[' then depth + 1
      else if c = ')' || c = ']' then depth - 1
      else depth
  | .token _ _ => depth

def spell (s : String) : List Symbol :=
  s.toList.map .char

def depthAfter (depth : Nat) (symbols : List Symbol) : Nat :=
  symbols.foldl deepen depth

/-- The parts between the commas outside parentheses and square brackets. -/
def splitCommas (depth : Nat) : List Symbol → List (List Symbol)
  | [] => [[]]
  | s :: rest =>
      if s = .char ',' ∧ depth = 0 then [] :: splitCommas depth rest
      else (splitCommas (s.deepen depth) rest).modifyHead (s :: ·)

/-- The symbols before and after the last keyword outside parentheses and square brackets. -/
def splitLast? (keyword : List Symbol) (depth : Nat) :
    List Symbol → Option (List Symbol × List Symbol)
  | [] => none
  | s :: rest =>
      match splitLast? keyword (s.deepen depth) rest with
      | some sides => some (s :: sides.1, sides.2)
      | none =>
          if depth = 0 ∧ keyword.isPrefixOf (s :: rest) = true then
            some ([], (s :: rest).drop keyword.length)
          else none

def name? : List Symbol → Option (List Char)
  | [.token _ value] => some value
  | symbols => symbols.mapM fun
      | .char c => some c
      | .token _ _ => none

/-- The name under which an item of a select list comes out: its alias, or its last path part. -/
def outputName? (item : List Symbol) : Option (List Char) :=
  match splitLast? (spell " AS ") 0 item with
  | some sides => name? sides.2
  | none => (splitLast? (spell ".") 0 item).bind fun sides => name? sides.2

/-- The items of the select list of a query, and what stands behind its last `FROM`. -/
def selectParts? (query : List Symbol) : Option (List (List Symbol) × List Symbol) :=
  if (spell "SELECT ").isPrefixOf query then
    (splitLast? (spell " FROM ") 0 (query.drop (spell "SELECT ").length)).map fun sides =>
      (splitCommas 0 sides.1, sides.2)
  else none

/-- No comma outside parentheses and square brackets. -/
def unbroken (depth : Nat) : List Symbol → Bool
  | [] => true
  | s :: rest => !(s == .char ',' && depth == 0) && unbroken (s.deepen depth) rest

theorem depthAfter_append (depth : Nat) (front back : List Symbol) :
    depthAfter depth (front ++ back) = depthAfter (depthAfter depth front) back := by
  rw [depthAfter, List.foldl_append, depthAfter, depthAfter]

theorem splitLast?_append {keyword front back : List Symbol} {depth : Nat}
    {sides : List Symbol × List Symbol}
    (found : splitLast? keyword (depthAfter depth front) back = some sides) :
    splitLast? keyword depth (front ++ back) = some (front ++ sides.1, sides.2) := by
  induction front generalizing depth with
  | nil => exact found
  | cons s front ih =>
      have later : splitLast? keyword (s.deepen depth) (front ++ back) =
          some (front ++ sides.1, sides.2) := ih found
      rw [List.cons_append, splitLast?, later]
      rfl

/-- Symbols without a comma of their own belong to the first part. -/
theorem splitCommas_append {front : List Symbol} {depth : Nat}
    (whole : unbroken depth front = true) (back : List Symbol) :
    splitCommas depth (front ++ back) =
      (splitCommas (depthAfter depth front) back).modifyHead (front ++ ·) := by
  induction front generalizing depth with
  | nil =>
      cases parts : splitCommas depth back <;> simp [depthAfter, parts]
  | cons s front ih =>
      simp only [unbroken, Bool.and_eq_true, Bool.not_eq_true', Bool.and_eq_false_iff,
        beq_eq_false_iff_ne] at whole
      have apart : ¬ (s = .char ',' ∧ depth = 0) := by
        rintro ⟨comma, top⟩
        exact whole.1.elim (fun different => different comma) (fun deep => deep top)
      rw [List.cons_append, splitCommas, if_neg apart, ih whole.2, List.modifyHead_modifyHead]
      rfl

theorem splitCommas_comma {front : List Symbol} (whole : unbroken 0 front = true)
    (closed : depthAfter 0 front = 0) (back : List Symbol) :
    splitCommas 0 (front ++ .char ',' :: back) = front :: splitCommas 0 back := by
  rw [splitCommas_append whole, closed, splitCommas, if_pos ⟨rfl, rfl⟩]
  simp

theorem splitCommas_whole {front : List Symbol} (whole : unbroken 0 front = true) :
    splitCommas 0 front = [front] := by
  have split := splitCommas_append whole []
  simpa [splitCommas] using split

theorem spell_append (s t : String) : spell (s ++ t) = spell s ++ spell t := by
  rw [spell, String.toList_append, List.map_append, spell, spell]

theorem unbroken_append (depth : Nat) (front back : List Symbol) :
    unbroken depth (front ++ back) =
      (unbroken depth front && unbroken (depthAfter depth front) back) := by
  induction front generalizing depth with
  | nil => rfl
  | cons s front ih =>
      rw [List.cons_append, unbroken, unbroken, ih, Bool.and_assoc]
      rfl

/-- Outside parentheses there is no comma, and at the end none is open. -/
structure Balanced (symbols : List Symbol) : Prop where
  whole : unbroken 0 symbols = true
  closed : depthAfter 0 symbols = 0

theorem Balanced.nil : Balanced [] :=
  ⟨rfl, rfl⟩

theorem Balanced.append {front back : List Symbol} (first : Balanced front)
    (second : Balanced back) : Balanced (front ++ back) where
  whole := by rw [unbroken_append, first.whole, first.closed, second.whole, Bool.and_self]
  closed := by rw [depthAfter_append, first.closed, second.closed]

theorem Balanced.token (style : QuoteStyle) (value : List Char) :
    Balanced [.token style value] :=
  ⟨rfl, rfl⟩

/-- Parentheses that the text before a token opens may be closed by the text behind it. -/
theorem Balanced.around {before behind : List Symbol} {depth : Nat}
    (opens : unbroken 0 before = true ∧ depthAfter 0 before = depth)
    (closes : unbroken depth behind = true ∧ depthAfter depth behind = 0)
    (style : QuoteStyle) (value : List Char) :
    Balanced (before ++ .token style value :: behind) where
  whole := by
    rw [unbroken_append, opens.1, opens.2, Bool.true_and]
    exact closes.1
  closed := by
    rw [depthAfter_append, opens.2]
    exact closes.2

theorem outputName?_alias {front : List Symbol} (closed : depthAfter 0 front = 0)
    (style : QuoteStyle) (value : List Char) :
    outputName? (front ++ (spell " AS " ++ [.token style value])) = some value := by
  have found : splitLast? (spell " AS ") (depthAfter 0 front)
      (spell " AS " ++ [.token style value]) = some ([], [.token style value]) := by
    rw [closed]
    rfl
  rw [outputName?, splitLast?_append found]
  rfl

end Symbol

namespace Dialect

def styleOf? (d : Dialect) (c : Char) : Option QuoteStyle :=
  if c = d.identifierStyle.mark then some d.identifierStyle
  else if c = d.literalStyle.mark then some d.literalStyle
  else none

def scan? (d : Dialect) : List Char → Option (List Symbol)
  | [] => some []
  | c :: rest =>
      match d.styleOf? c with
      | none => (d.scan? rest).map (.char c :: ·)
      | some style =>
          match _taken : style.scan? (c :: rest) with
          | none => none
          | some (value, after) => (d.scan? after).map (.token style value :: ·)
termination_by cs => cs.length
decreasing_by
  · simp
  · exact QuoteStyle.scan?_length _taken

def symbols (d : Dialect) : Fragment → List Symbol
  | .code text => Symbol.spell text
  | .identifier id => [.token d.identifierStyle id.name.toList]
  | .literal value => [.token d.literalStyle value.toList]

theorem identifierStyle_sound (d : Dialect) : d.identifierStyle.Sound := by
  cases d <;> simp [QuoteStyle.Sound, identifierStyle]

theorem literalStyle_sound (d : Dialect) : d.literalStyle.Sound := by
  cases d <;> simp [QuoteStyle.Sound, literalStyle]

theorem styleOf?_identifierStyle (d : Dialect) :
    d.styleOf? d.identifierStyle.mark = some d.identifierStyle := by
  simp [styleOf?]

theorem styleOf?_literalStyle (d : Dialect) :
    d.styleOf? d.literalStyle.mark = some d.literalStyle := by
  cases d <;> rfl

def Uses (d : Dialect) (style : QuoteStyle) : Prop :=
  style = d.identifierStyle ∨ style = d.literalStyle

theorem Uses.sound {d : Dialect} {style : QuoteStyle} (used : d.Uses style) : style.Sound := by
  rcases used with rfl | rfl
  · exact d.identifierStyle_sound
  · exact d.literalStyle_sound

theorem Uses.styleOf? {d : Dialect} {style : QuoteStyle} (used : d.Uses style) :
    d.styleOf? style.mark = some style := by
  rcases used with rfl | rfl
  · exact d.styleOf?_identifierStyle
  · exact d.styleOf?_literalStyle

theorem scan?_quote {d : Dialect} {style : QuoteStyle} (used : d.Uses style) (cs : List Char)
    {rest : List Char} (apart : style.Apart rest) :
    d.scan? (style.quote cs ++ rest) = (d.scan? rest).map (.token style cs :: ·) := by
  have taken := QuoteStyle.scan?_quote used.sound cs apart
  rw [QuoteStyle.quote, List.cons_append] at taken ⊢
  rw [scan?, used.styleOf?]
  dsimp only
  split
  · next stuck =>
      rw [taken] at stuck
      cases stuck
  · next value after found =>
      rw [taken] at found
      cases found
      rfl

theorem scan?_plain {d : Dialect} {cs : List Char} (plain : ∀ c ∈ cs, d.styleOf? c = none)
    (rest : List Char) :
    d.scan? (cs ++ rest) = (d.scan? rest).map (cs.map .char ++ ·) := by
  induction cs with
  | nil => cases scanned : d.scan? rest <;> simp [scanned]
  | cons c cs ih =>
      have outside : d.styleOf? c = none := plain c List.mem_cons_self
      rw [List.cons_append, scan?, outside]
      dsimp only
      rw [ih fun other member => plain other (List.mem_cons_of_mem c member), Option.map_map]
      rfl

end Dialect

end RowConduit
