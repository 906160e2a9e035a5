import RowConduit.Row.Basic
import RowConduit.Text.Split

/-!
# Templates

Texts with placeholders in braces.  A placeholder that names a text field of a row is replaced by
that text, once; any other stays as it is written.  The two warehouse forms then replace characters
that a table or data set name may not have.
-/

namespace RowConduit

open RowConduit.Text

namespace Template

def opening : Char :=
  '\x7b'

def closing : Char :=
  '\x7d'

inductive Part where
  | literal (text : List Char)
  | placeholder (name : List Char)
  deriving DecidableEq, Repr

theorem cutAt?_after_lt {separates : Char → Bool} {cs before after : List Char}
    (h : cutAt? separates cs = some (before, after)) : after.length < cs.length := by
  induction cs generalizing before with
  | nil => simp [cutAt?] at h
  | cons c rest ih =>
      unfold cutAt? at h
      split at h
      · simp only [Option.some.injEq, Prod.mk.injEq] at h
        simp [h.2]
      · simp only [Option.map_eq_some_iff, Prod.mk.injEq, Prod.exists] at h
        obtain ⟨front, back, found, _, rfl⟩ := h
        have smaller := ih found
        simp only [List.length_cons]
        omega

/-- Take a template apart; an opening brace without a closing one after it is literal. -/
def parts (cs : List Char) : List Part :=
  match _opened : cutAt? (· = opening) cs with
  | none => [.literal cs]
  | some (before, inside) =>
      match _closed : cutAt? (· = closing) inside with
      | none => [.literal cs]
      | some (name, after) => .literal before :: .placeholder name :: parts after
termination_by cs.length
decreasing_by
  have first := cutAt?_after_lt _opened
  have second := cutAt?_after_lt _closed
  omega

def Part.resolve (value? : String → Option String) : Part → List Char
  | .literal text => text
  | .placeholder name =>
      match value? (String.ofList name) with
      | some value => value.toList
      | none => opening :: (name ++ [closing])

end Template

/-- A character that stays as it is in a table name; dollar signs and points do not. -/
def tableNameChar (c : Char) : Char :=
  if c = '$' || c = '.' then '_' else c

/-- A character that stays as it is in a data set name: ASCII letters, digits and underscores. -/
def datasetNameChar (c : Char) : Char :=
  if c.isAlphanum || c = '_' then c else '_'

namespace Row

def formatTemplate (r : Row) (template : String) : String :=
  String.ofList ((Template.parts template.toList).flatMap (·.resolve r.text?))

def formatTableName (r : Row) (template : String) : String :=
  String.ofList ((r.formatTemplate template).toList.map tableNameChar)

def formatDatasetName (r : Row) (template : String) : String :=
  String.ofList ((r.formatTemplate template).toList.map datasetNameChar)

end Row

end RowConduit
