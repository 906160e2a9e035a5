import RowConduit.Error
import RowConduit.Text.Blank
import RowConduit.Text.LetterCase

/-!
# Tables and schemas

The columns and references of a table, and the tables of a discovered database.  The checked
constructors refuse blank names and repeated columns or tables.
-/

namespace RowConduit

open RowConduit.Text

/-- The kind a user asks for, blanks around the name and letter case aside. -/
def SourceKind.ofSpokenName (s : String) : Except JobError SourceKind :=
  let name := lower (trimmed s)
  match spokenNames.lookup name with
  | some kind => .ok kind
  | none => .error (.config (.unknownSourceKind name))

def SchemaReference.of (name : String) (kind : SourceKind) : Except JobError SchemaReference :=
  if isBlankText name then .error (.schema (.blankReference kind)) else .ok ⟨name, kind⟩

structure Column where
  name : String
  rawType : String
  kind : SourceKind
  precision : Option UInt32
  scale : Option UInt32
  isGenerated : Bool
  deriving DecidableEq, Repr

structure Table where
  name : String
  columns : List Column
  parent : Option String
  foreignKeys : List String
  deriving DecidableEq, Repr

/-- A name that occurs again later in a list, the one whose second occurrence comes first. -/
def firstRepeated (seen : List String) : List String → Option String
  | [] => none
  | name :: rest => if name ∈ seen then some name else firstRepeated (name :: seen) rest

namespace Table

def of (name : String) (columns : List Column) : Except SchemaFault Table :=
  if isBlankText name then .error .blankTableName
  else
    match firstRepeated [] (columns.map (·.name)) with
    | some column => .error (.repeatedColumn name column)
    | none => .ok ⟨name, columns, none, []⟩

def withParent (t : Table) (parent : String) : Table :=
  { t with parent := some parent }

/-- The table with one more table that a key refers to; a table is listed once. -/
def withForeignKey (t : Table) (referenced : String) : Table :=
  if referenced ∈ t.foreignKeys then t
  else { t with foreignKeys := t.foreignKeys ++ [referenced] }

def withForeignKeys (t : Table) (referenced : List String) : Table :=
  referenced.foldl withForeignKey t

/-- The columns that are read from the source: all but the generated ones. -/
def sourcedColumns (t : Table) : List Column :=
  t.columns.filter fun column => !column.isGenerated

def column? (t : Table) (name : String) : Option Column :=
  t.columns.find? fun column => column.name == name

/-- The tables this one depends on: its parent, then the tables its keys refer to. -/
def references (t : Table) : List String :=
  t.parent.toList ++ t.foreignKeys

end Table

structure Database where
  reference : SchemaReference
  tables : List Table
  deriving DecidableEq, Repr

namespace Database

def of (reference : SchemaReference) (tables : List Table) : Except SchemaFault Database :=
  match firstRepeated [] (tables.map (·.name)) with
  | some table => .error (.repeatedTable reference table)
  | none => .ok ⟨reference, tables⟩

def table? (db : Database) (name : String) : Option Table :=
  db.tables.find? fun table => table.name == name

end Database

theorem firstRepeated_eq_none_iff {seen names : List String} :
    firstRepeated seen names = none ↔ names.Nodup ∧ ∀ name ∈ names, name ∉ seen := by
  induction names generalizing seen with
  | nil => simp [firstRepeated]
  | cons name rest ih =>
      unfold firstRepeated
      split
      · next repeated => simp [repeated]
      · next fresh =>
          rw [ih]
          simp only [List.nodup_cons, List.mem_cons, not_or, forall_eq_or_imp]
          constructor
          · rintro ⟨distinct, apart⟩
            exact ⟨⟨fun member => (apart name member).1 rfl, distinct⟩, fresh,
              fun other member => (apart other member).2⟩
          · rintro ⟨⟨unlisted, distinct⟩, _, apart⟩
            exact ⟨distinct, fun other member =>
              ⟨fun same => unlisted (same ▸ member), apart other member⟩⟩

end RowConduit
