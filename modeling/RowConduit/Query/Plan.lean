import RowConduit.Query.Dialect
import RowConduit.Query.Selection
import RowConduit.Text.Split

/-!
# Read plans

One read query for every table that a request covers.  Planning writes query text and runs nothing.
-/

namespace RowConduit

open RowConduit.Text

def maxPartitions : Nat :=
  1000

def sourceTableColumn : String :=
  "_source_table"

structure TableRead where
  table : String
  query : String
  maxPartitions : Nat
  deriving DecidableEq, Repr

/-- The names in a comma-separated list, without surrounding blanks and without empty ones. -/
def tableList (list : String) : List String :=
  (((pieces (· = ',') list.toList).map trim).filter fun piece => !piece.isEmpty).map String.ofList

structure Planner where
  dialect : Dialect
  mapper : TypeMapper

namespace Planner

def commaSeparated : List (List Fragment) → List Fragment
  | [] => []
  | [only] => only
  | first :: rest => first ++ .code "," :: commaSeparated rest

def queryFragments (table : Identifier) (columns : List (List Fragment)) : List Fragment :=
  [.code "SELECT ", .literal table.name, .code (" AS " ++ sourceTableColumn)] ++
    (if columns.isEmpty then [] else .code ", " :: commaSeparated columns) ++
    [.code " FROM ", .identifier table, .code " AS t"]

def planTable (p : Planner) (table : Table) : Except IdentifierFault TableRead := do
  let columns ← table.sourcedColumns.mapM fun column =>
    p.dialect.columnFragments column.name (p.mapper.mapColumn column)
  let id ← Identifier.of table.name
  return ⟨table.name, p.dialect.write (queryFragments id columns), RowConduit.maxPartitions⟩

def plan (p : Planner) (db : Database) (allowed : List String) :
    Except JobError (List TableRead) := do
  let tables ← db.select allowed
  tables.mapM fun table => (p.planTable table).mapError .invalidIdentifier

end Planner

/-- Plan the reads of a comma-separated request, or of every table, with the built-in types. -/
def planReads (db : Database) (allowed : Option String) (dialect : Dialect) :
    Except JobError (List TableRead) :=
  Planner.plan ⟨dialect, TypeMapper.builtin⟩ db ((allowed.map tableList).getD [])

end RowConduit
