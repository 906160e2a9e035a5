import RowConduit.Schema.Table

/-!
# Selecting tables

Which tables of a database a request covers: those it names and every table they depend on, directly
or through other tables.  Dependencies may form cycles.  Each table is expanded once, so the work
ends when no table of the database is left to be selected.
-/

namespace RowConduit

/-- A table that waits to be selected, with the table that depends on it, if one does. -/
structure Pending where
  table : String
  requiredBy : Option String
  deriving DecidableEq, Repr

def Table.dependencies (t : Table) : List Pending :=
  t.references.reverse.map fun name => ⟨name, some t.name⟩

def Database.unselected (db : Database) (selected : List String) : List Table :=
  db.tables.filter fun table => !selected.contains table.name

theorem Database.name_of_table? {db : Database} {name : String} {table : Table}
    (found : db.table? name = some table) : table.name = name := by
  simpa using List.find?_some found

theorem Database.unselected_cons_lt {db : Database} {selected : List String} {name : String}
    {table : Table} (found : db.table? name = some table) (fresh : name ∉ selected) :
    (db.unselected (name :: selected)).length < (db.unselected selected).length := by
  have member : table ∈ db.tables := List.mem_of_find?_eq_some found
  have named := Database.name_of_table? found
  have narrower : db.unselected (name :: selected) =
      (db.unselected selected).filter fun t => t.name != name := by
    simp only [unselected, List.filter_filter]
    congr 1
    funext t
    by_cases same : t.name = name <;> simp [same]
  rw [narrower]
  have present : table ∈ db.unselected selected := by
    simp [unselected, member, named, fresh]
  have dropped : ¬ (table.name != name) = true := by simp [named]
  exact List.length_filter_lt_length_iff_exists.mpr ⟨table, present, dropped⟩

/--
Select the tables that wait and all they depend on, the tables in front first.  A dependency that
the database lacks is an error; it is blamed on the table that depends on it.
-/
def Database.close (db : Database) (selected : List String) :
    List Pending → Except SchemaFault (List String)
  | [] => .ok selected
  | next :: pending =>
      if _seen : next.table ∈ selected then
        db.close selected pending
      else
        match _found : db.table? next.table with
        | none =>
            .error (.missingTable db.reference next.table (next.requiredBy.getD next.table))
        | some table => db.close (next.table :: selected) (table.dependencies ++ pending)
termination_by pending => ((db.unselected selected).length, pending.length)
decreasing_by
  · exact Prod.Lex.right _ (by simp)
  · exact Prod.Lex.left _ _ (Database.unselected_cons_lt _found _seen)

/-- The names that a request lists and the database lacks, in the order of the request. -/
def Database.missing (db : Database) (allowed : List String) : List String :=
  allowed.filter fun name => (db.table? name).isNone

/--
The tables a request covers, in the order of the database.  An empty request covers every table and
follows no reference.
-/
def Database.select (db : Database) (allowed : List String) : Except JobError (List Table) :=
  if allowed.isEmpty then .ok db.tables
  else if (db.missing allowed).isEmpty then
    match db.close [] (allowed.reverse.map fun name => ⟨name, none⟩) with
    | .ok selected => .ok (db.tables.filter fun table => selected.contains table.name)
    | .error fault => .error (.schema fault)
  else
    .error (.config (.tablesNotFound db.reference (db.missing allowed)))

end RowConduit
