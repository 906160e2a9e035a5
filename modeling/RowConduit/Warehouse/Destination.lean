import RowConduit.Error
import RowConduit.Row.Template

/-!
# Destinations

Where the rows of a job go: a warehouse table given by a project and by templates for the data set
and the table, resolved for every row.  Rows that fail go to a dead-letter table beside it.
-/

namespace RowConduit

open RowConduit.Text

def tableSpec (project dataset table : String) : String :=
  project ++ ":" ++ dataset ++ "." ++ table

structure Destination where
  project : String
  dataset : String
  table : String
  deriving DecidableEq, Repr

def Destination.display (d : Destination) : String :=
  tableSpec d.project d.dataset d.table

structure OutputTable where
  project : String
  datasetTemplate : String
  tableTemplate : String
  deriving DecidableEq, Repr

namespace OutputTable

def separatesSpec (c : Char) : Bool :=
  c = ':' || c = '.'

/-- The output that a text of three parts, none of them empty, describes. -/
def ofSpec (spec : String) : Except JobError OutputTable :=
  match pieces separatesSpec spec.toList with
  | [project, dataset, table] =>
      if project.isEmpty || dataset.isEmpty || table.isEmpty then
        .error (.config (.malformedTableSpec spec))
      else
        .ok ⟨String.ofList project, String.ofList dataset, String.ofList table⟩
  | _ => .error (.config (.malformedTableSpec spec))

/--
The output of a job: both templates if they are given, otherwise the table text.  A project that is
not given is taken from the table text, which must be well formed wherever it is given.
-/
def resolve (project? dataset? table? spec? : Option String) : Except JobError OutputTable := do
  let described ← spec?.mapM ofSpec
  match dataset?, table? with
  | some dataset, some table =>
      match project?.or (described.map (·.project)) with
      | some project => return ⟨project, dataset, table⟩
      | none => throw (.config .projectRequired)
  | _, _ =>
      match described with
      | some output => return output
      | none => throw (.config .tableSpecRequired)

def spec (output : OutputTable) : String :=
  tableSpec output.project output.datasetTemplate output.tableTemplate

def destination (output : OutputTable) (row : Row) : Destination where
  project := output.project
  dataset := row.formatDatasetName output.datasetTemplate
  table := row.formatTableName output.tableTemplate

end OutputTable

def defaultDeadLetterSuffix : String :=
  "_error_records"

/-- The dead-letter table: the one that is configured, or the output table with a suffix. -/
def deadLetterTable (configured : Option String) (spec suffix : String) : String :=
  configured.getD (spec ++ suffix)

end RowConduit
