import RowConduit.Query.Plan
import RowConduit.Warehouse.Destination

/-!
# Settings

What a job is configured with: its source, what it exports, where failed records go, and how it
logs.  Settings are checked as a whole; the first thing that is wrong is the error.
-/

namespace RowConduit

open RowConduit.Text

structure SourceSettings where
  kind : SourceKind
  name : String
  deriving DecidableEq, Repr

/-- What is exported: a dialect, if not that of the source, and a list of tables, if not all. -/
structure ExportSettings where
  dialect : Option String
  tables : Option String
  deriving DecidableEq, Repr

structure DeadLetterSettings where
  includeTrace : Bool
  table : Option String
  tableSuffix : String
  deriving DecidableEq, Repr

structure LoggingSettings where
  verbosity : String
  format : String
  deriving DecidableEq, Repr

structure Settings where
  source : SourceSettings
  exports : Option ExportSettings
  deadLetter : DeadLetterSettings
  logging : LoggingSettings
  deriving DecidableEq, Repr

/-- The dialect of the queries: the one that is asked for, or that of the source. -/
def ExportSettings.resolveDialect (exports : ExportSettings) (kind : SourceKind) :
    Except JobError Dialect :=
  match exports.dialect with
  | some name => Dialect.ofSpokenName name
  | none => Dialect.ofSourceKind kind

namespace DeadLetterSettings

def default : DeadLetterSettings :=
  ⟨true, none, defaultDeadLetterSuffix⟩

def tableFor (settings : DeadLetterSettings) (spec : String) : String :=
  deadLetterTable settings.table spec settings.tableSuffix

end DeadLetterSettings

def LoggingSettings.default : LoggingSettings :=
  ⟨"info", "text"⟩

def logFormats : List String :=
  ["text", "json"]

namespace Settings

def checkSource (s : Settings) : Except JobError Unit :=
  if isBlankText s.source.name then .error (.config .sourceNameRequired) else .ok ()

def checkExports (s : Settings) : Except JobError Unit :=
  match s.exports with
  | none => .ok ()
  | some exports =>
      if s.source.kind = .cassandra then .error (.config .exportUnsupported)
      else (exports.resolveDialect s.source.kind).map fun _ => ()

def checkDeadLetter (s : Settings) : Except JobError Unit :=
  if s.deadLetter.table.isNone && s.deadLetter.tableSuffix.isEmpty then
    .error (.config .tableSuffixRequired)
  else .ok ()

/-- The log level and the log format must be known, letter case aside. -/
def checkLogging (s : Settings) : Except JobError Unit :=
  if lower s.logging.verbosity ∉ logLevels then
    .error (.config (.unknownVerbosity s.logging.verbosity))
  else if lower s.logging.format ∉ logFormats then
    .error (.config (.unknownLogFormat s.logging.format))
  else .ok ()

def check (s : Settings) : Except JobError Unit := do
  s.checkSource
  s.checkExports
  s.checkDeadLetter
  s.checkLogging

def reference (s : Settings) : Except JobError SchemaReference :=
  SchemaReference.of s.source.name s.source.kind

def exportDialect (s : Settings) : Except JobError Dialect :=
  match s.exports with
  | some exports => exports.resolveDialect s.source.kind
  | none => .error (.config .exportMissing)

/-- The tables that are exported; no name means every table. -/
def exportTables (s : Settings) : List String :=
  ((s.exports.bind (·.tables)).map tableList).getD []

end Settings

end RowConduit
