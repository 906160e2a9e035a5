import RowConduit.Number.Integer
import RowConduit.Number.Binary64
import RowConduit.Schema.Kind
import RowConduit.Text.Display

/-!
# Errors

Every error is a cause: what went wrong, with the names and texts involved.  The wording of a cause
is one function of it.  Two classes are kept apart: errors that stop a job before it reads anything,
and errors of a single record, which travel with the record.
-/

namespace RowConduit

open RowConduit.Number

inductive IdentifierFault where
  | empty
  | holdsNul (name : String)
  | tooLong (name : String)
  | described (text : String)
  deriving DecidableEq, Repr

def maxIdentifierLength : Nat :=
  128

def IdentifierFault.message : IdentifierFault → String
  | .empty => "identifier cannot be empty"
  | .holdsNul name => "identifier contains null byte: " ++ Text.quotation name
  | .tooLong name =>
      "identifier exceeds maximum length of " ++ toString maxIdentifierLength ++ " characters: " ++
        Text.quotation name
  | .described text => text

inductive SchemaFault where
  | blankReference (kind : SourceKind)
  | blankTableName
  | repeatedColumn (table column : String)
  | repeatedTable (reference : SchemaReference) (table : String)
  | missingTable (reference : SchemaReference) (table requiredBy : String)
  | described (text : String)
  deriving DecidableEq, Repr

def SchemaFault.message : SchemaFault → String
  | .blankReference kind => kind.name ++ " schema reference requires a non-empty name"
  | .blankTableName => "table name cannot be empty"
  | .repeatedColumn table column =>
      "table " ++ table ++ " declares column '" ++ column ++ "' more than once"
  | .repeatedTable reference table =>
      "schema " ++ reference.display ++ " declares table '" ++ table ++ "' more than once"
  | .missingTable reference table requiredBy =>
      "table '" ++ table ++ "' required by '" ++ requiredBy ++ "' is not part of schema " ++
        reference.display
  | .described text => text

inductive DialectFault where
  | unknownName (name : String)
  | noDialect (kind : SourceKind)
  | described (text : String)
  deriving DecidableEq, Repr

def DialectFault.message : DialectFault → String
  | .unknownName name => "'" ++ name ++ "'. Supported dialects: googlesql, postgres"
  | .noDialect kind => "no SQL read dialect for source kind '" ++ kind.name ++ "'"
  | .described text => text

def logLevels : List String :=
  ["error", "warn", "info", "debug", "trace"]

inductive ConfigFault where
  | unknownSourceKind (name : String)
  | tablesNotFound (reference : SchemaReference) (names : List String)
  | projectRequired
  | tableSpecRequired
  | malformedTableSpec (spec : String)
  | sourceNameRequired
  | exportUnsupported
  | exportMissing
  | tableSuffixRequired
  | unknownVerbosity (given : String)
  | unknownLogFormat (given : String)
  | described (text : String)
  deriving DecidableEq, Repr

def ConfigFault.message : ConfigFault → String
  | .unknownSourceKind name =>
      "Unknown source kind: '" ++ name ++
        "'. Supported kinds: googlesql, postgres, cassandra, mysql, oracle"
  | .tablesNotFound reference names =>
      "tables not found in schema " ++ reference.display ++ ": " ++ ", ".intercalate names
  | .projectRequired => "a project id or an output table spec is required"
  | .tableSpecRequired => "output table spec is required without dataset and table templates"
  | .malformedTableSpec spec =>
      "output table spec must be project:dataset.table, got '" ++ spec ++ "'"
  | .sourceNameRequired => "source.name is required"
  | .exportUnsupported => "export is not supported for cassandra sources: no SQL dialect"
  | .exportMissing => "export section is not configured"
  | .tableSuffixRequired =>
      "dead_letter.table_suffix must not be empty without dead_letter.table"
  | .unknownVerbosity given =>
      "logging.verbosity must be one of " ++ ", ".intercalate logLevels ++ ", got '" ++ given ++ "'"
  | .unknownLogFormat given => "logging.format must be 'text' or 'json', got '" ++ given ++ "'"
  | .described text => text

inductive JsonFault where
  | malformed
  | missingField (name : String)
  | repeatedField (name : String)
  | unknownVariant (given : String) (expected : List String)
  | wrongType
  | wrongValue
  | wrongLength
  | schema (fault : SchemaFault)
  deriving DecidableEq, Repr

def backticked (name : String) : String :=
  "\x60" ++ name ++ "\x60"

def JsonFault.message : JsonFault → String
  | .malformed => "<json>"
  | .missingField name => "missing field " ++ backticked name
  | .repeatedField name => "duplicate field " ++ backticked name
  | .unknownVariant given expected =>
      "unknown variant " ++ backticked given ++ ", expected one of " ++
        ", ".intercalate (expected.map backticked)
  | .wrongType => "invalid type"
  | .wrongValue => "invalid value"
  | .wrongLength => "invalid length"
  | .schema fault => "Schema error: " ++ fault.message

inductive FileFault where
  | notFound
  | notUtf8
  | described (text : String)
  deriving DecidableEq, Repr

def FileFault.message : FileFault → String
  | .notFound => "No such file or directory (os error 2)"
  | .notUtf8 => "stream did not contain valid UTF-8"
  | .described text => text

structure ErrorChain where
  message : String
  causes : List String
  deriving DecidableEq, Repr

def causeLines (depth : Nat) : List String → String
  | [] => ""
  | cause :: rest =>
      "\nCaused by:\n  " ++ toString depth ++ ": " ++ cause ++ causeLines (depth + 1) rest

def ErrorChain.trace (e : ErrorChain) : String :=
  "Error: " ++ e.message ++ "\n" ++ causeLines 1 e.causes

inductive JobError where
  | config (fault : ConfigFault)
  | unsupportedDialect (fault : DialectFault)
  | invalidIdentifier (fault : IdentifierFault)
  | schema (fault : SchemaFault)
  | file (fault : FileFault)
  | yaml
  | json (fault : JsonFault)
  deriving DecidableEq, Repr

def yamlMessage : String :=
  "<yaml>"

def JobError.message : JobError → String
  | .config fault => "Configuration error: " ++ fault.message
  | .unsupportedDialect fault => "Unsupported dialect: " ++ fault.message
  | .invalidIdentifier fault => "Invalid identifier: " ++ fault.message
  | .schema fault => "Schema error: " ++ fault.message
  | .file fault => "IO error: " ++ fault.message
  | .yaml => "YAML error: " ++ yamlMessage
  | .json fault => "JSON error: " ++ fault.message

def JobError.chain (e : JobError) : ErrorChain where
  message := e.message
  causes :=
    match e with
    | .file fault => [fault.message]
    | .yaml => [yamlMessage]
    | .json fault => [fault.message]
    | _ => []

inductive ConversionFault where
  | unexpectedValue (shown : String)
  | integer (fault : IntegerFault)
  | float (fault : Binary64.ReadFault)
  | bytes
  | calendar
  | uuid
  | described (text : String)
  deriving DecidableEq, Repr

/-- The wording of a conversion fault; why a calendar text or a UUID is malformed is left out. -/
def ConversionFault.message : ConversionFault → String
  | .unexpectedValue shown => "unexpected value " ++ shown
  | .integer fault => fault.message
  | .float fault => fault.message
  | .bytes => "expected base64 or \\x-prefixed hex bytes"
  | .calendar => "<chrono>"
  | .uuid => "<uuid>"
  | .described text => text

inductive PayloadFault where
  | notAnObject (found : String)
  | described (text : String)
  deriving DecidableEq, Repr

def PayloadFault.message : PayloadFault → String
  | .notAnObject found => "expected a JSON object, found " ++ found
  | .described text => text

inductive MetadataFault where
  | notColumnNames (found : String)
  | described (text : String)
  deriving DecidableEq, Repr

def MetadataFault.message : MetadataFault → String
  | .notColumnNames found => "expected an array of column names, found " ++ found
  | .described text => text

inductive RowError where
  | malformedPayload (fault : PayloadFault)
  | fieldConversion (field expected : String) (fault : ConversionFault)
  | metadata (field : String) (fault : MetadataFault)
  | json (fault : JsonFault)
  | panicked (stage message : String)
  deriving DecidableEq, Repr

def RowError.message : RowError → String
  | .malformedPayload fault => "Malformed payload: " ++ fault.message
  | .fieldConversion field expected fault =>
      "Field '" ++ field ++ "' cannot be converted to " ++ expected ++ ": " ++ fault.message
  | .metadata field fault =>
      "Metadata field '" ++ field ++ "' has unsupported shape: " ++ fault.message
  | .json fault => "JSON error: " ++ fault.message
  | .panicked stage message => "Stage '" ++ stage ++ "' panicked: " ++ message

def RowError.chain (e : RowError) : ErrorChain where
  message := e.message
  causes :=
    match e with
    | .json fault => [fault.message]
    | _ => []

end RowConduit
