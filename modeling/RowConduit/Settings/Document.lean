import RowConduit.Settings.Basic
import RowConduit.Yaml.Document

/-!
# Settings documents

Settings written in YAML.  A section that is left out or empty takes its usual values.  Any scalar
is accepted as a text, unknown entries are passed over, and an entry that is asked for may not be
repeated.
-/

namespace RowConduit

open Yaml

/--
Read the kind of a source: its name as a scalar, or as a tag of the document's own on nothing.  Any
other tag says nothing about the kind.
-/
def SourceKind.ofNode? (d : Document) (node : Node) : Option SourceKind :=
  match d.resolve? node with
  | some (.scalar text style tag) =>
      match tag.bind Tag.local? with
      | some name => if isNullText text style then SourceKind.ofDocumentName? name else none
      | none => SourceKind.ofDocumentName? text
  | _ => none

def SourceSettings.ofNode? (d : Document) (node : Node) : Option SourceSettings := do
  let entries ← d.entries? node
  let kind ← entry? entries "kind" (SourceKind.ofNode? d)
  let name ← entry? entries "name" d.text?
  return ⟨← kind, ← name⟩

def ExportSettings.ofNode? (d : Document) (node : Node) : Option ExportSettings := do
  let entries ← d.entries? node
  let dialect ← entry? entries "dialect" (d.optional? d.text?)
  let tables ← entry? entries "tables" (d.optional? d.text?)
  return ⟨dialect.join, tables.join⟩

def DeadLetterSettings.ofNode? (d : Document) (node : Node) : Option DeadLetterSettings := do
  let entries ← d.entries? node
  let includeTrace ← entry? entries "include_trace" d.bool?
  let table ← entry? entries "table" (d.optional? d.text?)
  let tableSuffix ← entry? entries "table_suffix" d.text?
  return ⟨includeTrace.getD default.includeTrace, table.join,
    tableSuffix.getD default.tableSuffix⟩

def LoggingSettings.ofNode? (d : Document) (node : Node) : Option LoggingSettings := do
  let entries ← d.entries? node
  let verbosity ← entry? entries "verbosity" d.text?
  let format ← entry? entries "format" d.text?
  return ⟨verbosity.getD default.verbosity, format.getD default.format⟩

inductive SettingsFile where
  | missing
  | holding (bytes : ByteArray)

namespace Settings

def ofDocument? (d : Document) : Option Settings := do
  let entries ← d.entries? d.root
  let source ← entry? entries "source" (SourceSettings.ofNode? d)
  let exports ← entry? entries "export" (d.optional? (ExportSettings.ofNode? d))
  let deadLetter ← entry? entries "dead_letter" (DeadLetterSettings.ofNode? d)
  let logging ← entry? entries "logging" (LoggingSettings.ofNode? d)
  return ⟨← source, exports.join, deadLetter.getD DeadLetterSettings.default,
    logging.getD LoggingSettings.default⟩

def ofText (s : String) : Except JobError Settings :=
  match (Document.ofText? s).bind ofDocument? with
  | none => .error .yaml
  | some settings => settings.check.map fun _ => settings

def ofFile : SettingsFile → Except JobError Settings
  | .missing => .error (.file .notFound)
  | .holding bytes =>
      match String.fromUTF8? bytes with
      | none => .error (.file .notUtf8)
      | some s => ofText s

end Settings

end RowConduit
