import RowConduit.Calendar.Timestamp
import RowConduit.Json.Draft
import RowConduit.Pipeline.Record

/-!
# Dead letters

A failed record as it is written to a dead-letter destination: one line of JSON that holds the
payload it entered with, the payload at the failing stage, and the error.
-/

namespace RowConduit

open RowConduit.Calendar

structure DeadLetter where
  entered : String
  payload : String
  errorMessage : String
  stacktrace : Option String
  stage : String
  timestamp : Timestamp
  deriving DecidableEq, Repr

namespace DeadLetter

/--
The dead letter of a failed record, its payloads written as texts.  A record without an error has
none.  The account of the error is kept when it is asked for and not empty.
-/
def ofFailure? {ο α : Type} (enteredText : ο → String) (payloadText : α → String)
    (record : Record ο α) (stage : String) (includeTrace : Bool) (timestamp : Timestamp) :
    Option DeadLetter :=
  match record.error with
  | none => none
  | some detail =>
      some
        { entered := enteredText record.entered
          payload := payloadText record.payload
          errorMessage := detail.message
          stacktrace := if includeTrace && !detail.trace.isEmpty then some detail.trace else none
          stage := stage
          timestamp := timestamp }

/-- The text of an instant in a dead letter, where the letter Z stands for the UTC offset. -/
def timestampText (ts : Timestamp) : String :=
  String.ofList (ts.utc.text ++ ['Z'])

def toJson (d : DeadLetter) : Json :=
  .object
    ([("original", .string d.entered), ("payload", .string d.payload),
        ("error_message", .string d.errorMessage)] ++
      (match d.stacktrace with
       | some trace => [("stacktrace", .string trace)]
       | none => []) ++
      [("stage", .string d.stage), ("timestamp", .string (timestampText d.timestamp))])

def line (d : DeadLetter) : String :=
  d.toJson.render

end DeadLetter

/--
The failed record of a row that the target refused to insert.  The error is a JSON text, which
becomes the message in compact form; a text that is no JSON becomes the message as it is.
-/
def refusedInsert (row error : String) : Record String String :=
  let message :=
    match Json.parse? error with
    | some document => document.render
    | none => error
  (Record.entering row).withError ⟨message, ""⟩

end RowConduit
