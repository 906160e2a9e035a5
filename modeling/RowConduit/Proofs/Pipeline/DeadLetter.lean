import RowConduit.Pipeline.DeadLetter
import RowConduit.Proofs.Json.Document
import RowConduit.Proofs.Json.Printed

/-!
# Dead letters lose nothing

A failed record is written as one line that is one JSON object, whatever texts it failed with: line
breaks, quotes and documents inside them are escaped and read back character by character.
-/

namespace RowConduit

namespace DeadLetter

open RowConduit.Calendar

theorem wellFormed_toJson (d : DeadLetter) : d.toJson.WellFormed := by
  cases trace : d.stacktrace <;>
    simp [toJson, trace, Json.WellFormed, Json.MembersWellFormed]

theorem unmarked_toJson (d : DeadLetter) : d.toJson.Unmarked := by
  cases trace : d.stacktrace <;>
    simp [toJson, trace, Json.Unmarked, Json.MembersUnmarked, Json.numberName]

theorem depth_toJson (d : DeadLetter) : d.toJson.depth = 1 := by
  cases trace : d.stacktrace <;> simp [toJson, trace, Json.depth, Json.membersDepth]

theorem parse?_line (d : DeadLetter) : Json.parse? d.line = some d.toJson := by
  have shallow : d.toJson.depth ≤ Json.maxDepth := by
    rw [depth_toJson]
    decide
  exact Json.parse?_render d.wellFormed_toJson d.unmarked_toJson shallow

theorem exists_members (d : DeadLetter) : ∃ members, d.toJson = .object members ∧
    Json.member? "original" members = some (.string d.entered) ∧
    Json.member? "payload" members = some (.string d.payload) ∧
    Json.member? "error_message" members = some (.string d.errorMessage) ∧
    Json.member? "stage" members = some (.string d.stage) ∧
    Json.member? "stacktrace" members = d.stacktrace.map .string := by
  cases trace : d.stacktrace with
  | none => exact ⟨_, by rw [toJson, trace], rfl, rfl, rfl, rfl, rfl⟩
  | some account => exact ⟨_, by rw [toJson, trace], rfl, rfl, rfl, rfl, rfl⟩

/-- The members tell what a failed record was, what stopped it and where. -/
structure Tells (record : Record String String) (detail : ErrorDetail) (stage : String)
    (includeTrace : Bool) (members : Json.Members) : Prop where
  original : Json.member? "original" members = some (.string record.entered)
  payload : Json.member? "payload" members = some (.string record.payload)
  message : Json.member? "error_message" members = some (.string detail.message)
  stage : Json.member? "stage" members = some (.string stage)
  trace : Json.member? "stacktrace" members =
    if includeTrace = true ∧ detail.trace ≠ "" then some (.string detail.trace) else none

section Failure

variable (record : Record String String) (detail : ErrorDetail) (stage : String)
  (includeTrace : Bool) (timestamp : Timestamp)

def ofDetail : DeadLetter where
  entered := record.entered
  payload := record.payload
  errorMessage := detail.message
  stacktrace := if includeTrace = true ∧ detail.trace ≠ "" then some detail.trace else none
  stage := stage
  timestamp := timestamp

theorem exists_tells : ∃ members,
    (ofDetail record detail stage includeTrace timestamp).toJson = .object members ∧
      Tells record detail stage includeTrace members := by
  obtain ⟨members, shape, original, payload, message, stageMember, traceMember⟩ :=
    exists_members (ofDetail record detail stage includeTrace timestamp)
  refine ⟨members, shape, original, payload, message, stageMember, traceMember.trans ?_⟩
  by_cases kept : includeTrace = true ∧ detail.trace ≠ ""
  · simp [ofDetail, kept]
  · simp only [ofDetail, if_neg kept, Option.map_none]

variable {record detail}

theorem ofFailure?_of_error (failed : record.error = some detail) :
    ofFailure? id id record stage includeTrace timestamp =
      some (ofDetail record detail stage includeTrace timestamp) := by
  rw [ofFailure?, failed]
  simp [ofDetail]

theorem ofFailure?_eq_none_iff :
    ofFailure? id id record stage includeTrace timestamp = none ↔ record.error = none := by
  cases failed : record.error with
  | none => simp [ofFailure?, failed]
  | some detail => simp [ofFailure?_of_error stage includeTrace timestamp failed]

end Failure

/--
A failed record has a dead letter, and a record that did not fail has none.  The line of the dead
letter has no control characters and is one JSON object, from which everything is read back.
-/
theorem ofFailure?_lossless (record : Record String String) (stage : String)
    (includeTrace : Bool) (timestamp : Timestamp) :
    (ofFailure? id id record stage includeTrace timestamp = none ↔ record.error = none) ∧
      ∀ detail, record.error = some detail →
        ∃ d members, ofFailure? id id record stage includeTrace timestamp = some d ∧
          (∀ c ∈ d.line.toList, 0x20 ≤ c.toNat) ∧
          Json.parse? d.line = some (.object members) ∧
          Tells record detail stage includeTrace members := by
  refine ⟨ofFailure?_eq_none_iff stage includeTrace timestamp, fun detail failed => ?_⟩
  obtain ⟨members, shape, tells⟩ := exists_tells record detail stage includeTrace timestamp
  have letter := ofFailure?_of_error stage includeTrace timestamp failed
  refine ⟨_, members, letter, Json.printed_render _, ?_, tells⟩
  rw [parse?_line, shape]

def truncation : ErrorDetail :=
  ⟨"unexpected end", "Error: unexpected end\n\nCaused by:\n  0: line 2\n"⟩

def truncatedRecord : Record String String :=
  ⟨"\x7b\"id\": 1,\n", "note\t\"\\\x01", some truncation⟩

def failureTime : Timestamp :=
  ⟨⟨⟨2023, 5, 17, by decide, by decide, by decide⟩,
    ⟨7, 41, 8, 250, by decide, by decide, by decide, by decide, by decide⟩⟩⟩

theorem ofFailure?_lossless_truncated :
    truncatedRecord.error = some truncation ∧
      ∃ d members, ofFailure? id id truncatedRecord "parse" true failureTime = some d ∧
        (∀ c ∈ d.line.toList, 0x20 ≤ c.toNat) ∧
        Json.parse? d.line = some (.object members) ∧
        Tells truncatedRecord truncation "parse" true members :=
  ⟨rfl, (ofFailure?_lossless truncatedRecord "parse" true failureTime).2 truncation rfl⟩

end DeadLetter

end RowConduit
