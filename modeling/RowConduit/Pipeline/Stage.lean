import RowConduit.Pipeline.Record

/-!
# Stages

A stage is a conversion that may fail.  Run on records it never lets a failure escape: a record
whose conversion fails goes to the failure side with its payloads as they were, and a record that
already carries an error goes there without being converted or counted.
-/

namespace RowConduit

/--
What a conversion comes to: a converted payload, a refusal, or a breakdown, which may carry a
message.
-/
inductive Outcome (β : Type) where
  | converted (payload : β)
  | refused (error : ErrorChain)
  | panicked (message : Option String)
  deriving Repr

def Outcome.ofExcept {β : Type} : Except RowError β → Outcome β
  | .ok payload => .converted payload
  | .error e => .refused e.chain

structure Stage (α β : Type) where
  name : String
  convert : α → Outcome β

/-- How many records a stage has converted, and how many have failed in it. -/
structure StageCounts where
  success : UInt64
  failed : UInt64
  deriving DecidableEq, Repr

namespace StageCounts

def zero : StageCounts :=
  ⟨0, 0⟩

def addSuccess (counts : StageCounts) : StageCounts :=
  { counts with success := counts.success + 1 }

def addFailure (counts : StageCounts) : StageCounts :=
  { counts with failed := counts.failed + 1 }

end StageCounts

inductive Processed (ο α β : Type) where
  | success (record : Record ο β)
  | failure (record : Record ο α)
  deriving Repr

/-- Records by the side to which a stage sent them, in input order on each side. -/
structure StageOutputs (ο α β : Type) where
  successes : List (Record ο β)
  failures : List (Record ο α)
  deriving Repr

def StageOutputs.cons {ο α β : Type} :
    Processed ο α β → StageOutputs ο α β → StageOutputs ο α β
  | .success r, out => { out with successes := r :: out.successes }
  | .failure r, out => { out with failures := r :: out.failures }

namespace Stage

variable {ο α β : Type}

def unknownPanic : String :=
  "non-string panic payload"

def attempt (stage : Stage α β) (payload : α) : Except ErrorDetail β :=
  match stage.convert payload with
  | .converted result => .ok result
  | .refused e => .error (ErrorDetail.ofChain e)
  | .panicked message =>
      .error (ErrorDetail.ofChain
        (RowError.panicked stage.name (message.getD unknownPanic)).chain)

def process (stage : Stage α β) (counts : StageCounts) (record : Record ο α) :
    Processed ο α β × StageCounts :=
  match record.error with
  | some _ => (.failure record, counts)
  | none =>
      match stage.attempt record.payload with
      | .ok result => (.success (record.withPayload result), counts.addSuccess)
      | .error detail => (.failure (record.withError detail), counts.addFailure)

def processAll (stage : Stage α β) (counts : StageCounts) :
    List (Record ο α) → StageOutputs ο α β × StageCounts
  | [] => (⟨[], []⟩, counts)
  | record :: rest =>
      let first := stage.process counts record
      let others := processAll stage first.2 rest
      (others.1.cons first.1, others.2)

end Stage

end RowConduit
