import RowConduit.Json.Basic
import RowConduit.Pipeline.Stage
import RowConduit.Reading.Mapper

/-!
# Telemetry

A view of the counters of a job at one moment.  Tracking a stage remembers how to read its counters
out of the state of the job, so a snapshot always shows the present counts.
-/

namespace RowConduit

-- a sum of counters starts from the literal zero
attribute [local instance (high)] Zero.ofOfNat0

structure StageSnapshot where
  stage : String
  counts : StageCounts
  deriving DecidableEq, Repr

structure Snapshot where
  stages : List StageSnapshot
  rowsMapped : UInt64
  degradedFields : UInt64
  deriving DecidableEq, Repr

def counterText (n : UInt64) : String :=
  String.ofList (Text.natText n.toNat)

def counterJson (n : UInt64) : Json :=
  .number (Json.Number.ofInt n.toNat)

namespace Snapshot

def totalFailed (s : Snapshot) : UInt64 :=
  (s.stages.map fun stage => stage.counts.failed).sum

def stageText (s : StageSnapshot) : String :=
  s.stage ++ ": " ++ counterText s.counts.success ++ " ok, " ++ counterText s.counts.failed ++
    " failed"

def stagesText (stages : List StageSnapshot) : String :=
  let joined := "; ".intercalate (stages.map stageText)
  if joined.isEmpty then "none" else joined

def summary (s : Snapshot) : String :=
  "Mapped " ++ counterText s.rowsMapped ++ " rows (" ++ counterText s.degradedFields ++
    " fields degraded). Stages: " ++ stagesText s.stages

def stageJson (s : StageSnapshot) : Json :=
  .object [("stage", .string s.stage), ("success", counterJson s.counts.success),
    ("failed", counterJson s.counts.failed)]

def toJson (s : Snapshot) : Json :=
  .object [("stages", .array (s.stages.map stageJson)), ("rows_mapped", counterJson s.rowsMapped),
    ("degraded_fields", counterJson s.degradedFields)]

end Snapshot

/-- The tracked stages of a job with state `σ`: their names, and where their counters are. -/
structure Telemetry (σ : Type) where
  tracked : List (String × (σ → StageCounts))

namespace Telemetry

variable {σ : Type}

def empty : Telemetry σ :=
  ⟨[]⟩

def track (t : Telemetry σ) (stage : String) (counts : σ → StageCounts) : Telemetry σ :=
  ⟨t.tracked ++ [(stage, counts)]⟩

def snapshot (t : Telemetry σ) (state : σ) (mappers : List MapperCounts) : Snapshot where
  stages := t.tracked.map fun entry => ⟨entry.1, entry.2 state⟩
  rowsMapped := (mappers.map (·.rowsMapped)).sum
  degradedFields := (mappers.map (·.degradedFields)).sum

end Telemetry

end RowConduit
