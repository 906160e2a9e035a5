import RowConduit.Pipeline.Stage

/-!
# Batches through a stage

What a stage does to a whole batch, told record by record: each side holds the records that a single
run would send there, in input order, and the counts move by as many records as were converted or
failed.  A record that brought an error along moves no count.
-/

namespace RowConduit

def StageCounts.plus (counts : StageCounts) (successes failures : Nat) : StageCounts :=
  ⟨counts.success + UInt64.ofNat successes, counts.failed + UInt64.ofNat failures⟩

theorem StageCounts.plus_zero (counts : StageCounts) : counts.plus 0 0 = counts := by
  simp [StageCounts.plus]

theorem StageCounts.plus_plus (counts : StageCounts) (a b c d : Nat) :
    (counts.plus a b).plus c d = counts.plus (a + c) (b + d) := by
  simp [StageCounts.plus, UInt64.ofNat_add, UInt64.add_assoc]

theorem StageCounts.zero_plus (successes failures : Nat) :
    StageCounts.zero.plus successes failures =
      ⟨UInt64.ofNat successes, UInt64.ofNat failures⟩ := by
  simp [StageCounts.plus, StageCounts.zero]

theorem StageCounts.addSuccess_eq_plus (counts : StageCounts) :
    counts.addSuccess = counts.plus 1 0 := by
  simp [StageCounts.plus, StageCounts.addSuccess]

theorem StageCounts.addFailure_eq_plus (counts : StageCounts) :
    counts.addFailure = counts.plus 0 1 := by
  simp [StageCounts.plus, StageCounts.addFailure]

namespace Stage

variable {ο α β : Type}

/-- The side to which a stage sends a record; it does not depend on the counts. -/
def side (stage : Stage α β) (record : Record ο α) : Processed ο α β :=
  (stage.process .zero record).1

def success? (stage : Stage α β) (record : Record ο α) : Option (Record ο β) :=
  match stage.side record with
  | .success r => some r
  | .failure _ => none

def failure? (stage : Stage α β) (record : Record ο α) : Option (Record ο α) :=
  match stage.side record with
  | .success _ => none
  | .failure r => some r

/-- The record fails in this stage, and not before it. -/
def stops (stage : Stage α β) (record : Record ο α) : Bool :=
  !record.isFailed && (stage.failure? record).isSome

theorem process_fst (stage : Stage α β) (counts : StageCounts) (record : Record ο α) :
    (stage.process counts record).1 = stage.side record := by
  unfold side process
  cases record.error with
  | some detail => rfl
  | none => cases stage.attempt record.payload <;> rfl

theorem process_of_failed (stage : Stage α β) (counts : StageCounts) {record : Record ο α}
    (failed : record.isFailed = true) :
    stage.process counts record = (.failure record, counts) := by
  unfold Record.isFailed at failed
  unfold process
  cases h : record.error with
  | none => simp [h] at failed
  | some detail => rfl

theorem side_of_failed (stage : Stage α β) {record : Record ο α}
    (failed : record.isFailed = true) : stage.side record = .failure record := by
  rw [side, process_of_failed stage .zero failed]

theorem entered_of_success (stage : Stage α β) {record : Record ο α} {result : Record ο β}
    (sent : stage.side record = .success result) : result.entered = record.entered := by
  unfold side process at sent
  cases h : record.error with
  | some detail => simp [h] at sent
  | none =>
      cases tried : stage.attempt record.payload with
      | ok payload =>
          simp only [h, tried, Processed.success.injEq] at sent
          rw [← sent, Record.withPayload]
      | error detail => simp [h, tried] at sent

theorem entered_of_failure (stage : Stage α β) {record failed : Record ο α}
    (sent : stage.side record = .failure failed) : failed.entered = record.entered := by
  unfold side process at sent
  cases h : record.error with
  | some detail =>
      simp only [h, Processed.failure.injEq] at sent
      rw [sent]
  | none =>
      cases tried : stage.attempt record.payload with
      | ok payload => simp [h, tried] at sent
      | error detail =>
          simp only [h, tried, Processed.failure.injEq, Record.withError] at sent
          rw [← sent]

theorem side_of_attempt_ok (stage : Stage α β) {entered : ο} {payload : α} {result : β}
    (tried : stage.attempt payload = .ok result) :
    stage.side (⟨entered, payload, none⟩ : Record ο α) = .success ⟨entered, result, none⟩ := by
  simp [side, process, tried, Record.withPayload]

theorem side_of_attempt_error (stage : Stage α β) {entered : ο} {payload : α}
    {detail : ErrorDetail} (tried : stage.attempt payload = .error detail) :
    stage.side (⟨entered, payload, none⟩ : Record ο α) =
      .failure ⟨entered, payload, some detail⟩ := by
  simp [side, process, tried, Record.withError]

theorem process_counts (stage : Stage α β) (counts : StageCounts) (record : Record ο α) :
    (stage.process counts record).2 =
      counts.plus (stage.success? record).isSome.toNat (stage.stops record).toNat := by
  by_cases failed : record.isFailed = true
  · rw [process_of_failed stage counts failed]
    simp [stops, success?, side_of_failed stage failed, failed, StageCounts.plus_zero]
  · have clean : record.error = none := by simpa [Record.isFailed] using failed
    cases tried : stage.attempt record.payload with
    | ok result =>
        simp [process, side, success?, failure?, stops, clean, tried,
          StageCounts.addSuccess_eq_plus]
    | error detail =>
        simp [process, side, success?, failure?, stops, clean, tried, Record.isFailed,
          StageCounts.addFailure_eq_plus]

theorem processAll_successes (stage : Stage α β) (counts : StageCounts)
    (batch : List (Record ο α)) :
    (stage.processAll counts batch).1.successes = batch.filterMap stage.success? := by
  induction batch generalizing counts with
  | nil => rfl
  | cons record rest ih =>
      rw [processAll, List.filterMap_cons]
      dsimp only
      rw [process_fst, success?]
      cases stage.side record <;> simp [StageOutputs.cons, ih]

theorem processAll_failures (stage : Stage α β) (counts : StageCounts)
    (batch : List (Record ο α)) :
    (stage.processAll counts batch).1.failures = batch.filterMap stage.failure? := by
  induction batch generalizing counts with
  | nil => rfl
  | cons record rest ih =>
      rw [processAll, List.filterMap_cons]
      dsimp only
      rw [process_fst, failure?]
      cases stage.side record <;> simp [StageOutputs.cons, ih]

theorem processAll_counts (stage : Stage α β) (counts : StageCounts)
    (batch : List (Record ο α)) :
    (stage.processAll counts batch).2 =
      counts.plus (batch.filterMap stage.success?).length (batch.countP stage.stops) := by
  induction batch generalizing counts with
  | nil => exact (StageCounts.plus_zero counts).symm
  | cons record rest ih =>
      rw [processAll]
      dsimp only
      rw [ih, process_counts, StageCounts.plus_plus, List.filterMap_cons, List.countP_cons]
      congr 1
      · cases stage.success? record <;> simp [Nat.add_comm]
      · cases stage.stops record <;> simp [Nat.add_comm]

theorem stops_of_clean (stage : Stage α β) {record : Record ο α}
    (clean : record.isFailed = false) :
    stage.stops record = (stage.failure? record).isSome := by
  simp [stops, clean]

theorem countP_stops_of_clean (stage : Stage α β) {batch : List (Record ο α)}
    (clean : ∀ record ∈ batch, record.isFailed = false) :
    batch.countP stage.stops = (batch.filterMap stage.failure?).length := by
  rw [List.length_filterMap_eq_countP]
  exact List.countP_congr fun record member => by rw [stops_of_clean stage (clean record member)]

theorem length_sides (stage : Stage α β) (batch : List (Record ο α)) :
    (batch.filterMap stage.success?).length + (batch.filterMap stage.failure?).length =
      batch.length := by
  induction batch with
  | nil => rfl
  | cons record rest ih =>
      rw [List.filterMap_cons, List.filterMap_cons, success?, failure?]
      cases stage.side record <;> simp <;> omega

/-- On fresh counters the counts are the sizes of the two sides, to the width of a counter. -/
theorem processAll_counts_of_clean (stage : Stage α β) {batch : List (Record ο α)}
    (clean : ∀ record ∈ batch, record.isFailed = false) :
    (stage.processAll .zero batch).2 =
      ⟨UInt64.ofNat (stage.processAll .zero batch).1.successes.length,
        UInt64.ofNat (stage.processAll .zero batch).1.failures.length⟩ := by
  rw [processAll_counts, processAll_successes, processAll_failures,
    countP_stops_of_clean stage clean, StageCounts.zero_plus]

theorem success?_clean (stage : Stage α β) {record : Record ο α} {result : Record ο β}
    (converted : stage.success? record = some result) : result.isFailed = false := by
  by_cases failed : record.isFailed = true
  · simp [success?, side_of_failed stage failed] at converted
  · have clean : record.error = none := by simpa [Record.isFailed] using failed
    cases tried : stage.attempt record.payload with
    | ok payload =>
        simp only [success?, side, process, clean, tried, Option.some.injEq] at converted
        simp [← converted, Record.withPayload, Record.isFailed, clean]
    | error detail => simp [success?, side, process, clean, tried] at converted

/-- The outputs of a batch are those of its parts, put one after the other. -/
theorem processAll_append (stage : Stage α β) (counts : StageCounts)
    (front back : List (Record ο α)) :
    stage.processAll counts (front ++ back) =
      let first := stage.processAll counts front
      let second := stage.processAll first.2 back
      (⟨first.1.successes ++ second.1.successes, first.1.failures ++ second.1.failures⟩,
        second.2) := by
  induction front generalizing counts with
  | nil => rfl
  | cons record rest ih =>
      rw [List.cons_append, processAll, ih]
      simp only [processAll]
      cases (stage.process counts record).1 <;> rfl

/-- A record that brings an error along goes to the failures as it is and moves no count. -/
theorem processAll_of_failed (stage : Stage α β) (counts : StageCounts)
    (front back : List (Record ο α)) {record : Record ο α} (failed : record.isFailed = true) :
    stage.processAll counts (front ++ record :: back) =
      let first := stage.processAll counts front
      let second := stage.processAll first.2 back
      (⟨first.1.successes ++ second.1.successes,
        first.1.failures ++ record :: second.1.failures⟩, second.2) := by
  rw [processAll_append]
  simp only [processAll, process_of_failed stage _ failed, StageOutputs.cons]

end Stage

end RowConduit
