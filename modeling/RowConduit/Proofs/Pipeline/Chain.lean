import RowConduit.Proofs.Pipeline.Batch
import Mathlib.Data.List.Forall2

/-!
# Chains of stages

Stages in a row, each fed with what the one before it converted.  A whole batch is run through one
stage after the other; a single record ends in one place, which the relation `Chain.Ends` names
without looking at batches.  The main statement joins the two: every output of a run holds, in input
order, exactly the records that end there, and the counts of each stage are the sizes of its sides.
-/

namespace RowConduit

/-- Stages in a row, the payloads of each being what the one before it makes. -/
inductive Chain : Type → Type → Type 1 where
  | nil {α : Type} : Chain α α
  | cons {α β γ : Type} (stage : Stage α β) (rest : Chain β γ) : Chain α γ

structure AnyRecord (ο : Type) : Type 1 where
  payloadType : Type
  record : Record ο payloadType

def AnyRecord.of {ο α : Type} (record : Record ο α) : AnyRecord ο :=
  ⟨α, record⟩

structure StageReport (ο : Type) : Type 1 where
  successes : List (AnyRecord ο)
  failures : List (AnyRecord ο)
  counts : StageCounts

def breakdownDetail (stage : String) (message : Option String) : ErrorDetail :=
  let text := "Stage '" ++ stage ++ "' panicked: " ++ message.getD Stage.unknownPanic
  ⟨text, "Error: " ++ text ++ "\n"⟩

namespace Chain

def length {α β : Type} : Chain α β → Nat
  | .nil => 0
  | .cons _ rest => rest.length + 1

/--
Run a batch through a chain, every stage on fresh counters: a report of each stage, and the
successes of the last one.
-/
def run {ο α β : Type} : Chain α β → List (Record ο α) → List (StageReport ο) × List (Record ο β)
  | .nil, batch => ([], batch)
  | .cons stage rest, batch =>
      let out := stage.processAll .zero batch
      let others := rest.run out.1.successes
      (⟨out.1.successes.map .of, out.1.failures.map .of, out.2⟩ :: others.1, others.2)

/--
`Ends entered chain payload i out`: a record that entered with `entered` and comes to the chain
with this payload ends as `out`, in the failures of the stage with number `i`, or behind the last
stage if `i` is the length of the chain.
-/
inductive Ends {ο : Type} (entered : ο) :
    {α β : Type} → Chain α β → α → Nat → AnyRecord ο → Prop where
  | arrived {α : Type} (payload : α) :
      Ends entered .nil payload 0 (.of ⟨entered, payload, none⟩)
  | refused {α β γ : Type} {stage : Stage α β} {rest : Chain β γ} {payload : α} {e : ErrorChain}
      (outcome : stage.convert payload = .refused e) :
      Ends entered (.cons stage rest) payload 0
        (.of ⟨entered, payload, some ⟨e.message, e.trace⟩⟩)
  | panicked {α β γ : Type} {stage : Stage α β} {rest : Chain β γ} {payload : α}
      {message : Option String} (outcome : stage.convert payload = .panicked message) :
      Ends entered (.cons stage rest) payload 0
        (.of ⟨entered, payload, some (breakdownDetail stage.name message)⟩)
  | onward {α β γ : Type} {stage : Stage α β} {rest : Chain β γ} {payload : α} {result : β}
      {i : Nat} {out : AnyRecord ο} (outcome : stage.convert payload = .converted result)
      (later : Ends entered rest result i out) :
      Ends entered (.cons stage rest) payload (i + 1) out

def ending {ο α β : Type} : Chain α β → Record ο α → Nat × AnyRecord ο
  | .nil, record => (0, .of record)
  | .cons stage rest, record =>
      match stage.side record with
      | .success result => ((rest.ending result).1 + 1, (rest.ending result).2)
      | .failure failed => (0, .of failed)

def arrivals {ο : Type} (i : Nat) (ends : List (Nat × AnyRecord ο)) : List (AnyRecord ο) :=
  (ends.filter fun e => e.1 = i).map (·.2)

def passing {ο : Type} (i : Nat) (ends : List (Nat × AnyRecord ο)) : List ο :=
  (ends.filter fun e => i < e.1).map fun e => e.2.record.entered

/-- How many records come to the stage with number `i`. -/
def received {ο α β : Type} (chain : Chain α β) (batch : List (Record ο α)) : Nat → Nat
  | 0 => batch.length
  | i + 1 => ((chain.run batch).1[i]?.map fun report => report.successes.length).getD 0

/-- The run of a batch through a chain, accounted for record by record by a list of endings. -/
structure Accounted {ο α β : Type} (chain : Chain α β) (batch : List (Record ο α))
    (ends : List (Nat × AnyRecord ο)) : Prop where
  /-- The endings are those of the records, in order; each keeps what its record entered with. -/
  endings : List.Forall₂ (fun record e => chain.Ends record.entered record.payload e.1 e.2 ∧
    e.1 ≤ chain.length ∧ e.2.record.entered = record.entered) batch ends
  /-- There is one report for each stage. -/
  reports : (chain.run batch).1.length = chain.length
  /-- The failures of a stage are the records that end there. -/
  failures : ∀ (i : Nat) (report : StageReport ο), (chain.run batch).1[i]? = some report →
    report.failures = arrivals i ends
  /-- The successes of the last stage are the records that end behind it. -/
  successes : (chain.run batch).2.map .of = arrivals chain.length ends
  /-- The successes of a stage are the records that end later, in input order. -/
  passed : ∀ (i : Nat) (report : StageReport ο), (chain.run batch).1[i]? = some report →
    (report.successes.map fun out => out.record.entered) = passing i ends
  /-- The counts of a stage are the sizes of its sides, to the width of a counter. -/
  counts : ∀ (i : Nat) (report : StageReport ο), (chain.run batch).1[i]? = some report →
    report.counts =
      ⟨UInt64.ofNat report.successes.length, UInt64.ofNat report.failures.length⟩
  /-- The counts are exact if a counter can count the batch. -/
  countsExact : batch.length < 2 ^ 64 →
    ∀ (i : Nat) (report : StageReport ο), (chain.run batch).1[i]? = some report →
      report.counts.success.toNat = report.successes.length ∧
        report.counts.failed.toNat = report.failures.length ∧
        report.counts.success.toNat + report.counts.failed.toNat = chain.received batch i
  /-- Both sides of a stage together are what the stage before it passed on. -/
  sizes : ∀ (i : Nat) (report : StageReport ο), (chain.run batch).1[i]? = some report →
    report.successes.length + report.failures.length = chain.received batch i

/-! ## One record -/

section Endings

variable {ο α β : Type}

theorem attempt_of_converted {stage : Stage α β} {payload : α} {result : β}
    (outcome : stage.convert payload = .converted result) : stage.attempt payload = .ok result := by
  simp only [Stage.attempt, outcome]

theorem attempt_of_refused {stage : Stage α β} {payload : α} {e : ErrorChain}
    (outcome : stage.convert payload = .refused e) :
    stage.attempt payload = .error ⟨e.message, e.trace⟩ := by
  simp only [Stage.attempt, outcome, ErrorDetail.ofChain]

theorem message_panicked (stage text : String) :
    (RowError.panicked stage text).message = "Stage '" ++ stage ++ "' panicked: " ++ text :=
  rfl

theorem detail_panicked (stage text : String) :
    ErrorDetail.ofChain (RowError.panicked stage text).chain =
      ⟨(RowError.panicked stage text).message,
        "Error: " ++ (RowError.panicked stage text).message ++ "\n"⟩ := by
  have traced : (RowError.panicked stage text).chain.trace =
      "Error: " ++ (RowError.panicked stage text).message ++ "\n" := by
    show "Error: " ++ (RowError.panicked stage text).message ++ "\n" ++ causeLines 1 [] = _
    exact String.append_empty
  exact congrArg (ErrorDetail.mk _) traced

theorem attempt_of_panicked {stage : Stage α β} {payload : α} {message : Option String}
    (outcome : stage.convert payload = .panicked message) :
    stage.attempt payload = .error (breakdownDetail stage.name message) := by
  simp only [Stage.attempt, outcome, detail_panicked, message_panicked, breakdownDetail]

theorem ending_of_success {γ : Type} {stage : Stage α γ} {rest : Chain γ β} {record : Record ο α}
    {result : Record ο γ} (sent : stage.side record = .success result) :
    (cons stage rest).ending record =
      ((rest.ending result).1 + 1, (rest.ending result).2) := by
  simp only [ending, sent]

theorem ending_of_failure {γ : Type} {stage : Stage α γ} {rest : Chain γ β} {record : Record ο α}
    {failed : Record ο α} (sent : stage.side record = .failure failed) :
    (cons stage rest).ending record = (0, .of failed) := by
  simp only [ending, sent]

theorem ending_of_ok {γ : Type} {stage : Stage α γ} {rest : Chain γ β} {entered : ο} {payload : α}
    {result : γ} (tried : stage.attempt payload = .ok result) :
    (cons stage rest).ending ⟨entered, payload, none⟩ =
      ((rest.ending ⟨entered, result, none⟩).1 + 1, (rest.ending ⟨entered, result, none⟩).2) := by
  exact ending_of_success (stage.side_of_attempt_ok tried)

theorem ending_of_error {γ : Type} {stage : Stage α γ} {rest : Chain γ β} {entered : ο}
    {payload : α} {detail : ErrorDetail} (tried : stage.attempt payload = .error detail) :
    (cons stage rest).ending ⟨entered, payload, none⟩ =
      (0, .of ⟨entered, payload, some detail⟩) := by
  exact ending_of_failure (stage.side_of_attempt_error tried)

theorem ends_ending (entered : ο) (chain : Chain α β) (payload : α) :
    chain.Ends entered payload (chain.ending ⟨entered, payload, none⟩).1
      (chain.ending ⟨entered, payload, none⟩).2 := by
  induction chain with
  | nil => exact .arrived payload
  | cons stage rest ih =>
      cases outcome : stage.convert payload with
      | converted result =>
          rw [ending_of_ok (attempt_of_converted outcome)]
          exact .onward outcome (ih result)
      | refused e =>
          rw [ending_of_error (attempt_of_refused outcome)]
          exact .refused outcome
      | panicked message =>
          rw [ending_of_error (attempt_of_panicked outcome)]
          exact .panicked outcome

/-- A record without error ends nowhere else and in no other way. -/
theorem Ends.eq_ending {entered : ο} {chain : Chain α β} {payload : α} {i : Nat}
    {out : AnyRecord ο} (ends : chain.Ends entered payload i out) :
    (i, out) = chain.ending ⟨entered, payload, none⟩ := by
  induction ends with
  | arrived payload => rfl
  | refused outcome => rw [ending_of_error (attempt_of_refused outcome)]
  | panicked outcome => rw [ending_of_error (attempt_of_panicked outcome)]
  | onward outcome later ih => rw [ending_of_ok (attempt_of_converted outcome), ← ih]

theorem ends_unique (entered : ο) (chain : Chain α β) (payload : α) :
    ∃! e : Nat × AnyRecord ο, chain.Ends entered payload e.1 e.2 := by
  refine ⟨chain.ending ⟨entered, payload, none⟩, ends_ending entered chain payload, ?_⟩
  intro other ends
  exact ends.eq_ending

theorem Ends.le_length {entered : ο} {chain : Chain α β} {payload : α} {i : Nat}
    {out : AnyRecord ο} (ends : chain.Ends entered payload i out) : i ≤ chain.length := by
  induction ends with
  | arrived payload => exact Nat.le_refl _
  | refused outcome => exact Nat.zero_le _
  | panicked outcome => exact Nat.zero_le _
  | onward outcome later ih => exact Nat.succ_le_succ ih

theorem Ends.entered_eq {entered : ο} {chain : Chain α β} {payload : α} {i : Nat}
    {out : AnyRecord ο} (ends : chain.Ends entered payload i out) :
    out.record.entered = entered := by
  induction ends with
  | arrived payload => rfl
  | refused outcome => rfl
  | panicked outcome => rfl
  | onward outcome later ih => exact ih

end Endings

/-! ## A batch -/

section Batches

variable {ο α β γ : Type}

theorem run_cons (stage : Stage α γ) (rest : Chain γ β) (batch : List (Record ο α)) :
    (cons stage rest).run batch =
      (⟨(batch.filterMap stage.success?).map .of, (batch.filterMap stage.failure?).map .of,
          (stage.processAll .zero batch).2⟩ :: (rest.run (batch.filterMap stage.success?)).1,
        (rest.run (batch.filterMap stage.success?)).2) := by
  rw [run, Stage.processAll_successes, Stage.processAll_failures]

theorem length_run (chain : Chain α β) (batch : List (Record ο α)) :
    (chain.run batch).1.length = chain.length := by
  induction chain with
  | nil => rfl
  | cons stage rest ih => simp [run_cons, length, ih]

theorem clean_successes (stage : Stage α β) (batch : List (Record ο α)) :
    ∀ record ∈ batch.filterMap stage.success?, record.isFailed = false := by
  intro record member
  obtain ⟨source, _, converted⟩ := List.mem_filterMap.mp member
  exact stage.success?_clean converted

theorem arrivals_zero (stage : Stage α γ) (rest : Chain γ β) (batch : List (Record ο α)) :
    arrivals 0 (batch.map (cons stage rest).ending) =
      (batch.filterMap stage.failure?).map .of := by
  induction batch with
  | nil => rfl
  | cons record others ih =>
      rw [arrivals] at ih ⊢
      cases sent : stage.side record with
      | success result => simp [ending_of_success sent, Stage.failure?, sent, ih]
      | failure failed => simp [ending_of_failure sent, Stage.failure?, sent, ih]

/-- Behind the first stage the endings are those of its successes, one place further on. -/
theorem arrivals_succ (stage : Stage α γ) (rest : Chain γ β) (batch : List (Record ο α)) (i : Nat) :
    arrivals (i + 1) (batch.map (cons stage rest).ending) =
      arrivals i ((batch.filterMap stage.success?).map rest.ending) := by
  induction batch with
  | nil => rfl
  | cons record others ih =>
      rw [arrivals, arrivals] at ih ⊢
      cases sent : stage.side record with
      | failure failed => simpa [ending_of_failure sent, Stage.success?, sent] using ih
      | success result =>
          by_cases here : (rest.ending result).1 = i
          · simpa [ending_of_success sent, Stage.success?, sent, here] using ih
          · simpa [ending_of_success sent, Stage.success?, sent, here] using ih

theorem entered_ending (chain : Chain α β) (record : Record ο α) :
    (chain.ending record).2.record.entered = record.entered := by
  induction chain with
  | nil => rfl
  | cons stage rest ih =>
      cases sent : stage.side record with
      | success result =>
          rw [ending_of_success sent]
          exact (ih result).trans (stage.entered_of_success sent)
      | failure failed =>
          rw [ending_of_failure sent]
          exact stage.entered_of_failure sent

theorem passing_zero (stage : Stage α γ) (rest : Chain γ β) (batch : List (Record ο α)) :
    passing 0 (batch.map (cons stage rest).ending) =
      (batch.filterMap stage.success?).map (·.entered) := by
  induction batch with
  | nil => rfl
  | cons record others ih =>
      rw [passing] at ih ⊢
      cases sent : stage.side record with
      | success result =>
          simp [ending_of_success sent, Stage.success?, sent, ih, entered_ending]
      | failure failed => simp [ending_of_failure sent, Stage.success?, sent, ih]

theorem passing_succ (stage : Stage α γ) (rest : Chain γ β) (batch : List (Record ο α)) (i : Nat) :
    passing (i + 1) (batch.map (cons stage rest).ending) =
      passing i ((batch.filterMap stage.success?).map rest.ending) := by
  induction batch with
  | nil => rfl
  | cons record others ih =>
      rw [passing, passing] at ih ⊢
      cases sent : stage.side record with
      | failure failed => simpa [ending_of_failure sent, Stage.success?, sent] using ih
      | success result =>
          by_cases later : i < (rest.ending result).1
          · simpa [ending_of_success sent, Stage.success?, sent, later] using ih
          · simpa [ending_of_success sent, Stage.success?, sent, later] using ih

theorem received_succ (stage : Stage α γ) (rest : Chain γ β) (batch : List (Record ο α)) (i : Nat) :
    (cons stage rest).received batch (i + 1) =
      rest.received (batch.filterMap stage.success?) i := by
  cases i with
  | zero => simp [received, run_cons]
  | succ i => simp [received, run_cons]

/-- A report of a longer chain is that of its first stage or belongs to the rest of the chain. -/
theorem report_cases {stage : Stage α γ} {rest : Chain γ β} {batch : List (Record ο α)} {i : Nat}
    {report : StageReport ο} (placed : ((cons stage rest).run batch).1[i]? = some report) :
    (i = 0 ∧ report = ⟨(batch.filterMap stage.success?).map .of,
      (batch.filterMap stage.failure?).map .of, (stage.processAll .zero batch).2⟩) ∨
    ∃ j, i = j + 1 ∧ (rest.run (batch.filterMap stage.success?)).1[j]? = some report := by
  rw [run_cons] at placed
  cases i with
  | zero =>
      simp only [List.getElem?_cons_zero, Option.some.injEq] at placed
      exact Or.inl ⟨rfl, placed.symm⟩
  | succ j => exact Or.inr ⟨j, rfl, by simpa using placed⟩

theorem run_failures {chain : Chain α β} {batch : List (Record ο α)} {i : Nat}
    {report : StageReport ο} (placed : (chain.run batch).1[i]? = some report) :
    report.failures = arrivals i (batch.map chain.ending) := by
  induction chain generalizing i with
  | nil => simp [run] at placed
  | cons stage rest ih =>
      rcases report_cases placed with ⟨rfl, rfl⟩ | ⟨j, rfl, later⟩
      · exact (arrivals_zero stage rest batch).symm
      · rw [arrivals_succ]
        exact ih later

theorem run_passed {chain : Chain α β} {batch : List (Record ο α)} {i : Nat}
    {report : StageReport ο} (placed : (chain.run batch).1[i]? = some report) :
    (report.successes.map fun out => out.record.entered) =
      passing i (batch.map chain.ending) := by
  induction chain generalizing i with
  | nil => simp [run] at placed
  | cons stage rest ih =>
      rcases report_cases placed with ⟨rfl, rfl⟩ | ⟨j, rfl, later⟩
      · rw [passing_zero, List.map_map]
        rfl
      · rw [passing_succ]
        exact ih later

theorem run_successes (chain : Chain α β) (batch : List (Record ο α)) :
    (chain.run batch).2.map .of = arrivals chain.length (batch.map chain.ending) := by
  induction chain with
  | nil => simp [run, arrivals, length, ending, List.filter_map, Function.comp_def]
  | cons stage rest ih => rw [run_cons, length, arrivals_succ, ih]

theorem run_counts {chain : Chain α β} {batch : List (Record ο α)}
    (clean : ∀ record ∈ batch, record.isFailed = false) {i : Nat} {report : StageReport ο}
    (placed : (chain.run batch).1[i]? = some report) :
    report.counts =
      ⟨UInt64.ofNat report.successes.length, UInt64.ofNat report.failures.length⟩ := by
  induction chain generalizing i with
  | nil => simp [run] at placed
  | cons stage rest ih =>
      rcases report_cases placed with ⟨rfl, rfl⟩ | ⟨j, rfl, later⟩
      · rw [stage.processAll_counts_of_clean clean, stage.processAll_successes,
          stage.processAll_failures, List.length_map, List.length_map]
      · exact ih (clean_successes stage batch) later

theorem run_sizes {chain : Chain α β} {batch : List (Record ο α)} {i : Nat}
    {report : StageReport ο} (placed : (chain.run batch).1[i]? = some report) :
    report.successes.length + report.failures.length = chain.received batch i := by
  induction chain generalizing i with
  | nil => simp [run] at placed
  | cons stage rest ih =>
      rcases report_cases placed with ⟨rfl, rfl⟩ | ⟨j, rfl, later⟩
      · rw [List.length_map, List.length_map]
        exact stage.length_sides batch
      · rw [received_succ]
        exact ih later

theorem received_le (chain : Chain α β) (batch : List (Record ο α)) (i : Nat) :
    chain.received batch i ≤ batch.length := by
  induction i with
  | zero => exact Nat.le_refl _
  | succ i ih =>
      rw [received]
      cases placed : (chain.run batch).1[i]? with
      | none => exact Nat.zero_le _
      | some report =>
          have sizes := run_sizes placed
          simp only [Option.map_some, Option.getD_some]
          omega

theorem run_counts_exact {chain : Chain α β} {batch : List (Record ο α)}
    (clean : ∀ record ∈ batch, record.isFailed = false) (countable : batch.length < 2 ^ 64)
    {i : Nat} {report : StageReport ο} (placed : (chain.run batch).1[i]? = some report) :
    report.counts.success.toNat = report.successes.length ∧
      report.counts.failed.toNat = report.failures.length ∧
      report.counts.success.toNat + report.counts.failed.toNat = chain.received batch i := by
  have sizes := run_sizes placed
  have bound := received_le chain batch i
  have range : UInt64.size = 2 ^ 64 := rfl
  rw [run_counts clean placed]
  have successes := UInt64.toNat_ofNat_of_lt' (n := report.successes.length) (by omega)
  have failures := UInt64.toNat_ofNat_of_lt' (n := report.failures.length) (by omega)
  exact ⟨successes, failures, by rw [successes, failures, sizes]⟩

/-- The run of a clean batch is accounted for by the endings of its records. -/
theorem accounted_ending (chain : Chain α β) {batch : List (Record ο α)}
    (clean : ∀ record ∈ batch, record.isFailed = false) :
    chain.Accounted batch (batch.map chain.ending) where
  endings := by
    rw [List.forall₂_map_right_iff, List.forall₂_same]
    intro record member
    have unmarked : record = ⟨record.entered, record.payload, none⟩ := by
      cases record with
      | mk entered payload error =>
          have absent := clean _ member
          simp only [Record.isFailed, Option.isSome_eq_false_iff, Option.isNone_iff_eq_none]
            at absent
          rw [absent]
    have ends := ends_ending record.entered chain record.payload
    rw [← unmarked] at ends
    exact ⟨ends, ends.le_length, ends.entered_eq⟩
  reports := length_run chain batch
  failures := fun _ _ placed => run_failures placed
  successes := run_successes chain batch
  passed := fun _ _ placed => run_passed placed
  counts := fun _ _ placed => run_counts clean placed
  countsExact := fun countable _ _ placed => run_counts_exact clean countable placed
  sizes := fun _ _ placed => run_sizes placed

/--
A chain of stages loses, repeats and reorders nothing.  Every record of a clean batch has one
ending, and the run is accounted for by these endings; a record that already carries an error passes
any stage to its failures unchanged and uncounted, wherever it stands in a batch.
-/
theorem run_accounted :
    (∀ {ο α β : Type} (chain : Chain α β) (batch : List (Record ο α)),
      (∀ record ∈ batch, record.isFailed = false) →
        (∀ record ∈ batch, ∃! e : Nat × AnyRecord ο,
          chain.Ends record.entered record.payload e.1 e.2) ∧
        ∃ ends, chain.Accounted batch ends) ∧
    (∀ {ο α β : Type} (stage : Stage α β) (counts : StageCounts) (front back : List (Record ο α))
      (record : Record ο α), record.isFailed = true →
        stage.processAll counts (front ++ record :: back) =
          let first := stage.processAll counts front
          let second := stage.processAll first.2 back
          (⟨first.1.successes ++ second.1.successes,
            first.1.failures ++ record :: second.1.failures⟩, second.2)) := by
  constructor
  · intro ο α β chain batch clean
    refine ⟨fun record _ => ends_unique record.entered chain record.payload, ?_⟩
    exact ⟨batch.map chain.ending, accounted_ending chain clean⟩
  · intro ο α β stage counts front back record failed
    exact stage.processAll_of_failed counts front back failed

end Batches

/-- A stage that halves even numbers, refuses odd ones and breaks down on zero. -/
def halving : Stage Nat Nat where
  name := "halving"
  convert n :=
    if n = 0 then .panicked (some "zero")
    else if n % 2 = 0 then .converted (n / 2)
    else .refused ⟨"odd", []⟩

/-- Eight passes both stages, six stops in the second, three and zero in the first. -/
theorem run_accounted_halving :
    (∀ record ∈ [8, 3, 6, 0].map Record.entering, record.isFailed = false) ∧
    (∃ ends, (cons halving (cons halving nil)).Accounted ([8, 3, 6, 0].map Record.entering) ends) ∧
    ((cons halving (cons halving nil)).run ([8, 3, 6, 0].map Record.entering)).2 =
      [⟨8, 2, none⟩] ∧
    ((cons halving (cons halving nil)).run ([8, 3, 6, 0].map Record.entering)).1.map
      (fun report => report.failures.map fun out => out.record.entered) = [[3, 0], [6]] ∧
    (Record.of 4 4 |>.withError ⟨"earlier", "Error: earlier"⟩).isFailed = true ∧
    halving.processAll .zero [(Record.of 4 4).withError ⟨"earlier", "Error: earlier"⟩] =
      (⟨[], [(Record.of 4 4).withError ⟨"earlier", "Error: earlier"⟩]⟩, .zero) := by
  have clean : ∀ record ∈ [8, 3, 6, 0].map Record.entering, record.isFailed = false := by decide
  refine ⟨clean, (run_accounted.1 _ _ clean).2, rfl, rfl, rfl, ?_⟩
  exact run_accounted.2 halving .zero [] [] _ rfl

end Chain

end RowConduit
