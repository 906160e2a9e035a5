import RowConduit.Pipeline.Channel
import RowConduit.Proofs.Pipeline.Batch

/-!
# Delivery on channels

A stage on channels sends what it would put out for a batch, whatever happens around it.  The
records it has taken so far fall into those that are delivered and at most one, the last, that is
not; `Run.Tracks` says so for every phase, every event keeps it, and hence every interleaving does.
-/

namespace RowConduit

variable {ο α β : Type}

namespace Run

variable {stage : Stage α β} {run next : Run ο α β}

/-- Only what waits for consumers has changed, or something was closed or cancelled. -/
structure Loosened (run next : Run ο α β) : Prop where
  input : next.input = run.input
  received : next.received = run.received
  counts : next.counts = run.counts
  phase : next.phase = run.phase
  successes : next.success.sent = run.success.sent
  failures : next.failure.sent = run.failure.sent
  inputClosed : run.inputClosed = true → next.inputClosed = true
  cancelled : run.cancelled = true → next.cancelled = true
  successClosed : run.success.isClosed = true → next.success.isClosed = true
  failureClosed : run.failure.isClosed = true → next.failure.isClosed = true

theorem Loosened.refl (run : Run ο α β) : run.Loosened run :=
  ⟨rfl, rfl, rfl, rfl, rfl, rfl, id, id, id, id⟩

theorem Loosened.refuses (loosened : run.Loosened next) {processed : Processed ο α β}
    (closed : run.refuses processed = true) : next.refuses processed = true := by
  cases processed with
  | success r => exact loosened.successClosed closed
  | failure r => exact loosened.failureClosed closed

/-- What one event can do to a run, and the records that it puts into the input. -/
inductive Moves (stage : Stage α β) (run : Run ο α β) : List (Record ο α) → Run ο α β → Prop where
  | loosened {next : Run ο α β} (h : run.Loosened next) : Moves stage run [] next
  | fed (record : Record ο α) (isOpen : run.inputClosed = false) :
      Moves stage run [record] { run with input := run.input ++ [record] }
  | cancelled (seen : run.cancelled = true) : Moves stage run [] run.stop
  | ended (receiving : run.phase = .receiving) (empty : run.input = [])
      (closed : run.inputClosed = true) : Moves stage run [] run.stop
  | taken {record : Record ο α} {rest : List (Record ο α)} (receiving : run.phase = .receiving)
      (waiting : run.input = record :: rest) :
      Moves stage run [] { run with
        input := rest
        counts := (stage.process run.counts record).2
        received := run.received ++ [record]
        phase := .sending (stage.side record) }
  | delivered {processed : Processed ο α β} (sending : run.phase = .sending processed) :
      Moves stage run [] (run.deliver processed)
  | refused {processed : Processed ο α β} (sending : run.phase = .sending processed)
      (closed : run.refuses processed = true) : Moves stage run [] run.stop

theorem moves_receive? (receiving : run.phase = .receiving) :
    Moves stage run [] ((run.receive? stage).getD run) := by
  unfold receive?
  split
  · next record rest waiting =>
      rw [Option.getD_some, Stage.process_fst]
      exact .taken receiving waiting
  · next empty =>
      split
      · next closed => exact .ended receiving empty closed
      · exact .loosened (.refl run)

theorem moves_send? {processed : Processed ο α β} (sending : run.phase = .sending processed) :
    Moves stage run [] ((run.send? processed).getD run) := by
  unfold send?
  split
  · next closed => exact .refused sending closed
  · split
    · exact .delivered sending
    · exact .loosened (.refl run)

theorem moves_offer? {record : Record ο α} (offered : run.offer? record = some next) :
    Moves stage run [record] next := by
  unfold offer? at offered
  split at offered
  · cases offered
  · next isOpen =>
      cases offered
      exact .fed record (by simpa using isOpen)

theorem moves_takeSuccess? (taken : run.takeSuccess? = some next) : Moves stage run [] next := by
  unfold takeSuccess? at taken
  split at taken
  · cases taken
  · cases taken
    exact .loosened ⟨rfl, rfl, rfl, rfl, rfl, rfl, id, id, id, id⟩

theorem moves_takeFailure? (taken : run.takeFailure? = some next) : Moves stage run [] next := by
  unfold takeFailure? at taken
  split at taken
  · cases taken
  · cases taken
    exact .loosened ⟨rfl, rfl, rfl, rfl, rfl, rfl, id, id, id, id⟩

end Run

namespace Poll

variable {stage : Stage α β} {poll next : Poll ο α β}

theorem moves_ask? (asked : poll.ask? = some next) : Run.Moves stage poll.run [] next.run := by
  unfold ask? at asked
  split at asked
  · cases asked
  · split at asked
    · next seen =>
        cases asked
        exact .cancelled seen
    · cases asked
      exact .loosened (.refl poll.run)

theorem moves_act (stage : Stage α β) (poll : Poll ο α β) :
    Run.Moves stage poll.run [] (poll.act stage).run := by
  unfold act
  split
  · exact .loosened (.refl poll.run)
  · next receiving => exact Run.moves_receive? receiving
  · next processed sending =>
      split
      · exact .delivered sending
      · exact Run.moves_send? sending

theorem moves_reserve? (reserved : poll.reserve? = some next) :
    Run.Moves stage poll.run [] next.run := by
  unfold reserve? at reserved
  split at reserved
  · split at reserved
    · cases reserved
      exact .loosened (.refl poll.run)
    · cases reserved
  · cases reserved

theorem moves_step? {event : Event ο α} (stepped : poll.step? stage event = some next) :
    Run.Moves stage poll.run event.offered?.toList next.run := by
  cases event with
  | ask => exact moves_ask? stepped
  | act =>
      rw [step?, Option.ite_none_right_eq_some] at stepped
      cases stepped.2
      exact moves_act stage poll
  | reserve => exact moves_reserve? stepped
  | offer record =>
      obtain ⟨run, offered, rfl⟩ := Option.map_eq_some_iff.mp stepped
      exact Run.moves_offer? offered
  | takeSuccess =>
      obtain ⟨run, taken, rfl⟩ := Option.map_eq_some_iff.mp stepped
      exact Run.moves_takeSuccess? taken
  | takeFailure =>
      obtain ⟨run, taken, rfl⟩ := Option.map_eq_some_iff.mp stepped
      exact Run.moves_takeFailure? taken
  | closeInput =>
      cases stepped
      exact .loosened ⟨rfl, rfl, rfl, rfl, rfl, rfl, fun _ => rfl, id, id, id⟩
  | closeSuccess =>
      cases stepped
      exact .loosened ⟨rfl, rfl, rfl, rfl, rfl, rfl, id, id, fun _ => rfl, id⟩
  | closeFailure =>
      cases stepped
      exact .loosened ⟨rfl, rfl, rfl, rfl, rfl, rfl, id, id, id, fun _ => rfl⟩
  | cancel =>
      cases stepped
      exact .loosened ⟨rfl, rfl, rfl, rfl, rfl, rfl, id, fun _ => rfl, id, id⟩

end Poll

namespace Run

variable {stage : Stage α β} {run next : Run ο α β} {fed delivered missing : List (Record ο α)}

/--
Where the outcome is that has not been sent: nowhere while the stage waits for a record, in its
hands while it sends, and given up for a reason when it has stopped.
-/
def Owes (stage : Stage α β) (run : Run ο α β) (missing : List (Record ο α)) : Prop :=
  match run.phase with
  | .receiving => missing = []
  | .sending processed => ∃ record, missing = [record] ∧ processed = stage.side record
  | .stopped =>
      missing.length ≤ 1 ∧
        (run.cancelled = true ∨
          (∃ record, missing = [record] ∧ run.refuses (stage.side record) = true) ∨
          (missing = [] ∧ run.input = [] ∧ run.inputClosed = true))

/-- Of the records put in so far, `delivered` were taken and sent, and `missing` were only taken. -/
structure Tracks (stage : Stage α β) (fed : List (Record ο α)) (run : Run ο α β)
    (delivered missing : List (Record ο α)) : Prop where
  order : run.received ++ run.input = fed
  counts : run.counts = (stage.processAll .zero run.received).2
  received : run.received = delivered ++ missing
  successes : run.success.sent = delivered.filterMap stage.success?
  failures : run.failure.sent = delivered.filterMap stage.failure?
  owes : run.Owes stage missing

theorem Owes.length_le (owes : run.Owes stage missing) : missing.length ≤ 1 := by
  unfold Owes at owes
  split at owes
  · rw [owes]
    exact Nat.zero_le 1
  · obtain ⟨record, rfl, _⟩ := owes
    exact Nat.le_refl 1
  · exact owes.1

theorem Owes.of_receiving (owes : run.Owes stage missing) (receiving : run.phase = .receiving) :
    missing = [] := by
  rw [Owes, receiving] at owes
  exact owes

theorem Owes.of_sending {processed : Processed ο α β} (owes : run.Owes stage missing)
    (sending : run.phase = .sending processed) :
    ∃ record, missing = [record] ∧ processed = stage.side record := by
  rw [Owes, sending] at owes
  exact owes

theorem Owes.of_loosened (owes : run.Owes stage missing) (loosened : run.Loosened next) :
    next.Owes stage missing := by
  unfold Owes at owes ⊢
  rw [loosened.phase]
  cases phase : run.phase with
  | receiving => rwa [phase] at owes
  | sending processed => rwa [phase] at owes
  | stopped =>
      rw [phase] at owes
      refine ⟨owes.1, ?_⟩
      rcases owes.2 with cancelled | ⟨record, only, closed⟩ | ⟨none, empty, ended⟩
      · exact Or.inl (loosened.cancelled cancelled)
      · exact Or.inr (Or.inl ⟨record, only, loosened.refuses closed⟩)
      · exact Or.inr (Or.inr ⟨none, loosened.input.trans empty, loosened.inputClosed ended⟩)

/-- An offer finds the input open, so a stage that has stopped at the end of its input is past it. -/
theorem Owes.of_fed (owes : run.Owes stage missing) (isOpen : run.inputClosed = false)
    (record : Record ο α) :
    ({ run with input := run.input ++ [record] } : Run ο α β).Owes stage missing := by
  unfold Owes at owes ⊢
  cases phase : run.phase with
  | receiving => rwa [phase] at owes
  | sending processed => rwa [phase] at owes
  | stopped =>
      rw [phase] at owes
      refine ⟨owes.1, ?_⟩
      rcases owes.2 with cancelled | refused | ⟨_, _, ended⟩
      · exact Or.inl cancelled
      · exact Or.inr (Or.inl refused)
      · rw [isOpen] at ended
        cases ended

theorem tracks_start (stage : Stage α β) (input : List (Record ο α)) (inputClosed : Bool)
    (successCapacity failureCapacity : Nat) :
    (start .zero input inputClosed successCapacity failureCapacity : Run ο α β).Tracks stage input
      [] [] :=
  ⟨rfl, rfl, rfl, rfl, rfl, rfl⟩

theorem Tracks.of_loosened (tracks : run.Tracks stage fed delivered missing)
    (loosened : run.Loosened next) : next.Tracks stage fed delivered missing where
  order := by rw [loosened.received, loosened.input, tracks.order]
  counts := by rw [loosened.counts, loosened.received, tracks.counts]
  received := by rw [loosened.received, tracks.received]
  successes := by rw [loosened.successes, tracks.successes]
  failures := by rw [loosened.failures, tracks.failures]
  owes := tracks.owes.of_loosened loosened

theorem Tracks.of_fed (tracks : run.Tracks stage fed delivered missing)
    (isOpen : run.inputClosed = false) (record : Record ο α) :
    ({ run with input := run.input ++ [record] } : Run ο α β).Tracks stage (fed ++ [record])
      delivered missing where
  order := by rw [← tracks.order, List.append_assoc]
  counts := tracks.counts
  received := tracks.received
  successes := tracks.successes
  failures := tracks.failures
  owes := tracks.owes.of_fed isOpen record

/-- A stage may stop when it is cancelled, refused, or at the end of its input. -/
theorem Tracks.of_stopped (tracks : run.Tracks stage fed delivered missing)
    (reason : run.cancelled = true ∨
      (∃ record, missing = [record] ∧ run.refuses (stage.side record) = true) ∨
      (missing = [] ∧ run.input = [] ∧ run.inputClosed = true)) :
    run.stop.Tracks stage fed delivered missing where
  order := tracks.order
  counts := tracks.counts
  received := tracks.received
  successes := tracks.successes
  failures := tracks.failures
  owes := ⟨tracks.owes.length_le, reason⟩

theorem Tracks.of_taken (tracks : run.Tracks stage fed delivered missing)
    (receiving : run.phase = .receiving) {record : Record ο α} {rest : List (Record ο α)}
    (waiting : run.input = record :: rest) :
    ({ run with
        input := rest
        counts := (stage.process run.counts record).2
        received := run.received ++ [record]
        phase := .sending (stage.side record) } : Run ο α β).Tracks stage fed delivered
      [record] where
  order := by rw [← tracks.order, waiting, List.append_assoc, List.singleton_append]
  counts := by
    rw [Stage.processAll_append]
    dsimp only
    rw [← tracks.counts]
    rfl
  received := by
    have none := tracks.owes.of_receiving receiving
    rw [tracks.received, none, List.append_nil]
  successes := tracks.successes
  failures := tracks.failures
  owes := ⟨record, rfl, rfl⟩

theorem Tracks.of_delivered (tracks : run.Tracks stage fed delivered missing)
    {processed : Processed ο α β} (sending : run.phase = .sending processed) :
    (run.deliver processed).Tracks stage fed (delivered ++ missing) [] := by
  obtain ⟨record, rfl, rfl⟩ := tracks.owes.of_sending sending
  have order := tracks.order
  have counts := tracks.counts
  have received := tracks.received
  have successes := tracks.successes
  have failures := tracks.failures
  cases side : stage.side record with
  | success r =>
      exact {
        order := order
        counts := counts
        received := by rw [List.append_nil]; exact received
        successes := by simp [deliver, Output.push, successes, Stage.success?, side]
        failures := by simp [deliver, failures, Stage.failure?, side]
        owes := rfl }
  | failure r =>
      exact {
        order := order
        counts := counts
        received := by rw [List.append_nil]; exact received
        successes := by simp [deliver, successes, Stage.success?, side]
        failures := by simp [deliver, Output.push, failures, Stage.failure?, side]
        owes := rfl }

theorem Tracks.moves {more : List (Record ο α)} (tracks : run.Tracks stage fed delivered missing)
    (moves : Moves stage run more next) :
    ∃ delivered missing, next.Tracks stage (fed ++ more) delivered missing := by
  cases moves with
  | fed record isOpen => exact ⟨delivered, missing, tracks.of_fed isOpen record⟩
  | loosened loosened =>
      rw [List.append_nil]
      exact ⟨delivered, missing, tracks.of_loosened loosened⟩
  | cancelled seen =>
      rw [List.append_nil]
      exact ⟨delivered, missing, tracks.of_stopped (Or.inl seen)⟩
  | ended receiving empty closed =>
      rw [List.append_nil]
      have none := tracks.owes.of_receiving receiving
      exact ⟨delivered, missing, tracks.of_stopped (Or.inr (Or.inr ⟨none, empty, closed⟩))⟩
  | @taken record rest receiving waiting =>
      rw [List.append_nil]
      exact ⟨delivered, [record], tracks.of_taken receiving waiting⟩
  | delivered sending =>
      rw [List.append_nil]
      exact ⟨delivered ++ missing, [], tracks.of_delivered sending⟩
  | refused sending closed =>
      rw [List.append_nil]
      obtain ⟨record, only, rfl⟩ := tracks.owes.of_sending sending
      exact ⟨delivered, missing, tracks.of_stopped (Or.inr (Or.inl ⟨record, only, closed⟩))⟩

end Run

/-- Whatever happens in whatever order, the records are kept track of. -/
theorem Poll.tracks_follow? {stage : Stage α β} {poll next : Poll ο α β}
    {fed delivered missing : List (Record ο α)} {events : List (Event ο α)}
    (tracks : poll.run.Tracks stage fed delivered missing)
    (followed : poll.follow? stage events = some next) :
    ∃ delivered missing,
      next.run.Tracks stage (fed ++ events.filterMap Event.offered?) delivered missing := by
  induction events generalizing poll fed delivered missing with
  | nil =>
      cases followed
      exact ⟨delivered, missing, by rwa [List.filterMap_nil, List.append_nil]⟩
  | cons event later ih =>
      rw [follow?] at followed
      split at followed
      · cases followed
      · next middle stepped =>
          obtain ⟨_, _, onward⟩ := tracks.moves (moves_step? stepped)
          have shape : (event :: later).filterMap Event.offered? =
              event.offered?.toList ++ later.filterMap Event.offered? := by
            cases offered : event.offered? <;> simp [offered]
          rw [shape, ← List.append_assoc]
          exact ih onward followed

namespace Run

variable {stage : Stage α β} {run : Run ο α β} {fed delivered missing : List (Record ο α)}

/--
What a run has sent is what the stage puts out for the records taken so far as a batch, but for the
outcome of `missing`, which is the last record taken or nothing.
-/
structure Agrees (stage : Stage α β) (fed : List (Record ο α)) (run : Run ο α β)
    (missing : List (Record ο α)) : Prop where
  /-- Records are taken in the order in which they were put in. -/
  order : run.received ++ run.input = fed
  single : missing.length ≤ 1
  last : missing <:+ run.received
  successes : (stage.processAll .zero run.received).1.successes =
    run.success.sent ++ missing.filterMap stage.success?
  failures : (stage.processAll .zero run.received).1.failures =
    run.failure.sent ++ missing.filterMap stage.failure?
  /-- No outcome is sent twice or to both sides. -/
  once : run.success.sent.length + run.failure.sent.length + missing.length = run.received.length
  /-- A stage stops with an outcome unsent only if it was cancelled or its output is closed. -/
  givenUp : run.isStopped = true → ∀ record ∈ missing,
    run.cancelled = true ∨ run.refuses (stage.side record) = true
  counts : run.counts = (stage.processAll .zero run.received).2
  /-- A stage that stops of itself has taken all that was put in and has sent what comes of it. -/
  complete : run.isStopped = true → run.cancelled = false →
    run.success.isClosed = false → run.failure.isClosed = false →
      run.inputClosed = true ∧ run.received = fed ∧ missing = []

theorem phase_of_isStopped (stopped : run.isStopped = true) : run.phase = .stopped := by
  unfold isStopped at stopped
  split at stopped
  · assumption
  · cases stopped

theorem refuses_eq_false (successOpen : run.success.isClosed = false)
    (failureOpen : run.failure.isClosed = false) (processed : Processed ο α β) :
    run.refuses processed = false := by
  cases processed with
  | success r => exact successOpen
  | failure r => exact failureOpen

namespace Tracks

theorem given_up (tracks : run.Tracks stage fed delivered missing) (stopped : run.isStopped = true)
    {record : Record ο α} (unsent : record ∈ missing) :
    run.cancelled = true ∨ run.refuses (stage.side record) = true := by
  have owes := tracks.owes
  rw [Owes, phase_of_isStopped stopped] at owes
  rcases owes.2 with cancelled | ⟨only, rfl, closed⟩ | ⟨none, _, _⟩
  · exact Or.inl cancelled
  · rw [List.mem_singleton.mp unsent]
    exact Or.inr closed
  · rw [none] at unsent
    cases unsent

/-- A stage that is neither cancelled nor refused stops at the end of its input only. -/
theorem ended (tracks : run.Tracks stage fed delivered missing) (stopped : run.isStopped = true)
    (uncancelled : run.cancelled = false) (successOpen : run.success.isClosed = false)
    (failureOpen : run.failure.isClosed = false) :
    missing = [] ∧ run.input = [] ∧ run.inputClosed = true := by
  have owes := tracks.owes
  rw [Owes, phase_of_isStopped stopped] at owes
  rcases owes.2 with cancelled | ⟨record, _, closed⟩ | ended
  · rw [uncancelled] at cancelled
    cases cancelled
  · rw [refuses_eq_false successOpen failureOpen] at closed
    cases closed
  · exact ended

theorem agrees (tracks : run.Tracks stage fed delivered missing) :
    run.Agrees stage fed missing where
  order := tracks.order
  single := tracks.owes.length_le
  last := ⟨delivered, tracks.received.symm⟩
  successes := by
    rw [Stage.processAll_successes, tracks.received, List.filterMap_append, tracks.successes]
  failures := by
    rw [Stage.processAll_failures, tracks.received, List.filterMap_append, tracks.failures]
  once := by
    rw [tracks.successes, tracks.failures, stage.length_sides, tracks.received,
      List.length_append]
  givenUp := fun stopped _ unsent => tracks.given_up stopped unsent
  counts := tracks.counts
  complete := by
    intro stopped uncancelled successOpen failureOpen
    obtain ⟨none, empty, closed⟩ := tracks.ended stopped uncancelled successOpen failureOpen
    refine ⟨closed, ?_, none⟩
    rw [← tracks.order, empty, List.append_nil]

end Tracks

end Run

namespace Poll

variable {stage : Stage α β}

theorem follow?_append {poll middle : Poll ο α β} {first : List (Event ο α)}
    (followed : poll.follow? stage first = some middle) (second : List (Event ο α)) :
    poll.follow? stage (first ++ second) = middle.follow? stage second := by
  induction first generalizing poll with
  | nil =>
      cases followed
      rfl
  | cons event later ih =>
      rw [List.cons_append]
      rw [follow?] at followed ⊢
      split at followed
      · cases followed
      · next next stepped => exact ih followed

/-- A step that a stage takes by itself is asking, and acting unless it was cancelled. -/
theorem exists_follow?_advance? {run next : Run ο α β} (advanced : run.advance? stage = some next) :
    ∃ events : List (Event ο α), events.filterMap Event.offered? = [] ∧
      (of run).follow? stage events = some (of next) := by
  unfold Run.advance? at advanced
  split at advanced
  · cases advanced
  · next receiving =>
      split at advanced
      · next cancelled =>
          cases advanced
          exact ⟨[.ask], rfl, by simp [follow?, step?, ask?, of, Run.isStopped, *]⟩
      · next uncancelled =>
          refine ⟨[.ask, .act], rfl, ?_⟩
          simp [follow?, step?, ask?, act, of, Run.isStopped, *]
  · next processed sending =>
      split at advanced
      · next cancelled =>
          cases advanced
          exact ⟨[.ask], rfl, by simp [follow?, step?, ask?, of, Run.isStopped, *]⟩
      · next uncancelled =>
          refine ⟨[.ask, .act], rfl, ?_⟩
          simp [follow?, step?, ask?, act, of, Run.isStopped, *]

/-- What a stage does by itself is one of the interleavings, in which nothing else happens. -/
theorem exists_follow?_settle (stage : Stage α β) (run : Run ο α β) :
    ∃ events : List (Event ο α), events.filterMap Event.offered? = [] ∧
      (of run).follow? stage events = some (of (run.settle stage)) := by
  fun_induction Run.settle stage run with
  | case1 run waiting => exact ⟨[], rfl, rfl⟩
  | case2 run next advanced ih =>
      obtain ⟨first, quiet, followed⟩ := exists_follow?_advance? advanced
      obtain ⟨second, silent, settled⟩ := ih
      refine ⟨first ++ second, ?_, ?_⟩
      · rw [List.filterMap_append, quiet, silent, List.append_nil]
      · rw [follow?_append followed, settled]

/--
On every interleaving of a stage with producers, consumers and cancellation, the channel form agrees
with the batch form at every point.
-/
theorem follow?_agrees {stage : Stage α β} {input : List (Record ο α)} {inputClosed : Bool}
    {successCapacity failureCapacity : Nat} {events : List (Event ο α)} {poll : Poll ο α β}
    (followed : (of (Run.start .zero input inputClosed successCapacity
      failureCapacity)).follow? stage events = some poll) :
    ∃ missing, poll.run.Agrees stage (input ++ events.filterMap Event.offered?) missing := by
  obtain ⟨delivered, missing, tracks⟩ := tracks_follow?
    (Run.tracks_start stage input inputClosed successCapacity failureCapacity) followed
  exact ⟨missing, tracks.agrees⟩

def countdown : Stage Nat Nat where
  name := "countdown"
  convert n := if n = 0 then .refused ⟨"zero", []⟩ else .converted (n - 1)

/--
A first record goes out through an output that is closed behind the place set aside for it; the
third is taken although the stage is cancelled after it has asked, and is given up.
-/
def interruption : List (Event Nat Nat) :=
  [.ask, .act, .offer (.entering 7), .ask, .reserve, .closeSuccess, .act, .takeSuccess,
    .ask, .act, .ask, .act, .ask, .cancel, .act, .ask]

theorem follow?_agrees_interruption :
    ∃ poll,
      (of (Run.start .zero ([2, 0, 5].map Record.entering) false 1 1)).follow? countdown
        interruption = some poll ∧
      poll.run.isStopped = true ∧
      poll.run.received = [2, 0, 5].map Record.entering ∧
      poll.run.success.sent = [⟨2, 1, none⟩] ∧
      poll.run.failure.sent = [⟨0, 0, some ⟨"zero", "Error: zero\n"⟩⟩] ∧
      poll.run.counts = ⟨2, 1⟩ ∧
      ∃ missing, poll.run.Agrees countdown ([2, 0, 5, 7].map Record.entering) missing := by
  have followed : (of (Run.start .zero ([2, 0, 5].map Record.entering) false 1 1)).follow?
      countdown interruption = some _ := rfl
  exact ⟨_, followed, rfl, rfl, rfl, rfl, rfl, follow?_agrees followed⟩

end Poll

end RowConduit
