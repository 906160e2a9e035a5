import RowConduit.Pipeline.Stage

/-!
# Stages on channels

A stage that takes records from an input channel and sends each to one of two bounded outputs.  It
stops when the input ends, when an output that it wants to send to is closed, or when it is
cancelled.  Cancellation comes first: before a record is taken and before one is sent.  A record
that was processed and not sent is dropped, and stays counted.

A stage left to itself moves by `Run.advance?`.  Among producers, consumers and cancellation, which
may come at any moment, it moves by the events of `Poll.step?`; a sequence of events is one
interleaving of all of them.
-/

namespace RowConduit

/-- A bounded output: all that was sent so far, and how much of it the consumer has taken. -/
structure Output (α : Type) where
  capacity : Nat
  sent : List α
  taken : Nat
  isClosed : Bool
  deriving Repr

namespace Output

variable {α : Type}

def empty (capacity : Nat) : Output α :=
  ⟨capacity, [], 0, false⟩

def held (out : Output α) : List α :=
  out.sent.drop out.taken

def hasRoom (out : Output α) : Bool :=
  out.held.length < out.capacity

def push (out : Output α) (a : α) : Output α :=
  { out with sent := out.sent ++ [a] }

end Output

inductive Phase (ο α β : Type) where
  | receiving
  | sending (processed : Processed ο α β)
  | stopped
  deriving Repr

structure Run (ο α β : Type) where
  input : List (Record ο α)
  inputClosed : Bool
  success : Output (Record ο β)
  failure : Output (Record ο α)
  cancelled : Bool
  counts : StageCounts
  received : List (Record ο α)
  phase : Phase ο α β
  deriving Repr

namespace Run

variable {ο α β : Type}

def start (counts : StageCounts) (input : List (Record ο α)) (inputClosed : Bool)
    (successCapacity failureCapacity : Nat) : Run ο α β where
  input := input
  inputClosed := inputClosed
  success := Output.empty successCapacity
  failure := Output.empty failureCapacity
  cancelled := false
  counts := counts
  received := []
  phase := .receiving

def stop (run : Run ο α β) : Run ο α β :=
  { run with phase := .stopped }

/-- Take a record from the input and process it; nothing if the input is empty and still open. -/
def receive? (stage : Stage α β) (run : Run ο α β) : Option (Run ο α β) :=
  match run.input with
  | record :: rest =>
      let done := stage.process run.counts record
      some { run with
        input := rest
        counts := done.2
        received := run.received ++ [record]
        phase := .sending done.1 }
  | [] => if run.inputClosed then some run.stop else none

def refuses (run : Run ο α β) : Processed ο α β → Bool
  | .success _ => run.success.isClosed
  | .failure _ => run.failure.isClosed

def hasRoomFor (run : Run ο α β) : Processed ο α β → Bool
  | .success _ => run.success.hasRoom
  | .failure _ => run.failure.hasRoom

def deliver (run : Run ο α β) : Processed ο α β → Run ο α β
  | .success r => { run with success := run.success.push r, phase := .receiving }
  | .failure r => { run with failure := run.failure.push r, phase := .receiving }

def send? (run : Run ο α β) (processed : Processed ο α β) : Option (Run ο α β) :=
  if run.refuses processed then some run.stop
  else if run.hasRoomFor processed then some (run.deliver processed)
  else none

@[simp] theorem deliver_input (run : Run ο α β) (processed : Processed ο α β) :
    (run.deliver processed).input = run.input := by
  cases processed <;> rfl

@[simp] theorem deliver_phase (run : Run ο α β) (processed : Processed ο α β) :
    (run.deliver processed).phase = .receiving := by
  cases processed <;> rfl

/-- The next action of the stage; nothing if it has stopped or has to wait. -/
def advance? (stage : Stage α β) (run : Run ο α β) : Option (Run ο α β) :=
  match run.phase with
  | .stopped => none
  | .receiving => if run.cancelled then some run.stop else run.receive? stage
  | .sending processed => if run.cancelled then some run.stop else run.send? processed

/-- How many actions a phase has before the next record is taken, at most. -/
def Phase.weight : Phase ο α β → Nat
  | .stopped => 0
  | .receiving => 1
  | .sending _ => 2

/-- A bound on the actions that the stage can still take by itself. -/
def weight (run : Run ο α β) : Nat :=
  2 * run.input.length + Phase.weight run.phase

theorem weight_of_advance? {stage : Stage α β} {run next : Run ο α β}
    (advanced : run.advance? stage = some next) : next.weight < run.weight := by
  unfold advance? at advanced
  split at advanced
  · simp at advanced
  · next receiving =>
      split at advanced
      · simp only [Option.some.injEq] at advanced
        subst advanced
        simp [weight, stop, receiving, Phase.weight]
      · unfold receive? at advanced
        split at advanced
        · next record rest waiting =>
            simp only [Option.some.injEq] at advanced
            subst advanced
            simp [weight, waiting, receiving, Phase.weight]
            omega
        · split at advanced
          · simp only [Option.some.injEq] at advanced
            subst advanced
            simp [weight, stop, receiving, Phase.weight]
          · simp at advanced
  · next processed sending =>
      split at advanced
      · simp only [Option.some.injEq] at advanced
        subst advanced
        simp [weight, stop, sending, Phase.weight]
      · unfold send? at advanced
        split at advanced
        · simp only [Option.some.injEq] at advanced
          subst advanced
          simp [weight, stop, sending, Phase.weight]
        · split at advanced
          · simp only [Option.some.injEq] at advanced
            subst advanced
            simp [weight, sending, Phase.weight]
          · simp at advanced

def settle (stage : Stage α β) (run : Run ο α β) : Run ο α β :=
  match _advanced : run.advance? stage with
  | none => run
  | some next => next.settle stage
termination_by run.weight
decreasing_by exact weight_of_advance? _advanced

def isStopped (run : Run ο α β) : Bool :=
  match run.phase with
  | .stopped => true
  | _ => false

def cancel (run : Run ο α β) : Run ο α β :=
  { run with cancelled := true }

def closeSuccess (run : Run ο α β) : Run ο α β :=
  { run with success := { run.success with isClosed := true } }

def closeFailure (run : Run ο α β) : Run ο α β :=
  { run with failure := { run.failure with isClosed := true } }

def offer? (run : Run ο α β) (record : Record ο α) : Option (Run ο α β) :=
  if run.inputClosed then none else some { run with input := run.input ++ [record] }

def closeInput (run : Run ο α β) : Run ο α β :=
  { run with inputClosed := true }

def takeSuccess? (run : Run ο α β) : Option (Run ο α β) :=
  if run.success.held.isEmpty then none
  else some { run with success := { run.success with taken := run.success.taken + 1 } }

def takeFailure? (run : Run ο α β) : Option (Run ο α β) :=
  if run.failure.held.isEmpty then none
  else some { run with failure := { run.failure with taken := run.failure.taken + 1 } }

/-- Run until the stage has to wait, cancel it there, and let it stop. -/
def settleThenCancel (stage : Stage α β) (run : Run ο α β) : Run ο α β :=
  let settled := run.settle stage
  if settled.isStopped then settled else settled.cancel.settle stage

end Run

/-- What may happen next: something that the stage does, or something around it. -/
inductive Event (ο α : Type) where
  | ask
  | act
  | reserve
  | offer (record : Record ο α)
  | closeInput
  | takeSuccess
  | takeFailure
  | closeSuccess
  | closeFailure
  | cancel
  deriving Repr

/--
A stage on its channels, seen from one event to the next.  A stage first asks whether it has been
cancelled and only then acts, so a cancellation may come between: `asked` says that it has asked and
was not.  `reserved` says that a place is set aside for the record it sends, which the closing of
the output does not take back.
-/
structure Poll (ο α β : Type) where
  run : Run ο α β
  asked : Bool
  reserved : Bool
  deriving Repr

namespace Poll

variable {ο α β : Type}

def of (run : Run ο α β) : Poll ο α β :=
  ⟨run, false, false⟩

def around (poll : Poll ο α β) (run : Run ο α β) : Poll ο α β :=
  { poll with run := run }

def ask? (poll : Poll ο α β) : Option (Poll ο α β) :=
  if poll.run.isStopped || poll.asked then none
  else if poll.run.cancelled then some (of poll.run.stop)
  else some { poll with asked := true }

/-- Take a record or send one; a stage that can do neither has to wait, and then asks again. -/
def act (stage : Stage α β) (poll : Poll ο α β) : Poll ο α β :=
  match poll.run.phase with
  | .stopped => of poll.run
  | .receiving => of ((poll.run.receive? stage).getD poll.run)
  | .sending processed =>
      if poll.reserved then of (poll.run.deliver processed)
      else of ((poll.run.send? processed).getD poll.run)

/-- Set a place aside for the record that is sent, in an output that is open and has room. -/
def reserve? (poll : Poll ο α β) : Option (Poll ο α β) :=
  match poll.run.phase with
  | .sending processed =>
      if !poll.run.refuses processed && poll.run.hasRoomFor processed then
        some { poll with reserved := true }
      else none
  | _ => none

/-- What an event leads to; nothing if it cannot happen now. -/
def step? (stage : Stage α β) (poll : Poll ο α β) : Event ο α → Option (Poll ο α β)
  | .ask => poll.ask?
  | .act => if poll.asked then some (poll.act stage) else none
  | .reserve => poll.reserve?
  | .offer record => (poll.run.offer? record).map poll.around
  | .closeInput => some (poll.around poll.run.closeInput)
  | .takeSuccess => poll.run.takeSuccess?.map poll.around
  | .takeFailure => poll.run.takeFailure?.map poll.around
  | .closeSuccess => some (poll.around poll.run.closeSuccess)
  | .closeFailure => some (poll.around poll.run.closeFailure)
  | .cancel => some (poll.around poll.run.cancel)

/-- What a sequence of events leads to; nothing if one of them cannot happen when its turn comes. -/
def follow? (stage : Stage α β) (poll : Poll ο α β) : List (Event ο α) → Option (Poll ο α β)
  | [] => some poll
  | event :: later =>
      match poll.step? stage event with
      | none => none
      | some next => next.follow? stage later

end Poll

namespace Event

variable {ο α : Type}

def offered? : Event ο α → Option (Record ο α)
  | .offer record => some record
  | _ => none

end Event

end RowConduit
