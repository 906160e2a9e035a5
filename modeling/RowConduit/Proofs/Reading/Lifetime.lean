import RowConduit.Proofs.Fallible
import RowConduit.Reading.Session

/-!
# The lifetime of a connection

Whoever has opened a session reads from it, takes rows from what is returned and gives them up, and
ends it in one of several ways.  A connector that also writes down what it is asked behaves like the
connector itself.  While the session is held its connection is open, and each move adds to the list
the queries it runs; the moves that end the session add one more call, which closes the connection,
and no move comes after them.
-/

namespace RowConduit

inductive ConnectorCall where
  | connect
  | execute (query : String)
  | disconnect
  deriving DecidableEq, Repr

def Connector.recorded {σ : Type} (c : Connector σ) : Connector (σ × List ConnectorCall) where
  connect := fun (state, calls) =>
    let (result, after) := c.connect state
    (result, after, calls ++ [.connect])
  execute := fun (state, calls) query =>
    let (result, after) := c.execute state query
    (result, after, calls ++ [.execute query])
  disconnect := fun (state, calls) => (c.disconnect state, calls ++ [.disconnect])

namespace Session

variable {σ : Type} {c : Connector σ}

def unrecorded (session : Session (σ × List ConnectorCall)) : Session σ :=
  ⟨session.state.1, session.isOpen⟩

/-- A recorded read has the same result, and its query is written down even if it fails. -/
theorem read_recorded {session : Session (σ × List ConnectorCall)} {planned : TableRead}
    {mapper : RowMapper} {counts : MapperCounts} {result : Except JobError MappedRows}
    {after : Session σ}
    (reading : read c session.unrecorded planned mapper counts = (result, after)) :
    ∃ recorded, read c.recorded session planned mapper counts = (result, recorded) ∧
      recorded.unrecorded = after ∧ recorded.isOpen = session.isOpen ∧
      recorded.state.2 = session.state.2 ++ [.execute planned.query] := by
  rcases answered : c.execute session.state.1 planned.query with ⟨answer, state⟩
  have asked : c.recorded.execute session.state planned.query =
      (answer, state, session.state.2 ++ [.execute planned.query]) := by
    simp [Connector.recorded, answered]
  refine ⟨⟨(state, session.state.2 ++ [.execute planned.query]), session.isOpen⟩, ?_⟩
  cases answer <;> simp_all [read, unrecorded]

/-- Ending a session closes its connection if that is still open, however the session ends. -/
theorem drop_recorded {session : Session (σ × List ConnectorCall)}
    (isOpen : session.isOpen = true) :
    (drop c.recorded session).state =
      ((drop c session.unrecorded).state, session.state.2 ++ [.disconnect]) := by
  simp [drop, release, unrecorded, isOpen, Connector.recorded]

/-- Where the use of a session stands: held, held with rows that borrow it, or at an end. -/
inductive Phase (σ : Type) where
  | idle (session : Session σ)
  | reading (session : Session σ) (rows : MappedRows)
  | finished (state : σ)

inductive Move where
  /-- Run a planned read, which may fail. -/
  | read (planned : TableRead) (mapper : RowMapper) (counts : MapperCounts)
  /-- Run a planned read in which the connector panics: its result is lost and the session ends. -/
  | breakOff (planned : TableRead) (mapper : RowMapper) (counts : MapperCounts)
  /-- Ask for the next row. -/
  | next
  /-- Give up the rows, taken or not. -/
  | dropRows
  /-- Close the session explicitly, which then drops it, also if the connector panics. -/
  | close
  /-- Drop the session, at the end of its scope as well as after an error or a panic. -/
  | leave

def Move.query? : Move → Option String
  | .read planned _ _ | .breakOff planned _ _ => some planned.query
  | _ => none

namespace Phase

variable {move : Move} {moves : List Move}

/-- Open a session and hold it; if the connector fails to open, or panics, there is none. -/
def start (c : Connector σ) (state : σ) : Phase σ :=
  match Session.start c state with
  | (.ok session, _) => .idle session
  | (.error _, refused) => .finished refused

/-- Make a move, if the phase admits it: rows that are held keep the session from being used. -/
def step? (c : Connector σ) : Phase σ → Move → Option (Phase σ)
  | .idle session, .read planned mapper counts =>
      match Session.read c session planned mapper counts with
      | (.ok rows, after) => some (.reading after rows)
      | (.error _, after) => some (.idle after)
  | .idle session, .breakOff planned mapper counts =>
      let after := (Session.read c session planned mapper counts).2
      some (.finished (Session.drop c after).state)
  | .idle session, .close => some (.finished (Session.close c session).state)
  | .idle session, .leave => some (.finished (Session.drop c session).state)
  | .reading session rows, .next =>
      match rows.next? with
      | some (_, rest) => some (.reading session rest)
      | none => some (.reading session rows)
  | .reading session _, .dropRows => some (.idle session)
  | .reading session _, .leave => some (.finished (Session.drop c session).state)
  | _, _ => none

def run? (c : Connector σ) (phase : Phase σ) (moves : List Move) : Option (Phase σ) :=
  moves.foldlM (step? c) phase

def isFinished : Phase σ → Bool
  | .finished _ => true
  | _ => false

def state : Phase σ → σ
  | .idle session | .reading session _ => session.state
  | .finished state => state

def unrecorded : Phase (σ × List ConnectorCall) → Phase σ
  | .idle session => .idle session.unrecorded
  | .reading session rows => .reading session.unrecorded rows
  | .finished state => .finished state.1

def calls (phase : Phase (σ × List ConnectorCall)) : List ConnectorCall :=
  phase.state.2

def Held : Phase σ → Prop
  | .idle session | .reading session _ => session.isOpen = true
  | .finished _ => False

theorem unrecorded_start (c : Connector σ) (state : σ) (calls : List ConnectorCall) :
    (start c.recorded (state, calls)).unrecorded = start c state := by
  rcases answered : c.connect state with ⟨answer, connected⟩
  cases answer <;>
    simp [start, Session.start, Connector.recorded, unrecorded, Session.unrecorded, answered]

theorem calls_start (c : Connector σ) (state : σ) (calls : List ConnectorCall) :
    (start c.recorded (state, calls)).calls = calls ++ [.connect] := by
  rcases answered : c.connect state with ⟨answer, connected⟩
  cases answer <;>
    simp [start, Session.start, Connector.recorded, Phase.calls, Phase.state, answered]

theorem start_of_error {state : σ} {e : JobError} (refused : (c.connect state).1 = .error e) :
    ∃ after, start c state = .finished after := by
  unfold start Session.start
  split
  · next opened =>
    split at opened <;> simp_all
  · exact ⟨_, rfl⟩

theorem held_start (c : Connector σ) (state : σ) (opened : (c.connect state).1 = .ok ()) :
    (start c state).Held := by
  rcases answered : c.connect state with ⟨answer, connected⟩
  rw [answered] at opened
  cases opened
  simp [start, Session.start, answered, Held]

theorem finished_drop {session : Session (σ × List ConnectorCall)}
    (isOpen : session.isOpen = true) :
    let ended := finished (Session.drop c.recorded session).state
    ended.unrecorded = finished (Session.drop c session.unrecorded).state ∧
      ended.calls = session.state.2 ++ [.disconnect] := by
  intro ended
  simp only [ended, unrecorded, calls, state, Session.drop_recorded isOpen, and_self]

/--
A move of the connector can be made while it is recorded, with the same outcome.  It adds its query
to the calls; if the session is not held after it, the move has ended the session and closed it.
-/
theorem step?_recorded {phase : Phase (σ × List ConnectorCall)} {next : Phase σ}
    (held : phase.Held) (made : phase.unrecorded.step? c move = some next) :
    ∃ after, phase.step? c.recorded move = some after ∧ after.unrecorded = next ∧
      (after.Held ∧ after.calls = phase.calls ++ move.query?.toList.map .execute ∨
        after.isFinished = true ∧
          after.calls = phase.calls ++ (move.query?.toList.map .execute ++ [.disconnect])) := by
  cases phase with
  | finished state => cases held
  | idle session =>
      cases move with
      | read planned mapper counts =>
          rcases reading : Session.read c session.unrecorded planned mapper counts with
            ⟨result, after⟩
          obtain ⟨recorded, same, rfl, isOpen, calls⟩ := Session.read_recorded reading
          simp only [unrecorded, step?, reading] at made
          simp only [step?, same]
          cases result <;> cases made
          · exact ⟨.idle recorded, rfl, rfl, Or.inl ⟨isOpen.trans held, calls⟩⟩
          · exact ⟨.reading recorded _, rfl, rfl, Or.inl ⟨isOpen.trans held, calls⟩⟩
      | breakOff planned mapper counts =>
          rcases reading : Session.read c session.unrecorded planned mapper counts with
            ⟨result, after⟩
          obtain ⟨recorded, same, rfl, isOpen, calls⟩ := Session.read_recorded reading
          simp only [unrecorded, step?, reading] at made
          simp only [step?, same]
          cases made
          obtain ⟨same, closed⟩ := finished_drop (c := c) (isOpen.trans held)
          rw [calls, List.append_assoc] at closed
          exact ⟨_, rfl, same, Or.inr ⟨rfl, closed⟩⟩
      | close =>
          -- the release comes first, and the drop behind it finds the connection closed
          simp only [unrecorded, step?, Session.close_eq_drop] at made ⊢
          cases made
          obtain ⟨same, closed⟩ := finished_drop (c := c) held
          exact ⟨_, rfl, same, Or.inr ⟨rfl, closed⟩⟩
      | leave =>
          cases made
          obtain ⟨same, closed⟩ := finished_drop (c := c) held
          exact ⟨_, rfl, same, Or.inr ⟨rfl, closed⟩⟩
      | _ => cases made
  | reading session rows =>
      have silent : session.state.2 = session.state.2 ++ [] := (List.append_nil _).symm
      cases move with
      | next =>
          simp only [unrecorded, step?] at made ⊢
          split at made <;> cases made
          · exact ⟨_, rfl, rfl, Or.inl ⟨held, silent⟩⟩
          · exact ⟨_, rfl, rfl, Or.inl ⟨held, silent⟩⟩
      | dropRows =>
          cases made
          exact ⟨.idle session, rfl, rfl, Or.inl ⟨held, silent⟩⟩
      | leave =>
          cases made
          obtain ⟨same, closed⟩ := finished_drop (c := c) held
          exact ⟨_, rfl, same, Or.inr ⟨rfl, closed⟩⟩
      | _ => cases made

theorem filterMap_cons_toList {α β : Type} (f : α → Option β) (first : α) (rest : List α) :
    (first :: rest).filterMap f = (f first).toList ++ rest.filterMap f := by
  cases found : f first <;> simp [found]

theorem run?_of_step {phase next : Phase σ} (made : phase.step? c move = some next)
    (rest : List Move) : phase.run? c (move :: rest) = next.run? c rest := by
  rw [run?, List.foldlM_cons, bind_of_eq_some made, run?]

theorem run?_finished {state : σ} {last : Phase σ}
    (made : (finished state).run? c moves = some last) :
    moves = [] ∧ last = finished state := by
  cases moves with
  | nil =>
      cases made
      exact ⟨rfl, rfl⟩
  | cons move rest => cases made

/--
From a session that is held, moves add the queries that they ask for to the calls, in order, and if
they end the session one call to close it.
-/
theorem run?_recorded {phase : Phase (σ × List ConnectorCall)} {last : Phase σ}
    (held : phase.Held) (made : phase.unrecorded.run? c moves = some last) :
    ∃ ended, phase.run? c.recorded moves = some ended ∧ ended.unrecorded = last ∧
      ended.calls = phase.calls ++ (moves.filterMap Move.query?).map .execute ++
        if last.isFinished then [.disconnect] else [] := by
  induction moves generalizing phase with
  | nil =>
      cases made
      have holding : phase.unrecorded.isFinished = false := by
        cases phase with
        | finished state => cases held
        | _ => rfl
      exact ⟨phase, rfl, rfl, by simp [holding]⟩
  | cons move rest ih =>
      obtain ⟨next, first, others⟩ := Option.bind_eq_some_iff.mp made
      obtain ⟨after, recorded, rfl, still | closed⟩ := step?_recorded held first
      · obtain ⟨holding, calls⟩ := still
        obtain ⟨ended, run, same, later⟩ := ih holding others
        refine ⟨ended, (run?_of_step recorded rest).trans run, same, ?_⟩
        rw [later, calls, filterMap_cons_toList, List.map_append, List.append_assoc phase.calls]
      · obtain ⟨ending, calls⟩ := closed
        -- nothing can follow, so this move is the last
        cases after with
        | finished state =>
            obtain ⟨rfl, rfl⟩ := run?_finished others
            refine ⟨finished state, run?_of_step recorded [], rfl, ?_⟩
            rw [calls, filterMap_cons_toList, List.filterMap_nil, List.append_nil,
              List.append_assoc]
            rfl
        | _ => cases ending

theorem isFinished_leave {phase : Phase σ} (held : phase.isFinished = false) :
    ∃ ended, phase.step? c .leave = some ended ∧ ended.isFinished = true := by
  cases phase with
  | finished state => cases held
  | _ => exact ⟨_, rfl, rfl⟩

end Phase

/--
Recording the calls changes nothing about what can be done with a connector.  If opening fails it is
asked nothing else.  Otherwise it is asked to connect, then to run the queries of all reads in
order, and if the session has ended, once more: to disconnect.  As long as the session has not ended
it can be left.
-/
theorem calls_of_use (c : Connector σ) (state : σ) {moves : List Move} {last : Phase σ}
    (used : (Phase.start c state).run? c moves = some last) :
    ∃ ended, (Phase.start c.recorded (state, [])).run? c.recorded moves = some ended ∧
      ended.unrecorded = last ∧
      (∀ e, (c.connect state).1 = .error e → moves = [] ∧ ended.calls = [.connect]) ∧
      ((c.connect state).1 = .ok () →
        ended.calls = .connect :: (moves.filterMap Move.query?).map .execute ++
          if last.isFinished then [.disconnect] else []) ∧
      (last.isFinished = false → ∃ left, last.step? c .leave = some left ∧ left.isFinished = true) := by
  have same := Phase.unrecorded_start c state []
  have connected := Phase.calls_start c state []
  cases answered : (c.connect state).1 with
  | error e =>
      obtain ⟨refused, started⟩ := Phase.start_of_error answered
      rw [started] at used
      obtain ⟨rfl, rfl⟩ := Phase.run?_finished used
      exact ⟨_, rfl, same.trans started, fun _ _ => ⟨rfl, connected⟩, nofun, nofun⟩
  | ok =>
      have held := Phase.held_start c.recorded (state, []) answered
      rw [← same] at used
      obtain ⟨ended, run, outcome, queries⟩ := Phase.run?_recorded held used
      rw [connected] at queries
      exact ⟨ended, run, outcome, nofun, fun _ => queries, Phase.isFinished_leave⟩

/-- A connector that counts its queries, gives one row to the first and refuses all others. -/
def onceReadable : Connector Nat where
  connect served := (.ok (), served)
  execute served _ :=
    (if served = 0 then .ok [namedReader []]
      else .error (.config (.described "query rejected")), served + 1)
  disconnect served := served

def twoReads : List Move :=
  let mapper : RowMapper := ⟨⟨"shop", .mySql⟩, ⟨"orders", [], none, []⟩, TypeMapper.builtin⟩
  let read (query : String) : Move := .read ⟨"orders", query, 1⟩ mapper MapperCounts.zero
  [read "SELECT 1", .next, .next, .dropRows, read "SELECT 2", .close]

theorem calls_of_use_twoReads :
    (Phase.start onceReadable 0).run? onceReadable twoReads = some (.finished 2) ∧
    onceReadable.connect 0 = (.ok (), 0) ∧
    ∃ ended,
      (Phase.start onceReadable.recorded (0, [])).run? onceReadable.recorded twoReads =
        some ended ∧
      ended.calls = [.connect, .execute "SELECT 1", .execute "SELECT 2", .disconnect] := by
  have used : (Phase.start onceReadable 0).run? onceReadable twoReads = some (.finished 2) := rfl
  obtain ⟨ended, run, _, _, calls, _⟩ := calls_of_use onceReadable 0 used
  exact ⟨used, rfl, ended, run, calls rfl⟩

end Session

end RowConduit
