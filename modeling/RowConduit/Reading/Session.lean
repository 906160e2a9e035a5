import RowConduit.Query.Plan
import RowConduit.Reading.Mapper

/-!
# Sessions

A session owns an open connection to a source and closes it when it ends, however it ends.  Closing
explicitly and then ending closes once: what a session has released it does not release again.
-/

namespace RowConduit

/-- What a source offers, acting on its own state: open, run a query, close. -/
structure Connector (σ : Type) where
  connect : σ → Except JobError Unit × σ
  execute : σ → String → Except JobError (List ColumnReader) × σ
  disconnect : σ → σ

/-- The owner of a connection, which knows whether it still has to be closed. -/
structure Session (σ : Type) where
  state : σ
  isOpen : Bool

namespace Session

variable {σ : Type}

/-- Open a connection; where that fails there is no session and nothing to close. -/
def start (c : Connector σ) (state : σ) : Except JobError (Session σ) × σ :=
  match c.connect state with
  | (.ok (), connected) => (.ok ⟨connected, true⟩, connected)
  | (.error e, refused) => (.error e, refused)

def read (c : Connector σ) (session : Session σ) (planned : TableRead) (mapper : RowMapper)
    (counts : MapperCounts) : Except JobError MappedRows × Session σ :=
  match c.execute session.state planned.query with
  | (.ok cursor, after) => (.ok ⟨mapper, cursor, counts⟩, { session with state := after })
  | (.error e, after) => (.error e, { session with state := after })

def release (c : Connector σ) (session : Session σ) : Session σ :=
  if session.isOpen then ⟨c.disconnect session.state, false⟩ else session

/-- The end of a session that is dropped, after an error too. -/
def drop (c : Connector σ) (session : Session σ) : Session σ :=
  release c session

/-- Close explicitly; the session ends right after, which drops it. -/
def close (c : Connector σ) (session : Session σ) : Session σ :=
  drop c (release c session)

theorem release_release (c : Connector σ) (session : Session σ) :
    release c (release c session) = release c session := by
  unfold release
  split
  · simp
  · rfl

theorem close_eq_drop (c : Connector σ) (session : Session σ) : close c session = drop c session :=
  release_release c session

end Session

end RowConduit
