import RowConduit.Error

/-!
# Records under conversion

The payload with which a record entered travels beside every form that conversion gives it.  An
error is attached once; later errors are ignored.
-/

namespace RowConduit

/-- What is kept of the error of a record: its message and its full account. -/
structure ErrorDetail where
  message : String
  trace : String
  deriving DecidableEq, Repr

def ErrorDetail.ofChain (e : ErrorChain) : ErrorDetail :=
  ⟨e.message, e.trace⟩

structure Record (ο α : Type) where
  entered : ο
  payload : α
  error : Option ErrorDetail
  deriving DecidableEq, Repr

namespace Record

variable {ο α β : Type}

def entering (payload : ο) : Record ο ο :=
  ⟨payload, payload, none⟩

def of (entered : ο) (payload : α) : Record ο α :=
  ⟨entered, payload, none⟩

def isFailed (r : Record ο α) : Bool :=
  r.error.isSome

def withPayload (r : Record ο α) (payload : β) : Record ο β :=
  ⟨r.entered, payload, r.error⟩

/-- The record with an error, unless it carries one already. -/
def withError (r : Record ο α) (detail : ErrorDetail) : Record ο α :=
  match r.error with
  | some _ => r
  | none => { r with error := some detail }

theorem withError_of_failed {r : Record ο α} (failed : r.isFailed = true) (detail : ErrorDetail) :
    r.withError detail = r := by
  unfold isFailed at failed
  unfold withError
  cases h : r.error with
  | none => simp [h] at failed
  | some _ => rfl

end Record

end RowConduit
