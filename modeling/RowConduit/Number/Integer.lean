import RowConduit.Text.Digits

/-!
# Bounded integers in text

An integer text is an optional sign and at least one ASCII digit.  It is read from the left, so of
two faults the one further left is reported.
-/

namespace RowConduit.Number

open RowConduit.Text

inductive IntegerFault where
  | empty
  | invalidDigit
  | tooLarge
  | tooSmall
  deriving DecidableEq, Repr

def IntegerFault.message : IntegerFault → String
  | .empty => "cannot parse integer from empty string"
  | .invalidDigit => "invalid digit found in string"
  | .tooLarge => "number too large to fit in target type"
  | .tooSmall => "number too small to fit in target type"

/-- Read digits onto `high`, stopping with `overflow` once the value passes `limit`. -/
def readMagnitude (limit : Nat) (overflow : IntegerFault) (high : Nat) :
    List Char → Except IntegerFault Nat
  | [] => .ok high
  | c :: rest =>
      match digit? c with
      | none => .error .invalidDigit
      | some d =>
          if limit < 10 * high + d.val then .error overflow
          else readMagnitude limit overflow (10 * high + d.val) rest

/-- Read a magnitude that needs at least one digit; a sign has been read before it. -/
def readSigned (limit : Nat) (overflow : IntegerFault) (cs : List Char) :
    Except IntegerFault Nat :=
  if cs.isEmpty then .error .invalidDigit else readMagnitude limit overflow 0 cs

def maxInt64 : Nat :=
  2 ^ 63 - 1

def readInt64 : List Char → Except IntegerFault Int64
  | [] => .error .empty
  | '-' :: rest => (readSigned (maxInt64 + 1) .tooSmall rest).map fun n => Int64.ofInt (-(n : Int))
  | '+' :: rest => (readSigned maxInt64 .tooLarge rest).map fun n => Int64.ofInt n
  | c :: rest => (readMagnitude maxInt64 .tooLarge 0 (c :: rest)).map fun n => Int64.ofInt n

/-- Read a 32-bit unsigned integer; a plus sign is allowed, a minus sign is not. -/
def readUInt32 : List Char → Except IntegerFault UInt32
  | [] => .error .empty
  | '+' :: rest => (readSigned (2 ^ 32 - 1) .tooLarge rest).map UInt32.ofNat
  | c :: rest => (readMagnitude (2 ^ 32 - 1) .tooLarge 0 (c :: rest)).map UInt32.ofNat

def int64Text (i : Int64) : List Char :=
  intText i.toInt

theorem readMagnitude_le {limit high n : Nat} {overflow : IntegerFault} {cs : List Char}
    (start : high ≤ limit) (read : readMagnitude limit overflow high cs = .ok n) :
    n ≤ limit := by
  induction cs generalizing high with
  | nil =>
      simp only [readMagnitude, Except.ok.injEq] at read
      omega
  | cons c rest ih =>
      unfold readMagnitude at read
      split at read
      · simp at read
      · split at read
        · simp at read
        · next within => exact ih (by omega) read

end RowConduit.Number
