import RowConduit.Number.Builtin

/-!
# Decimal digits

Digits as numbers below ten, the digits at the start of a text, the number a run of digits stands
for, and the digits of a number.
-/

namespace RowConduit.Text

abbrev Digit : Type :=
  Fin 10

def digitChar (d : Digit) : Char :=
  Char.ofNat (48 + d.val)

/-- The digit an ASCII character stands for; digits of other scripts are not digits here. -/
def digit? (c : Char) : Option Digit :=
  if h : 48 ≤ c.toNat ∧ c.toNat ≤ 57 then some ⟨c.toNat - 48, by omega⟩ else none

def takeDigits : List Char → List Digit × List Char
  | [] => ([], [])
  | c :: rest =>
      match digit? c with
      | none => ([], c :: rest)
      | some d => (d :: (takeDigits rest).1, (takeDigits rest).2)

def digitChars (ds : List Digit) : List Char :=
  ds.map digitChar

/-- The number that digits continue, `high` being the number the digits before them stand for. -/
def valueFrom (high : Nat) : List Digit → Nat
  | [] => high
  | d :: rest => valueFrom (10 * high + d.val) rest

def valueOf (ds : List Digit) : Nat :=
  valueFrom 0 ds

def digitsOf (n : Nat) : List Digit :=
  if h : n < 10 then [⟨n, h⟩] else digitsOf (n / 10) ++ [⟨n % 10, Nat.mod_lt n (by decide)⟩]
termination_by n
decreasing_by omega

def natText (n : Nat) : List Char :=
  digitChars (digitsOf n)

def intText (i : Int) : List Char :=
  if i < 0 then '-' :: natText i.natAbs else natText i.natAbs

/-- The decimal text of a number, filled up with zeros on the left to a least width. -/
def paddedText (width n : Nat) : List Char :=
  List.replicate (width - (natText n).length) '0' ++ natText n

theorem digit?_digitChar (d : Digit) : digit? (digitChar d) = some d := by
  revert d
  decide

theorem digitChar_of_digit? {c : Char} {d : Digit} (h : digit? c = some d) : digitChar d = c := by
  unfold digit? at h
  split at h
  · next bounds =>
      simp only [Option.some.injEq] at h
      subst h
      have recover : 48 + (c.toNat - 48) = c.toNat := by omega
      simp [digitChar, recover]
  · simp at h

theorem takeDigits_append (cs : List Char) :
    digitChars (takeDigits cs).1 ++ (takeDigits cs).2 = cs := by
  induction cs with
  | nil => rfl
  | cons c rest ih =>
      unfold takeDigits
      split
      · rfl
      · next d h =>
          have first := digitChar_of_digit? h
          simp only [digitChars, List.map_cons, List.cons_append, first]
          rw [digitChars] at ih
          rw [ih]

theorem takeDigits_length (cs : List Char) :
    (takeDigits cs).1.length + (takeDigits cs).2.length = cs.length := by
  have whole := congrArg List.length (takeDigits_append cs)
  simpa [digitChars] using whole

theorem valueFrom_append (high : Nat) (front back : List Digit) :
    valueFrom high (front ++ back) = valueFrom (valueFrom high front) back := by
  induction front generalizing high with
  | nil => rfl
  | cons d front ih => simp [valueFrom, ih]

theorem valueOf_digitsOf (n : Nat) : valueOf (digitsOf n) = n := by
  induction n using Nat.strongRecOn with
  | ind n ih =>
      unfold digitsOf
      split
      · simp [valueOf, valueFrom]
      · next big =>
          have smaller := ih (n / 10) (by omega)
          rw [valueOf] at smaller
          rw [valueOf, valueFrom_append, smaller]
          simp only [valueFrom]
          omega

theorem digitsOf_ne_nil (n : Nat) : digitsOf n ≠ [] := by
  unfold digitsOf
  split <;> simp

end RowConduit.Text
