import RowConduit.Json.Basic
import RowConduit.Text.Split

/-!
# JSON tokens

The tokens of a text.  White space between tokens is dropped; at the first place where no token can
be read the list ends with a `broken` one, so a text with a fault still gives the tokens before it.
-/

namespace RowConduit.Json

open RowConduit.Text

/-- A token.  A string holds no text when an escape in it is half of a surrogate pair. -/
inductive Token where
  | openArray
  | closeArray
  | openObject
  | closeObject
  | comma
  | colon
  | null
  | bool (value : Bool)
  | number (value : Number)
  | string (text : Option String)
  | broken
  deriving Repr

/-- What one character or escape of a string contributes: a character, or half of a pair. -/
inductive Piece where
  | char (c : Char)
  | half (code : Nat)
  deriving DecidableEq, Repr

def escapedPiece (a b c d : HexDigit) : Piece :=
  let code := ((a.val * 16 + b.val) * 16 + c.val) * 16 + d.val
  if 0xD800 ≤ code && code < 0xE000 then .half code else .char (Char.ofNat code)

def escapedChar? (c : Char) : Option Char :=
  if c = '"' || c = '\\' || c = '/' then some c
  else if c = 'b' then some '\x08'
  else if c = 'f' then some '\x0c'
  else if c = 'n' then some '\n'
  else if c = 'r' then some '\r'
  else if c = 't' then some '\t'
  else none

/--
The pieces of a string up to its closing quote, and the text after the quote; the opening quote has
been read.  Control characters must be escaped.
-/
def takePieces? : List Char → Option (List Piece × List Char)
  | [] => none
  | c :: rest =>
      if c = '"' then
        some ([], rest)
      else if c = '\\' then
        match rest with
        | 'u' :: a :: b :: c :: d :: after =>
            match hexDigit? a, hexDigit? b, hexDigit? c, hexDigit? d, takePieces? after with
            | some a, some b, some c, some d, some (pieces, tail) =>
                some (escapedPiece a b c d :: pieces, tail)
            | _, _, _, _, _ => none
        | e :: after =>
            match escapedChar? e, takePieces? after with
            | some c, some (pieces, tail) => some (.char c :: pieces, tail)
            | _, _ => none
        | [] => none
      else if c.toNat < 32 then
        none
      else
        match takePieces? rest with
        | some (pieces, tail) => some (.char c :: pieces, tail)
        | none => none

/-- The text of pieces: a high and a low half next to each other make one character. -/
def joinPieces? : List Piece → Option (List Char)
  | [] => some []
  | .char c :: rest => (joinPieces? rest).map (c :: ·)
  | .half high :: .half low :: rest =>
      if high < 0xDC00 && 0xDC00 ≤ low then
        (joinPieces? rest).map
          (Char.ofNat (0x10000 + (high - 0xD800) * 0x400 + (low - 0xDC00)) :: ·)
      else
        none
  | .half _ :: _ => none

def punctuation? (c : Char) : Option Token :=
  if c = '[' then some .openArray
  else if c = ']' then some .closeArray
  else if c = '\x7b' then some .openObject
  else if c = '\x7d' then some .closeObject
  else if c = ',' then some .comma
  else if c = ':' then some .colon
  else none

def takeWord? (cs : List Char) : Option (Token × List Char) :=
  match dropStart? "null".toList cs with
  | some rest => some (.null, rest)
  | none =>
      match dropStart? "true".toList cs with
      | some rest => some (.bool true, rest)
      | none => (dropStart? "false".toList cs).map fun rest => (.bool false, rest)

def takeString? (cs : List Char) : Option (Token × List Char) :=
  (takePieces? cs).map fun taken =>
    (.string ((joinPieces? taken.1).map String.ofList), taken.2)

def takeToken? : List Char → Option (Token × List Char)
  | [] => none
  | c :: rest =>
      match punctuation? c with
      | some token => some (token, rest)
      | none =>
          if c = '"' then takeString? rest
          else
            match takeWord? (c :: rest) with
            | some taken => some taken
            | none => (Number.take? (c :: rest)).map fun taken => (.number taken.1, taken.2)

theorem takePieces?_length {cs : List Char} {pieces : List Piece} {tail : List Char}
    (taken : takePieces? cs = some (pieces, tail)) : tail.length < cs.length := by
  fun_induction takePieces? cs generalizing pieces tail <;> simp_all <;> grind

theorem takeSign_length (cs : List Char) :
    (Number.takeSign cs).2.length ≤ cs.length := by
  unfold Number.takeSign
  split <;> simp

theorem takeWhole?_length {cs : List Char} {whole : Whole} {rest : List Char}
    (taken : takeWhole? cs = some (whole, rest)) : rest.length < cs.length := by
  have total := takeDigits_length cs
  unfold takeWhole? at taken
  grind

theorem takeFraction?_length {cs : List Char} {fraction : List Digit} {rest : List Char}
    (taken : takeFraction? cs = some (fraction, rest)) : rest.length ≤ cs.length := by
  unfold takeFraction? at taken
  split at taken
  · next after =>
      have total := takeDigits_length after
      grind
  · grind

theorem takePower?_length {cs : List Char} {power : Option Power} {rest : List Char}
    (taken : takePower? cs = some (power, rest)) : rest.length ≤ cs.length := by
  unfold takePower? at taken
  split at taken
  · grind
  · next c after =>
      have total := takeDigits_length (Number.takeSign after).2
      have signed := takeSign_length after
      grind

theorem Number.take?_length {cs : List Char} {n : Number} {rest : List Char}
    (taken : Number.take? cs = some (n, rest)) : rest.length < cs.length := by
  have signed : (takeMinus cs).2.length ≤ cs.length := by
    unfold takeMinus
    split <;> simp
  unfold Number.take? at taken
  dsimp only at taken
  split at taken
  · simp at taken
  · next whole afterWhole wholeTaken =>
      have first := takeWhole?_length wholeTaken
      split at taken
      · simp at taken
      · next fraction afterFraction fractionTaken =>
          have second := takeFraction?_length fractionTaken
          split at taken
          · simp at taken
          · next power tail powerTaken =>
              have third := takePower?_length powerTaken
              simp only [Option.some.injEq, Prod.mk.injEq] at taken
              obtain ⟨_, rfl⟩ := taken
              omega

theorem dropStart?_length {beginning cs rest : List Char}
    (dropped : dropStart? beginning cs = some rest) :
    rest.length + beginning.length = cs.length := by
  have shape := eq_append_of_dropStart? dropped
  simp [shape]
  omega

theorem takeWord?_length {cs : List Char} {token : Token} {rest : List Char}
    (taken : takeWord? cs = some (token, rest)) : rest.length < cs.length := by
  unfold takeWord? at taken
  split at taken
  · next after found =>
      have exact := dropStart?_length found
      simp at taken exact
      grind
  · split at taken
    · next after found =>
        have exact := dropStart?_length found
        simp at taken exact
        grind
    · simp only [Option.map_eq_some_iff, Prod.mk.injEq] at taken
      obtain ⟨after, found, _, rfl⟩ := taken
      have exact := dropStart?_length found
      simp at exact
      omega

theorem takeToken?_length {cs : List Char} {token : Token} {rest : List Char}
    (taken : takeToken? cs = some (token, rest)) : rest.length < cs.length := by
  unfold takeToken? at taken
  split at taken
  · simp at taken
  · next c after =>
      split at taken
      · grind
      · split at taken
        · simp only [takeString?, Option.map_eq_some_iff, Prod.mk.injEq] at taken
          obtain ⟨_, found, _, rfl⟩ := taken
          have shorter := takePieces?_length found
          simp only [List.length_cons]
          omega
        · split at taken
          · next found =>
              simp only [Option.some.injEq] at taken
              exact takeWord?_length (found.trans (congrArg some taken))
          · simp only [Option.map_eq_some_iff, Prod.mk.injEq] at taken
            obtain ⟨_, found, _, rfl⟩ := taken
            exact Number.take?_length found

def tokens (cs : List Char) : List Token :=
  match _spaceDropped : cs.dropWhile isSpace with
  | [] => []
  | c :: rest =>
      match _taken : takeToken? (c :: rest) with
      | none => [.broken]
      | some (token, after) => token :: tokens after
termination_by cs.length
decreasing_by
  have shorter := takeToken?_length _taken
  have within := (List.dropWhile_suffix isSpace (l := cs)).length_le
  rw [_spaceDropped] at within
  omega

end RowConduit.Json
