import RowConduit.Text.Quoted

/-!
# Scanning undoes quoting

A quoted token is read back from the start of any text, up to one exception: where the mark is
doubled inside, a further mark right behind the token would be taken for a doubled one.
-/

namespace RowConduit.Text.QuoteStyle

def Sound (style : QuoteStyle) : Prop :=
  style.escaping = .backslash → style.mark ≠ '\\'

/-- A text can follow a token of the style without being taken for a part of it. -/
def Apart (style : QuoteStyle) (rest : List Char) : Prop :=
  style.escaping = .doubling → rest.head? ≠ some style.mark

theorem scanDoubled?_closing {mark : Char} {rest : List Char} (apart : rest.head? ≠ some mark) :
    scanDoubled? mark (mark :: rest) = some ([], rest) := by
  cases rest with
  | nil => simp [scanDoubled?]
  | cons c rest =>
      have different : c ≠ mark := by simpa using apart
      simp [scanDoubled?, different]

theorem scanDoubled?_other {mark c : Char} (different : c ≠ mark) (cs : List Char) :
    scanDoubled? mark (c :: cs) =
      (scanDoubled? mark cs).map fun taken => (c :: taken.1, taken.2) := by
  cases cs with
  | nil => simp [scanDoubled?, different]
  | cons d cs => simp [scanDoubled?, different]

theorem scanDoubled?_mark (mark : Char) (cs : List Char) :
    scanDoubled? mark (mark :: mark :: cs) =
      (scanDoubled? mark cs).map fun taken => (mark :: taken.1, taken.2) := by
  simp [scanDoubled?]

theorem scanEscaped?_closing (mark : Char) (rest : List Char) :
    scanEscaped? mark (mark :: rest) = some ([], rest) := by
  cases rest <;> simp [scanEscaped?]

theorem scanEscaped?_other {mark c : Char} (different : c ≠ mark) (plain : c ≠ '\\')
    (cs : List Char) :
    scanEscaped? mark (c :: cs) =
      (scanEscaped? mark cs).map fun taken => (c :: taken.1, taken.2) := by
  cases cs with
  | nil => simp [scanEscaped?, different]
  | cons d cs => simp [scanEscaped?, different, plain]

theorem scanEscaped?_backslash {mark : Char} (sound : mark ≠ '\\') (c : Char) (cs : List Char) :
    scanEscaped? mark ('\\' :: c :: cs) =
      (scanEscaped? mark cs).map fun taken => (c :: taken.1, taken.2) := by
  simp [scanEscaped?, sound.symm]

theorem scanDoubled?_escaped {style : QuoteStyle} (doubling : style.escaping = .doubling)
    (cs : List Char) {rest : List Char} (apart : rest.head? ≠ some style.mark) :
    scanDoubled? style.mark (cs.flatMap style.escapeChar ++ style.mark :: rest) =
      some (cs, rest) := by
  induction cs with
  | nil => exact scanDoubled?_closing apart
  | cons c cs ih =>
      rw [List.flatMap_cons, List.append_assoc]
      by_cases same : c = style.mark
      · have escaped : style.escapeChar c = [style.mark, style.mark] := by
          simp [escapeChar, doubling, same]
        rw [escaped, List.cons_append, List.cons_append, List.nil_append, scanDoubled?_mark, ih]
        simp [same]
      · have escaped : style.escapeChar c = [c] := by
          simp [escapeChar, doubling, same]
        rw [escaped, List.cons_append, List.nil_append, scanDoubled?_other same, ih]
        rfl

theorem scanEscaped?_escaped {style : QuoteStyle} (backslash : style.escaping = .backslash)
    (sound : style.mark ≠ '\\') (cs rest : List Char) :
    scanEscaped? style.mark (cs.flatMap style.escapeChar ++ style.mark :: rest) =
      some (cs, rest) := by
  induction cs with
  | nil => exact scanEscaped?_closing style.mark rest
  | cons c cs ih =>
      rw [List.flatMap_cons, List.append_assoc]
      by_cases special : c = '\\' ∨ c = style.mark
      · have escaped : style.escapeChar c = ['\\', c] := by
          simp [escapeChar, backslash, special]
        rw [escaped, List.cons_append, List.cons_append, List.nil_append,
          scanEscaped?_backslash sound, ih]
        rfl
      · have escaped : style.escapeChar c = [c] := by
          simp [escapeChar, backslash, special]
        have different : c ≠ style.mark := fun same => special (Or.inr same)
        have plain : c ≠ '\\' := fun same => special (Or.inl same)
        rw [escaped, List.cons_append, List.nil_append, scanEscaped?_other different plain, ih]
        rfl

/-- A quoted token is scanned back to its text, and what follows is left as it is. -/
theorem scan?_quote {style : QuoteStyle} (sound : style.Sound) (cs : List Char)
    {rest : List Char} (apart : style.Apart rest) :
    style.scan? (style.quote cs ++ rest) = some (cs, rest) := by
  have shape : style.quote cs ++ rest =
      style.mark :: (cs.flatMap style.escapeChar ++ style.mark :: rest) := by
    simp [quote]
  rw [shape, scan?, if_pos rfl]
  cases escaping : style.escaping with
  | doubling => exact scanDoubled?_escaped escaping cs (apart escaping)
  | backslash => exact scanEscaped?_escaped escaping (sound escaping) cs rest

theorem scanDoubled?_length {mark : Char} {cs value rest : List Char}
    (taken : scanDoubled? mark cs = some (value, rest)) : rest.length < cs.length := by
  fun_induction scanDoubled? mark cs generalizing value rest <;> simp_all <;> grind

theorem scanEscaped?_length {mark : Char} {cs value rest : List Char}
    (taken : scanEscaped? mark cs = some (value, rest)) : rest.length < cs.length := by
  fun_induction scanEscaped? mark cs generalizing value rest <;> simp_all <;> grind

theorem scan?_length {style : QuoteStyle} {cs value rest : List Char}
    (taken : style.scan? cs = some (value, rest)) : rest.length < cs.length := by
  unfold scan? at taken
  split at taken
  · simp at taken
  · next c after =>
      split at taken
      · split at taken
        · exact Nat.lt_succ_of_lt (scanDoubled?_length taken)
        · exact Nat.lt_succ_of_lt (scanEscaped?_length taken)
      · simp at taken

end RowConduit.Text.QuoteStyle
