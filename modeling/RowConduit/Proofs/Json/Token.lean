import RowConduit.Json.Token
import RowConduit.Proofs.Json.Number

/-!
# The tokens of a document

The tokens of the text of a document are the ones its structure spells, whatever text follows.
-/

namespace RowConduit.Json

open RowConduit.Text

section Strings

theorem takePieces?_escape {e c : Char} (other : e ≠ 'u') (known : escapedChar? e = some c)
    (rest : List Char) :
    takePieces? ('\\' :: e :: rest) =
      (takePieces? rest).map fun taken => (.char c :: taken.1, taken.2) := by
  cases later : takePieces? rest <;> simp [takePieces?, other, known, later]

theorem takePieces?_plain {c : Char} (quote : c ≠ '"') (backslash : c ≠ '\\')
    (printed : ¬ c.toNat < 32) (rest : List Char) :
    takePieces? (c :: rest) =
      (takePieces? rest).map fun taken => (.char c :: taken.1, taken.2) := by
  rw [takePieces?.eq_def]
  cases later : takePieces? rest <;> simp [quote, backslash, printed, later]

theorem escapedPiece_control {c : Char} (control : c.toNat < 32) :
    escapedPiece 0 0 (Fin.ofNat 16 (c.toNat / 16)) (Fin.ofNat 16 c.toNat) = .char c := by
  have code : ((0 * 16 + 0) * 16 + c.toNat / 16 % 16) * 16 + c.toNat % 16 = c.toNat := by omega
  have small : ¬ (0xD800 ≤ c.toNat ∧ c.toNat < 0xE000) := by omega
  simp only [escapedPiece, Fin.ofNat, Fin.val_zero, code]
  simp [small]

theorem takePieces?_hexEscape (high low : HexDigit) (rest : List Char) :
    takePieces? ('\\' :: 'u' :: '0' :: '0' :: hexChar high :: hexChar low :: rest) =
      (takePieces? rest).map fun taken => (escapedPiece 0 0 high low :: taken.1, taken.2) := by
  have zero : hexDigit? '0' = some 0 := by decide
  cases later : takePieces? rest <;> simp [takePieces?, zero, hexDigit?_hexChar, later]

theorem takePieces?_controlEscape {c : Char} (control : c.toNat < 32) (rest : List Char) :
    takePieces? (controlEscape c ++ rest) =
      (takePieces? rest).map fun taken => (.char c :: taken.1, taken.2) := by
  unfold controlEscape
  split
  · next same =>
      subst same
      exact takePieces?_escape (by decide) (by decide) rest
  · split
    · next same =>
        subst same
        exact takePieces?_escape (by decide) (by decide) rest
    · split
      · next same =>
          subst same
          exact takePieces?_escape (by decide) (by decide) rest
      · split
        · next code =>
            have same : c = '\x08' := Char.toNat_inj.mp code
            subst same
            exact takePieces?_escape (by decide) (by decide) rest
        · split
          · next code =>
              have same : c = '\x0c' := Char.toNat_inj.mp code
              subst same
              exact takePieces?_escape (by decide) (by decide) rest
          · rw [← escapedPiece_control control]
            exact takePieces?_hexEscape _ _ rest

theorem takePieces?_escapeChar (c : Char) (rest : List Char) :
    takePieces? (escapeChar c ++ rest) =
      (takePieces? rest).map fun taken => (.char c :: taken.1, taken.2) := by
  unfold escapeChar
  split
  · next marked =>
      simp only [Bool.or_eq_true, decide_eq_true_eq] at marked
      rcases marked with rfl | rfl
      · exact takePieces?_escape (by decide) (by decide) rest
      · exact takePieces?_escape (by decide) (by decide) rest
  · next unmarked =>
      simp only [Bool.or_eq_true, decide_eq_true_eq, not_or] at unmarked
      split
      · next control => exact takePieces?_controlEscape control rest
      · next printed => exact takePieces?_plain unmarked.1 unmarked.2 printed rest

theorem takePieces?_quoted (cs rest : List Char) :
    takePieces? (cs.flatMap escapeChar ++ '"' :: rest) = some (cs.map .char, rest) := by
  induction cs with
  | nil =>
      rw [List.flatMap_nil, List.nil_append, takePieces?.eq_def]
      rfl
  | cons c cs ih =>
      rw [List.flatMap_cons, List.append_assoc, takePieces?_escapeChar, ih]
      rfl

theorem joinPieces?_map_char (cs : List Char) : joinPieces? (cs.map .char) = some cs := by
  induction cs with
  | nil => rfl
  | cons c cs ih => simp [joinPieces?, ih]

theorem takeString?_quoted (s : String) (rest : List Char) :
    takeString? (s.toList.flatMap escapeChar ++ '"' :: rest) =
      some (.string (some s), rest) := by
  simp [takeString?, takePieces?_quoted, joinPieces?_map_char]

end Strings

theorem tokens_cons {c : Char} {cs rest : List Char} {token : Token} (visible : isSpace c = false)
    (taken : takeToken? (c :: cs) = some (token, rest)) :
    tokens (c :: cs) = token :: tokens rest := by
  have start : (c :: cs).dropWhile isSpace = c :: cs := by simp [visible]
  rw [tokens]
  split
  · next empty =>
      rw [start] at empty
      cases empty
  · next first others shape =>
      rw [start] at shape
      cases shape
      split
      · next stuck =>
          rw [taken] at stuck
          cases stuck
      · next found =>
          rw [taken] at found
          cases found
          rfl

theorem tokens_nil : tokens [] = [] := by
  rw [tokens]
  rfl

theorem tokens_punctuation {c : Char} {token : Token} (known : punctuation? c = some token)
    (visible : isSpace c = false) (rest : List Char) : tokens (c :: rest) = token :: tokens rest :=
  tokens_cons visible (by simp [takeToken?, known])

theorem tokens_quote (s : String) (rest : List Char) :
    tokens (quote s.toList ++ rest) = .string (some s) :: tokens rest := by
  have taken := takeString?_quoted s rest
  rw [quote, List.cons_append, List.append_assoc, List.singleton_append]
  apply tokens_cons (by decide)
  have other : punctuation? '"' = none := by decide
  simp [takeToken?, other, taken]

theorem tokens_word {c : Char} {cs : List Char} {token : Token} {rest : List Char}
    (other : punctuation? c = none) (quote : c ≠ '"') (visible : isSpace c = false)
    (taken : takeWord? (c :: cs) = some (token, rest)) :
    tokens (c :: cs) = token :: tokens rest :=
  tokens_cons visible (by simp [takeToken?, other, quote, taken])

/-- The first character of a number: a minus sign or a digit. -/
theorem tokens_number (n : Number) {rest : List Char} (ended : NumberEnded rest) :
    tokens (n.text ++ rest) = .number n :: tokens rest := by
  have taken := n.take?_text ended
  obtain ⟨c, others, shape, start⟩ := n.text_head
  have plain : punctuation? c = none ∧ c ≠ '"' ∧ isSpace c = false ∧
      c ≠ 'n' ∧ c ≠ 't' ∧ c ≠ 'f' := by
    rcases start with rfl | ⟨d, rfl⟩
    · decide
    · clear shape taken
      revert d
      decide
  rw [shape, List.cons_append] at taken ⊢
  apply tokens_cons plain.2.2.1
  have word : takeWord? (c :: (others ++ rest)) = none := by
    simp [takeWord?, dropStart?, Ne.symm plain.2.2.2.1, Ne.symm plain.2.2.2.2.1,
      Ne.symm plain.2.2.2.2.2]
  simp [takeToken?, plain.1, plain.2.1, word, taken]

mutual

def spelled : Json → List Token
  | .null => [.null]
  | .bool b => [.bool b]
  | .number n => [.number n]
  | .string s => [.string (some s)]
  | .array items => .openArray :: (itemsSpelled items ++ [.closeArray])
  | .object members => .openObject :: (membersSpelled members ++ [.closeObject])

def itemsSpelled : List Json → List Token
  | [] => []
  | item :: rest => item.spelled ++ moreItemsSpelled rest

def moreItemsSpelled : List Json → List Token
  | [] => []
  | item :: rest => .comma :: (item.spelled ++ moreItemsSpelled rest)

def membersSpelled : List (String × Json) → List Token
  | [] => []
  | (name, value) :: rest =>
      .string (some name) :: .colon :: (value.spelled ++ moreMembersSpelled rest)

def moreMembersSpelled : List (String × Json) → List Token
  | [] => []
  | (name, value) :: rest =>
      .comma :: .string (some name) :: .colon :: (value.spelled ++ moreMembersSpelled rest)

end

theorem numberEnded_close (rest : List Char) : NumberEnded (']' :: rest) :=
  numberEnded_cons rest (by decide) (by decide) (by decide)

theorem numberEnded_closeBrace (rest : List Char) : NumberEnded ('\x7d' :: rest) :=
  numberEnded_cons rest (by decide) (by decide) (by decide)

theorem numberEnded_moreItems (items : List Json) (rest : List Char) :
    NumberEnded (moreItemsText items ++ ']' :: rest) := by
  cases items with
  | nil => exact numberEnded_close rest
  | cons item others => exact numberEnded_cons _ (by decide) (by decide) (by decide)

theorem numberEnded_moreMembers (members : Members) (rest : List Char) :
    NumberEnded (moreMembersText members ++ '\x7d' :: rest) := by
  cases members with
  | nil => exact numberEnded_closeBrace rest
  | cons member others => exact numberEnded_cons _ (by decide) (by decide) (by decide)

mutual

theorem tokens_text (j : Json) {rest : List Char} (ended : NumberEnded rest) :
    tokens (j.text ++ rest) = j.spelled ++ tokens rest := by
  cases j with
  | null => exact tokens_word (by decide) (by decide) (by decide) (by simp [takeWord?, dropStart?])
  | bool b =>
      cases b with
      | true =>
          exact tokens_word (by decide) (by decide) (by decide) (by simp [takeWord?, dropStart?])
      | false =>
          exact tokens_word (by decide) (by decide) (by decide) (by simp [takeWord?, dropStart?])
  | number n => exact tokens_number n ended
  | string s => exact tokens_quote s rest
  | array items =>
      have inner := tokens_itemsText items rest
      rw [text, spelled, List.cons_append, List.append_assoc, List.singleton_append,
        tokens_punctuation rfl (by decide), inner,
        tokens_punctuation (c := ']') rfl (by decide)]
      simp
  | object members =>
      have inner := tokens_membersText members rest
      rw [text, spelled, List.cons_append, List.append_assoc, List.singleton_append,
        tokens_punctuation rfl (by decide), inner,
        tokens_punctuation (c := '\x7d') rfl (by decide)]
      simp

theorem tokens_itemsText (items : List Json) (rest : List Char) :
    tokens (itemsText items ++ ']' :: rest) = itemsSpelled items ++ tokens (']' :: rest) := by
  cases items with
  | nil => rfl
  | cons item others =>
      rw [itemsText, itemsSpelled, List.append_assoc, List.append_assoc,
        tokens_text item (numberEnded_moreItems others rest), tokens_moreItemsText others rest]

theorem tokens_moreItemsText (items : List Json) (rest : List Char) :
    tokens (moreItemsText items ++ ']' :: rest) =
      moreItemsSpelled items ++ tokens (']' :: rest) := by
  cases items with
  | nil => rfl
  | cons item others =>
      rw [moreItemsText, moreItemsSpelled, List.cons_append, tokens_punctuation rfl (by decide),
        List.append_assoc, tokens_text item (numberEnded_moreItems others rest),
        tokens_moreItemsText others rest, List.cons_append, List.append_assoc]

theorem tokens_membersText (members : Members) (rest : List Char) :
    tokens (membersText members ++ '\x7d' :: rest) =
      membersSpelled members ++ tokens ('\x7d' :: rest) := by
  cases members with
  | nil => rfl
  | cons member others =>
      rw [membersText, membersSpelled, List.append_assoc, tokens_quote, List.cons_append,
        tokens_punctuation rfl (by decide), List.append_assoc,
        tokens_text member.2 (numberEnded_moreMembers others rest),
        tokens_moreMembersText others rest]
      simp

theorem tokens_moreMembersText (members : Members) (rest : List Char) :
    tokens (moreMembersText members ++ '\x7d' :: rest) =
      moreMembersSpelled members ++ tokens ('\x7d' :: rest) := by
  cases members with
  | nil => rfl
  | cons member others =>
      rw [moreMembersText, moreMembersSpelled, List.cons_append,
        tokens_punctuation rfl (by decide), List.append_assoc, tokens_quote, List.cons_append,
        tokens_punctuation rfl (by decide), List.append_assoc,
        tokens_text member.2 (numberEnded_moreMembers others rest),
        tokens_moreMembersText others rest]
      simp

end

end RowConduit.Json
