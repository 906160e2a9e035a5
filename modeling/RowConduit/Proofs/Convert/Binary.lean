import RowConduit.Convert.Coercion
import RowConduit.Proofs.Text.Base64
import RowConduit.Proofs.Text.Hex

/-!
# Binary texts

Bytes are written in base64, or in hexadecimal behind a backslash and an x, and blanks around either
make no difference.  The backslash is no character of base64, so a text has one reading at most; and
base64 has one text for each byte string, so bytes that were read from it are written as they were.
-/

namespace RowConduit

open RowConduit.Text

theorem Text.dropStart?_eq_none_iff {beginning cs : List Char} :
    dropStart? beginning cs = none ↔ ¬ beginning <+: cs := by
  constructor
  · rintro other ⟨rest, rfl⟩
    rw [dropStart?_append] at other
    cases other
  · intro other
    refine Option.eq_none_iff_forall_ne_some.mpr fun rest found => other ⟨rest, ?_⟩
    exact (eq_append_of_dropStart? found).symm

theorem Text.readBase64?_backslash (cs : List Char) : readBase64? ('\\' :: cs) = none :=
  readBase64?_foreign (by decide) (by decide) cs

namespace Coercion

/-- Bytes are read from their base64 and from their digits behind the prefix, and from no other. -/
theorem bytesOfText?_eq_some_iff {cs : List Char} {bytes : List UInt8} :
    bytesOfText? cs = some bytes ↔
      cs = base64Text bytes ∨
        ∃ digits, cs = '\\' :: 'x' :: digits ∧ digits.map Char.toLower = bytesHex bytes := by
  unfold bytesOfText?
  split
  · next rest found =>
    have shape : cs = '\\' :: 'x' :: rest := eq_append_of_dropStart? found
    have other : cs ≠ base64Text bytes := by
      intro written
      have read := readBase64?_eq_some_iff.mpr written
      rw [shape, readBase64?_backslash] at read
      cases read
    rw [readHexBytes?_eq_some_iff, or_iff_right other, shape]
    constructor
    · exact fun lower => ⟨rest, rfl, lower⟩
    · rintro ⟨digits, same, lower⟩
      cases same
      exact lower
  · next missing =>
    have other : ¬ ∃ digits, cs = '\\' :: 'x' :: digits ∧
        digits.map Char.toLower = bytesHex bytes := by
      rintro ⟨digits, rfl, _⟩
      exact dropStart?_eq_none_iff.mp missing ⟨digits, rfl⟩
    rw [readBase64?_eq_some_iff, or_iff_left other]

variable (field : String)

theorem toBytes_text_eq_ok_iff {s : String} {w : SqlValue} :
    toBytes field (.text s) = .ok w ↔
      ∃ bytes, bytesOfText? (trim s.toList) = some bytes ∧ w = .bytes bytes := by
  rw [toBytes]
  cases bytesOfText? (trim s.toList) with
  | none => simp [unreadable]
  | some bytes => simp [eq_comm]

end Coercion

open Coercion

/-- A text that is one way to write bytes is read as these bytes, with any blanks around it. -/
theorem coerce_bytes_padded (field : String) {cs : List Char} {bytes : List UInt8}
    (read : bytesOfText? cs = some bytes) (bare : trim cs = cs) {before after : List Char}
    (first : AllBlank before) (last : AllBlank after) :
    coerce field .bytes (.text (String.ofList (before ++ (cs ++ after)))) = .ok (.bytes bytes) := by
  refine (toBytes_text_eq_ok_iff field).mpr ⟨bytes, ?_, rfl⟩
  rw [String.toList_ofList, trim_padded first last, bare, read]

theorem base64Text_of_coerce {field s : String} {w : SqlValue}
    (coerced : coerce field .bytes (.text s) = .ok w) (other : ¬ ['\\', 'x'] <+: trim s.toList) :
    ∃ bytes, w = .bytes bytes ∧ trim s.toList = base64Text bytes := by
  obtain ⟨bytes, read, rfl⟩ := (toBytes_text_eq_ok_iff field).mp coerced
  rcases bytesOfText?_eq_some_iff.mp read with written | ⟨digits, marked, _⟩
  · exact ⟨bytes, rfl, written⟩
  · exact absurd ⟨digits, marked.symm⟩ other

/--
Bytes are read back from the text they are written as, and from their hexadecimal digits in any mix
of cases behind a backslash and an x, blanks around either aside.  A text that is read otherwise is,
without its blanks, the text that its bytes are written as; so no two such texts stand for the same
bytes.  No text can be read in both forms: what starts with a backslash and an x is no base64.
-/
theorem bytes_read_one_way (field : String) :
    (∀ bytes : List UInt8, ∃ text, (SqlValue.bytes bytes).toJson = .string text ∧
      ∀ before after, AllBlank before → AllBlank after →
        coerce field .bytes (.text (String.ofList (before ++ (text.toList ++ after)))) =
          .ok (.bytes bytes)) ∧
    (∀ (bytes : List UInt8) (digits before after : List Char),
      digits.map Char.toLower = bytesHex bytes → AllBlank before → AllBlank after →
        coerce field .bytes
            (.text (String.ofList (before ++ (['\\', 'x'] ++ digits ++ after)))) =
          .ok (.bytes bytes)) ∧
    (∀ (s : String) (w : SqlValue), coerce field .bytes (.text s) = .ok w →
      ¬ ['\\', 'x'] <+: trim s.toList →
        (∃ bytes, w = .bytes bytes) ∧ w.toJson = .string (trimmed s)) ∧
    (∀ (s t : String) (w : SqlValue), coerce field .bytes (.text s) = .ok w →
      coerce field .bytes (.text t) = .ok w → ¬ ['\\', 'x'] <+: trim s.toList →
        ¬ ['\\', 'x'] <+: trim t.toList → trimmed s = trimmed t) ∧
    ∀ cs : List Char, ['\\', 'x'] <+: cs → readBase64? cs = none := by
  refine ⟨fun bytes => ⟨_, rfl, fun before after first last => ?_⟩,
    fun bytes digits before after lower first last => ?_, fun s w coerced other => ?_,
    fun s t w first second otherFirst otherSecond => ?_, ?_⟩
  · rw [String.toList_ofList]
    have read : bytesOfText? (base64Text bytes) = some bytes :=
      bytesOfText?_eq_some_iff.mpr (Or.inl rfl)
    exact coerce_bytes_padded field read (trim_of_visible (visible_base64Text bytes)) first last
  · have read : bytesOfText? ('\\' :: 'x' :: digits) = some bytes :=
      bytesOfText?_eq_some_iff.mpr (Or.inr ⟨digits, rfl, lower⟩)
    have visible : Visible ('\\' :: 'x' :: digits) := by
      rw [← visible_map_toLower_iff, List.map_cons, List.map_cons, lower]
      exact .cons (by decide) (.cons (by decide) (visible_bytesHex bytes))
    exact coerce_bytes_padded field read (trim_of_visible visible) first last
  · obtain ⟨bytes, rfl, written⟩ := base64Text_of_coerce coerced other
    refine ⟨⟨bytes, rfl⟩, ?_⟩
    rw [SqlValue.toJson, SqlValue.jsonString, trimmed, written]
  · obtain ⟨bytes, rfl, written⟩ := base64Text_of_coerce first otherFirst
    obtain ⟨_, same, rewritten⟩ := base64Text_of_coerce second otherSecond
    cases same
    rw [trimmed, trimmed, written, rewritten]
  · rintro cs ⟨rest, rfl⟩
    exact readBase64?_backslash ('x' :: rest)

/-- Two bytes, which leave a group of base64 to be filled up. -/
theorem bytes_read_one_way_twoBytes :
    (['D', 'e', 'a', 'D'].map Char.toLower = bytesHex [0xDE, 0xAD] ∧
      coerce "f" .bytes (.text " \\xDeaD\n") = .ok (.bytes [0xDE, 0xAD])) ∧
    (coerce "f" .bytes (.text "\t3q0= ") = .ok (.bytes [0xDE, 0xAD]) ∧
      ¬ ['\\', 'x'] <+: trim "\t3q0= ".toList ∧
      (SqlValue.bytes [0xDE, 0xAD]).toJson = .string (trimmed "\t3q0= ")) ∧
    (coerce "f" .bytes (.text "3q0=") = .ok (.bytes [0xDE, 0xAD]) ∧
      trimmed "\t3q0= " = trimmed "3q0=") ∧
    ['\\', 'x'] <+: ['\\', 'x', '0', '0'] ∧ readBase64? ['\\', 'x', '0', '0'] = none := by
  have lower : ['D', 'e', 'a', 'D'].map Char.toLower = bytesHex [0xDE, 0xAD] := by decide
  have padded : coerce "f" .bytes (.text "\t3q0= ") = .ok (.bytes [0xDE, 0xAD]) := by rfl
  have bare : coerce "f" .bytes (.text "3q0=") = .ok (.bytes [0xDE, 0xAD]) := by rfl
  have other : ¬ ['\\', 'x'] <+: trim "\t3q0= ".toList := by decide
  have otherBare : ¬ ['\\', 'x'] <+: trim "3q0=".toList := by decide
  have marked : ['\\', 'x'] <+: ['\\', 'x', '0', '0'] := by decide
  obtain ⟨_, digits, rewritten, same, apart⟩ := bytes_read_one_way "f"
  exact ⟨⟨lower, digits _ _ [' '] ['\n'] lower (by decide) (by decide)⟩,
    ⟨padded, other, (rewritten _ _ padded other).2⟩,
    ⟨bare, same _ _ _ padded bare other otherBare⟩, marked, apart _ marked⟩

end RowConduit
