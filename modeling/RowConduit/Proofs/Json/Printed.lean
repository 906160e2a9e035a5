import RowConduit.Json.Basic

/-!
# Documents on one line

The text of a document has no control characters: strings escape those they hold, and nothing else
that is written is one.  So a document is one line, whatever texts are in it.
-/

namespace RowConduit.Json

open RowConduit.Text RowConduit.Number

/-- The text has no character below the space. -/
def Printed (cs : List Char) : Prop :=
  ∀ c ∈ cs, 0x20 ≤ c.toNat

@[simp]
theorem printed_nil : Printed [] :=
  List.forall_mem_nil _

@[simp]
theorem printed_cons_iff {c : Char} {cs : List Char} :
    Printed (c :: cs) ↔ 0x20 ≤ c.toNat ∧ Printed cs :=
  List.forall_mem_cons

@[simp]
theorem printed_append_iff {front back : List Char} :
    Printed (front ++ back) ↔ Printed front ∧ Printed back :=
  List.forall_mem_append

theorem printed_ite {p : Prop} [Decidable p] {yes no : List Char} (first : Printed yes)
    (second : Printed no) : Printed (if p then yes else no) := by
  split
  · exact first
  · exact second

theorem printed_digitChars (ds : List Digit) : Printed (digitChars ds) := by
  have each : ∀ d : Digit, Nat.ble 0x20 (digitChar d).toNat = true := by decide
  intro c listed
  obtain ⟨d, _, rfl⟩ := List.mem_map.mp listed
  exact Nat.le_of_ble_eq_true (each d)

theorem printed_hexChar (d : HexDigit) : 0x20 ≤ (hexChar d).toNat := by
  have each : ∀ d : HexDigit, Nat.ble 0x20 (hexChar d).toNat = true := by decide
  exact Nat.le_of_ble_eq_true (each d)

theorem Number.printed_text (n : Number) : Printed n.text := by
  obtain ⟨negative, whole, fraction, power⟩ := n
  have sign : Printed (if negative then ['-'] else []) := printed_ite (by simp) printed_nil
  have point : Printed (fractionText fraction) := by
    cases fraction with
    | nil => exact printed_nil
    | cons d rest => simp [fractionText, printed_digitChars]
  cases power with
  | none => simp [Number.text, sign, printed_digitChars, point]
  | some p =>
      have exponent : Printed p.text := by
        cases negative : p.negative <;> simp [Power.text, negative, printed_digitChars]
      simp [Number.text, sign, printed_digitChars, point, exponent]

theorem printed_controlEscape (c : Char) : Printed (controlEscape c) := by
  have code : Printed ['\\', 'u', '0', '0', hexChar (Fin.ofNat 16 (c.toNat / 16)),
      hexChar (Fin.ofNat 16 c.toNat)] := by
    simp [printed_hexChar]
  unfold controlEscape
  apply printed_ite (by simp)
  apply printed_ite (by simp)
  apply printed_ite (by simp)
  apply printed_ite (by simp)
  exact printed_ite (by simp) code

theorem printed_escapeChar (c : Char) : Printed (escapeChar c) := by
  unfold escapeChar
  split
  · next marked =>
      rcases (Bool.or_eq_true _ _).mp marked with quote | backslash
      · simp [of_decide_eq_true quote]
      · simp [of_decide_eq_true backslash]
  · split
    · exact printed_controlEscape c
    · next visible => exact printed_cons_iff.mpr ⟨Nat.not_lt.mp visible, printed_nil⟩

theorem printed_quote (cs : List Char) : Printed (quote cs) := by
  have inside : Printed (cs.flatMap escapeChar) := by
    intro c listed
    obtain ⟨d, _, escaped⟩ := List.mem_flatMap.mp listed
    exact printed_escapeChar d c escaped
  simp [quote, inside]

mutual

theorem printed_text (j : Json) : Printed j.text := by
  cases j with
  | null => simp [text]
  | bool b => cases b <;> simp [text]
  | number n => exact n.printed_text
  | string s => exact printed_quote s.toList
  | array items => simp [text, printed_itemsText items]
  | object members => simp [text, printed_membersText members]

theorem printed_itemsText (items : List Json) : Printed (itemsText items) := by
  cases items with
  | nil => exact printed_nil
  | cons item rest => simp [itemsText, printed_text item, printed_moreItemsText rest]

theorem printed_moreItemsText (items : List Json) : Printed (moreItemsText items) := by
  cases items with
  | nil => exact printed_nil
  | cons item rest => simp [moreItemsText, printed_text item, printed_moreItemsText rest]

theorem printed_membersText (members : Members) : Printed (membersText members) := by
  cases members with
  | nil => exact printed_nil
  | cons member rest =>
      simp [membersText, printed_quote, printed_text member.2, printed_moreMembersText rest]

theorem printed_moreMembersText (members : Members) : Printed (moreMembersText members) := by
  cases members with
  | nil => exact printed_nil
  | cons member rest =>
      simp [moreMembersText, printed_quote, printed_text member.2, printed_moreMembersText rest]

end

theorem printed_render (j : Json) : Printed j.render.toList := by
  rw [render, String.toList_ofList]
  exact printed_text j

end RowConduit.Json
