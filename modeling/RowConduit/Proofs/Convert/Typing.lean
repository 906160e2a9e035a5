import RowConduit.Convert.Coercion
import RowConduit.Proofs.Fallible
import RowConduit.Proofs.Number.Shortest

/-!
# Coerced values have their type

What a value of each logical type is, and that a coercion that succeeds gives one.  Numeric texts
are decimal literals without blanks around them, whatever they were made from.
-/

namespace RowConduit

open RowConduit.Text RowConduit.Number

/-- A decimal literal without blanks around it. -/
structure IsNumeral (s : String) : Prop where
  literal : isDecimalLiteral s.toList = true
  bare : trim s.toList = s.toList

/-- The value is one of a logical type; NULL is a value of every type. -/
def SqlValue.HasType : LogicalType → SqlValue → Prop
  | _, .null => True
  | .bool, .bool _ => True
  | .int, .int _ => True
  | .float, .float _ => True
  | .numericString, .text s => IsNumeral s
  | .string, .text _ => True
  | .bytes, .bytes _ => True
  | .date, .date _ => True
  | .dateTime, .dateTime _ => True
  | .timestamp, .timestamp _ => True
  | .json, .json _ => True
  | .uuid, .uuid _ => True
  | .array element, .array items => ∀ item ∈ items, item.HasType element
  | .map key value, .map entries =>
      ∀ entry ∈ entries, entry.1.HasType key ∧ entry.2.HasType value
  | _, _ => False

def LogicalType.isScalar : LogicalType → Bool
  | .array _ => false
  | .map _ _ => false
  | .unsupported => false
  | _ => true

theorem SqlValue.hasType_null (type : LogicalType) : SqlValue.null.HasType type := by
  cases type <;> exact True.intro

theorem IsNumeral.of_plainLiteral (negative : Bool) {whole : List Digit} (fraction : List Digit)
    (written : whole ≠ []) :
    IsNumeral (String.ofList (plainLiteral negative whole fraction)) where
  literal := by
    rw [String.toList_ofList]
    exact isDecimalLiteral_plainLiteral negative fraction written
  bare := by
    rw [String.toList_ofList]
    exact trim_of_visible (visible_plainLiteral negative whole fraction)

namespace Coercion

variable {field : String} {v w : SqlValue}

theorem toBool_eq_ok (coerced : toBool field v = .ok w) : ∃ b, w = .bool b := by
  unfold toBool refuse at coerced
  grind

theorem toInt_eq_ok (coerced : toInt field v = .ok w) : ∃ i, w = .int i := by
  unfold toInt intOfText unreadable refuse at coerced
  grind

theorem toFloat_eq_ok (coerced : toFloat field v = .ok w) : ∃ x, w = .float x := by
  unfold toFloat floatOfText unreadable refuse at coerced
  grind

theorem toBytes_eq_ok (coerced : toBytes field v = .ok w) : ∃ b, w = .bytes b := by
  unfold toBytes unreadable refuse at coerced
  grind

theorem toDate_eq_ok (coerced : toDate field v = .ok w) : ∃ d, w = .date d := by
  unfold toDate unreadable refuse at coerced
  grind

theorem toDateTime_eq_ok (coerced : toDateTime field v = .ok w) : ∃ dt, w = .dateTime dt := by
  unfold toDateTime refuse at coerced
  grind

theorem toTimestamp_eq_ok (coerced : toTimestamp field v = .ok w) : ∃ ts, w = .timestamp ts := by
  unfold toTimestamp unreadable refuse at coerced
  grind

theorem toDocument_eq_ok (coerced : toDocument v = .ok w) : ∃ j, w = .json j := by
  unfold toDocument at coerced
  grind

theorem toUuid_eq_ok (coerced : toUuid field v = .ok w) : ∃ u, w = .uuid u := by
  unfold toUuid unreadable refuse at coerced
  grind

theorem toText_eq (v : SqlValue) : ∃ s, toText v = .text s := by
  unfold toText
  split
  · exact ⟨_, rfl⟩
  · exact ⟨_, rfl⟩
  · split
    · exact ⟨_, rfl⟩
    · exact ⟨_, rfl⟩

theorem numeralOfText?_eq_some {s : String} (found : numeralOfText? s = some w) :
    ∃ t, w = .text t ∧ IsNumeral t := by
  unfold numeralOfText? at found
  split at found
  · next literal =>
      cases found
      refine ⟨trimmed s, rfl, ?_, ?_⟩
      · rw [trimmed, String.toList_ofList]
        exact literal
      · rw [trimmed, String.toList_ofList]
        exact trim_trim s.toList
  · cases found

theorem toNumericString_eq_ok (coerced : toNumericString field v = .ok w) :
    ∃ s, w = .text s ∧ IsNumeral s := by
  unfold toNumericString at coerced
  split at coerced
  · next d =>
      cases coerced
      obtain ⟨whole, fraction, written, shape, _, _⟩ := d.text_eq
      rw [shape]
      exact ⟨_, rfl, .of_plainLiteral _ fraction written⟩
  · next i =>
      cases coerced
      rw [int64Text_eq]
      exact ⟨_, rfl, .of_plainLiteral _ [] (digitsOf_ne_nil _)⟩
  · next negative exponent fraction =>
      cases coerced
      obtain ⟨whole, places, written, shape⟩ :=
        Binary64.plainText_eq negative exponent fraction
      rw [shape]
      exact ⟨_, rfl, .of_plainLiteral negative places written⟩
  · next s =>
      split at coerced
      · next found =>
          cases coerced
          exact numeralOfText?_eq_some found
      · cases coerced
  · next s =>
      split at coerced
      · next found =>
          cases coerced
          exact numeralOfText?_eq_some found
      · cases coerced
  · cases coerced

end Coercion

/-- How a coercion comes to its result; the parts of arrays and maps are coerced themselves. -/
inductive Coerced (field : String) : LogicalType → SqlValue → SqlValue → Prop where
  | null (type : LogicalType) : Coerced field type .null .null
  | unsupported (v : SqlValue) : Coerced field .unsupported v .null
  | scalar {type : LogicalType} {v w : SqlValue} (flat : type.isScalar = true)
      (present : v ≠ .null) (found : w ≠ .null) (typed : w.HasType type) : Coerced field type v w
  | items {element : LogicalType} {items results : List SqlValue}
      (each : List.Forall₂ (fun item result => coerce field element item = .ok result)
        items results) : Coerced field (.array element) (.array items) (.array results)
  | entries {key value : LogicalType} {entries results : List (SqlValue × SqlValue)}
      (each : List.Forall₂ (fun entry result => coerce field key entry.1 = .ok result.1 ∧
        coerce field value entry.2 = .ok result.2) entries results) :
      Coerced field (.map key value) (.map entries) (.map results)
  | members {key value : LogicalType} {members : Json.Members}
      {results : List (SqlValue × SqlValue)}
      (each : List.Forall₂ (fun member result => coerce field key (.text member.1) = .ok result.1 ∧
        coerce field value (.ofJson member.2) = .ok result.2) members results) :
      Coerced field (.map key value) (.json (.object members)) (.map results)

open Coercion in
/-- Every coercion that succeeds comes to its result in one of these ways. -/
theorem coerced_of_eq_ok {field : String} {type : LogicalType} {v w : SqlValue}
    (coerced : coerce field type v = .ok w) : Coerced field type v w := by
  revert coerced
  fun_cases coerce field type v with
  | case1 type =>
      intro coerced
      cases coerced
      exact .null type
  | case2 v present =>
      intro coerced
      cases coerced
      exact .unsupported v
  | case3 v present =>
      intro coerced
      obtain ⟨b, rfl⟩ := toBool_eq_ok coerced
      exact .scalar rfl present nofun True.intro
  | case4 v present =>
      intro coerced
      obtain ⟨i, rfl⟩ := toInt_eq_ok coerced
      exact .scalar rfl present nofun True.intro
  | case5 v present =>
      intro coerced
      obtain ⟨x, rfl⟩ := toFloat_eq_ok coerced
      exact .scalar rfl present nofun True.intro
  | case6 v present =>
      intro coerced
      obtain ⟨s, rfl, numeral⟩ := toNumericString_eq_ok coerced
      exact .scalar rfl present nofun numeral
  | case7 v present =>
      intro coerced
      obtain ⟨s, shape⟩ := toText_eq v
      rw [shape] at coerced
      cases coerced
      exact .scalar rfl present nofun True.intro
  | case8 v present =>
      intro coerced
      obtain ⟨b, rfl⟩ := toBytes_eq_ok coerced
      exact .scalar rfl present nofun True.intro
  | case9 v present =>
      intro coerced
      obtain ⟨d, rfl⟩ := toDate_eq_ok coerced
      exact .scalar rfl present nofun True.intro
  | case10 v present =>
      intro coerced
      obtain ⟨dt, rfl⟩ := toDateTime_eq_ok coerced
      exact .scalar rfl present nofun True.intro
  | case11 v present =>
      intro coerced
      obtain ⟨ts, rfl⟩ := toTimestamp_eq_ok coerced
      exact .scalar rfl present nofun True.intro
  | case12 v present =>
      intro coerced
      obtain ⟨j, rfl⟩ := toDocument_eq_ok coerced
      exact .scalar rfl present nofun True.intro
  | case13 v present =>
      intro coerced
      obtain ⟨u, rfl⟩ := toUuid_eq_ok coerced
      exact .scalar rfl present nofun True.intro
  | case14 element items =>
      intro coerced
      obtain ⟨results, taken, done⟩ := Except.bind_eq_ok_iff.mp coerced
      cases done
      exact .items (Except.mapM_eq_ok_iff.mp taken)
  | case15 element v present other =>
      intro coerced
      cases coerced
  | case16 key value entries =>
      intro coerced
      obtain ⟨results, taken, done⟩ := Except.bind_eq_ok_iff.mp coerced
      cases done
      refine .entries ((Except.mapM_eq_ok_iff.mp taken).imp fun entry result step => ?_)
      exact Except.pair_eq_ok_iff.mp step
  | case17 key value members =>
      intro coerced
      obtain ⟨results, taken, done⟩ := Except.bind_eq_ok_iff.mp coerced
      cases done
      refine .members ((Except.mapM_eq_ok_iff.mp taken).imp fun member result step => ?_)
      exact Except.pair_eq_ok_iff.mp step
  | case18 key value v present entries members =>
      intro coerced
      cases coerced

/-- A coercion that succeeds gives a value of the type, at every depth. -/
theorem coerce_hasType {field : String} {type : LogicalType} {v w : SqlValue}
    (coerced : coerce field type v = .ok w) : w.HasType type := by
  cases coerced_of_eq_ok coerced with
  | null => exact SqlValue.hasType_null type
  | unsupported => exact SqlValue.hasType_null .unsupported
  | scalar flat present found typed => exact typed
  | items each =>
      intro result member
      obtain ⟨item, _, step⟩ := exists_of_mem_right each member
      exact coerce_hasType step
  | entries each =>
      intro result member
      obtain ⟨entry, _, keyStep, valueStep⟩ := exists_of_mem_right each member
      exact ⟨coerce_hasType keyStep, coerce_hasType valueStep⟩
  | members each =>
      intro result listed
      obtain ⟨member, _, keyStep, valueStep⟩ := exists_of_mem_right each listed
      exact ⟨coerce_hasType keyStep, coerce_hasType valueStep⟩
termination_by type

end RowConduit
