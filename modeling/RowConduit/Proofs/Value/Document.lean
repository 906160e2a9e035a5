import RowConduit.Proofs.Json.Number
import RowConduit.Value.Basic

/-!
# Documents as values

Taking a document as a value and writing the value gives the document again.  An integer of 64 bits
is written anew from its digits, so this is where the number `-0` is lost; any other number keeps
its text, which is read as the number it was.
-/

namespace RowConduit

open RowConduit.Text

namespace Json

mutual

/-- No number is written `-0`, at any depth. -/
def WithoutNegativeZero : Json → Prop
  | .null => True
  | .bool _ => True
  | .number n => n ≠ Number.negativeZero
  | .string _ => True
  | .array items => ItemsWithoutNegativeZero items
  | .object members => MembersWithoutNegativeZero members

def ItemsWithoutNegativeZero : List Json → Prop
  | [] => True
  | item :: rest => item.WithoutNegativeZero ∧ ItemsWithoutNegativeZero rest

def MembersWithoutNegativeZero : List (String × Json) → Prop
  | [] => True
  | (_, value) :: rest => value.WithoutNegativeZero ∧ MembersWithoutNegativeZero rest

end

theorem membersWithoutNegativeZero_iff {members : Members} :
    MembersWithoutNegativeZero members ↔
      ∀ member ∈ members, member.2.WithoutNegativeZero := by
  induction members with
  | nil => simp [MembersWithoutNegativeZero]
  | cons member rest ih => simp [MembersWithoutNegativeZero, ih]

end Json

namespace SqlValue

theorem numberJson_text (n : Json.Number) : numberJson (String.ofList n.text) = .number n := by
  rw [numberJson, String.toList_ofList, n.read?_text]

theorem toJson_ofNumber {n : Json.Number} (plain : n ≠ Json.Number.negativeZero) :
    (ofJson (.number n)).toJson = .number n := by
  rw [ofJson]
  split
  · next i denotes => rw [toJson, Json.Number.ofInt_int64? denotes plain]
  · rw [toJson, numberJson_text]

mutual

/-- A document that is taken as a value is written as the document again. -/
theorem toJson_ofJson (j : Json) (plain : j.WithoutNegativeZero) : (ofJson j).toJson = j := by
  cases j with
  | null => rfl
  | bool b => rfl
  | number n => exact toJson_ofNumber plain
  | string s => rfl
  | array items =>
      rw [Json.WithoutNegativeZero] at plain
      rw [ofJson, toJson, itemsToJson_itemsOfJson items plain]
  | object members => rfl

theorem itemsToJson_itemsOfJson (items : List Json)
    (plain : Json.ItemsWithoutNegativeZero items) : itemsToJson (itemsOfJson items) = items := by
  cases items with
  | nil => rfl
  | cons item rest =>
      rw [Json.ItemsWithoutNegativeZero] at plain
      rw [itemsOfJson, itemsToJson, toJson_ofJson item plain.1,
        itemsToJson_itemsOfJson rest plain.2]

end

theorem asText?_ofJson (j : Json) : (ofJson j).asText? = j.asString? := by
  cases j with
  | number n =>
      rw [ofJson]
      split <;> rfl
  | _ => rfl

end SqlValue

end RowConduit
