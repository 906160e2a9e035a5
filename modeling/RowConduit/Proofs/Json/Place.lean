import RowConduit.Json.Basic

/-!
# Places in documents

A place names a part of a document by a position on every level.  The text of the part stands in the
text of the document, and what stands before and after it is the same whatever the part is.
-/

namespace RowConduit.Json

def part? (i : Nat) : Json → Option Json
  | .array items => items[i]?
  | .object members => members[i]?.map (·.2)
  | _ => none

def at? : List Nat → Json → Option Json
  | [], j => some j
  | i :: place, j => (j.part? i).bind (at? place)

def put (part : Json) : List Nat → Json → Json
  | [], _ => part
  | i :: place, .array items => .array (items.modify i (put part place))
  | i :: place, .object members =>
      .object (members.modify i fun member => (member.1, put part place member.2))
  | _ :: _, j => j

theorem at?_cons_eq_some {i : Nat} {place : List Nat} {j part : Json} :
    at? (i :: place) j = some part ↔
      ∃ inner, j.part? i = some inner ∧ at? place inner = some part :=
  Option.bind_eq_some_iff

theorem modify_eq_self {α : Type} {items : List α} {i : Nat} {item : α} {change : α → α}
    (listed : items[i]? = some item) (same : change item = item) :
    items.modify i change = items := by
  apply List.ext_getElem?
  intro k
  rw [List.getElem?_modify]
  by_cases here : i = k
  · simp [← here, listed, same]
  · simp [here]

theorem put_self {place : List Nat} {j part : Json} (found : at? place j = some part) :
    put part place j = j := by
  induction place generalizing j with
  | nil => exact (Option.some.inj found).symm
  | cons i place ih =>
      obtain ⟨inner, first, deeper⟩ := at?_cons_eq_some.mp found
      have same := ih deeper
      cases j with
      | array items =>
          have listed : items[i]? = some inner := first
          rw [put, modify_eq_self listed same]
      | object members =>
          obtain ⟨member, listed, rfl⟩ := Option.map_eq_some_iff.mp first
          have kept : (member.1, put part place member.2) = member := by rw [same]
          rw [put, modify_eq_self listed kept]
      | _ => cases first

section Surroundings

variable {i : Nat}

theorem moreItemsText_modify {items : List Json} {item : Json} (listed : items[i]? = some item) :
    ∃ front back, ∀ change : Json → Json,
      moreItemsText (items.modify i change) = front ++ ((change item).text ++ back) := by
  induction items generalizing i with
  | nil => cases listed
  | cons first rest ih =>
      cases i with
      | zero =>
          cases listed
          exact ⟨[','], moreItemsText rest, fun change => rfl⟩
      | succ i =>
          have later : rest[i]? = some item := listed
          obtain ⟨front, back, around⟩ := ih later
          refine ⟨',' :: (first.text ++ front), back, fun change => ?_⟩
          rw [List.modify_succ_cons, moreItemsText, around]
          simp only [List.cons_append, List.append_assoc]

theorem itemsText_modify {items : List Json} {item : Json} (listed : items[i]? = some item) :
    ∃ front back, ∀ change : Json → Json,
      itemsText (items.modify i change) = front ++ ((change item).text ++ back) := by
  cases items with
  | nil => cases listed
  | cons first rest =>
      cases i with
      | zero =>
          cases listed
          exact ⟨[], moreItemsText rest, fun change => rfl⟩
      | succ i =>
          have later : rest[i]? = some item := listed
          obtain ⟨front, back, around⟩ := moreItemsText_modify later
          refine ⟨first.text ++ front, back, fun change => ?_⟩
          rw [List.modify_succ_cons, itemsText, around, List.append_assoc]

theorem moreMembersText_modify {members : Members} {member : String × Json}
    (listed : members[i]? = some member) :
    ∃ front back, ∀ change : Json → Json,
      moreMembersText (members.modify i fun listed => (listed.1, change listed.2)) =
        front ++ ((change member.2).text ++ back) := by
  induction members generalizing i with
  | nil => cases listed
  | cons first rest ih =>
      cases i with
      | zero =>
          cases listed
          refine ⟨',' :: (quote member.1.toList ++ [':']), moreMembersText rest, fun change => ?_⟩
          rw [List.modify_zero_cons, moreMembersText]
          simp only [List.cons_append, List.append_assoc, List.nil_append]
      | succ i =>
          have later : rest[i]? = some member := listed
          obtain ⟨front, back, around⟩ := ih later
          refine ⟨',' :: (quote first.1.toList ++ ':' :: (first.2.text ++ front)), back,
            fun change => ?_⟩
          rw [List.modify_succ_cons, moreMembersText, around]
          simp only [List.cons_append, List.append_assoc]

theorem membersText_modify {members : Members} {member : String × Json}
    (listed : members[i]? = some member) :
    ∃ front back, ∀ change : Json → Json,
      membersText (members.modify i fun listed => (listed.1, change listed.2)) =
        front ++ ((change member.2).text ++ back) := by
  cases members with
  | nil => cases listed
  | cons first rest =>
      cases i with
      | zero =>
          cases listed
          refine ⟨quote member.1.toList ++ [':'], moreMembersText rest, fun change => ?_⟩
          rw [List.modify_zero_cons, membersText]
          simp only [List.cons_append, List.append_assoc, List.nil_append]
      | succ i =>
          have later : rest[i]? = some member := listed
          obtain ⟨front, back, around⟩ := moreMembersText_modify later
          refine ⟨quote first.1.toList ++ ':' :: (first.2.text ++ front), back, fun change => ?_⟩
          rw [List.modify_succ_cons, membersText, around]
          simp only [List.cons_append, List.append_assoc]

end Surroundings

/-- The text of the part at a place stands between two texts that do not depend on the part. -/
theorem text_put {place : List Nat} {j old : Json} (found : at? place j = some old) :
    ∃ front back, ∀ part, (put part place j).text = front ++ (part.text ++ back) := by
  induction place generalizing j with
  | nil => exact ⟨[], [], fun part => by rw [List.nil_append, List.append_nil]; rfl⟩
  | cons i place ih =>
      obtain ⟨inner, first, deeper⟩ := at?_cons_eq_some.mp found
      obtain ⟨front, back, within⟩ := ih deeper
      cases j with
      | array items =>
          have listed : items[i]? = some inner := first
          obtain ⟨before, after, around⟩ := itemsText_modify listed
          refine ⟨'[' :: (before ++ front), back ++ (after ++ [']']), fun part => ?_⟩
          rw [put, text, around, within]
          simp only [List.cons_append, List.append_assoc]
      | object members =>
          obtain ⟨member, listed, rfl⟩ := Option.map_eq_some_iff.mp first
          obtain ⟨before, after, around⟩ := membersText_modify listed
          refine ⟨'\x7b' :: (before ++ front), back ++ (after ++ ['\x7d']), fun part => ?_⟩
          rw [put, text, around, within]
          simp only [List.cons_append, List.append_assoc]
      | _ => cases first

/-- The text printed for the part at a place: it stands where that of any other part would. -/
def PrintedAt (printed : List Char) (place : List Nat) (j : Json) : Prop :=
  ∃ front back, j.text = front ++ (printed ++ back) ∧
    ∀ part, (put part place j).text = front ++ (part.text ++ back)

theorem printedAt_iff {place : List Nat} {j part : Json} {printed : List Char}
    (found : at? place j = some part) : PrintedAt printed place j ↔ printed = part.text := by
  constructor
  · rintro ⟨front, back, whole, around⟩
    have own := around part
    rw [put_self found, whole] at own
    exact List.append_cancel_right (List.append_cancel_left own)
  · rintro rfl
    obtain ⟨front, back, around⟩ := text_put found
    have own := around part
    rw [put_self found] at own
    exact ⟨front, back, own, around⟩

end RowConduit.Json
