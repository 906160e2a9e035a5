import RowConduit.Json.Draft
import RowConduit.Proofs.Fallible
import RowConduit.Proofs.Json.Members
import RowConduit.Proofs.Json.Token

/-!
# Reading a document undoes writing it

The text of a document is read back as the document, if the names of every object are distinct, no
object is marked as a number by its first name, and the nesting is within the bound of the reader.

Reading goes over the tokens with a stack of open containers.  Every value, wherever it stands, is
delivered to the container around it, and the stack below is left as it was; this is what the
induction over the document shows.
-/

namespace RowConduit.Json

open RowConduit.Text

mutual

def toDraft : Json → Draft
  | .null => .null
  | .bool b => .bool b
  | .number n => .number n
  | .string s => .string (some s)
  | .array items => .array (itemsToDraft items) true
  | .object members => .object (membersToDraft members) true

def itemsToDraft : List Json → List Draft
  | [] => []
  | item :: rest => item.toDraft :: itemsToDraft rest

def membersToDraft : List (String × Json) → List (Draft × Draft)
  | [] => []
  | (name, value) :: rest => (.string (some name), value.toDraft) :: membersToDraft rest

end

theorem spelled_head (j : Json) :
    ∃ token rest, j.spelled = token :: rest ∧ token ≠ .closeArray := by
  cases j <;> exact ⟨_, _, rfl, by simp⟩

theorem run_firstItem {token : Token} (other : token ≠ .closeArray) (stack : List Frame)
    (rest : List Token) :
    (State.firstItem stack).run (token :: rest) =
      (State.value (.item [] :: stack)).run (token :: rest) := by
  cases token <;> first | rfl | exact absurd rfl other

mutual

theorem run_spelled (j : Json) (stack : List Frame) (rest : List Token) :
    (State.value stack).run (j.spelled ++ rest) = (deliver j.toDraft stack).run rest := by
  cases j with
  | null => rfl
  | bool b => rfl
  | number n => rfl
  | string s => rfl
  | array items =>
      rw [spelled, List.cons_append, List.append_assoc, List.singleton_append]
      exact run_itemsSpelled items stack rest
  | object members =>
      rw [spelled, List.cons_append, List.append_assoc, List.singleton_append]
      exact run_membersSpelled members stack rest

theorem run_itemsSpelled (items : List Json) (stack : List Frame) (rest : List Token) :
    (State.firstItem stack).run (itemsSpelled items ++ .closeArray :: rest) =
      (deliver (.array (itemsToDraft items) true) stack).run rest := by
  cases items with
  | nil => rfl
  | cons item others =>
      obtain ⟨token, tokens, shape, other⟩ := item.spelled_head
      have first := run_spelled item (.item [] :: stack)
        (moreItemsSpelled others ++ .closeArray :: rest)
      rw [itemsSpelled, List.append_assoc, shape, List.cons_append, run_firstItem other,
        ← List.cons_append, ← shape, first]
      exact run_moreItemsSpelled others [item.toDraft] stack rest

theorem run_moreItemsSpelled (items : List Json) (done : List Draft) (stack : List Frame)
    (rest : List Token) :
    (State.afterItem done stack).run (moreItemsSpelled items ++ .closeArray :: rest) =
      (deliver (.array (done.reverse ++ itemsToDraft items) true) stack).run rest := by
  cases items with
  | nil =>
      rw [itemsToDraft, List.append_nil]
      rfl
  | cons item others =>
      have next := run_spelled item (.item done :: stack)
        (moreItemsSpelled others ++ .closeArray :: rest)
      have later := run_moreItemsSpelled others (item.toDraft :: done) stack rest
      rw [List.reverse_cons, List.append_assoc, List.singleton_append] at later
      rw [moreItemsSpelled, List.cons_append, List.append_assoc]
      exact next.trans later

theorem run_membersSpelled (members : Members) (stack : List Frame) (rest : List Token) :
    (State.firstName stack).run (membersSpelled members ++ .closeObject :: rest) =
      (deliver (.object (membersToDraft members) true) stack).run rest := by
  cases members with
  | nil => rfl
  | cons member others =>
      have first := run_spelled member.2 (.member [] (.string (some member.1)) :: stack)
        (moreMembersSpelled others ++ .closeObject :: rest)
      have later := run_moreMembersSpelled others [(.string (some member.1), member.2.toDraft)]
        stack rest
      rw [membersSpelled, List.cons_append, List.cons_append, List.append_assoc]
      exact first.trans later

theorem run_moreMembersSpelled (members : Members) (done : List (Draft × Draft))
    (stack : List Frame) (rest : List Token) :
    (State.afterMember done stack).run (moreMembersSpelled members ++ .closeObject :: rest) =
      (deliver (.object (done.reverse ++ membersToDraft members) true) stack).run rest := by
  cases members with
  | nil =>
      rw [membersToDraft, List.append_nil]
      rfl
  | cons member others =>
      have next := run_spelled member.2 (.member done (.string (some member.1)) :: stack)
        (moreMembersSpelled others ++ .closeObject :: rest)
      have later := run_moreMembersSpelled others
        ((.string (some member.1), member.2.toDraft) :: done) stack rest
      rw [List.reverse_cons, List.append_assoc, List.singleton_append] at later
      rw [moreMembersSpelled, List.cons_append, List.cons_append, List.cons_append,
        List.append_assoc]
      exact next.trans later

end

/-- The text of a document is read to its end, and nothing is left. -/
theorem draft_text (j : Json) : draft j.text = (j.toDraft, []) := by
  have cut := j.tokens_text numberEnded_nil
  rw [List.append_nil, tokens_nil] at cut
  rw [draft, cut, run_spelled j [] []]
  rfl

mutual

theorem depth_toDraft (j : Json) : j.toDraft.depth = j.depth := by
  cases j with
  | null => rfl
  | bool b => rfl
  | number n => rfl
  | string s => rfl
  | array items => rw [toDraft, Draft.depth, depth, depth_itemsToDraft items]
  | object members => rw [toDraft, Draft.depth, depth, depth_membersToDraft members]

theorem depth_itemsToDraft (items : List Json) :
    draftItemsDepth (itemsToDraft items) = itemsDepth items := by
  cases items with
  | nil => rfl
  | cons item rest =>
      rw [itemsToDraft, draftItemsDepth, itemsDepth, depth_toDraft item, depth_itemsToDraft rest]

theorem depth_membersToDraft (members : Members) :
    draftMembersDepth (membersToDraft members) = membersDepth members := by
  cases members with
  | nil => rfl
  | cons member rest =>
      rw [membersToDraft, draftMembersDepth, membersDepth, depth_toDraft member.2,
        depth_membersToDraft rest]

end

mutual

/-- No object has the name that marks numbers as its first. -/
def Unmarked : Json → Prop
  | .null => True
  | .bool _ => True
  | .number _ => True
  | .string _ => True
  | .array items => ItemsUnmarked items
  | .object members => (members.map (·.1)).head? ≠ some numberName ∧ MembersUnmarked members

def ItemsUnmarked : List Json → Prop
  | [] => True
  | item :: rest => item.Unmarked ∧ ItemsUnmarked rest

def MembersUnmarked : List (String × Json) → Prop
  | [] => True
  | (_, value) :: rest => value.Unmarked ∧ MembersUnmarked rest

end

theorem itemsUnmarked_iff {items : List Json} :
    ItemsUnmarked items ↔ ∀ item ∈ items, item.Unmarked := by
  induction items with
  | nil => simp [ItemsUnmarked]
  | cons item rest ih => simp [ItemsUnmarked, ih]

theorem membersUnmarked_iff {members : Members} :
    MembersUnmarked members ↔ ∀ member ∈ members, member.2.Unmarked := by
  induction members with
  | nil => simp [MembersUnmarked]
  | cons member rest ih => simp [MembersUnmarked, ih]

theorem marksNumber_membersToDraft {members : Members}
    (other : (members.map (·.1)).head? ≠ some numberName) :
    marksNumber (membersToDraft members) = false := by
  cases members with
  | nil => rfl
  | cons member rest =>
      have different : member.1 ≠ numberName := by simpa using other
      simp [membersToDraft, marksNumber, different]

mutual

theorem document?_toDraft (j : Json) (wellFormed : j.WellFormed) (unmarked : j.Unmarked) :
    j.toDraft.document? = some j := by
  cases j with
  | null => rfl
  | bool b => rfl
  | number n => rfl
  | string s => rfl
  | array items =>
      rw [WellFormed] at wellFormed
      rw [Unmarked] at unmarked
      rw [toDraft, Draft.document?, documents?_itemsToDraft items wellFormed unmarked]
      rfl
  | object members =>
      rw [WellFormed] at wellFormed
      rw [Unmarked] at unmarked
      rw [toDraft, Draft.document?, marksNumber_membersToDraft unmarked.1,
        membersOf?_membersToDraft members wellFormed.2 unmarked.2]
      simp [collect_of_nodup wellFormed.1]

theorem documents?_itemsToDraft (items : List Json) (wellFormed : ItemsWellFormed items)
    (unmarked : ItemsUnmarked items) : documents? (itemsToDraft items) = some items := by
  cases items with
  | nil => rfl
  | cons item rest =>
      rw [ItemsWellFormed] at wellFormed
      rw [ItemsUnmarked] at unmarked
      rw [itemsToDraft, documents?, document?_toDraft item wellFormed.1 unmarked.1,
        documents?_itemsToDraft rest wellFormed.2 unmarked.2]

theorem membersOf?_membersToDraft (members : Members) (wellFormed : MembersWellFormed members)
    (unmarked : MembersUnmarked members) : membersOf? (membersToDraft members) = some members := by
  cases members with
  | nil => rfl
  | cons member rest =>
      rw [MembersWellFormed] at wellFormed
      rw [MembersUnmarked] at unmarked
      have value := document?_toDraft member.2 wellFormed.1 unmarked.1
      have later := membersOf?_membersToDraft rest wellFormed.2 unmarked.2
      simp only [membersToDraft, membersOf?, value, later]

end

/-- Whatever items are read as, each is read as the result in its place. -/
theorem documents?_eq_some {items found : List Json}
    (reading : documents? (itemsToDraft items) = some found) :
    List.Forall₂ (fun item result => item.toDraft.document? = some result) items found := by
  induction items generalizing found with
  | nil =>
      cases reading
      exact List.Forall₂.nil
  | cons item rest ih =>
      rw [itemsToDraft, documents?] at reading
      split at reading
      · next first later itemRead restRead =>
        cases reading
        exact List.Forall₂.cons itemRead (ih restRead)
      · cases reading

theorem membersOf?_eq_some {members found : Members}
    (reading : membersOf? (membersToDraft members) = some found) :
    List.Forall₂ (fun member result =>
      result.1 = member.1 ∧ member.2.toDraft.document? = some result.2) members found := by
  induction members generalizing found with
  | nil =>
      cases reading
      exact List.Forall₂.nil
  | cons member rest ih =>
      rw [membersToDraft] at reading
      unfold membersOf? at reading
      split at reading
      · next name first later same valueRead restRead =>
        cases reading
        cases same
        exact List.Forall₂.cons ⟨rfl, valueRead⟩ (ih restRead)
      · cases reading

theorem document?_array {items : List Json} {j : Json}
    (reading : (Json.array items).toDraft.document? = some j) :
    ∃ found, j = .array found ∧
      List.Forall₂ (fun item result => item.toDraft.document? = some result) items found := by
  rw [toDraft, Draft.document?, Option.map_eq_some_iff] at reading
  obtain ⟨found, itemsRead, rfl⟩ := reading
  exact ⟨found, rfl, documents?_eq_some itemsRead⟩

/-- An object is read as an object of the same names, or as a number if it is marked as one. -/
theorem document?_object {members : Members} {j : Json}
    (distinct : (members.map (·.1)).Nodup)
    (reading : (Json.object members).toDraft.document? = some j) :
    (∃ n, j = .number n) ∨
      (members.map (·.1)).head? ≠ some numberName ∧ ∃ found, j = .object found ∧
        found.map (·.1) = members.map (·.1) ∧
        List.Forall₂ (fun member result =>
          result.1 = member.1 ∧ member.2.toDraft.document? = some result.2) members found := by
  rw [toDraft, Draft.document?] at reading
  split at reading
  · obtain ⟨n, _, rfl⟩ := Option.map_eq_some_iff.mp reading
    exact Or.inl ⟨n, rfl⟩
  · next other =>
    obtain ⟨found, membersRead, rfl⟩ := Option.map_eq_some_iff.mp reading
    have first : (members.map (·.1)).head? ≠ some numberName := by
      intro marked
      apply other
      cases members with
      | nil => cases marked
      | cons member rest =>
          have same : member.1 = numberName := by simpa using marked
          rw [membersToDraft, marksNumber, same, beq_self_eq_true]
    have each := membersOf?_eq_some membersRead
    have names : found.map (·.1) = members.map (·.1) :=
      map_eq_of_forall₂ each fun _ _ step => step.1
    refine Or.inr ⟨first, found, ?_, names, each⟩
    rw [collect_of_nodup (names ▸ distinct)]

/-- Reading the text of a document keeps its structure; only names can make a difference. -/
theorem parse?_render_eq (j : Json) :
    parse? j.render = if j.depth ≤ maxDepth then j.toDraft.document? else none := by
  rw [parse?, render, String.toList_ofList, draft_text]
  simp only [List.isEmpty_nil, Bool.true_and, depth_toDraft, decide_eq_true_eq]

theorem parse?_render {j : Json} (wellFormed : j.WellFormed) (unmarked : j.Unmarked)
    (shallow : j.depth ≤ maxDepth) : parse? j.render = some j := by
  rw [parse?_render_eq, if_pos shallow, document?_toDraft j wellFormed unmarked]

end RowConduit.Json
