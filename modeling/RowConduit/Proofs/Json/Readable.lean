import RowConduit.Proofs.Json.Document

/-!
# Documents that are read

What a text is read as has distinct names in every object, no object whose first name marks it as a
number, and no deeper nesting than the text.  These are the conditions under which a document is
read back from its own text, so everything that is read once is read again.

The three are proved together, by induction over the draft: an object takes its names from the
members that were collected, and its first name is the one written first.
-/

namespace RowConduit.Json

/-- The name that is written first stands first, whatever is written over it. -/
theorem head?_names_collect (members : Members) :
    ((collect members).map (·.1)).head? = (members.map (·.1)).head? := by
  rw [names_collect]
  cases members.map (·.1) with
  | nil => rfl
  | cons name rest => rw [List.eraseDups_cons, List.head?_cons, List.head?_cons]

theorem itemsDepth_le_iff {items : List Json} {bound : Nat} :
    itemsDepth items ≤ bound ↔ ∀ item ∈ items, item.depth ≤ bound := by
  induction items with
  | nil => simp [itemsDepth]
  | cons item rest ih => rw [itemsDepth, Nat.max_le, ih, List.forall_mem_cons]

theorem membersDepth_le_iff {members : Members} {bound : Nat} :
    membersDepth members ≤ bound ↔ ∀ member ∈ members, member.2.depth ≤ bound := by
  induction members with
  | nil => simp [membersDepth]
  | cons member rest ih => rw [membersDepth, Nat.max_le, ih, List.forall_mem_cons]

/-- The document is read back from its text, if the bound is that of the reader. -/
structure Readable (bound : Nat) (j : Json) : Prop where
  wellFormed : j.WellFormed
  unmarked : j.Unmarked
  shallow : j.depth ≤ bound

theorem Readable.mono {bound higher : Nat} {j : Json} (readable : j.Readable bound)
    (above : bound ≤ higher) : j.Readable higher where
  wellFormed := readable.wellFormed
  unmarked := readable.unmarked
  shallow := Nat.le_trans readable.shallow above

theorem readable_array {items : List Json} {bound : Nat}
    (each : ∀ item ∈ items, item.Readable bound) : (Json.array items).Readable (bound + 1) where
  wellFormed := itemsWellFormed_iff.mpr fun item listed => (each item listed).wellFormed
  unmarked := itemsUnmarked_iff.mpr fun item listed => (each item listed).unmarked
  shallow := Nat.succ_le_succ
    (itemsDepth_le_iff.mpr fun item listed => (each item listed).shallow)

theorem readable_collect {members : Members} {bound : Nat}
    (first : (members.map (·.1)).head? ≠ some numberName)
    (each : ∀ member ∈ members, member.2.Readable bound) :
    (Json.object (collect members)).Readable (bound + 1) where
  wellFormed := wellFormed_collect fun member listed => (each member listed).wellFormed
  unmarked := by
    rw [Unmarked, head?_names_collect, membersUnmarked_iff]
    exact ⟨first, fun member listed => (each member (mem_collect listed)).unmarked⟩
  shallow := Nat.succ_le_succ
    (membersDepth_le_iff.mpr fun member listed => (each member (mem_collect listed)).shallow)

/-- Members are read under the names they are written with, so the first name marks no number. -/
theorem head?_names_of_membersOf? {members : List (Draft × Draft)} {found : Members}
    (plain : ¬ marksNumber members = true) (reading : membersOf? members = some found) :
    (found.map (·.1)).head? ≠ some numberName := by
  cases members with
  | nil =>
      cases reading
      exact nofun
  | cons member rest =>
      obtain ⟨name, value⟩ := member
      unfold membersOf? at reading
      split at reading
      · cases reading
        simpa [marksNumber] using plain
      · cases reading

mutual

/-- What a draft is read as can be read again, and is nested no deeper than the draft. -/
theorem readable_document? (d : Draft) {j : Json} (reading : d.document? = some j) :
    j.Readable d.depth := by
  cases d with
  | broken => cases reading
  | null =>
      cases reading
      exact ⟨True.intro, True.intro, Nat.le_refl 0⟩
  | bool b =>
      cases reading
      exact ⟨True.intro, True.intro, Nat.le_refl 0⟩
  | number n =>
      cases reading
      exact ⟨True.intro, True.intro, Nat.le_refl 0⟩
  | string text =>
      cases text with
      | none => cases reading
      | some s =>
          cases reading
          exact ⟨True.intro, True.intro, Nat.le_refl 0⟩
  | array items closed =>
      cases closed with
      | false => cases reading
      | true =>
          rw [Draft.document?, Option.map_eq_some_iff] at reading
          obtain ⟨found, itemsRead, rfl⟩ := reading
          exact readable_array (readable_documents? items itemsRead)
  | object members closed =>
      cases closed with
      | false => cases reading
      | true =>
          rw [Draft.document?] at reading
          split at reading
          · obtain ⟨n, _, rfl⟩ := Option.map_eq_some_iff.mp reading
            exact ⟨True.intro, True.intro, Nat.zero_le _⟩
          · next plain =>
            obtain ⟨found, membersRead, rfl⟩ := Option.map_eq_some_iff.mp reading
            have first := head?_names_of_membersOf? plain membersRead
            exact readable_collect first (readable_membersOf? members membersRead)

theorem readable_documents? (items : List Draft) {found : List Json}
    (reading : documents? items = some found) :
    ∀ j ∈ found, j.Readable (draftItemsDepth items) := by
  cases items with
  | nil =>
      cases reading
      exact nofun
  | cons item rest =>
      rw [documents?] at reading
      split at reading
      · next first others itemRead restRead =>
        cases reading
        intro j listed
        rcases List.mem_cons.mp listed with rfl | later
        · exact (readable_document? item itemRead).mono (Nat.le_max_left _ _)
        · exact (readable_documents? rest restRead j later).mono (Nat.le_max_right _ _)
      · cases reading

theorem readable_membersOf? (members : List (Draft × Draft)) {found : Members}
    (reading : membersOf? members = some found) :
    ∀ member ∈ found, member.2.Readable (draftMembersDepth members) := by
  cases members with
  | nil =>
      cases reading
      exact nofun
  | cons written rest =>
      obtain ⟨name, value⟩ := written
      unfold membersOf? at reading
      split at reading
      · next s j others valueRead restRead =>
        cases reading
        intro member listed
        rcases List.mem_cons.mp listed with rfl | later
        · exact (readable_document? value valueRead).mono (Nat.le_max_left _ _)
        · exact (readable_membersOf? rest restRead member later).mono (Nat.le_max_right _ _)
      · cases reading

end

theorem readable_of_parse? {s : String} {j : Json} (parsed : parse? s = some j) :
    j.Readable maxDepth := by
  simp only [parse?, Option.ite_none_right_eq_some, Bool.and_eq_true, decide_eq_true_eq] at parsed
  obtain ⟨⟨_, shallow⟩, reading⟩ := parsed
  exact (readable_document? _ reading).mono shallow

/-- What is read from some text is read from its own text too. -/
theorem parse?_render_of_parse? {s : String} {j : Json} (parsed : parse? s = some j) :
    parse? j.render = some j :=
  have readable := readable_of_parse? parsed
  parse?_render readable.wellFormed readable.unmarked readable.shallow

end RowConduit.Json
