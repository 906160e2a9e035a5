import RowConduit.Json.Record
import RowConduit.Proofs.Fallible
import RowConduit.Proofs.Json.Document

/-!
# Typed reading of documents

What a reader of records has collected when it succeeds.  A record keeps what it reads of a field in
one place, which no other field touches, and a field that is given twice is refused.  So the place
holds what the document gives for the field, by its name in an object or by its position in an
array, and is empty if the document gives nothing.
-/

namespace RowConduit.Json

def hasName (name : String) (member : Draft × Draft) : Bool :=
  match member.1 with
  | .string (some given) => given == name
  | _ => false

def Draft.field? (position : Nat) (name : String) : Draft → Option Draft
  | .object members _ => (members.find? (hasName name)).map (·.2)
  | .array items _ => items[position]?
  | _ => none

def Draft.listed (position : Nat) (name : String) (d : Draft) : List Draft :=
  match d.field? position name with
  | some (.array items _) => items
  | _ => []

def Draft.text? : Draft → Option String
  | .string text => text
  | _ => none

section Readers

variable {α β : Type} {read : Draft → Except JsonFault α}

theorem decode_render (read : Draft → Except JsonFault α) (j : Json) :
    decode read j.render = read j.toDraft := by
  rw [decode, Json.render, String.toList_ofList, draft_text]
  cases read j.toDraft <;> rfl

theorem decode_eq_ok_iff {s : String} {found : α} :
    decode read s = .ok found ↔
      read (draft s.toList).1 = .ok found ∧ (draft s.toList).2.isEmpty = true := by
  rw [decode, Except.bind_eq_ok_iff]
  constructor
  · rintro ⟨value, reading, ended⟩
    split at ended
    · next empty =>
      cases ended
      exact ⟨reading, empty⟩
    · cases ended
  · rintro ⟨reading, empty⟩
    exact ⟨found, reading, if_pos empty⟩

theorem readText_eq_ok {d : Draft} {s : String} (reading : readText d = .ok s) :
    d = .string (some s) := by
  unfold readText at reading
  split at reading <;> cases reading
  rfl

theorem readList_eq_ok {d : Draft} {found : List α} (reading : readList read d = .ok found) :
    ∃ items, d = .array items true ∧
      List.Forall₂ (fun item result => read item = .ok result) items found := by
  cases d with
  | array items closed =>
      obtain ⟨results, each, ended⟩ := Except.bind_eq_ok_iff.mp reading
      cases closed with
      | true =>
          cases ended
          exact ⟨items, rfl, Except.mapM_eq_ok_iff.mp each⟩
      | false => cases ended
  | _ => cases reading

theorem texts_of_forall₂ {items : List Draft} {texts : List String}
    (each : List.Forall₂ (fun item text => readText item = .ok text) items texts) :
    items.filterMap Draft.text? = texts := by
  induction each with
  | nil => rfl
  | cons head rest ih =>
      rw [readText_eq_ok head, List.filterMap_cons, Draft.text?, ih]

theorem require_eq_ok_iff {name : String} {given : Option α} {found : α} :
    require name given = .ok found ↔ given = some found := by
  cases given <;> simp [require]

theorem readOptional_eq_ok {d : Draft} {found : α} (given : d ≠ .null)
    (reading : read d = .ok found) : readOptional read d = .ok (some found) := by
  unfold readOptional
  split
  · contradiction
  · rw [reading]
    rfl

theorem itemsToDraft_eq_map (items : List Json) : itemsToDraft items = items.map toDraft := by
  induction items with
  | nil => rfl
  | cons item rest ih => rw [itemsToDraft, ih, List.map_cons]

theorem readList_array {write : β → Json} {items : List β} {found : List α}
    (each : List.Forall₂ (fun item result => read (write item).toDraft = .ok result) items found) :
    readList read (Json.array (items.map write)).toDraft = .ok found := by
  have results : (items.map fun item => (write item).toDraft).mapM read = .ok found :=
    Except.mapM_eq_ok_iff.mpr (List.forall₂_map_left_iff.mpr each)
  rw [toDraft, itemsToDraft_eq_map, List.map_map, readList]
  exact Except.bind_eq_ok_iff.mpr ⟨found, results, rfl⟩

end Readers

section Records

variable {σ α β γ : Type} {fields : List (Field σ)} {start s s' : σ} {d : Draft}

theorem readRecord_eq_ok_iff {finish : σ → Except JsonFault α} {a : α} :
    readRecord fields start finish d = .ok a ↔
      ∃ s, readRecord fields start .ok d = .ok s ∧ finish s = .ok a := by
  cases d with
  | object members closed =>
      cases closed <;> simp [readRecord, Except.bind_eq_ok_iff]
  | array items closed => simp [readRecord, Except.bind_eq_ok_iff]
  | _ => simp [readRecord]

/-- Reading the field leaves the place alone that `get` looks at. -/
def Field.Leaves (field : Field σ) (get : σ → Option β) : Prop :=
  ∀ s d s', field.read s d = .ok s' → get s' = get s

/-- Reading the field fills the place that `get` looks at, which then counts as set. -/
structure Field.Fills (field : Field σ) (get : σ → Option β)
    (read : Draft → Except JsonFault β) : Prop where
  isSet : ∀ s, field.isSet s = (get s).isSome
  read : ∀ s d s', field.read s d = .ok s' → ∃ v, read d = .ok v ∧ get s' = some v

theorem Field.leaves_of_store {field : Field σ} {get : σ → Option β}
    {read : Draft → Except JsonFault γ} {store : σ → γ → σ}
    (shape : field.read = fun s d => read d >>= fun v => pure (store s v))
    (elsewhere : ∀ s v, get (store s v) = get s) : field.Leaves get := by
  intro s d s' reading
  rw [shape] at reading
  obtain ⟨v, _, stored⟩ := Except.bind_eq_ok_iff.mp reading
  cases stored
  exact elsewhere s v

theorem Field.fills_of_store {field : Field σ} {get : σ → Option β}
    {read : Draft → Except JsonFault β} {store : σ → β → σ}
    (shape : field.read = fun s d => read d >>= fun v => pure (store s v))
    (isSet : ∀ s, field.isSet s = (get s).isSome)
    (here : ∀ s v, get (store s v) = some v) : field.Fills get read := by
  refine ⟨isSet, fun s d s' reading => ?_⟩
  rw [shape] at reading
  obtain ⟨v, found, stored⟩ := Except.bind_eq_ok_iff.mp reading
  cases stored
  exact ⟨v, found, here s v⟩

/-- Between the fields before and behind it, a field has a name and a place for itself. -/
structure Field.Apart (field : Field σ) (front back : List (Field σ)) (get : σ → Option β)
    (read : Draft → Except JsonFault β) : Prop where
  fills : field.Fills get read
  others : ∀ other ∈ front ++ back, other.name ≠ field.name ∧ other.Leaves get

variable {field : Field σ} {front back : List (Field σ)} {get : σ → Option β}
  {read : Draft → Except JsonFault β}

theorem Field.Apart.find?_self (apart : field.Apart front back get read) :
    (front ++ field :: back).find? (fun other => other.name == field.name) = some field := by
  have before : front.find? (fun other => other.name == field.name) = none := by
    refine List.find?_eq_none.mpr fun other listed same => ?_
    exact (apart.others other (List.mem_append_left back listed)).1 (eq_of_beq same)
  rw [List.find?_append, before, Option.none_or]
  exact List.find?_cons_of_pos (p := fun other : Field σ => other.name == field.name)
    (beq_self_eq_true field.name)

/-- A member of another name leaves the place alone, be it a field or not. -/
theorem Field.Apart.find?_other (apart : field.Apart front back get read) {name : String}
    {other : Field σ} (different : name ≠ field.name)
    (found : (front ++ field :: back).find? (fun other => other.name == name) = some other) :
    other.Leaves get := by
  have named := List.find?_some (p := fun other : Field σ => other.name == name) found
  rw [beq_iff_eq] at named
  have listed : other ∈ front ++ back := by
    have member := List.mem_of_find?_eq_some found
    rw [List.mem_append, List.mem_cons] at member
    rcases member with before | rfl | behind
    · exact List.mem_append_left back before
    · exact absurd named.symm different
    · exact List.mem_append_right front behind
  exact (apart.others other listed).2

/-- What one member does to the place: it fills it if it is empty, or else it leaves it alone. -/
theorem Field.Apart.readMember (apart : field.Apart front back get read) {member : Draft × Draft}
    (step : readMember (front ++ field :: back) s member = .ok s') :
    hasName field.name member = true ∧ get s = none ∧
        (∃ v, read member.2 = .ok v ∧ get s' = some v) ∨
      hasName field.name member = false ∧ get s' = get s := by
  obtain ⟨name, value⟩ := member
  unfold Json.readMember at step
  split at step
  · next given shape =>
    cases shape
    by_cases same : given = field.name
    · subst same
      rw [apart.find?_self] at step
      refine Or.inl ⟨beq_self_eq_true field.name, ?_⟩
      dsimp only at step
      split at step
      · cases step
      · next empty =>
        rw [apart.fills.isSet, Option.not_isSome_iff_eq_none] at empty
        exact ⟨empty, apart.fills.read s value s' step⟩
    · refine Or.inr ⟨beq_eq_false_iff_ne.mpr same, ?_⟩
      split at step
      · next other found =>
        split at step
        · cases step
        · exact apart.find?_other same found s value s' step
      · split at step
        · cases step
          rfl
        · cases step
  · cases step

theorem Field.Apart.kept (apart : field.Apart front back get read)
    {members : List (Draft × Draft)} {v : β} (full : get s = some v)
    (collected : members.foldlM (Json.readMember (front ++ field :: back)) s = .ok s') :
    get s' = some v := by
  induction members generalizing s with
  | nil =>
      cases collected
      exact full
  | cons member rest ih =>
      obtain ⟨next, step, others⟩ := Except.bind_eq_ok_iff.mp collected
      rcases apart.readMember step with ⟨_, empty, _⟩ | ⟨_, same⟩
      · rw [full] at empty
        cases empty
      · exact ih (same.trans full) others

theorem Field.Apart.members (apart : field.Apart front back get read)
    {members : List (Draft × Draft)} (empty : get s = none)
    (collected : members.foldlM (Json.readMember (front ++ field :: back)) s = .ok s') :
    ((members.find? (hasName field.name)).map (·.2)).mapM read = .ok (get s') := by
  induction members generalizing s with
  | nil =>
      cases collected
      rw [empty]
      rfl
  | cons member rest ih =>
      obtain ⟨next, step, others⟩ := Except.bind_eq_ok_iff.mp collected
      rcases apart.readMember step with ⟨named, _, v, reading, full⟩ | ⟨unnamed, same⟩
      · -- the first member of the name fills the place, and the others keep what it holds
        rw [List.find?_cons_of_pos named, apart.kept full others, Option.map_some,
          Option.mapM_some, reading]
        rfl
      · rw [List.find?_cons_of_neg (Bool.eq_false_iff.mp unnamed)]
        exact ih (same.trans empty) others

theorem readPositions_leaves {closed : Bool} {items : List Draft}
    (others : ∀ other ∈ fields, other.Leaves get)
    (collected : readPositions closed fields s items = .ok s') : get s' = get s := by
  induction fields generalizing s items with
  | nil =>
      cases items with
      | nil =>
          rw [readPositions] at collected
          split at collected <;> cases collected
          rfl
      | cons item rest => cases collected
  | cons other fields ih =>
      have later := fun other listed => others other (List.mem_cons_of_mem _ listed)
      cases items with
      | nil =>
          rw [readPositions] at collected
          split at collected
          · cases collected
          · split at collected
            · cases collected
            · exact ih later collected
      | cons item rest =>
          obtain ⟨next, step, others'⟩ := Except.bind_eq_ok_iff.mp collected
          rw [ih later others']
          exact others other List.mem_cons_self s item next step

theorem Field.Apart.positions (apart : field.Apart front back get read) {closed : Bool}
    {items : List Draft} (empty : get s = none)
    (collected : readPositions closed (front ++ field :: back) s items = .ok s') :
    items[front.length]?.mapM read = .ok (get s') := by
  have behind : ∀ other ∈ back, other.Leaves get := fun other listed =>
    (apart.others other (List.mem_append_right front listed)).2
  have before : ∀ other ∈ front, other.Leaves get := fun other listed =>
    (apart.others other (List.mem_append_left back listed)).2
  have fills := apart.fills
  clear apart
  induction front generalizing s items with
  | nil =>
      cases items with
      | nil =>
          have same : get s' = get s := by
            rw [List.nil_append, readPositions] at collected
            split at collected
            · cases collected
            · split at collected
              · cases collected
              · exact readPositions_leaves behind collected
          rw [same, empty]
          rfl
      | cons item rest =>
          obtain ⟨next, step, others⟩ := Except.bind_eq_ok_iff.mp collected
          obtain ⟨v, reading, full⟩ := fills.read s item next step
          rw [readPositions_leaves behind others, full, List.length_nil, List.getElem?_cons_zero,
            Option.mapM_some, reading]
          rfl
  | cons other front ih =>
      have later := fun other listed => before other (List.mem_cons_of_mem _ listed)
      cases items with
      | nil =>
          rw [List.cons_append, readPositions] at collected
          split at collected
          · cases collected
          · split at collected
            · cases collected
            · simpa using ih empty collected later
      | cons item rest =>
          obtain ⟨next, step, others⟩ := Except.bind_eq_ok_iff.mp collected
          have same := before other List.mem_cons_self s item next step
          simpa using ih (same.trans empty) others later

/-- The place of a field holds what is read of what the document gives for it, if anything. -/
theorem Field.Apart.collected (apart : field.Apart front back get read) (empty : get start = none)
    (collected : readRecord (front ++ field :: back) start .ok d = .ok s) :
    (d.field? front.length field.name).mapM read = .ok (get s) := by
  cases d with
  | object members closed =>
      obtain ⟨last, each, ended⟩ := Except.bind_eq_ok_iff.mp collected
      split at ended
      · cases ended
        exact apart.members empty each
      · cases ended
  | array items closed =>
      obtain ⟨last, each, ended⟩ := Except.bind_eq_ok_iff.mp collected
      cases ended
      exact apart.positions empty each
  | _ => cases collected

/-- The place of a field that is a list holds what is read of the items that the document gives. -/
theorem Field.Apart.listed {get : σ → Option (List β)} {read : Draft → Except JsonFault β}
    (apart : field.Apart front back get (readList read)) (empty : get start = none)
    (collected : readRecord (front ++ field :: back) start .ok d = .ok s) :
    List.Forall₂ (fun item found => read item = .ok found) (d.listed front.length field.name)
      ((get s).getD []) := by
  have given := apart.collected empty collected
  unfold Draft.listed
  cases written : d.field? front.length field.name with
  | none =>
      rw [written] at given
      rw [← Except.ok.inj given, Option.getD_none]
      exact List.Forall₂.nil
  | some value =>
      rw [written, Option.mapM_some] at given
      obtain ⟨found, reading, stored⟩ := Except.map_eq_ok_iff.mp given
      obtain ⟨items, rfl, each⟩ := readList_eq_ok reading
      rw [← stored, Option.getD_some]
      exact each

end Records

end RowConduit.Json
