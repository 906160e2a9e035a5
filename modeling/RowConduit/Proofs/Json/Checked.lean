import RowConduit.Proofs.Json.Record

/-!
# Checks while reading and after it

A reader of records can check what it reads of a field at once, or keep it unchecked until the
record is complete.  Since a field is read once, and no other field touches what was read of it, the
two accept the same documents and come to the same values.
-/

namespace RowConduit.Json

section Lists

variable {α β : Type} {read : Draft → Except JsonFault α} {check : α → Except JsonFault β}

theorem readList_bind_eq_ok_iff {d : Draft} {found : List β} :
    readList (fun item => read item >>= check) d = .ok found ↔
      ∃ raw, readList read d = .ok raw ∧ raw.mapM check = .ok found := by
  cases d with
  | array items closed =>
      cases closed <;> simp [readList, Except.bind_eq_ok_iff, Except.mapM_bind_eq_ok_iff]
  | _ => simp [readList]

theorem readRecord_bind {σ : Type} (fields : List (Field σ)) (start : σ)
    (finish : σ → Except JsonFault α) (check : α → Except JsonFault β) (d : Draft) :
    readRecord fields start (fun s => finish s >>= check) d =
      readRecord fields start finish d >>= check := by
  cases d with
  | object members closed =>
      rw [readRecord, readRecord]
      cases members.foldlM (readMember fields) start with
      | error e => rfl
      | ok s => cases closed <;> rfl
  | array items closed =>
      rw [readRecord, readRecord]
      cases readPositions closed fields start items <;> rfl
  | _ => rfl

end Lists

section Records

variable {σ τ : Type} {check : σ → Except JsonFault τ}

structure Field.Checks (check : σ → Except JsonFault τ) (raw : Field σ) (checked : Field τ) :
    Prop where
  name : checked.name = raw.name
  required : checked.required = raw.required
  isSet : ∀ {s t}, check s = .ok t → checked.isSet t = raw.isSet s
  read : ∀ {s t d t'}, check s = .ok t →
    (checked.read t d = .ok t' ↔ ∃ s', raw.read s d = .ok s' ∧ check s' = .ok t')
  unread : ∀ {s d s' t'}, raw.isSet s = false → raw.read s d = .ok s' → check s' = .ok t' →
    ∃ t, check s = .ok t

theorem Field.checks_of_store {α β : Type} {raw : Field σ} {checked : Field τ}
    {read : Draft → Except JsonFault α} {read' : Draft → Except JsonFault β}
    {f : α → Except JsonFault β} {store : σ → α → σ} {store' : τ → β → τ}
    (name : checked.name = raw.name) (required : checked.required = raw.required)
    (isSet : ∀ {s t}, check s = .ok t → checked.isSet t = raw.isSet s)
    (shape : raw.read = fun s d => read d >>= fun v => pure (store s v))
    (shape' : checked.read = fun t d => read' d >>= fun w => pure (store' t w))
    (converts : ∀ {d w}, read' d = .ok w ↔ ∃ v, read d = .ok v ∧ f v = .ok w)
    (stored : ∀ {s t v t'}, check s = .ok t →
      (check (store s v) = .ok t' ↔ ∃ w, f v = .ok w ∧ store' t w = t'))
    (unstored : ∀ {s v t'}, raw.isSet s = false → check (store s v) = .ok t' →
      ∃ t, check s = .ok t) : Field.Checks check raw checked := by
  refine ⟨name, required, isSet, ?_, ?_⟩
  · intro s t d t' checks
    rw [shape, shape']
    simp only [Except.bind_eq_ok_iff, converts]
    constructor
    · rintro ⟨w, ⟨v, reading, converted⟩, same⟩
      exact ⟨_, ⟨v, reading, rfl⟩, (stored checks).mpr ⟨w, converted, Except.ok.inj same⟩⟩
    · rintro ⟨_, ⟨v, reading, same⟩, checks'⟩
      cases same
      obtain ⟨w, converted, rfl⟩ := (stored checks).mp checks'
      exact ⟨w, ⟨v, reading, converted⟩, rfl⟩
  · intro s d s' t' unset reading checks
    rw [shape] at reading
    obtain ⟨v, _, same⟩ := Except.bind_eq_ok_iff.mp reading
    cases same
    exact unstored unset checks

variable {raws : List (Field σ)} {checkeds : List (Field τ)}

theorem Field.find?_checks (pairs : List.Forall₂ (Field.Checks check) raws checkeds)
    (name : String) :
    Option.Rel (Field.Checks check) (raws.find? fun field => field.name == name)
      (checkeds.find? fun field => field.name == name) := by
  induction pairs with
  | nil => exact Option.Rel.none
  | @cons raw checked raws checkeds pair _ ih =>
      rw [List.find?_cons, List.find?_cons, pair.name]
      cases raw.name == name with
      | true => exact Option.Rel.some pair
      | false => exact ih

variable {s s' : σ} {t t' : τ}

/-- One member is read and checked at once exactly if it is read and passes the check then. -/
theorem readMember_checked_iff (pairs : List.Forall₂ (Field.Checks check) raws checkeds)
    (checks : check s = .ok t) {member : Draft × Draft} :
    readMember checkeds t member = .ok t' ↔
      ∃ s', readMember raws s member = .ok s' ∧ check s' = .ok t' := by
  obtain ⟨name, value⟩ := member
  unfold readMember
  dsimp only
  split
  · next name =>
    have found := Field.find?_checks pairs name
    revert found
    generalize raws.find? _ = raw, checkeds.find? _ = checked
    rintro (pair | _)
    · dsimp only
      rw [pair.isSet checks]
      split
      · simp
      · exact pair.read checks
    · cases value.isComplete <;> simp [checks]
  · simp

theorem readMember_unread (pairs : List.Forall₂ (Field.Checks check) raws checkeds)
    {member : Draft × Draft} (step : readMember raws s member = .ok s')
    (checks : check s' = .ok t') : ∃ t, check s = .ok t := by
  obtain ⟨name, value⟩ := member
  unfold readMember at step
  dsimp only at step
  split at step
  · next name =>
    have found := Field.find?_checks pairs name
    revert found step
    generalize raws.find? _ = raw, checkeds.find? _ = checked
    rintro step (pair | _)
    · dsimp only at step
      split at step
      · cases step
      · next empty => exact pair.unread ((Bool.eq_false_iff.mpr empty)) step checks
    · dsimp only at step
      split at step
      · cases step
        exact ⟨t', checks⟩
      · cases step
  · cases step

theorem readMembers_unread (pairs : List.Forall₂ (Field.Checks check) raws checkeds)
    {members : List (Draft × Draft)} (read : members.foldlM (readMember raws) s = .ok s')
    (checks : check s' = .ok t') : ∃ t, check s = .ok t := by
  induction members generalizing s with
  | nil =>
      cases read
      exact ⟨t', checks⟩
  | cons member rest ih =>
      obtain ⟨next, step, others⟩ := Except.bind_eq_ok_iff.mp read
      obtain ⟨_, passed⟩ := ih others
      exact readMember_unread pairs step passed

theorem readMembers_checked_iff (pairs : List.Forall₂ (Field.Checks check) raws checkeds)
    (checks : check s = .ok t) {members : List (Draft × Draft)} :
    members.foldlM (readMember checkeds) t = .ok t' ↔
      ∃ s', members.foldlM (readMember raws) s = .ok s' ∧ check s' = .ok t' := by
  induction members generalizing s t with
  | nil =>
      constructor
      · rintro same
        cases same
        exact ⟨s, rfl, checks⟩
      · rintro ⟨s', same, checks'⟩
        cases same
        exact checks.symm.trans checks'
  | cons member rest ih =>
      simp only [List.foldlM_cons, Except.bind_eq_ok_iff]
      constructor
      · rintro ⟨next, step, others⟩
        obtain ⟨raw, rawStep, passed⟩ := (readMember_checked_iff pairs checks).mp step
        obtain ⟨s', rawOthers, checks'⟩ := (ih passed).mp others
        exact ⟨s', ⟨raw, rawStep, rawOthers⟩, checks'⟩
      · rintro ⟨s', ⟨raw, rawStep, rawOthers⟩, checks'⟩
        -- the last state passes the check, so the one after the first member does
        obtain ⟨next, passed⟩ := readMembers_unread pairs rawOthers checks'
        have step := (readMember_checked_iff pairs checks).mpr ⟨raw, rawStep, passed⟩
        exact ⟨next, step, (ih passed).mpr ⟨s', rawOthers, checks'⟩⟩

def Field.Spares (field other : Field σ) : Prop :=
  ∀ s d s', field.read s d = .ok s' → other.isSet s' = other.isSet s

theorem unset_of_spares {raw : Field σ} {d : Draft} (spared : ∀ other ∈ raws, raw.Spares other)
    (unset : ∀ other ∈ raws, other.isSet s = false) (read : raw.read s d = .ok s') :
    ∀ other ∈ raws, other.isSet s' = false :=
  fun other listed => (spared other listed s d s' read).trans (unset other listed)

theorem readPositions_unread (pairs : List.Forall₂ (Field.Checks check) raws checkeds)
    (spared : raws.Pairwise Field.Spares) (unset : ∀ raw ∈ raws, raw.isSet s = false)
    {closed : Bool} {items : List Draft} (read : readPositions closed raws s items = .ok s')
    (checks : check s' = .ok t') : ∃ t, check s = .ok t := by
  induction pairs generalizing s items with
  | nil =>
      cases items with
      | nil =>
          rw [readPositions] at read
          split at read <;> cases read
          exact ⟨t', checks⟩
      | cons item rest => cases read
  | @cons raw _ raws _ pair _ ih =>
      obtain ⟨before, later⟩ := List.pairwise_cons.mp spared
      obtain ⟨here, behind⟩ := List.forall_mem_cons.mp unset
      cases items with
      | nil =>
          rw [readPositions] at read
          split at read
          · cases read
          · split at read
            · cases read
            · exact ih later behind read
      | cons item rest =>
          obtain ⟨next, step, others⟩ := Except.bind_eq_ok_iff.mp read
          obtain ⟨_, passed⟩ := ih later (unset_of_spares before behind step) others
          exact pair.unread here step passed

theorem readPositions_checked_iff (pairs : List.Forall₂ (Field.Checks check) raws checkeds)
    (spared : raws.Pairwise Field.Spares) (unset : ∀ raw ∈ raws, raw.isSet s = false)
    (checks : check s = .ok t) {closed : Bool} {items : List Draft} :
    readPositions closed checkeds t items = .ok t' ↔
      ∃ s', readPositions closed raws s items = .ok s' ∧ check s' = .ok t' := by
  induction pairs generalizing s t items with
  | nil => cases items <;> cases closed <;> simp [readPositions, checks]
  | @cons raw checked raws checkeds pair pairs ih =>
      obtain ⟨before, later⟩ := List.pairwise_cons.mp spared
      obtain ⟨here, behind⟩ := List.forall_mem_cons.mp unset
      cases items with
      | nil =>
          rw [readPositions, readPositions, pair.required]
          split
          · simp
          · split
            · simp
            · exact ih later behind checks
      | cons item rest =>
          simp only [readPositions, Except.bind_eq_ok_iff]
          constructor
          · rintro ⟨next, step, others⟩
            obtain ⟨rawNext, rawStep, passed⟩ := (pair.read checks).mp step
            have unset' := unset_of_spares before behind rawStep
            obtain ⟨s', rawOthers, checks'⟩ := (ih later unset' passed).mp others
            exact ⟨s', ⟨rawNext, rawStep, rawOthers⟩, checks'⟩
          · rintro ⟨s', ⟨rawNext, rawStep, rawOthers⟩, checks'⟩
            have unset' := unset_of_spares before behind rawStep
            obtain ⟨next, passed⟩ := readPositions_unread pairs later unset' rawOthers checks'
            have step := (pair.read checks).mpr ⟨rawNext, rawStep, passed⟩
            exact ⟨next, step, (ih later unset' passed).mpr ⟨s', rawOthers, checks'⟩⟩

/-- A record whose fields are checked as they are read is one that is read and then checked. -/
theorem readRecord_checked_iff (pairs : List.Forall₂ (Field.Checks check) raws checkeds)
    (spared : raws.Pairwise Field.Spares) (unset : ∀ raw ∈ raws, raw.isSet s = false)
    (checks : check s = .ok t) {d : Draft} :
    readRecord checkeds t .ok d = .ok t' ↔
      ∃ s', readRecord raws s .ok d = .ok s' ∧ check s' = .ok t' := by
  cases d with
  | object members closed =>
      cases closed with
      | true => simpa [readRecord, Except.bind_eq_ok_iff] using readMembers_checked_iff pairs checks
      | false => simp [readRecord, Except.bind_eq_ok_iff]
  | array items closed =>
      simpa [readRecord, Except.bind_eq_ok_iff] using
        readPositions_checked_iff pairs spared unset checks
  | _ => simp [readRecord]

end Records

end RowConduit.Json
