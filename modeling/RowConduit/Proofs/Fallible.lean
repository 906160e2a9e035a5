import Mathlib.Data.List.Forall2

/-!
# Steps that may fail

When a step followed by another succeeds, and when a step taken on every item of a list does.
-/

namespace RowConduit

variable {ε ε' α β : Type}

theorem bind_of_eq_some {first : Option α} {next : α → Option β} {a : α}
    (taken : first = some a) : (first >>= next) = next a := by
  rw [taken]
  rfl

theorem exists_of_mem_right {r : α → β → Prop} {items : List α} {results : List β} {result : β}
    (related : List.Forall₂ r items results) (member : result ∈ results) :
    ∃ item ∈ items, r item result := by
  induction related with
  | nil => cases member
  | cons head rest ih =>
      rcases List.mem_cons.mp member with rfl | later
      · exact ⟨_, List.mem_cons_self, head⟩
      · obtain ⟨item, listed, step⟩ := ih later
        exact ⟨item, List.mem_cons_of_mem _ listed, step⟩

theorem exists_of_mem_left {r : α → β → Prop} {items : List α} {results : List β} {item : α}
    (related : List.Forall₂ r items results) (member : item ∈ items) :
    ∃ result ∈ results, r item result :=
  exists_of_mem_right related.flip member

/-- A listed item that is taken to a result and back again passes through one place. -/
theorem exists_of_mem_both {r : α → β → Prop} {s : β → α → Prop} {items : List α}
    {results : List β} {item : α} (there : List.Forall₂ r items results)
    (back : List.Forall₂ s results items) (member : item ∈ items) :
    ∃ result, r item result ∧ s result item := by
  induction there with
  | nil => cases member
  | cons head rest ih =>
      cases back with
      | cons headBack restBack =>
          rcases List.mem_cons.mp member with rfl | later
          · exact ⟨_, head, headBack⟩
          · exact ih restBack later

theorem exists_of_getElem? {r : α → β → Prop} {items : List α} {results : List β} {i : Nat}
    {item : α} (related : List.Forall₂ r items results) (listed : items[i]? = some item) :
    ∃ result, results[i]? = some result ∧ r item result := by
  induction related generalizing i with
  | nil => cases listed
  | cons head rest ih =>
      cases i with
      | zero =>
          cases listed
          exact ⟨_, rfl, head⟩
      | succ i => exact ih listed

theorem forall₂_of_mem {r s : α → β → Prop} {items : List α} {results : List β}
    (related : List.Forall₂ r items results)
    (step : ∀ item ∈ items, ∀ result ∈ results, r item result → s item result) :
    List.Forall₂ s items results := by
  induction related with
  | nil => exact List.Forall₂.nil
  | cons head rest ih =>
      refine List.Forall₂.cons (step _ List.mem_cons_self _ List.mem_cons_self head) ?_
      exact ih fun item listed result found =>
        step item (List.mem_cons_of_mem _ listed) result (List.mem_cons_of_mem _ found)

/-- Items are related to results in order exactly if each of them is related to one. -/
theorem exists_forall₂_iff {r : α → β → Prop} {items : List α} :
    (∃ results, List.Forall₂ r items results) ↔ ∀ item ∈ items, ∃ result, r item result := by
  induction items with
  | nil => simp
  | cons item rest ih => simp [List.forall₂_cons_left_iff, ← ih]

/-- What related items and results have in common makes the same list. -/
theorem map_eq_of_forall₂ {γ : Type} {f : α → γ} {g : β → γ} {r : α → β → Prop}
    {items : List α} {results : List β} (related : List.Forall₂ r items results)
    (same : ∀ item result, r item result → g result = f item) :
    results.map g = items.map f := by
  induction related with
  | nil => rfl
  | cons head rest ih => rw [List.map_cons, List.map_cons, same _ _ head, ih]

theorem Except.ok_bind (a : α) (next : α → Except ε β) : (Except.ok a >>= next) = next a :=
  rfl

theorem Except.bind_eq_ok_iff {first : Except ε α} {next : α → Except ε β} {b : β} :
    (first >>= next) = .ok b ↔ ∃ a, first = .ok a ∧ next a = .ok b := by
  cases first <;> simp [Bind.bind, Except.bind]

/-- Two steps whose results are paired both succeed if the pair is made. -/
theorem Except.pair_eq_ok_iff {first : Except ε α} {second : Except ε β} {p : α × β} :
    (first >>= fun a => second >>= fun b => pure (a, b)) = .ok p ↔
      first = .ok p.1 ∧ second = .ok p.2 := by
  rw [Except.bind_eq_ok_iff]
  constructor
  · rintro ⟨a, firstStep, rest⟩
    obtain ⟨b, secondStep, joined⟩ := Except.bind_eq_ok_iff.mp rest
    cases joined
    exact ⟨firstStep, secondStep⟩
  · rintro ⟨firstStep, secondStep⟩
    exact ⟨p.1, firstStep, Except.bind_eq_ok_iff.mpr ⟨p.2, secondStep, rfl⟩⟩

theorem Except.map_eq_ok_iff {first : Except ε α} {f : α → β} {b : β} :
    first.map f = .ok b ↔ ∃ a, first = .ok a ∧ f a = b := by
  cases first <;> simp [Except.map]

theorem Except.mapError_eq_ok_iff {first : Except ε α} {f : ε → ε'} {a : α} :
    first.mapError f = .ok a ↔ first = .ok a := by
  cases first <;> simp [Except.mapError]

theorem Except.mapError_eq_error_iff {first : Except ε α} {f : ε → ε'} {e : ε'} :
    first.mapError f = .error e ↔ ∃ cause, first = .error cause ∧ f cause = e := by
  cases first <;> simp [Except.mapError]

/-- A step succeeds on a whole list if it succeeds on every item; the results stand in order. -/
theorem Except.mapM_eq_ok_iff {step : α → Except ε β} {items : List α} {results : List β} :
    items.mapM step = .ok results ↔
      List.Forall₂ (fun item result => step item = .ok result) items results := by
  induction items generalizing results with
  | nil => cases results <;> simp [pure, Except.pure]
  | cons item rest ih =>
      rw [List.mapM_cons, Except.bind_eq_ok_iff, List.forall₂_cons_left_iff]
      constructor
      · rintro ⟨result, first, others⟩
        rw [Except.bind_eq_ok_iff] at others
        obtain ⟨tail, later, joined⟩ := others
        cases joined
        exact ⟨result, tail, first, ih.mp later, rfl⟩
      · rintro ⟨result, tail, first, later, rfl⟩
        refine ⟨result, first, ?_⟩
        rw [Except.bind_eq_ok_iff]
        exact ⟨tail, ih.mpr later, rfl⟩

/-- Two steps taken in turn on each item of a list may be taken on the whole list one by one. -/
theorem Except.mapM_bind_eq_ok_iff {γ : Type} {first : α → Except ε β} {second : β → Except ε γ}
    {items : List α} {results : List γ} :
    (items.mapM fun item => first item >>= second) = .ok results ↔
      ∃ between, items.mapM first = .ok between ∧ between.mapM second = .ok results := by
  simp only [Except.mapM_eq_ok_iff]
  constructor
  · intro both
    induction both with
    | nil => exact ⟨[], .nil, .nil⟩
    | cons taken _ ih =>
        obtain ⟨middle, head, next⟩ := Except.bind_eq_ok_iff.mp taken
        obtain ⟨between, firsts, seconds⟩ := ih
        exact ⟨middle :: between, .cons head firsts, .cons next seconds⟩
  · rintro ⟨between, firsts, seconds⟩
    induction firsts generalizing results with
    | nil =>
        cases seconds
        exact .nil
    | cons head _ ih =>
        cases seconds with
        | cons next seconds =>
            exact .cons (Except.bind_eq_ok_iff.mpr ⟨_, head, next⟩) (ih seconds)

/-- A step can be taken on every item of a list exactly if the whole list can be gone through. -/
theorem Except.exists_mapM_eq_ok_iff {step : α → Except ε β} {items : List α} :
    (∃ results, items.mapM step = .ok results) ↔
      ∀ item ∈ items, ∃ result, step item = .ok result := by
  simp only [Except.mapM_eq_ok_iff]
  exact exists_forall₂_iff

theorem Except.bind_eq_error_iff {first : Except ε α} {next : α → Except ε β} {e : ε} :
    (first >>= next) = .error e ↔
      first = .error e ∨ ∃ a, first = .ok a ∧ next a = .error e := by
  cases first <;> simp [Bind.bind, Except.bind]

/-- Going through a list fails with the error of the first item on which the step fails. -/
theorem Except.mapM_eq_error_iff {step : α → Except ε β} {items : List α} {e : ε} :
    items.mapM step = .error e ↔
      ∃ before item after, items = before ++ item :: after ∧
        (∀ earlier ∈ before, ∃ result, step earlier = .ok result) ∧ step item = .error e := by
  induction items with
  | nil => simp [pure, Except.pure]
  | cons first rest ih =>
      have later : ∀ result, (rest.mapM step >>= fun results => pure (result :: results)) =
          .error e ↔ rest.mapM step = .error e := by
        intro result
        simp [Except.bind_eq_error_iff, pure, Except.pure]
      rw [List.mapM_cons, Except.bind_eq_error_iff]
      simp only [later, ih]
      constructor
      · rintro (bad | ⟨result, taken, before, item, after, rfl, good, bad⟩)
        · exact ⟨[], first, rest, rfl, nofun, bad⟩
        · have both := List.forall_mem_cons.mpr ⟨⟨result, taken⟩, good⟩
          exact ⟨first :: before, item, after, rfl, both, bad⟩
      · rintro ⟨before, item, after, split, good, bad⟩
        cases before with
        | nil =>
            cases split
            exact Or.inl bad
        | cons earlier before =>
            cases split
            obtain ⟨⟨result, taken⟩, others⟩ := List.forall_mem_cons.mp good
            exact Or.inr ⟨result, taken, before, item, after, rfl, others, bad⟩

theorem Except.mapM_mapError (step : α → Except ε β) (rename : ε → ε') (items : List α) :
    (items.mapM fun item => (step item).mapError rename) =
      (items.mapM step).mapError rename := by
  induction items with
  | nil => rfl
  | cons item rest ih =>
      rw [List.mapM_cons, List.mapM_cons, ih]
      cases step item with
      | error e => rfl
      | ok result => cases List.mapM step rest <;> rfl

end RowConduit
