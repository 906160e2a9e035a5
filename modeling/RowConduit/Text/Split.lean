/-!
# Cutting a text

Cuts at a character: all the pieces between the separators, or the two sides of the first one.
-/

namespace RowConduit.Text

def pieces (separates : Char → Bool) : List Char → List (List Char)
  | [] => [[]]
  | c :: rest =>
      if separates c then
        [] :: pieces separates rest
      else
        match pieces separates rest with
        | [] => [[c]]
        | piece :: others => (c :: piece) :: others

def cutAt? (separates : Char → Bool) : List Char → Option (List Char × List Char)
  | [] => none
  | c :: rest =>
      if separates c then
        some ([], rest)
      else
        (cutAt? separates rest).map fun sides => (c :: sides.1, sides.2)

def dropStart? : List Char → List Char → Option (List Char)
  | [], cs => some cs
  | _ :: _, [] => none
  | b :: beginning, c :: cs => if b = c then dropStart? beginning cs else none

def dropEnd? (ending cs : List Char) : Option (List Char) :=
  (dropStart? ending.reverse cs.reverse).map List.reverse

theorem pieces_ne_nil (separates : Char → Bool) (cs : List Char) : pieces separates cs ≠ [] := by
  cases cs with
  | nil => simp [pieces]
  | cons c rest =>
      unfold pieces
      split
      · simp
      · split <;> simp

theorem pieces_of_free {separates : Char → Bool} {cs : List Char}
    (free : ∀ c ∈ cs, separates c = false) : pieces separates cs = [cs] := by
  induction cs with
  | nil => rfl
  | cons c rest ih =>
      have first := free c List.mem_cons_self
      have later := ih fun d member => free d (List.mem_cons_of_mem c member)
      simp [pieces, first, later]

theorem pieces_append_cons {separates : Char → Bool} {front : List Char} {c : Char}
    (free : ∀ d ∈ front, separates d = false) (separator : separates c = true)
    (back : List Char) :
    pieces separates (front ++ c :: back) = front :: pieces separates back := by
  induction front with
  | nil => rw [List.nil_append, pieces, if_pos separator]
  | cons d front ih =>
      have first := free d List.mem_cons_self
      have later := ih fun e member => free e (List.mem_cons_of_mem d member)
      simp [pieces, first, later]

theorem cutAt?_eq_none_iff {separates : Char → Bool} {cs : List Char} :
    cutAt? separates cs = none ↔ ∀ c ∈ cs, separates c = false := by
  induction cs with
  | nil => simp [cutAt?]
  | cons c rest ih =>
      unfold cutAt?
      by_cases h : separates c = true
      · simp [h]
      · simp [h, ih]

theorem cutAt?_append_of_free {separates : Char → Bool} {front : List Char}
    (free : ∀ c ∈ front, separates c = false) (cs : List Char) :
    cutAt? separates (front ++ cs) =
      (cutAt? separates cs).map fun sides => (front ++ sides.1, sides.2) := by
  induction front with
  | nil => simp
  | cons c front ih =>
      have first := free c List.mem_cons_self
      have rest := ih fun d later => free d (List.mem_cons_of_mem c later)
      rw [List.cons_append, cutAt?, first, rest]
      simp [Function.comp_def]

theorem cutAt?_append_cons {separates : Char → Bool} {before : List Char} {c : Char}
    (free : ∀ d ∈ before, separates d = false) (separator : separates c = true)
    (after : List Char) : cutAt? separates (before ++ c :: after) = some (before, after) := by
  rw [cutAt?_append_of_free free, cutAt?, if_pos separator, Option.map_some, List.append_nil]

theorem cutAt?_append_of_some {separates : Char → Bool} {cs before after : List Char}
    (cut : cutAt? separates cs = some (before, after)) (back : List Char) :
    cutAt? separates (cs ++ back) = some (before, after ++ back) := by
  induction cs generalizing before with
  | nil => cases cut
  | cons c rest ih =>
      rw [List.cons_append]
      unfold cutAt? at cut ⊢
      split at cut
      · next separator =>
          cases cut
          rw [if_pos separator]
      · next other =>
          obtain ⟨sides, found, same⟩ := Option.map_eq_some_iff.mp cut
          cases same
          rw [if_neg other, ih found, Option.map_some]

/-- A text that is cut has a separator between its two sides, and the first side has none. -/
theorem eq_append_of_cutAt? {separates : Char → Bool} {cs before after : List Char}
    (cut : cutAt? separates cs = some (before, after)) :
    (∀ c ∈ before, separates c = false) ∧
      ∃ c, separates c = true ∧ cs = before ++ c :: after := by
  induction cs generalizing before with
  | nil => cases cut
  | cons d rest ih =>
      unfold cutAt? at cut
      split at cut
      · next separator =>
          cases cut
          exact ⟨nofun, d, separator, rfl⟩
      · next other =>
          obtain ⟨sides, found, same⟩ := Option.map_eq_some_iff.mp cut
          cases same
          obtain ⟨free, c, separator, shape⟩ := ih found
          refine ⟨?_, c, separator, by rw [shape, List.cons_append]⟩
          exact List.forall_mem_cons.mpr ⟨by simpa using other, free⟩

theorem free_mark_iff {mark : Char} {cs : List Char} :
    (∀ c ∈ cs, decide (c = mark) = false) ↔ mark ∉ cs := by
  constructor
  · intro free listed
    exact of_decide_eq_false (free mark listed) rfl
  · intro absent c listed
    apply decide_eq_false
    rintro rfl
    exact absent listed

theorem cutAt?_mark_eq_none_iff {mark : Char} {cs : List Char} :
    cutAt? (· = mark) cs = none ↔ mark ∉ cs :=
  cutAt?_eq_none_iff.trans free_mark_iff

/-- A text that is cut at a mark is cut where the mark stands first. -/
theorem cutAt?_mark_eq_some_iff {mark : Char} {cs before after : List Char} :
    cutAt? (· = mark) cs = some (before, after) ↔
      mark ∉ before ∧ cs = before ++ mark :: after := by
  constructor
  · intro cut
    obtain ⟨free, c, separator, shape⟩ := eq_append_of_cutAt? cut
    have same : c = mark := of_decide_eq_true separator
    subst same
    exact ⟨free_mark_iff.mp free, shape⟩
  · rintro ⟨absent, rfl⟩
    exact cutAt?_append_cons (free_mark_iff.mpr absent) (decide_eq_true rfl) after

theorem dropStart?_append (beginning rest : List Char) :
    dropStart? beginning (beginning ++ rest) = some rest := by
  induction beginning with
  | nil => simp [dropStart?]
  | cons b beginning ih => simp [dropStart?, ih]

theorem dropEnd?_append (cs ending : List Char) : dropEnd? ending (cs ++ ending) = some cs := by
  rw [dropEnd?, List.reverse_append, dropStart?_append, Option.map_some, List.reverse_reverse]

theorem dropEnd?_concat_of_ne {c d : Char} (other : d ≠ c) (ending cs : List Char) :
    dropEnd? (ending ++ [d]) (cs ++ [c]) = none := by
  simp [dropEnd?, dropStart?, other]

theorem dropStart?_append_beginning (first second cs : List Char) :
    dropStart? (first ++ second) cs = (dropStart? first cs).bind (dropStart? second) := by
  induction first generalizing cs with
  | nil => simp [dropStart?]
  | cons b first ih =>
      cases cs with
      | nil => simp [dropStart?]
      | cons c cs => by_cases same : b = c <;> simp [dropStart?, same, ih]

theorem dropEnd?_append_ending (first second cs : List Char) :
    dropEnd? (first ++ second) cs = (dropEnd? second cs).bind (dropEnd? first) := by
  simp only [dropEnd?, List.reverse_append, dropStart?_append_beginning]
  cases dropStart? second.reverse cs.reverse with
  | none => simp
  | some rest => simp [dropEnd?]

theorem eq_append_of_dropStart? {beginning cs rest : List Char}
    (dropped : dropStart? beginning cs = some rest) : cs = beginning ++ rest := by
  induction beginning generalizing cs with
  | nil =>
      simp only [dropStart?, Option.some.injEq] at dropped
      simp [dropped]
  | cons b beginning ih =>
      cases cs with
      | nil => simp [dropStart?] at dropped
      | cons c cs =>
          simp only [dropStart?] at dropped
          split at dropped
          · next same => simp [same, ih dropped]
          · simp at dropped

theorem eq_append_of_dropEnd? {ending cs rest : List Char}
    (dropped : dropEnd? ending cs = some rest) : cs = rest ++ ending := by
  obtain ⟨reversed, found, rfl⟩ := Option.map_eq_some_iff.mp dropped
  have shape := congrArg List.reverse (eq_append_of_dropStart? found)
  simpa using shape

theorem getLast?_of_dropEnd? {c : Char} {cs rest : List Char}
    (dropped : dropEnd? [c] cs = some rest) : cs.getLast? = some c := by
  rw [eq_append_of_dropEnd? dropped, List.getLast?_concat]

end RowConduit.Text
