import Mathlib
import RowConduit.Proofs.Text.Trim
import RowConduit.Text.Split

/-!
# Words and spelling

The words of a text are what is left of it without blanks.  The canonical spelling of a text is in
lower case, with one space for each run of blanks and none at the ends: its words with spaces between
them.

A text is respelled from left to right, and all that its beginning tells about the rest is whether
the rest comes behind a blank.  Trimming and cutting give the same parts whether the text or its
parts are respelled, as long as the cuts are at characters that are neither blanks nor letters.
-/

namespace RowConduit.Text

section Words

theorem wordsFrom_of_allBlank {cs : List Char} (blank : AllBlank cs) (pending : List Char) :
    wordsFrom pending cs = wordsFrom pending [] := by
  induction cs generalizing pending with
  | nil => rfl
  | cons c rest ih =>
      have first := blank c List.mem_cons_self
      have later := ih fun d member => blank d (List.mem_cons_of_mem c member)
      rw [wordsFrom.eq_2, if_pos first, later []]
      cases pending <;> rfl

theorem wordsFrom_append_of_allBlank (pending cs : List Char) {back : List Char}
    (blank : AllBlank back) : wordsFrom pending (cs ++ back) = wordsFrom pending cs := by
  induction cs generalizing pending with
  | nil => exact wordsFrom_of_allBlank blank pending
  | cons c rest ih => rw [List.cons_append, wordsFrom, wordsFrom, ih, ih]

theorem words_append_of_allBlank {front : List Char} (blank : AllBlank front) (cs : List Char) :
    words (front ++ cs) = words cs := by
  induction front with
  | nil => rfl
  | cons c front ih =>
      have first := blank c List.mem_cons_self
      have later := ih fun d member => blank d (List.mem_cons_of_mem c member)
      rw [words] at later
      rw [words, List.cons_append, wordsFrom, if_pos first, List.isEmpty_nil, if_pos rfl, later]

theorem words_padded {before after : List Char} (first : AllBlank before) (last : AllBlank after)
    (cs : List Char) : words (before ++ (cs ++ after)) = words cs := by
  rw [words_append_of_allBlank first, words, wordsFrom_append_of_allBlank [] cs last, words]

theorem wordsFrom_of_visible {cs : List Char} (visible : Visible cs) (pending : List Char) :
    wordsFrom pending cs = wordsFrom (cs.reverse ++ pending) [] := by
  induction cs generalizing pending with
  | nil => rfl
  | cons c rest ih =>
      have first := visible c List.mem_cons_self
      have later := ih fun d member => visible d (List.mem_cons_of_mem c member)
      rw [wordsFrom.eq_2, first, if_neg (by decide), later, List.reverse_cons, List.append_assoc,
        List.singleton_append]

theorem words_of_visible {cs : List Char} (visible : Visible cs) (some : cs ≠ []) :
    words cs = [cs] := by
  have written : cs.reverse.isEmpty = false := by simpa using some
  rw [words, wordsFrom_of_visible visible, List.append_nil, wordsFrom, written,
    if_neg (by decide), List.reverse_reverse]

end Words

section Letters

theorem isAlpha_of_isUpper {c : Char} (upper : c.isUpper = true) : c.isAlpha = true := by
  rw [Char.isAlpha, upper, Bool.true_or]

theorem toLower_of_isBlank {c : Char} (blank : isBlank c = true) : c.toLower = c := by
  apply Char.toLower_eq_of_not_isUpper
  intro upper
  rw [isBlank_of_isAlpha (isAlpha_of_isUpper upper)] at blank
  cases blank

theorem isBlank_toLower (c : Char) : isBlank c.toLower = isBlank c := by
  by_cases upper : c.isUpper = true
  · have alpha := isAlpha_of_isUpper upper
    rw [isBlank_of_isAlpha alpha, isBlank_of_isAlpha]
    rw [Char.isAlpha_toLower_eq_isAlpha]
    exact alpha
  · rw [Char.toLower_eq_of_not_isUpper upper]

theorem toLower_eq_iff {mark : Char} (letterless : mark.isAlpha = false) (c : Char) :
    c.toLower = mark ↔ c = mark := by
  by_cases upper : c.isUpper = true
  · have alpha := isAlpha_of_isUpper upper
    constructor
    · rintro rfl
      rw [Char.isAlpha_toLower_eq_isAlpha, alpha] at letterless
      cases letterless
    · rintro rfl
      rw [alpha] at letterless
      cases letterless
  · rw [Char.toLower_eq_of_not_isUpper upper]

theorem AllBlank.map_toLower {cs : List Char} (blank : AllBlank cs) :
    AllBlank (cs.map Char.toLower) := by
  intro c member
  obtain ⟨d, listed, rfl⟩ := List.mem_map.mp member
  rw [isBlank_toLower]
  exact blank d listed

theorem visible_map_toLower_iff {cs : List Char} : Visible (cs.map Char.toLower) ↔ Visible cs := by
  simp [Visible, isBlank_toLower]

theorem map_toLower_eq_iff {cs marks : List Char} (letterless : ∀ c ∈ marks, c.isAlpha = false) :
    cs.map Char.toLower = marks ↔ cs = marks := by
  induction marks generalizing cs with
  | nil => exact List.map_eq_nil_iff
  | cons mark marks ih =>
      have first := toLower_eq_iff (letterless mark List.mem_cons_self)
      have later (ds : List Char) : ds.map Char.toLower = marks ↔ ds = marks :=
        ih fun c listed => letterless c (List.mem_cons_of_mem mark listed)
      cases cs with
      | nil => simp
      | cons c rest => simp [first, later]

end Letters

/-- One space for each run of blanks; `spaced` says that the text comes behind a blank. -/
def collapse (spaced : Bool) : List Char → List Char
  | [] => []
  | c :: rest =>
      if isBlank c then
        if spaced then collapse true rest else ' ' :: collapse true rest
      else
        c :: collapse false rest

/-- The text in lower case, with one space for each run of blanks. -/
def respell (spaced : Bool) (cs : List Char) : List Char :=
  collapse spaced (cs.map Char.toLower)

/-- The canonical spelling of a text: in lower case, trimmed, with single spaces in it. -/
def canonical (cs : List Char) : List Char :=
  trim (respell false cs)

section Collapse

theorem isBlank_space : isBlank ' ' = true := by
  decide

theorem trimStart_collapse (spaced : Bool) (cs : List Char) :
    trimStart (collapse spaced cs) = collapse true cs := by
  induction cs generalizing spaced with
  | nil => rfl
  | cons c rest ih =>
      by_cases blank : isBlank c = true
      · have skipped : trimStart (' ' :: collapse true rest) = trimStart (collapse true rest) :=
          List.dropWhile_cons_of_pos isBlank_space
        cases spaced <;> simp [collapse, blank, skipped, ih]
      · have visible : isBlank c = false := by simpa using blank
        rw [collapse, if_neg blank, trimStart_cons_of_not_blank _ visible, collapse, if_neg blank]

theorem trimEnd_cons_of_visible {c : Char} (visible : isBlank c = false) (rest : List Char) :
    trimEnd (c :: rest) = c :: trimEnd rest :=
  trimEnd_append_cons visible [] rest

theorem trimEnd_cons_of_not_allBlank (c : Char) {rest : List Char} (solid : ¬ AllBlank rest) :
    trimEnd (c :: rest) = c :: trimEnd rest := by
  have left : rest.reverse.dropWhile isBlank ≠ [] := by
    rw [← trimEnd_eq_nil_iff, trimEnd, List.reverse_eq_nil_iff] at solid
    exact solid
  rw [trimEnd, List.reverse_cons, List.dropWhile_append]
  simp [left, trimEnd]

theorem allBlank_cons_iff {c : Char} {rest : List Char} :
    AllBlank (c :: rest) ↔ isBlank c = true ∧ AllBlank rest :=
  List.forall_mem_cons

theorem allBlank_collapse_iff {spaced : Bool} {cs : List Char} :
    AllBlank (collapse spaced cs) ↔ AllBlank cs := by
  induction cs generalizing spaced with
  | nil => rfl
  | cons c rest ih =>
      by_cases blank : isBlank c = true
      · cases spaced <;> simp [collapse, blank, allBlank_cons_iff, isBlank_space, ih]
      · simp [collapse, blank, allBlank_cons_iff]

theorem join_wordsFrom (pending cs : List Char) :
    join [' '] (wordsFrom pending cs) = pending.reverse ++ trimEnd (collapse pending.isEmpty cs) := by
  induction cs generalizing pending with
  | nil => cases pending <;> simp [wordsFrom, join, collapse, trimEnd_nil]
  | cons c rest ih =>
      by_cases blank : isBlank c = true
      · have later : join [' '] (wordsFrom [] rest) = trimEnd (collapse true rest) := ih []
        cases pending with
        | nil => simp [wordsFrom, collapse, blank, later]
        | cons d pending =>
            have front : wordsFrom (d :: pending) (c :: rest) =
                (d :: pending).reverse :: wordsFrom [] rest := by
              simp [wordsFrom, blank]
            have back : collapse (d :: pending).isEmpty (c :: rest) = ' ' :: collapse true rest := by
              simp [collapse, blank]
            rw [front, back]
            by_cases empty : AllBlank rest
            · have nothing : AllBlank (' ' :: collapse true rest) :=
                allBlank_cons_iff.mpr ⟨isBlank_space, allBlank_collapse_iff.mpr empty⟩
              rw [wordsFrom_of_allBlank empty, trimEnd_eq_nil_iff.mpr nothing, List.append_nil]
              rfl
            · have solid : ¬ AllBlank (collapse true rest) := by
                rw [allBlank_collapse_iff]
                exact empty
              have some : wordsFrom [] rest ≠ [] := by
                intro none
                rw [none] at later
                exact solid (trimEnd_eq_nil_iff.mp later.symm)
              obtain ⟨word, others, shape⟩ := List.exists_cons_of_ne_nil some
              rw [trimEnd_cons_of_not_allBlank ' ' solid, ← later, shape,
                join.eq_3 _ _ _ (List.cons_ne_nil word others), List.append_assoc]
              rfl
      · have visible : isBlank c = false := by simpa using blank
        have later := ih (c :: pending)
        rw [wordsFrom, if_neg blank, later, collapse, if_neg blank,
          trimEnd_cons_of_visible visible]
        simp

/-- The words of a text with spaces between them are the text, trimmed and with single spaces. -/
theorem join_words (cs : List Char) : join [' '] (words cs) = trim (collapse false cs) := by
  rw [words, join_wordsFrom, trim, trimStart_collapse]
  rfl

end Collapse

section Respell

theorem respell_nil (spaced : Bool) : respell spaced [] = [] :=
  rfl

theorem respell_cons_of_visible {c : Char} (visible : isBlank c = false) (spaced : Bool)
    (rest : List Char) : respell spaced (c :: rest) = c.toLower :: respell false rest := by
  simp [respell, collapse, isBlank_toLower, visible]

theorem respell_cons_of_isBlank {c : Char} (blank : isBlank c = true) (spaced : Bool)
    (rest : List Char) :
    respell spaced (c :: rest) =
      if spaced then respell true rest else ' ' :: respell true rest := by
  simp [respell, collapse, isBlank_toLower, blank]

theorem respell_ne_nil {cs : List Char} (some : cs ≠ []) : respell false cs ≠ [] := by
  obtain ⟨c, rest, rfl⟩ := List.exists_cons_of_ne_nil some
  by_cases blank : isBlank c = true
  · simp [respell_cons_of_isBlank blank]
  · have visible : isBlank c = false := by simpa using blank
    simp [respell_cons_of_visible visible]

theorem allBlank_respell_iff {spaced : Bool} {cs : List Char} :
    AllBlank (respell spaced cs) ↔ AllBlank cs := by
  rw [respell, allBlank_collapse_iff]
  simp [AllBlank, isBlank_toLower]

theorem respell_of_visible {cs : List Char} (visible : Visible cs) (spaced : Bool) :
    respell spaced cs = cs.map Char.toLower := by
  induction cs generalizing spaced with
  | nil => rfl
  | cons c rest ih =>
      have first := visible c List.mem_cons_self
      have later := ih fun d member => visible d (List.mem_cons_of_mem c member)
      rw [respell_cons_of_visible first, later, List.map_cons]

theorem visible_of_respell {cs : List Char} (visible : Visible (respell false cs)) :
    Visible cs := by
  induction cs with
  | nil => exact visible_nil
  | cons c rest ih =>
      by_cases blank : isBlank c = true
      · rw [respell_cons_of_isBlank blank] at visible
        have space := visible ' ' List.mem_cons_self
        rw [isBlank_space] at space
        cases space
      · have first : isBlank c = false := by simpa using blank
        rw [respell_cons_of_visible first] at visible
        exact Visible.cons first (ih fun d member => visible d (List.mem_cons_of_mem _ member))

/-- A text without blanks is the respelling of its spellings in any letter case. -/
theorem respell_eq_iff {cs word : List Char} (visible : Visible word) :
    respell false cs = word ↔ cs.map Char.toLower = word := by
  constructor
  · rintro rfl
    exact (respell_of_visible (visible_of_respell visible) false).symm
  · rintro rfl
    exact respell_of_visible (visible_map_toLower_iff.mp visible) false

theorem map_toLower_respell (spaced : Bool) (cs : List Char) :
    (respell spaced cs).map Char.toLower = respell spaced cs := by
  induction cs generalizing spaced with
  | nil => rfl
  | cons c rest ih =>
      by_cases blank : isBlank c = true
      · cases spaced <;> simp [respell_cons_of_isBlank blank, ih, toLower_of_isBlank isBlank_space]
      · have visible : isBlank c = false := by simpa using blank
        simp [respell_cons_of_visible visible, ih]

theorem trimStart_respell (spaced : Bool) (cs : List Char) :
    trimStart (respell spaced cs) = respell false (trimStart cs) := by
  induction cs generalizing spaced with
  | nil => rfl
  | cons c rest ih =>
      by_cases blank : isBlank c = true
      · have dropped : trimStart (c :: rest) = trimStart rest := List.dropWhile_cons_of_pos blank
        have skipped : trimStart (' ' :: respell true rest) = trimStart (respell true rest) :=
          List.dropWhile_cons_of_pos isBlank_space
        cases spaced <;> simp [respell_cons_of_isBlank blank, dropped, skipped, ih]
      · have visible : isBlank c = false := by simpa using blank
        have lowered : isBlank c.toLower = false := by rw [isBlank_toLower, visible]
        rw [respell_cons_of_visible visible, trimStart_cons_of_not_blank _ lowered,
          trimStart_cons_of_not_blank _ visible, respell_cons_of_visible visible]

theorem trimEnd_respell (spaced : Bool) (cs : List Char) :
    trimEnd (respell spaced cs) = respell spaced (trimEnd cs) := by
  induction cs generalizing spaced with
  | nil => rfl
  | cons c rest ih =>
      by_cases empty : AllBlank (c :: rest)
      · rw [trimEnd_eq_nil_iff.mpr empty, trimEnd_eq_nil_iff.mpr (allBlank_respell_iff.mpr empty),
          respell_nil]
      by_cases blank : isBlank c = true
      · have solid : ¬ AllBlank rest := fun all => empty (allBlank_cons_iff.mpr ⟨blank, all⟩)
        have respelled : ¬ AllBlank (respell true rest) := by
          rw [allBlank_respell_iff]
          exact solid
        cases spaced <;>
          simp [respell_cons_of_isBlank blank, trimEnd_cons_of_not_allBlank _ solid,
            trimEnd_cons_of_not_allBlank _ respelled, ih]
      · have visible : isBlank c = false := by simpa using blank
        have lowered : isBlank c.toLower = false := by rw [isBlank_toLower, visible]
        rw [respell_cons_of_visible visible, trimEnd_cons_of_visible lowered, ih,
          trimEnd_cons_of_visible visible, respell_cons_of_visible visible]

theorem trim_respell (spaced : Bool) (cs : List Char) :
    trim (respell spaced cs) = respell false (trim cs) := by
  rw [trim, trimStart_respell, trimEnd_respell, ← trim]

theorem mem_respell {cs : List Char} {c : Char} (listed : c ∈ cs) (visible : isBlank c = false)
    (spaced : Bool) : c.toLower ∈ respell spaced cs := by
  induction cs generalizing spaced with
  | nil => cases listed
  | cons d rest ih =>
      rcases List.mem_cons.mp listed with rfl | later
      · simp [respell_cons_of_visible visible]
      · by_cases blank : isBlank d = true
        · cases spaced <;> simp [respell_cons_of_isBlank blank, ih later]
        · have other : isBlank d = false := by simpa using blank
          simp [respell_cons_of_visible other, ih later]

/-- The visible characters of a text are in its canonical spelling, in lower case. -/
theorem mem_canonical {cs : List Char} {c : Char} (listed : c ∈ cs)
    (visible : isBlank c = false) : c.toLower ∈ canonical cs := by
  have kept := mem_respell listed visible false
  obtain ⟨before, after, first, last, whole⟩ := exists_padded_trim (respell false cs)
  have lowered : isBlank c.toLower = false := by rw [isBlank_toLower, visible]
  rw [← whole, List.mem_append, List.mem_append] at kept
  rcases kept with inBefore | inText | inAfter
  · exact absurd rfl (first.ne lowered _ inBefore)
  · exact inText
  · exact absurd rfl (last.ne lowered _ inAfter)

end Respell

section Appended

def visibleCount (cs : List Char) : Nat :=
  cs.countP fun c => !isBlank c

theorem visibleCount_cons_of_isBlank {c : Char} (blank : isBlank c = true) (rest : List Char) :
    visibleCount (c :: rest) = visibleCount rest := by
  simp [visibleCount, blank]

theorem visibleCount_cons_of_visible {c : Char} (visible : isBlank c = false) (rest : List Char) :
    visibleCount (c :: rest) = visibleCount rest + 1 := by
  simp [visibleCount, visible]

theorem visibleCount_append (front back : List Char) :
    visibleCount (front ++ back) = visibleCount front + visibleCount back :=
  List.countP_append

theorem visibleCount_eq_zero_iff {cs : List Char} : visibleCount cs = 0 ↔ AllBlank cs := by
  simp [visibleCount, List.countP_eq_zero, AllBlank]

theorem visibleCount_respell (spaced : Bool) (cs : List Char) :
    visibleCount (respell spaced cs) = visibleCount cs := by
  induction cs generalizing spaced with
  | nil => rfl
  | cons c rest ih =>
      by_cases blank : isBlank c = true
      · rw [respell_cons_of_isBlank blank, visibleCount_cons_of_isBlank blank]
        cases spaced with
        | true => exact ih true
        | false => exact (visibleCount_cons_of_isBlank isBlank_space _).trans (ih true)
      · have visible : isBlank c = false := by simpa using blank
        have lowered : isBlank c.toLower = false := by rw [isBlank_toLower, visible]
        rw [respell_cons_of_visible visible, visibleCount_cons_of_visible lowered, ih,
          visibleCount_cons_of_visible visible]

theorem visibleCount_canonical (cs : List Char) : visibleCount (canonical cs) = visibleCount cs := by
  obtain ⟨before, after, first, last, whole⟩ := exists_padded_trim (respell false cs)
  have all := visibleCount_respell false cs
  rw [← whole, visibleCount_append, visibleCount_append, visibleCount_eq_zero_iff.mpr first,
    visibleCount_eq_zero_iff.mpr last, Nat.zero_add, Nat.add_zero] at all
  exact all

theorem canonical_append_eq_iff {front back : List Char} :
    canonical (front ++ back) = canonical front ↔ AllBlank back := by
  constructor
  · intro same
    have counted := congrArg visibleCount same
    rw [visibleCount_canonical, visibleCount_canonical, visibleCount_append] at counted
    exact visibleCount_eq_zero_iff.mp (by omega)
  · intro blank
    have padded := trim_padded (List.forall_mem_nil _) blank front
    rw [List.nil_append] at padded
    rw [canonical, canonical, trim_respell, padded, trim_respell]

theorem respell_prefix (spaced : Bool) (front back : List Char) :
    respell spaced front <+: respell spaced (front ++ back) := by
  induction front generalizing spaced with
  | nil => exact List.nil_prefix
  | cons c front ih =>
      rw [List.cons_append]
      by_cases blank : isBlank c = true
      · rw [respell_cons_of_isBlank blank, respell_cons_of_isBlank blank]
        cases spaced with
        | true => exact ih true
        | false => exact List.cons_prefix_cons.mpr ⟨rfl, ih true⟩
      · have visible : isBlank c = false := by simpa using blank
        rw [respell_cons_of_visible visible, respell_cons_of_visible visible]
        exact List.cons_prefix_cons.mpr ⟨rfl, ih false⟩

theorem trim_prefix (front back : List Char) : trim front <+: trim (front ++ back) := by
  rcases List.eq_nil_or_concat (trim front) with empty | ⟨start, c, shape⟩
  · rw [empty]
    exact List.nil_prefix
  · obtain ⟨before, after, _, last, whole⟩ := exists_padded_trim front
    have visible : isBlank c = false := (trim_ends front).2 c (by simp [shape])
    have nothing : trimEnd after = [] := trimEnd_eq_nil_iff.mpr last
    have parts : front = (before ++ start) ++ c :: after := by
      rw [← whole, shape]
      simp
    -- The last visible character stays, and trimming goes on behind it.
    rw [parts, List.append_assoc _ _ back, List.cons_append, trim_append_cons visible,
      trim_append_cons visible, nothing]
    exact ⟨trimEnd (after ++ back), by simp⟩

theorem canonical_prefix (front back : List Char) :
    canonical front <+: canonical (front ++ back) := by
  rw [canonical, canonical, trim_respell, trim_respell]
  obtain ⟨others, whole⟩ := trim_prefix front back
  rw [← whole]
  exact respell_prefix false (trim front) others

end Appended

/-- Letter case makes no difference to which characters are chosen, and no blank is. -/
structure IgnoresSpelling (chosen : Char → Bool) : Prop where
  toLower : ∀ c, chosen c.toLower = chosen c
  blank : ∀ c, isBlank c = true → chosen c = false

theorem ignoresSpelling_mark {mark : Char} (letterless : mark.isAlpha = false)
    (visible : isBlank mark = false) : IgnoresSpelling (· = mark) where
  toLower c := by simp [toLower_eq_iff letterless]
  blank c blank := by
    apply decide_eq_false
    rintro rfl
    rw [blank] at visible
    cases visible

section Cuts

variable {separates : Char → Bool} (ignores : IgnoresSpelling separates)

include ignores in
theorem cutAt?_respell (spaced : Bool) (cs : List Char) :
    cutAt? separates (respell spaced cs) =
      (cutAt? separates cs).map fun sides => (respell spaced sides.1, respell false sides.2) := by
  induction cs generalizing spaced with
  | nil => rfl
  | cons c rest ih =>
      by_cases blank : isBlank c = true
      · have space := ignores.blank ' ' isBlank_space
        cases spaced <;>
          simp [respell_cons_of_isBlank blank, cutAt?, ignores.blank c blank, space, ih,
            Function.comp_def]
      · have visible : isBlank c = false := by simpa using blank
        rw [respell_cons_of_visible visible, cutAt?, cutAt?, ignores.toLower]
        by_cases separator : separates c = true
        · simp [separator, respell_nil]
        · simp [separator, ih, respell_cons_of_visible visible, Function.comp_def]

include ignores in
theorem pieces_respell (spaced : Bool) (cs : List Char) :
    pieces separates (respell spaced cs) =
      match pieces separates cs with
      | [] => []
      | first :: others => respell spaced first :: others.map (respell false) := by
  induction cs generalizing spaced with
  | nil => rfl
  | cons c rest ih =>
      obtain ⟨first, others, shape⟩ := List.exists_cons_of_ne_nil (pieces_ne_nil separates rest)
      simp only [shape] at ih
      by_cases blank : isBlank c = true
      · have space := ignores.blank ' ' isBlank_space
        cases spaced <;>
          simp [respell_cons_of_isBlank blank, pieces, ignores.blank c blank, space, ih, shape]
      · have visible : isBlank c = false := by simpa using blank
        rw [respell_cons_of_visible visible, pieces, pieces, ignores.toLower, ih, shape]
        by_cases separator : separates c = true
        · simp [separator, respell_nil]
        · simp [separator, respell_cons_of_visible visible]

end Cuts

section Endings

theorem dropEnd?_cons_of_ne_nil (mark c : Char) {rest : List Char} (some : rest ≠ []) :
    dropEnd? [mark] (c :: rest) = (dropEnd? [mark] rest).map (c :: ·) := by
  obtain ⟨front, last, rfl⟩ := rest.eq_nil_or_concat.resolve_left some
  by_cases same : mark = last <;> simp [dropEnd?, dropStart?, same]

theorem dropEnd?_cons_of_ne {mark c : Char} (other : c ≠ mark) (rest : List Char) :
    dropEnd? [mark] (c :: rest) = (dropEnd? [mark] rest).map (c :: ·) := by
  cases rest with
  | nil => simp [dropEnd?, dropStart?, other.symm]
  | cons d rest => exact dropEnd?_cons_of_ne_nil mark c (List.cons_ne_nil d rest)

theorem dropEnd?_self (mark : Char) : dropEnd? [mark] [mark] = some [] :=
  dropEnd?_append [] [mark]

variable {mark : Char} (letterless : mark.isAlpha = false) (marked : isBlank mark = false)

include letterless marked in
theorem dropEnd?_respell (spaced : Bool) (cs : List Char) :
    dropEnd? [mark] (respell spaced cs) = (dropEnd? [mark] cs).map (respell spaced) := by
  induction cs generalizing spaced with
  | nil => rfl
  | cons c rest ih =>
      by_cases blank : isBlank c = true
      · have other : c ≠ mark := by
          rintro rfl
          rw [blank] at marked
          cases marked
        have space : ' ' ≠ mark := by
          rintro rfl
          cases marked
        rw [dropEnd?_cons_of_ne other]
        cases spaced <;>
          simp [respell_cons_of_isBlank blank, dropEnd?_cons_of_ne space, ih, Function.comp_def]
      · have visible : isBlank c = false := by simpa using blank
        have front : respell spaced ∘ (c :: ·) = (c.toLower :: ·) ∘ respell false := by
          funext tail
          exact respell_cons_of_visible visible spaced tail
        rw [respell_cons_of_visible visible]
        by_cases empty : rest = []
        · subst empty
          by_cases same : c = mark
          · subst same
            rw [(toLower_eq_iff letterless c).mpr rfl, respell_nil, dropEnd?_self]
            rfl
          · have lowered : c.toLower ≠ mark := (toLower_eq_iff letterless c).not.mpr same
            rw [dropEnd?_cons_of_ne lowered, dropEnd?_cons_of_ne same, ih, Option.map_map,
              Option.map_map, front]
        · have some : respell false rest ≠ [] := respell_ne_nil empty
          rw [dropEnd?_cons_of_ne_nil mark _ some, dropEnd?_cons_of_ne_nil mark c empty, ih,
            Option.map_map, Option.map_map, front]

end Endings

end RowConduit.Text
