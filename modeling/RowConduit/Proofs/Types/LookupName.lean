import Mathlib
import RowConduit.Proofs.Text.Spelling
import RowConduit.Proofs.Types.TypeExpr

/-!
# The name of a scalar type

A scalar type is looked up under its words in lower case, without its parenthesised groups, which is
the canonical spelling of what is outside them.  Blanks at the ends of a text make no difference to
the name, nor does any other spelling.  Cutting a text at its first parenthesis makes none either,
unless something is left outside parentheses behind it.
-/

namespace RowConduit

open RowConduit.Text

section Outside

theorem mem_of_mem_outsideParentheses {depth : Nat} {cs : List Char} {c : Char}
    (member : c ∈ outsideParentheses depth cs) : c ∈ cs := by
  induction cs generalizing depth with
  | nil => cases member
  | cons d rest ih =>
      unfold outsideParentheses at member
      split at member
      · exact List.mem_cons_of_mem d (ih member)
      · split at member
        · exact List.mem_cons_of_mem d (ih member)
        · split at member
          · rcases List.mem_cons.mp member with rfl | later
            · exact List.mem_cons_self
            · exact List.mem_cons_of_mem d (ih later)
          · exact List.mem_cons_of_mem d (ih member)

theorem allBlank_outsideParentheses {cs : List Char} (blank : AllBlank cs) (depth : Nat) :
    AllBlank (outsideParentheses depth cs) :=
  fun c member => blank c (mem_of_mem_outsideParentheses member)

/-- What follows a text is read at the depth that the text leaves. -/
theorem exists_outsideParentheses_append (depth : Nat) (front back : List Char) :
    ∃ next, outsideParentheses depth (front ++ back) =
      outsideParentheses depth front ++ outsideParentheses next back := by
  induction front generalizing depth with
  | nil => exact ⟨depth, rfl⟩
  | cons c front ih =>
      rw [List.cons_append, outsideParentheses.eq_2, outsideParentheses.eq_2]
      split
      · exact ih (depth + 1)
      · split
        · exact ih (depth - 1)
        · split
          · obtain ⟨next, rest⟩ := ih depth
            exact ⟨next, by rw [rest, List.cons_append]⟩
          · exact ih depth

/-- A text that opens no parenthesis leaves the depth at zero, whatever it closes. -/
theorem outsideParentheses_append_of_unopened {front : List Char}
    (unopened : ∀ c ∈ front, c ≠ '(') (back : List Char) :
    outsideParentheses 0 (front ++ back) =
      outsideParentheses 0 front ++ outsideParentheses 0 back := by
  induction front with
  | nil => rfl
  | cons c front ih =>
      have first := unopened c List.mem_cons_self
      have later := ih fun d member => unopened d (List.mem_cons_of_mem c member)
      rw [List.cons_append, outsideParentheses, if_neg first, outsideParentheses, if_neg first]
      split
      · exact later
      · rw [if_pos rfl, if_pos rfl, later, List.cons_append]

theorem outsideParentheses_eq_self {cs : List Char} (free : ∀ c ∈ cs, c ≠ '(' ∧ c ≠ ')') :
    outsideParentheses 0 cs = cs := by
  induction cs with
  | nil => rfl
  | cons c rest ih =>
      have first := free c List.mem_cons_self
      have later := ih fun d member => free d (List.mem_cons_of_mem c member)
      rw [outsideParentheses, if_neg first.1, if_neg first.2, if_pos rfl, later]

theorem outsideParentheses_cons_of_isBlank {c : Char} (blank : isBlank c = true) (depth : Nat)
    (rest : List Char) :
    outsideParentheses depth (c :: rest) =
      if depth = 0 then c :: outsideParentheses depth rest else outsideParentheses depth rest := by
  have opens : c ≠ '(' := by
    rintro rfl
    cases blank
  have closes : c ≠ ')' := by
    rintro rfl
    cases blank
  rw [outsideParentheses, if_neg opens, if_neg closes]

end Outside

/-- The name of a text is the canonical spelling of what it has outside parentheses. -/
theorem lookupName_eq_canonical (cs : List Char) :
    lookupName cs = String.ofList (canonical (outsideParentheses 0 cs)) := by
  rw [lookupName, join_words]
  rfl

theorem lookupName_of_unparenthesised {cs : List Char} (free : ∀ c ∈ cs, c ≠ '(' ∧ c ≠ ')') :
    lookupName cs = String.ofList (canonical cs) := by
  rw [lookupName_eq_canonical, outsideParentheses_eq_self free]

/--
What is outside parentheses is respelled alike before and after its text is.  A blank behind which
the text goes on is outside itself, unless the text goes on inside parentheses.
-/
theorem respell_outsideParentheses {depth : Nat} {spaced behind : Bool}
    (level : depth = 0 → behind = true → spaced = true) (cs : List Char) :
    respell spaced (outsideParentheses depth (respell behind cs)) =
      respell spaced (outsideParentheses depth cs) := by
  induction cs generalizing depth spaced behind with
  | nil => rfl
  | cons c rest ih =>
      by_cases blank : isBlank c = true
      · have later : respell true (outsideParentheses 0 (respell true rest)) =
            respell true (outsideParentheses 0 rest) := ih fun _ _ => rfl
        have skipped : outsideParentheses depth (c :: rest) =
            if depth = 0 then c :: outsideParentheses depth rest
            else outsideParentheses depth rest := outsideParentheses_cons_of_isBlank blank depth rest
        have space := outsideParentheses_cons_of_isBlank isBlank_space depth (respell true rest)
        by_cases zero : depth = 0
        · subst zero
          cases behind with
          | true =>
              rw [level rfl rfl, respell_cons_of_isBlank blank, if_pos rfl, later, skipped,
                if_pos rfl, respell_cons_of_isBlank blank, if_pos rfl]
          | false =>
              rw [respell_cons_of_isBlank blank, if_neg Bool.false_ne_true, space, if_pos rfl,
                skipped, if_pos rfl, respell_cons_of_isBlank isBlank_space, later,
                respell_cons_of_isBlank blank]
        · rw [if_neg zero] at skipped space
          have inside : respell spaced (outsideParentheses depth (respell true rest)) =
              respell spaced (outsideParentheses depth rest) := ih fun absent => absurd absent zero
          cases behind <;> simp [respell_cons_of_isBlank blank, space, skipped, inside]
      · have visible : isBlank c = false := by simpa using blank
        have lowered : isBlank c.toLower = false := by rw [isBlank_toLower, visible]
        have opening : c.toLower = '(' ↔ c = '(' := toLower_eq_iff (by decide) c
        have closing : c.toLower = ')' ↔ c = ')' := toLower_eq_iff (by decide) c
        rw [respell_cons_of_visible visible, outsideParentheses, outsideParentheses]
        simp only [opening, closing]
        split
        · exact ih nofun
        · split
          · exact ih nofun
          · split
            · have later : respell false (outsideParentheses depth (respell false rest)) =
                  respell false (outsideParentheses depth rest) := ih nofun
              rw [respell_cons_of_visible lowered, respell_cons_of_visible visible, later,
                Char.toLower_toLower_eq_toLower]
            · exact ih nofun

theorem lookupName_respell (cs : List Char) : lookupName (respell false cs) = lookupName cs := by
  rw [lookupName_eq_canonical, lookupName_eq_canonical, canonical, canonical,
    respell_outsideParentheses (fun _ absent => absent)]

theorem lookupName_padded {before after : List Char} (first : AllBlank before)
    (last : AllBlank after) (cs : List Char) :
    lookupName (before ++ (cs ++ after)) = lookupName cs := by
  have unopened : ∀ c ∈ before, c ≠ '(' := first.ne (by decide)
  obtain ⟨next, behind⟩ := exists_outsideParentheses_append 0 cs after
  have front := (allBlank_outsideParentheses first 0).map_toLower
  have back := (allBlank_outsideParentheses last next).map_toLower
  rw [lookupName, outsideParentheses_append_of_unopened unopened, behind, List.map_append,
    List.map_append, words_padded front back, lookupName]

theorem lookupName_trim (cs : List Char) : lookupName (trim cs) = lookupName cs := by
  obtain ⟨before, after, first, last, whole⟩ := exists_padded_trim cs
  have padded := lookupName_padded first last (trim cs)
  rw [whole] at padded
  exact padded.symm

theorem lookupName_trimEnd (cs : List Char) : lookupName (trimEnd cs) = lookupName cs := by
  rw [← lookupName_trim (trimEnd cs), trim_trimEnd, lookupName_trim]

namespace TypeExpr

theorem lookupName_of_isWord {name : List Char} (word : IsWord name) :
    lookupName name = String.ofList (name.map Char.toLower) := by
  have free : ∀ c ∈ name, c ≠ '(' ∧ c ≠ ')' :=
    fun c listed => ⟨word.ne (by decide) c listed, word.ne (by decide) c listed⟩
  have visible : Visible (name.map Char.toLower) := by
    intro c listed
    obtain ⟨d, member, rfl⟩ := List.mem_map.mp listed
    apply isBlank_of_isAlpha
    rw [Char.isAlpha_toLower_eq_isAlpha]
    exact word.letters d member
  have written : name.map Char.toLower ≠ [] := by simpa using word.nonempty
  rw [lookupName, outsideParentheses_eq_self free, words_of_visible visible written, join]

/--
If the text ends in a closing parenthesis, nothing is visible outside parentheses behind its first
opening one.
-/
def SizeLast (cs : List Char) : Prop :=
  cs.getLast? = some ')' → ∀ before after, cutAt? (· = '(') cs = some (before, after) →
    AllBlank (outsideParentheses 1 after)

/--
A text that ends in a closing parenthesis and has an opening one is cut at the first opening one,
and any other text is left as it is.
-/
theorem stripSize_cases (cs : List Char) :
    (∃ before after, cutAt? (· = '(') cs = some (before, after) ∧ cs.getLast? = some ')' ∧
      stripSize cs = trimEnd before) ∨
    ((cs.getLast? = some ')' → cutAt? (· = '(') cs = none) ∧ stripSize cs = cs) := by
  cases cut : cutAt? (· = '(') cs with
  | none => exact Or.inr ⟨fun _ => rfl, by rw [stripSize, cut]⟩
  | some sides =>
      obtain ⟨before, after⟩ := sides
      cases closed : dropEnd? [')'] cs with
      | some body =>
          exact Or.inl ⟨before, after, rfl, getLast?_of_dropEnd? closed,
            by rw [stripSize, cut, closed]⟩
      | none =>
          refine Or.inr ⟨fun last => ?_, by rw [stripSize, cut, closed]⟩
          obtain ⟨body, rfl⟩ := List.getLast?_eq_some_iff.mp last
          rw [dropEnd?_append] at closed
          cases closed

/-- Up to its first opening parenthesis a text is outside, and behind it inside one. -/
theorem lookupName_of_cutAt? {cs before after : List Char}
    (cut : cutAt? (· = '(') cs = some (before, after)) :
    lookupName cs = String.ofList
      (canonical (outsideParentheses 0 before ++ outsideParentheses 1 after)) := by
  obtain ⟨free, rfl⟩ := cutAt?_mark_eq_some_iff.mp cut
  have unopened : ∀ c ∈ before, c ≠ '(' := fun c listed same => free (same ▸ listed)
  rw [lookupName_eq_canonical, outsideParentheses_append_of_unopened unopened, outsideParentheses,
    if_pos rfl]

/-- Without its sizes a text has the beginning of the name that it has with them. -/
theorem lookupName_stripSize_prefix (cs : List Char) :
    (lookupName (stripSize cs)).toList <+: (lookupName cs).toList := by
  rcases stripSize_cases cs with ⟨before, after, cut, _, stripped⟩ | ⟨_, whole⟩
  · rw [stripped, lookupName_trimEnd, lookupName_eq_canonical, lookupName_of_cutAt? cut,
      String.toList_ofList, String.toList_ofList]
    exact canonical_prefix _ _
  · rw [whole]

/--
Without its sizes a text has the name that it has with them if and only if nothing is left behind
them.
-/
theorem lookupName_stripSize_iff {cs : List Char} :
    lookupName (stripSize cs) = lookupName cs ↔ SizeLast cs := by
  rcases stripSize_cases cs with ⟨before, after, cut, closed, stripped⟩ | ⟨uncut, whole⟩
  · have last : SizeLast cs ↔ AllBlank (outsideParentheses 1 after) := by
      constructor
      · intro last
        exact last closed before after cut
      · intro blank _ front back other
        rw [cut] at other
        cases other
        exact blank
    rw [last, stripped, lookupName_trimEnd, lookupName_eq_canonical, lookupName_of_cutAt? cut,
      String.ofList_inj, eq_comm]
    exact canonical_append_eq_iff
  · rw [whole]
    refine ⟨fun _ closed before after cut => ?_, fun _ => rfl⟩
    rw [uncut closed] at cut
    cases cut

end TypeExpr

end RowConduit
