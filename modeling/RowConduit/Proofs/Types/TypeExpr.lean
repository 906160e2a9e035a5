import Mathlib.Tactic.Common
import RowConduit.Proofs.Text.Trim
import RowConduit.Types.TypeExpr

/-!
# Taking a type text apart

What one step of the reader of type texts does: blanks at the ends make no difference, a pair of
brackets at the end makes an array, and a name applied to arguments makes what its name says.  The
two arguments of a map are found by a search for a comma that counts brackets; a text is passed by
this search if the commas of it are all inside its own brackets.  The numbers of a leaf are read
from a text with names and blanks around the leaf, and these have no parentheses.
-/

namespace RowConduit

open RowConduit.Text

namespace TypeExpr

/-- At a depth of at least `least` the search for a comma goes on behind the text. -/
def Passed (least : Int) (cs : List Char) : Prop :=
  ∀ (depth : Int) (rest : List Char), least ≤ depth →
    cutAtComma? depth (cs ++ rest) =
      (cutAtComma? depth rest).map fun sides => (cs ++ sides.1, sides.2)

theorem cutAtComma?_cons {depth : Int} {c : Char} (uncut : c = ',' → depth ≠ 0)
    (rest : List Char) :
    cutAtComma? depth (c :: rest) =
      (cutAtComma? (depth + depthStep c) rest).map fun sides => (c :: sides.1, sides.2) := by
  rw [cutAtComma?, if_neg]
  rintro ⟨comma, zero⟩
  exact uncut comma zero

theorem passed_cons {least : Int} {c : Char} {cs : List Char}
    (uncut : c = ',' → 0 < least) (level : depthStep c = 0) (rest : Passed least cs) :
    Passed least (c :: cs) := by
  intro depth others deep
  have first : c = ',' → depth ≠ 0 := by
    intro comma zero
    have positive := uncut comma
    omega
  rw [List.cons_append, cutAtComma?_cons first, level, Int.add_zero, rest depth others deep,
    Option.map_map]
  rfl

theorem passed_nil (least : Int) : Passed least [] := by
  intro depth rest _
  simp

theorem passed_of_level {cs : List Char} (level : ∀ c ∈ cs, c ≠ ',' ∧ depthStep c = 0)
    (least : Int) : Passed least cs := by
  induction cs with
  | nil => exact passed_nil least
  | cons c cs ih =>
      have first := level c List.mem_cons_self
      have rest := ih fun d later => level d (List.mem_cons_of_mem c later)
      exact passed_cons (fun comma => absurd comma first.1) first.2 rest

theorem Passed.append {least : Int} {front back : List Char} (first : Passed least front)
    (second : Passed least back) : Passed least (front ++ back) := by
  intro depth rest deep
  rw [List.append_assoc, first depth _ deep, second depth rest deep, Option.map_map]
  simp only [Function.comp_def, List.append_assoc]

theorem Passed.of_append {least : Int} {front back : List Char} (first : Passed least front)
    (whole : Passed least (front ++ back)) : Passed least back := by
  intro depth rest deep
  have both := whole depth rest deep
  rw [List.append_assoc, first depth _ deep] at both
  have injective : Function.Injective
      fun sides : List Char × List Char => (front ++ sides.1, sides.2) := by
    intro sides others same
    simpa [Prod.ext_iff] using same
  apply Option.map_injective injective
  rw [both, Option.map_map]
  simp only [Function.comp_def, List.append_assoc]

theorem Passed.mono {least more : Int} {cs : List Char} (passed : Passed least cs)
    (below : least ≤ more) : Passed more cs := by
  intro depth rest deep
  exact passed depth rest (Int.le_trans below deep)

theorem Passed.bracketed {least : Int} {cs : List Char} (passed : Passed (least + 1) cs) :
    Passed least ('<' :: (cs ++ ['>'])) := by
  intro depth rest deep
  have opened : depthStep '<' = 1 := by decide
  have closed : depthStep '>' = -1 := by decide
  have level : depth + 1 + -1 = depth := by omega
  rw [List.cons_append, cutAtComma?_cons (by simp), opened, List.append_assoc,
    passed (depth + 1) _ (by omega), List.singleton_append, cutAtComma?_cons (by simp), closed,
    level, Option.map_map, Option.map_map]
  simp [Function.comp_def]

theorem passed_comma : Passed 1 [','] :=
  passed_cons (fun _ => Int.one_pos) (by decide) (passed_nil 1)

theorem level_of {kind : Char → Bool} {c : Char} (holds : kind c = true)
    (apart : ∀ d ∈ [',', '<', '(', '>', ')'], kind d = false) : c ≠ ',' ∧ depthStep c = 0 := by
  have other : ∀ d ∈ [',', '<', '(', '>', ')'], c ≠ d := by
    rintro d listed rfl
    rw [apart c listed] at holds
    cases holds
  simp only [List.forall_mem_cons, List.not_mem_nil, false_implies, implies_true,
    and_true] at other
  exact ⟨other.1, by simp [depthStep, other]⟩

theorem passed_of_allBlank {cs : List Char} (blank : AllBlank cs) (least : Int) :
    Passed least cs :=
  passed_of_level (fun c member => level_of (blank c member) (by simp [isBlank])) least

theorem Passed.trimStart {least : Int} {cs : List Char} (passed : Passed least cs) :
    Passed least (trimStart cs) := by
  obtain ⟨before, blank, whole⟩ := exists_append_trimStart cs
  have split : Passed least (before ++ Text.trimStart cs) := by
    rw [whole]
    exact passed
  exact (passed_of_allBlank blank least).of_append split

theorem solid?_eq_some {cs : List Char} (solid : ¬ AllBlank cs) : solid? cs = some (trim cs) := by
  rw [solid?, if_neg]
  rw [List.isEmpty_iff, trim_eq_nil_iff]
  exact solid

theorem solid?_eq_none {cs : List Char} (blank : AllBlank cs) : solid? cs = none := by
  rw [solid?, trim_eq_nil_iff.mpr blank]
  rfl

theorem solid?_eq_some_iff {cs found : List Char} :
    solid? cs = some found ↔ ¬ AllBlank cs ∧ trim cs = found := by
  have empty : (trim cs).isEmpty = true ↔ AllBlank cs := by
    rw [List.isEmpty_iff, trim_eq_nil_iff]
  by_cases blank : AllBlank cs <;> simp [solid?, empty, blank]

theorem eq_of_splitAngle? {raw : List Char} {sides : List Char × List Char}
    (split : splitAngle? raw = some sides) :
    ∃ before inside, raw = before ++ '<' :: (inside ++ ['>']) ∧
      trim before = sides.1 ∧ ¬ AllBlank inside ∧ trim inside = sides.2 := by
  simp only [splitAngle?, Option.bind_eq_bind, Option.bind_eq_some_iff, Prod.exists,
    Option.pure_def, Option.some.injEq] at split
  obtain ⟨before, after, cut, inside, closed, name, named, arguments, given, rfl⟩ := split
  obtain ⟨_, c, opening, shape⟩ := eq_append_of_cutAt? cut
  obtain ⟨solid, trimmed⟩ := solid?_eq_some_iff.mp given
  have bracket : c = '<' := by simpa using opening
  refine ⟨before, inside, ?_, (solid?_eq_some_iff.mp named).2, solid, trimmed⟩
  rw [shape, bracket, eq_append_of_dropEnd? closed]

theorem eq_append_of_cutAtComma? {depth : Int} {cs before after : List Char}
    (cut : cutAtComma? depth cs = some (before, after)) : cs = before ++ ',' :: after := by
  induction cs generalizing depth before with
  | nil => cases cut
  | cons c rest ih =>
      rw [cutAtComma?] at cut
      split at cut
      · next comma =>
        cases cut
        rw [comma.1, List.nil_append]
      · obtain ⟨sides, found, same⟩ := Option.map_eq_some_iff.mp cut
        cases same
        rw [ih found, List.cons_append]

/-- What is split as a pair has a comma between two texts, whatever blanks are around the pair. -/
theorem eq_of_splitPair? {inside : List Char} {sides : List Char × List Char}
    (split : splitPair? (trim inside) = some sides) :
    ∃ key value, inside = key ++ ',' :: value ∧ trim key = sides.1 ∧ trim value = sides.2 := by
  simp only [splitPair?, Option.bind_eq_bind, Option.bind_eq_some_iff, Prod.exists,
    Option.pure_def, Option.some.injEq] at split
  obtain ⟨key, value, cut, _, keySolid, _, valueSolid, rfl⟩ := split
  obtain ⟨before, after, first, last, whole⟩ := exists_padded_trim inside
  have keyTrimmed := trim_padded first (List.forall_mem_nil _) key
  have valueTrimmed := trim_padded (List.forall_mem_nil _) last value
  rw [List.append_nil] at keyTrimmed
  rw [List.nil_append] at valueTrimmed
  refine ⟨before ++ key, value ++ after, ?_, keyTrimmed.trans (solid?_eq_some_iff.mp keySolid).2,
    valueTrimmed.trans (solid?_eq_some_iff.mp valueSolid).2⟩
  rw [← whole, eq_append_of_cutAtComma? cut, List.append_assoc, List.append_assoc,
    List.cons_append]

theorem splitPair?_eq_some {key value : List Char} (passed : Passed 0 key)
    (keySolid : ¬ AllBlank key) (valueSolid : ¬ AllBlank value) :
    splitPair? (trim (key ++ ',' :: value)) = some (trim key, trim value) := by
  have keyLeft : ¬ AllBlank (Text.trimStart key) := by
    rw [← trim_eq_nil_iff, trim_trimStart, trim_eq_nil_iff]
    exact keySolid
  have valueLeft : ¬ AllBlank (trimEnd value) := by
    rw [← trim_eq_nil_iff, trim_trimEnd, trim_eq_nil_iff]
    exact valueSolid
  have cut : cutAtComma? 0 (Text.trimStart key ++ ',' :: trimEnd value) =
      some (Text.trimStart key, trimEnd value) := by
    rw [passed.trimStart 0 _ (Int.le_refl 0), cutAtComma?, if_pos ⟨rfl, rfl⟩]
    simp
  rw [trim_append_cons (by decide), splitPair?, cut]
  simp [solid?_eq_some keyLeft, solid?_eq_some valueLeft, trim_trimStart, trim_trimEnd]

theorem sizeNumber?_eq_some_iff_read {cs : List Char} {i : UInt32} :
    sizeNumber? cs = some i ↔ Number.readUInt32 (trim cs) = .ok i := by
  rw [sizeNumber?]
  split
  · next j read => rw [read, Option.some.injEq, Except.ok.injEq]
  · next failed =>
      rw [failed]
      exact ⟨nofun, nofun⟩

/-- What is around a text makes no difference to its numbers if it has no parentheses. -/
theorem sizeNumbers_within {front back : List Char} (opens : ∀ c ∈ front, c ≠ '(')
    (closes : ∀ c ∈ back, c ≠ '(' ∧ c ≠ ')') (cs : List Char) :
    sizeNumbers (front ++ (cs ++ back)) = sizeNumbers cs := by
  have openless : ∀ c ∈ front, decide (c = '(') = false := by simpa using opens
  have backOpen : cutAt? (· = '(') back = none :=
    cutAt?_eq_none_iff.mpr fun c listed => decide_eq_false (closes c listed).1
  have backClose : cutAt? (· = ')') back = none :=
    cutAt?_eq_none_iff.mpr fun c listed => decide_eq_false (closes c listed).2
  have joined {separates : Char → Bool} {left right : List Char}
      (first : cutAt? separates left = none) (second : cutAt? separates right = none) :
      cutAt? separates (left ++ right) = none := by
    rw [cutAt?_append_of_free (cutAt?_eq_none_iff.mp first), second, Option.map_none]
  rw [sizeNumbers, sizeNumbers, cutAt?_append_of_free openless]
  cases opening : cutAt? (· = '(') cs with
  | none => rw [joined opening backOpen, Option.map_none]
  | some sides =>
      obtain ⟨before, after⟩ := sides
      rw [cutAt?_append_of_some opening, Option.map_some]
      dsimp only
      cases closing : cutAt? (· = ')') after with
      | none => rw [joined closing backClose]
      | some inner =>
          obtain ⟨inside, others⟩ := inner
          rw [cutAt?_append_of_some closing]

theorem sizeNumbers_trim (cs : List Char) : sizeNumbers (trim cs) = sizeNumbers cs := by
  obtain ⟨before, after, first, last, whole⟩ := exists_padded_trim cs
  have closes : ∀ c ∈ after, c ≠ '(' ∧ c ≠ ')' :=
    fun c listed => ⟨last.ne (by decide) c listed, last.ne (by decide) c listed⟩
  have within := sizeNumbers_within (first.ne (by decide)) closes (trim cs)
  rw [whole] at within
  exact within.symm

structure IsWord (name : List Char) : Prop where
  nonempty : name ≠ []
  letters : ∀ c ∈ name, c.isAlpha = true

theorem IsWord.ne {name : List Char} (word : IsWord name) {c : Char} (other : c.isAlpha = false) :
    ∀ d ∈ name, d ≠ c := by
  rintro d listed rfl
  rw [word.letters d listed] at other
  cases other

/-- A name with its arguments in brackets, and what stands between the name and the bracket. -/
def applied (name gap arguments : List Char) : List Char :=
  name ++ (gap ++ '<' :: (arguments ++ ['>']))

section Applied

variable {name gap arguments : List Char} (word : IsWord name)

theorem unsuffixed_applied : dropEnd? ['[', ']'] (applied name gap arguments) = none := by
  have ends := dropEnd?_concat_of_ne (by decide : ']' ≠ '>') ['[']
    (name ++ (gap ++ '<' :: arguments))
  simpa [applied] using ends

include word

theorem passed_applied (blank : AllBlank gap) (passed : Passed 1 arguments) :
    Passed 0 (applied name gap arguments) := by
  have front : Passed 0 name :=
    passed_of_level (fun c member => level_of (word.letters c member) (by simp)) 0
  exact front.append ((passed_of_allBlank blank 0).append passed.bracketed)

theorem visible_word : Visible name :=
  fun c member => isBlank_of_isAlpha (word.letters c member)

theorem trim_word_concat {c : Char} (visible : isBlank c = false) (inside : List Char) :
    trim (name ++ (inside ++ [c])) = name ++ (inside ++ [c]) := by
  refine trim_of_ends ?_ ?_
  · intro d first
    obtain ⟨e, rest, rfl⟩ := List.exists_cons_of_ne_nil word.nonempty
    cases first
    exact visible_word word d List.mem_cons_self
  · intro d last
    simp only [List.getLast?_append, List.getLast?_singleton, Option.some_or,
      Option.some.injEq] at last
    rw [← last]
    exact visible

theorem trim_applied : trim (applied name gap arguments) = applied name gap arguments := by
  have ends := trim_word_concat word (by decide : isBlank '>' = false) (gap ++ '<' :: arguments)
  simpa [applied] using ends

theorem cutAt?_word {c : Char} (blank : AllBlank gap) (letterless : c.isAlpha = false)
    (visible : isBlank c = false) (rest : List Char) :
    cutAt? (· = c) (name ++ (gap ++ c :: rest)) = some (name ++ gap, rest) := by
  have free : ∀ d ∈ name ++ gap, decide (d = c) = false := by
    intro d listed
    rcases List.mem_append.mp listed with inName | inGap
    · exact decide_eq_false (word.ne letterless d inName)
    · exact decide_eq_false (blank.ne visible d inGap)
  rw [← List.append_assoc]
  exact cutAt?_append_cons free (by simp) rest

theorem splitAngle?_applied (blank : AllBlank gap) (solid : ¬ AllBlank arguments) :
    splitAngle? (applied name gap arguments) = some (name, trim arguments) := by
  have cut := cutAt?_word word blank (by decide : Char.isAlpha '<' = false) (by decide)
    (arguments ++ ['>'])
  have left : trim (name ++ gap) = name := by
    have padded := trim_padded (List.forall_mem_nil _) blank name
    rw [List.nil_append] at padded
    rw [padded, trim_of_visible (visible_word word)]
  have nameSolid : ¬ AllBlank (name ++ gap) := by
    rw [← trim_eq_nil_iff, left]
    exact word.nonempty
  rw [applied, splitAngle?, cut]
  simp [dropEnd?_append, solid?_eq_some nameSolid, solid?_eq_some solid, left]

theorem sizeNumbers_applied (blank : AllBlank gap) :
    sizeNumbers (applied name gap arguments) = sizeNumbers arguments := by
  have opens : ∀ c ∈ name ++ (gap ++ ['<']), c ≠ '(' := by
    intro c listed
    rcases List.mem_append.mp listed with inName | behind
    · exact word.ne (by decide) c inName
    · rcases List.mem_append.mp behind with inGap | bracket
      · exact blank.ne (by decide) c inGap
      · rw [List.mem_singleton.mp bracket]
        decide
  have within := sizeNumbers_within opens (by simp : ∀ c ∈ ['>'], c ≠ '(' ∧ c ≠ ')') arguments
  simpa [applied] using within

end Applied

/-- One step of the reader, in terms of whole texts where the step leaves a frozen name behind. -/
theorem parseIn_eq (whole text : List Char) :
    parseIn whole text =
      match dropEnd? ['[', ']'] (trim text) with
      | some element => .array (parse element)
      | none =>
          match splitAngle? (trim text) with
          | none => leafOf (stripSize (trim text)) whole
          | some (name, arguments) =>
              match Constructor.ofName name with
              | .transparent => parseIn whole arguments
              | .collection => .array (parse arguments)
              | .pairing =>
                  match splitPair? arguments with
                  | some (key, value) => .map (parse key) (parse value)
                  | none => leafOf (trim text) whole
              | .unknown => leafOf (trim text) whole := by
  rw [parseIn]
  split
  · next suffixed =>
    rw [suffixed]
    rfl
  · next unsuffixed =>
    rw [unsuffixed]
    split
    · next angleless => rw [angleless]
    · next name arguments angle =>
      rw [angle]
      dsimp only
      cases Constructor.ofName name with
      | transparent => rfl
      | collection => rfl
      | unknown => rfl
      | pairing =>
          dsimp only
          split
          · next pair =>
            rw [pair]
            rfl
          · next unpaired => rw [unpaired]

theorem parseIn_congr {whole other : List Char} (same : sizeNumbers whole = sizeNumbers other)
    (text : List Char) : parseIn whole text = parseIn other text := by
  have leaves (name : List Char) : leafOf name whole = leafOf name other := by
    rw [leafOf, leafOf, same]
  rw [parseIn_eq whole, parseIn_eq other]
  split
  · rfl
  · split
    · exact leaves _
    · next name arguments angle =>
      have smaller := Nat.lt_of_lt_of_le (splitAngle?_length angle) (trim_length text)
      cases Constructor.ofName name with
      | transparent => exact parseIn_congr same arguments
      | collection => rfl
      | unknown => exact leaves _
      | pairing =>
          dsimp only
          split
          · rfl
          · exact leaves _
termination_by text.length
decreasing_by assumption

theorem parse_trim (cs : List Char) : parse (trim cs) = parse cs := by
  rw [parse, parse, parseIn_congr (sizeNumbers_trim cs), parseIn_eq, trim_trim, ← parseIn_eq]

theorem parse_congr {cs ds : List Char} (same : trim cs = trim ds) : parse cs = parse ds := by
  rw [← parse_trim, same, parse_trim]

/-- A pair of brackets at the end makes an array of what stands before it. -/
theorem parse_suffixed (cs : List Char) : parse (cs ++ ['[', ']']) = .array (parse cs) := by
  have dropped : dropEnd? ['[', ']'] (trim (cs ++ ['[', ']'])) = some (trimStart cs) := by
    rw [trim_append_cons (by decide)]
    exact dropEnd?_append (trimStart cs) ['[', ']']
  rw [parse, parseIn_eq, dropped]
  exact congrArg TypeExpr.array (parse_congr (trim_trimStart cs))

/-- A name applied to arguments makes what its name says. -/
theorem parse_applied {name gap arguments : List Char} (word : IsWord name)
    (blank : AllBlank gap) (solid : ¬ AllBlank arguments) :
    parse (applied name gap arguments) =
      match Constructor.ofName name with
      | .transparent => parse arguments
      | .collection => .array (parse arguments)
      | .pairing =>
          match splitPair? (trim arguments) with
          | some (key, value) => .map (parse key) (parse value)
          | none => leafOf (applied name gap arguments) (applied name gap arguments)
      | .unknown => leafOf (applied name gap arguments) (applied name gap arguments) := by
  have angle := splitAngle?_applied word blank solid
  have numbers : sizeNumbers (applied name gap arguments) = sizeNumbers (trim arguments) := by
    rw [sizeNumbers_applied word blank, sizeNumbers_trim]
  rw [parse, parseIn_eq, trim_applied word, unsuffixed_applied, angle]
  dsimp only
  cases Constructor.ofName name with
  | transparent => exact (parseIn_congr numbers _).trans (parse_trim arguments)
  | collection => exact congrArg TypeExpr.array (parse_trim arguments)
  | unknown => rfl
  | pairing => rfl

/-- A text whose last visible character closes neither an array nor an angle bracket is a leaf. -/
theorem parse_of_end {cs : List Char}
    (last : ∀ c, (trim cs).getLast? = some c → c ≠ ']' ∧ c ≠ '>') :
    parse cs = leafOf (stripSize (trim cs)) cs := by
  have unsuffixed : dropEnd? ['[', ']'] (trim cs) = none := by
    cases dropped : dropEnd? ['[', ']'] (trim cs) with
    | none => rfl
    | some element =>
        rw [eq_append_of_dropEnd? dropped] at last
        exact absurd rfl (last ']' (by simp)).1
  have angleless : splitAngle? (trim cs) = none := by
    cases split : splitAngle? (trim cs) with
    | none => rfl
    | some sides =>
        obtain ⟨before, inside, shape, _⟩ := eq_of_splitAngle? split
        have bracket : (trim cs).getLast? = some '>' := by
          rw [shape, ← List.cons_append, ← List.append_assoc, List.getLast?_concat]
        exact absurd rfl (last '>' bracket).2
  rw [parse, parseIn_eq, unsuffixed, angleless]

end TypeExpr

end RowConduit
