import RowConduit.Proofs.Types.Grammar

/-!
# The punctuation of type texts

A scan of a type text from left to right checks its brackets and commas without regard to the names
of its scalar types: an angle bracket opens behind the name of a constructor, a comma stands once
between the two arguments of each map and nowhere else, a bracket closes behind a type, a pair of
square brackets has nothing in it, and nothing is left open.

Each step of a scan keeps account of the open brackets, so in a text that passes they are balanced.
Every rendering of a term whose scalar types have no commas passes.  The induction is on the
rendering, whose scan ends where a type has just ended, with the same brackets open as before.
-/

namespace RowConduit

open RowConduit.Text

def TypeExpr.Constructor.pairs? : TypeExpr.Constructor → Option Bool
  | .transparent => some false
  | .collection => some false
  | .pairing => some true
  | .unknown => none

inductive LastMark where
  /-- A type has to follow: the text starts here, or behind an angle bracket or a comma. -/
  | opening
  /-- The opening one of two square brackets. -/
  | square
  /-- A type has ended here. -/
  | closing
  deriving DecidableEq, Repr

/--
Where a scan stands: the last mark, the text behind it, and for each open angle bracket, the
innermost first, whether its comma is still to come.
-/
structure Punctuation where
  last : LastMark
  piece : List Char
  owed : List Bool
  deriving DecidableEq, Repr

namespace Punctuation

def start : Punctuation :=
  ⟨.opening, [], []⟩

/-- A type ends here: a name behind the mark, or nothing behind the bracket that ends one. -/
def complete (p : Punctuation) : Bool :=
  match p.last with
  | .opening => !p.piece.all isBlank
  | .square => false
  | .closing => p.piece.all isBlank

def openAngle? (p : Punctuation) : Option Punctuation :=
  if p.last = .opening then
    (TypeExpr.Constructor.ofName (trim p.piece)).pairs?.map fun pairs =>
      ⟨.opening, [], pairs :: p.owed⟩
  else none

def comma? (p : Punctuation) : Option Punctuation :=
  match p.complete, p.owed with
  | true, true :: outer => some ⟨.opening, [], false :: outer⟩
  | _, _ => none

def closeAngle? (p : Punctuation) : Option Punctuation :=
  match p.complete, p.owed with
  | true, false :: outer => some ⟨.closing, [], outer⟩
  | _, _ => none

def openSquare? (p : Punctuation) : Option Punctuation :=
  if p.complete then some ⟨.square, [], p.owed⟩ else none

def closeSquare? (p : Punctuation) : Option Punctuation :=
  if p.last = .square ∧ p.piece = [] then some ⟨.closing, [], p.owed⟩ else none

def step? (p : Punctuation) (c : Char) : Option Punctuation :=
  if c = '<' then p.openAngle?
  else if c = ',' then p.comma?
  else if c = '>' then p.closeAngle?
  else if c = '[' then p.openSquare?
  else if c = ']' then p.closeSquare?
  else some { p with piece := p.piece ++ [c] }

def run? (p : Punctuation) (cs : List Char) : Option Punctuation :=
  cs.foldlM step? p

end Punctuation

/-- The brackets and commas of the text are those of a type. -/
def wellPunctuated (cs : List Char) : Bool :=
  match Punctuation.start.run? cs with
  | some p => p.complete && p.owed.isEmpty
  | none => false

def TypeTerm.CommaFree : TypeTerm → Prop
  | .leaf scalar => ∀ c ∈ scalar.chars, c ≠ ','
  | .suffixed element => element.CommaFree
  | .collection _ element => element.CommaFree
  | .frozen argument => argument.CommaFree
  | .map key value => key.CommaFree ∧ value.CommaFree

namespace Punctuation

theorem run?_nil (p : Punctuation) : p.run? [] = some p :=
  rfl

theorem run?_cons (p : Punctuation) (c : Char) (cs : List Char) :
    p.run? (c :: cs) = (p.step? c).bind fun q => q.run? cs :=
  List.foldlM_cons

theorem run?_append (p : Punctuation) (cs ds : List Char) :
    p.run? (cs ++ ds) = (p.run? cs).bind fun q => q.run? ds :=
  List.foldlM_append

def IsPlain (c : Char) : Prop :=
  c ≠ '<' ∧ c ≠ ',' ∧ c ≠ '>' ∧ c ≠ '[' ∧ c ≠ ']'

inductive Move (p : Punctuation) : Char → Punctuation → Prop where
  | openAngle {pairs : Bool} (opening : p.last = .opening)
      (takes : (TypeExpr.Constructor.ofName (trim p.piece)).pairs? = some pairs) :
      Move p '<' ⟨.opening, [], pairs :: p.owed⟩
  | comma {outer : List Bool} (ended : p.complete = true) (level : p.owed = true :: outer) :
      Move p ',' ⟨.opening, [], false :: outer⟩
  | closeAngle {outer : List Bool} (ended : p.complete = true) (level : p.owed = false :: outer) :
      Move p '>' ⟨.closing, [], outer⟩
  | openSquare (ended : p.complete = true) : Move p '[' ⟨.square, [], p.owed⟩
  | closeSquare (square : p.last = .square) (empty : p.piece = []) :
      Move p ']' ⟨.closing, [], p.owed⟩
  | plain {c : Char} (plain : IsPlain c) : Move p c { p with piece := p.piece ++ [c] }

theorem move_of_step? {p q : Punctuation} {c : Char} (step : p.step? c = some q) : p.Move c q := by
  unfold step? openAngle? comma? closeAngle? openSquare? closeSquare? at step
  split at step
  · next angle =>
    subst angle
    split at step
    · next opening =>
      obtain ⟨pairs, takes, rfl⟩ := Option.map_eq_some_iff.mp step
      exact .openAngle opening takes
    · cases step
  split at step
  · next comma =>
    subst comma
    split at step
    · next ended level =>
      cases step
      exact .comma ended level
    · cases step
  split at step
  · next closing =>
    subst closing
    split at step
    · next ended level =>
      cases step
      exact .closeAngle ended level
    · cases step
  split at step
  · next square =>
    subst square
    split at step
    · next ended =>
      cases step
      exact .openSquare ended
    · cases step
  split at step
  · next squareEnd =>
    subst squareEnd
    split at step
    · next empty =>
      cases step
      exact .closeSquare empty.1 empty.2
    · cases step
  · next angle comma closing square squareEnd =>
    cases step
    exact .plain ⟨angle, comma, closing, square, squareEnd⟩

theorem Move.step?_eq {p q : Punctuation} {c : Char} (move : p.Move c q) : p.step? c = some q := by
  cases move with
  | openAngle opening takes =>
      change p.openAngle? = _
      rw [openAngle?, if_pos opening, takes, Option.map_some]
  | comma ended level =>
      change p.comma? = _
      rw [comma?, ended, level]
  | closeAngle ended level =>
      change p.closeAngle? = _
      rw [closeAngle?, ended, level]
  | openSquare ended =>
      change p.openSquare? = _
      rw [openSquare?, if_pos ended]
  | closeSquare square empty =>
      change p.closeSquare? = _
      rw [closeSquare?, if_pos ⟨square, empty⟩]
  | plain plain =>
      obtain ⟨angle, comma, closing, square, squareEnd⟩ := plain
      rw [step?, if_neg angle, if_neg comma, if_neg closing, if_neg square, if_neg squareEnd]

theorem Move.run? {p q : Punctuation} {c : Char} (move : p.Move c q) (cs : List Char) :
    p.run? (c :: cs) = q.run? cs := by
  rw [run?_cons, move.step?_eq, Option.bind_some]

def squares (p : Punctuation) : Nat :=
  if p.last = .square then 1 else 0

theorem last_ne_of_complete {p : Punctuation} (ended : p.complete = true) : p.last ≠ .square := by
  intro square
  rw [complete, square] at ended
  cases ended

theorem Move.balance {p q : Punctuation} {c : Char} (move : p.Move c q) :
    q.owed.length + [c].count '>' = p.owed.length + [c].count '<' ∧
      q.squares + [c].count ']' = p.squares + [c].count '[' := by
  cases move with
  | openAngle opening takes => simp [squares, opening]
  | comma ended level => simp [squares, last_ne_of_complete ended, level]
  | closeAngle ended level => simp [squares, last_ne_of_complete ended, level]
  | openSquare ended => simp [squares, last_ne_of_complete ended]
  | closeSquare square empty => simp [squares, square]
  | plain plain =>
      obtain ⟨angle, comma, closing, square, squareEnd⟩ := plain
      simp [squares, angle, closing, square, squareEnd]

theorem run?_balance {p q : Punctuation} {cs : List Char} (run : p.run? cs = some q) :
    q.owed.length + cs.count '>' = p.owed.length + cs.count '<' ∧
      q.squares + cs.count ']' = p.squares + cs.count '[' := by
  induction cs generalizing p with
  | nil =>
      cases run
      exact ⟨rfl, rfl⟩
  | cons c cs ih =>
      rw [run?_cons] at run
      obtain ⟨next, step, rest⟩ := Option.bind_eq_some_iff.mp run
      have first := (move_of_step? step).balance
      have later := ih rest
      rw [← List.singleton_append]
      simp only [List.count_append]
      omega

theorem isPlain_of_isBlank {c : Char} (blank : isBlank c = true) : IsPlain c := by
  refine ⟨?_, ?_, ?_, ?_, ?_⟩ <;>
  · rintro rfl
    cases blank

theorem isPlain_of_isAlpha {c : Char} (alpha : c.isAlpha = true) : IsPlain c := by
  refine ⟨?_, ?_, ?_, ?_, ?_⟩ <;>
  · rintro rfl
    cases alpha

theorem run?_of_isPlain (p : Punctuation) {cs : List Char} (plain : ∀ c ∈ cs, IsPlain c) :
    p.run? cs = some { p with piece := p.piece ++ cs } := by
  induction cs generalizing p with
  | nil => rw [run?_nil, List.append_nil]
  | cons c cs ih =>
      have first : p.Move c _ := .plain (plain c List.mem_cons_self)
      have later (q : Punctuation) := ih q fun d listed => plain d (List.mem_cons_of_mem c listed)
      rw [first.run?, later, List.append_assoc, List.singleton_append]

theorem all_isBlank_append {cs after : List Char} (blank : AllBlank after) :
    (cs ++ after).all isBlank = cs.all isBlank := by
  have trailing : after.all isBlank = true := List.all_eq_true.mpr blank
  rw [List.all_append, trailing, Bool.and_true]

theorem complete_append {p : Punctuation} {after : List Char} (blank : AllBlank after) :
    complete { p with piece := p.piece ++ after } = p.complete := by
  rw [complete, complete, all_isBlank_append blank]

/-- The scan gets from one place to a place where a type has ended, with the same brackets open. -/
def Reads (p : Punctuation) (cs : List Char) : Prop :=
  ∃ q, p.run? cs = some q ∧ q.complete = true ∧ q.owed = p.owed

theorem reads_of_solid {before cs : List Char} (owed : List Bool) (solid : ¬ AllBlank cs)
    (plain : ∀ c ∈ cs, IsPlain c) : Reads ⟨.opening, before, owed⟩ cs := by
  refine ⟨_, run?_of_isPlain _ plain, ?_, rfl⟩
  have visible : cs.all isBlank = false := by
    rw [Bool.eq_false_iff, ne_eq, List.all_eq_true]
    exact solid
  rw [complete, List.all_append, visible, Bool.and_false, Bool.not_false]

theorem Reads.padded {before first cs last : List Char} {owed : List Bool}
    (blankFirst : AllBlank first) (blankLast : AllBlank last)
    (reads : Reads ⟨.opening, before ++ first, owed⟩ cs) :
    Reads ⟨.opening, before, owed⟩ (first ++ (cs ++ last)) := by
  obtain ⟨q, run, ended, level⟩ := reads
  refine ⟨{ q with piece := q.piece ++ last }, ?_, ?_, level⟩
  · rw [run?_append, run?_of_isPlain _ fun c listed => isPlain_of_isBlank (blankFirst c listed),
      Option.bind_some, run?_append, run, Option.bind_some,
      run?_of_isPlain _ fun c listed => isPlain_of_isBlank (blankLast c listed)]
  · rw [complete_append blankLast, ended]

theorem Reads.suffixed {p : Punctuation} {cs : List Char} (reads : Reads p cs) :
    Reads p (cs ++ ['[', ']']) := by
  obtain ⟨q, run, ended, level⟩ := reads
  have opened : q.Move '[' _ := .openSquare ended
  have closed : Move ⟨.square, [], q.owed⟩ ']' _ := .closeSquare rfl rfl
  refine ⟨⟨.closing, [], q.owed⟩, ?_, rfl, level⟩
  rw [run?_append, run, Option.bind_some, opened.run?, closed.run?, run?_nil]

theorem Reads.applied {before letters gap arguments : List Char} {owed : List Bool} {pairs : Bool}
    (blank : AllBlank before) (word : TypeExpr.IsWord letters) (spaced : AllBlank gap)
    (takes : (TypeExpr.Constructor.ofName letters).pairs? = some pairs)
    (reads : ∃ q, run? ⟨.opening, [], pairs :: owed⟩ arguments = some q ∧ q.complete = true ∧
      q.owed = false :: owed) :
    Reads ⟨.opening, before, owed⟩ (TypeExpr.applied letters gap arguments) := by
  obtain ⟨q, run, ended, level⟩ := reads
  have name : trim (before ++ (letters ++ gap)) = letters := by
    rw [trim_padded blank spaced, trim_of_visible (TypeExpr.visible_word word)]
  have named : ∀ c ∈ letters ++ gap, IsPlain c :=
    List.forall_mem_append.mpr ⟨fun c listed => isPlain_of_isAlpha (word.letters c listed),
      fun c listed => isPlain_of_isBlank (spaced c listed)⟩
  rw [← name] at takes
  have opened : Move ⟨.opening, before ++ (letters ++ gap), owed⟩ '<' _ := .openAngle rfl takes
  have closed : q.Move '>' _ := .closeAngle ended level
  refine ⟨⟨.closing, [], owed⟩, ?_, rfl, rfl⟩
  rw [TypeExpr.applied, ← List.append_assoc, run?_append, run?_of_isPlain _ named,
    Option.bind_some, opened.run?, run?_append, run, Option.bind_some, closed.run?, run?_nil]

end Punctuation

open Punctuation TypeTerm

/-- Angle brackets and square brackets are balanced, and none closes before it opens. -/
theorem balanced_of_wellPunctuated {cs : List Char} (scanned : wellPunctuated cs = true) :
    cs.count '<' = cs.count '>' ∧ cs.count '[' = cs.count ']' ∧
      ∀ front back, cs = front ++ back → front.count '>' ≤ front.count '<' := by
  unfold wellPunctuated at scanned
  split at scanned
  · next q run =>
    obtain ⟨ended, level⟩ := (Bool.and_eq_true _ _).mp scanned
    have whole := run?_balance run
    rw [List.isEmpty_iff.mp level, squares, if_neg (last_ne_of_complete ended)] at whole
    refine ⟨by simpa [start] using whole.1.symm, by simpa [start, squares] using whole.2.symm, ?_⟩
    rintro front back rfl
    rw [run?_append] at run
    obtain ⟨next, read, _⟩ := Option.bind_eq_some_iff.mp run
    have part := (run?_balance read).1
    rw [start, List.length_nil] at part
    omega
  · cases scanned

theorem TypeTerm.Renders.reads {t : TypeTerm} {cs : List Char} (rendered : Renders t cs)
    (commaFree : t.CommaFree) {before : List Char} (blank : AllBlank before) (owed : List Bool) :
    Reads ⟨.opening, before, owed⟩ cs := by
  induction rendered generalizing before owed with
  | leaf scalar =>
      refine reads_of_solid owed (Renders.leaf scalar).not_allBlank fun c listed => ?_
      obtain ⟨opening, closing, square, squareEnd⟩ := scalar.bracketless c listed
      exact ⟨opening, commaFree c listed, closing, square, squareEnd⟩
  | padded first rendered last ih =>
      exact (ih commaFree (blank.append first) owed).padded first last
  | suffixed rendered ih => exact (ih commaFree blank owed).suffixed
  | collection spelled spaced rendered ih =>
      have word := TypeExpr.isWord_of_spells spelled (TypeExpr.isWord_collection _)
      have takes := congrArg TypeExpr.Constructor.pairs?
        (TypeExpr.Constructor.ofName_eq_collection_iff.mpr ⟨_, spelled⟩)
      exact .applied blank word spaced takes (ih commaFree (List.forall_mem_nil _) _)
  | frozen spelled spaced rendered ih =>
      have word := TypeExpr.isWord_of_spells spelled TypeExpr.isWord_frozen
      have takes := congrArg TypeExpr.Constructor.pairs?
        (TypeExpr.Constructor.ofName_eq_transparent_iff.mpr spelled)
      exact .applied blank word spaced takes (ih commaFree (List.forall_mem_nil _) _)
  | map spelled spaced key value keyIh valueIh =>
      have word := TypeExpr.isWord_of_spells spelled TypeExpr.isWord_map
      have takes := congrArg TypeExpr.Constructor.pairs?
        (TypeExpr.Constructor.ofName_eq_pairing_iff.mpr spelled)
      refine .applied blank word spaced takes ?_
      obtain ⟨q, run, ended, level⟩ := keyIh commaFree.1 (List.forall_mem_nil _) (true :: owed)
      have parted : q.Move ',' _ := .comma ended level
      rw [run?_append, run, Option.bind_some, parted.run?]
      exact valueIh commaFree.2 (List.forall_mem_nil _) (false :: owed)

theorem TypeTerm.Renders.wellPunctuated {t : TypeTerm} {cs : List Char} (rendered : Renders t cs)
    (commaFree : t.CommaFree) : wellPunctuated cs = true := by
  obtain ⟨q, run, ended, level⟩ := rendered.reads commaFree (List.forall_mem_nil _) []
  rw [RowConduit.wellPunctuated, start, run]
  dsimp only
  rw [ended, level]
  rfl

end RowConduit
