import Mathlib.Data.List.TakeWhile
import RowConduit.Text.Blank

/-!
# Trimming

What is trimmed once stays as it is, and so does a text without blanks.  Blanks around a text make
no difference to what is left of it, and trimming a text goes no further than its first and its last
character that is no blank.
-/

namespace RowConduit.Text

def Visible (cs : List Char) : Prop :=
  ∀ c ∈ cs, isBlank c = false

theorem visible_nil : Visible [] := by
  intro c member
  cases member

theorem Visible.cons {c : Char} {cs : List Char} (first : isBlank c = false) (rest : Visible cs) :
    Visible (c :: cs) := by
  intro other member
  rcases List.mem_cons.mp member with rfl | inRest
  · exact first
  · exact rest other inRest

theorem visible_of_all {cs : List Char} (all : cs.all (fun c => !isBlank c) = true) :
    Visible cs := by
  intro c member
  have clean := List.all_eq_true.mp all c member
  simpa using clean

theorem Visible.append {front back : List Char} (first : Visible front) (second : Visible back) :
    Visible (front ++ back) := by
  intro c member
  rcases List.mem_append.mp member with inFront | inBack
  · exact first c inFront
  · exact second c inBack

theorem isBlank_of_isAlpha {c : Char} (alpha : c.isAlpha = true) : isBlank c = false := by
  have letter : 65 ≤ c.toNat ∧ c.toNat ≤ 122 := by
    rcases (Bool.or_eq_true _ _).mp alpha with upper | lower
    · obtain ⟨above, below⟩ := of_decide_eq_true upper
      have low : 65 ≤ c.toNat := UInt32.le_iff_toNat_le.mp above
      have high : c.toNat ≤ 90 := UInt32.le_iff_toNat_le.mp below
      omega
    · obtain ⟨above, below⟩ := (Bool.and_eq_true _ _).mp lower
      have low : 97 ≤ c.toNat := UInt32.le_iff_toNat_le.mp (of_decide_eq_true above)
      have high : c.toNat ≤ 122 := UInt32.le_iff_toNat_le.mp (of_decide_eq_true below)
      omega
  simp only [isBlank, Bool.or_eq_false_iff, Bool.and_eq_false_iff, decide_eq_false_iff_not,
    beq_eq_false_iff_ne]
  omega

theorem dropWhile_eq_self {p : Char → Bool} {cs : List Char}
    (keeps : ∀ c, cs.head? = some c → p c = false) : cs.dropWhile p = cs := by
  cases cs with
  | nil => rfl
  | cons c cs =>
      have first := keeps c rfl
      simp [first]

def dropEnds (p : Char → Bool) (cs : List Char) : List Char :=
  ((cs.dropWhile p).reverse.dropWhile p).reverse

theorem dropEnds_eq_self {p : Char → Bool} {cs : List Char}
    (first : ∀ c, cs.head? = some c → p c = false)
    (last : ∀ c, cs.getLast? = some c → p c = false) : dropEnds p cs = cs := by
  have ending : cs.reverse.dropWhile p = cs.reverse := by
    refine dropWhile_eq_self fun c found => last c ?_
    rw [← List.head?_reverse]
    exact found
  rw [dropEnds, dropWhile_eq_self first, ending, List.reverse_reverse]

theorem dropEnds_padded {p : Char → Bool} {before after : List Char}
    (first : ∀ c ∈ before, p c = true) (last : ∀ c ∈ after, p c = true) (cs : List Char) :
    dropEnds p (before ++ (cs ++ after)) = dropEnds p cs := by
  rw [dropEnds, List.dropWhile_append_of_pos first, dropEnds, List.dropWhile_append]
  split
  · next empty =>
      have left : cs.dropWhile p = [] := List.isEmpty_iff.mp empty
      have right : after.dropWhile p = [] := List.dropWhile_eq_nil_iff.mpr last
      rw [left, right]
  · have reversed : ∀ c ∈ after.reverse, p c = true :=
      fun c member => last c (List.mem_reverse.mp member)
    rw [List.reverse_append, List.dropWhile_append_of_pos reversed]

theorem trim_of_ends {cs : List Char} (first : ∀ c, cs.head? = some c → isBlank c = false)
    (last : ∀ c, cs.getLast? = some c → isBlank c = false) : trim cs = cs :=
  dropEnds_eq_self first last

theorem trim_enclosed {first last : Char} (opens : isBlank first = false)
    (closes : isBlank last = false) (cs : List Char) :
    trim (first :: (cs ++ [last])) = first :: (cs ++ [last]) := by
  refine trim_of_ends ?_ ?_
  · intro c found
    cases found
    exact opens
  · intro c found
    rw [← List.cons_append, List.getLast?_concat] at found
    cases found
    exact closes

theorem trim_of_visible {cs : List Char} (visible : Visible cs) : trim cs = cs := by
  refine trim_of_ends ?_ ?_
  · intro c found
    exact visible c (List.mem_of_mem_head? found)
  · intro c found
    exact visible c (List.mem_of_mem_getLast? found)

theorem trimStart_head (cs : List Char) :
    ∀ c, (trimStart cs).head? = some c → isBlank c = false := by
  intro c found
  have stops := List.head?_dropWhile_not isBlank cs
  rw [trimStart] at found
  rw [found] at stops
  simpa using stops

theorem trimEnd_prefix (cs : List Char) : trimEnd cs <+: cs := by
  have suffix : cs.reverse.dropWhile isBlank <:+ cs.reverse := List.dropWhile_suffix isBlank
  rw [← List.reverse_prefix, List.reverse_reverse] at suffix
  exact suffix

theorem trimStart_subset (cs : List Char) : trimStart cs ⊆ cs :=
  (List.dropWhile_suffix isBlank).subset

theorem trimEnd_subset (cs : List Char) : trimEnd cs ⊆ cs := by
  have front := trimEnd_prefix cs
  exact front.subset

theorem trim_subset (cs : List Char) : trim cs ⊆ cs :=
  fun _ listed => trimStart_subset cs (trimEnd_subset _ listed)

theorem trim_ends (cs : List Char) :
    (∀ c, (trim cs).head? = some c → isBlank c = false) ∧
      ∀ c, (trim cs).getLast? = some c → isBlank c = false := by
  constructor
  · intro c found
    obtain ⟨rest, whole⟩ := trimEnd_prefix (trimStart cs)
    apply trimStart_head cs c
    rw [← whole, List.head?_append, ← trim, found]
    rfl
  · intro c found
    rw [trim, trimEnd, List.getLast?_reverse] at found
    exact trimStart_head (trimStart cs).reverse c found

theorem trim_trim (cs : List Char) : trim (trim cs) = trim cs :=
  trim_of_ends (trim_ends cs).1 (trim_ends cs).2

def AllBlank (cs : List Char) : Prop :=
  ∀ c ∈ cs, isBlank c = true

instance (cs : List Char) : Decidable (AllBlank cs) :=
  List.decidableBAll (fun c => isBlank c = true) cs

theorem AllBlank.ne {cs : List Char} (blank : AllBlank cs) {c : Char}
    (visible : isBlank c = false) : ∀ d ∈ cs, d ≠ c := by
  rintro d listed rfl
  rw [blank d listed] at visible
  cases visible

theorem AllBlank.append {front back : List Char} (first : AllBlank front)
    (second : AllBlank back) : AllBlank (front ++ back) := by
  intro c member
  rcases List.mem_append.mp member with inFront | inBack
  · exact first c inFront
  · exact second c inBack

theorem trimStart_eq_nil_iff {cs : List Char} : trimStart cs = [] ↔ AllBlank cs := by
  rw [trimStart, List.dropWhile_eq_nil_iff]
  rfl

theorem trimEnd_eq_nil_iff {cs : List Char} : trimEnd cs = [] ↔ AllBlank cs := by
  rw [trimEnd, List.reverse_eq_nil_iff, List.dropWhile_eq_nil_iff]
  simp [AllBlank]

theorem trimEnd_append_of_allBlank (front : List Char) {back : List Char}
    (blank : AllBlank back) : trimEnd (front ++ back) = trimEnd front := by
  have reversed : ∀ c ∈ back.reverse, isBlank c = true := by
    intro c member
    exact blank c (List.mem_reverse.mp member)
  rw [trimEnd, List.reverse_append, List.dropWhile_append_of_pos reversed]
  rfl

theorem trim_padded {before after : List Char} (first : AllBlank before) (last : AllBlank after)
    (cs : List Char) : trim (before ++ (cs ++ after)) = trim cs :=
  dropEnds_padded first last cs

theorem exists_append_trimStart (cs : List Char) :
    ∃ before, AllBlank before ∧ before ++ trimStart cs = cs := by
  refine ⟨cs.takeWhile isBlank, ?_, List.takeWhile_append_dropWhile⟩
  intro c member
  exact List.mem_takeWhile_imp member

theorem exists_trimEnd_append (cs : List Char) :
    ∃ after, AllBlank after ∧ trimEnd cs ++ after = cs := by
  obtain ⟨before, blank, whole⟩ := exists_append_trimStart cs.reverse
  refine ⟨before.reverse, ?_, ?_⟩
  · intro c member
    exact blank c (List.mem_reverse.mp member)
  · rw [trimEnd, ← List.reverse_append, ← trimStart, whole, List.reverse_reverse]

theorem exists_padded_trim (cs : List Char) :
    ∃ before after, AllBlank before ∧ AllBlank after ∧ before ++ (trim cs ++ after) = cs := by
  obtain ⟨before, first, whole⟩ := exists_append_trimStart cs
  obtain ⟨after, last, rest⟩ := exists_trimEnd_append (trimStart cs)
  exact ⟨before, after, first, last, by rw [trim, rest, whole]⟩

theorem trim_trimStart (cs : List Char) : trim (trimStart cs) = trim cs := by
  obtain ⟨before, blank, whole⟩ := exists_append_trimStart cs
  have padded := trim_padded blank (List.forall_mem_nil _) (trimStart cs)
  rw [List.append_nil, whole] at padded
  exact padded.symm

theorem trim_trimEnd (cs : List Char) : trim (trimEnd cs) = trim cs := by
  obtain ⟨after, blank, whole⟩ := exists_trimEnd_append cs
  have padded := trim_padded (List.forall_mem_nil _) blank (trimEnd cs)
  rw [List.nil_append, whole] at padded
  exact padded.symm

theorem trim_eq_nil_iff {cs : List Char} : trim cs = [] ↔ AllBlank cs := by
  rw [trim, trimEnd_eq_nil_iff]
  constructor
  · intro left c member
    obtain ⟨before, blank, whole⟩ := exists_append_trimStart cs
    rw [← whole, List.mem_append] at member
    rcases member with inBefore | inRest
    · exact blank c inBefore
    · exact left c inRest
  · intro blank
    rw [trimStart_eq_nil_iff.mpr blank]
    exact List.forall_mem_nil _

variable {c : Char} (visible : isBlank c = false)
include visible

theorem trimStart_append_cons (front back : List Char) :
    trimStart (front ++ c :: back) = trimStart front ++ c :: back := by
  induction front with
  | nil => exact trimStart_cons_of_not_blank back visible
  | cons d front ih =>
      rw [trimStart] at ih
      by_cases blank : isBlank d = true
      · simp [trimStart, blank, ih]
      · simp [trimStart, blank]

theorem trimEnd_append_cons (front back : List Char) :
    trimEnd (front ++ c :: back) = front ++ c :: trimEnd back := by
  have mirrored := trimStart_append_cons visible back.reverse front.reverse
  rw [trimEnd, List.reverse_append, List.reverse_cons, List.append_assoc, List.singleton_append,
    ← trimStart, mirrored]
  simp [trimEnd, trimStart]

theorem trim_append_cons (front back : List Char) :
    trim (front ++ c :: back) = trimStart front ++ c :: trimEnd back := by
  rw [trim, trimStart_append_cons visible, trimEnd_append_cons visible]

end RowConduit.Text
