import RowConduit.Proofs.Types.SizeGroup

/-!
# The name of a leaf

A type text may have several groups in parentheses, with words between and behind them.  Its name
has all the words, whatever groups there are and however they are nested.  The leaf is made of the
text up to its first parenthesis if the text ends in a closing one, and then it has none of the
words that stand between the groups: its name is a beginning of that of the text, and the whole of
it only if there are no such words.
-/

namespace RowConduit

open RowConduit.Text

/-- Parentheses are balanced, where the text starts inside `depth` of them. -/
def nested : Nat → List Char → Bool
  | depth, [] => depth == 0
  | depth, c :: rest =>
      if c = '(' then nested (depth + 1) rest
      else if c = ')' then 0 < depth && nested (depth - 1) rest
      else nested depth rest

/-- Nothing of a text with balanced parentheses is outside if it comes inside of others. -/
theorem outsideParentheses_nested {cs : List Char} {inner : Nat}
    (balanced : nested inner cs = true) (depth : Nat) (rest : List Char) :
    outsideParentheses (depth + 1 + inner) (cs ++ rest) = outsideParentheses (depth + 1) rest := by
  induction cs generalizing inner with
  | nil =>
      have closed : inner = 0 := by simpa [nested] using balanced
      rw [closed]
      rfl
  | cons c cs ih =>
      -- The depth never falls below that of the parentheses around the text, so nothing is kept.
      rw [nested] at balanced
      rw [List.cons_append, outsideParentheses]
      split
      · next opens =>
        rw [if_pos opens] at balanced
        exact ih balanced
      · next notOpens =>
        rw [if_neg notOpens] at balanced
        split
        · next closes =>
          rw [if_pos closes, Bool.and_eq_true, decide_eq_true_eq] at balanced
          have level : depth + 1 + inner - 1 = depth + 1 + (inner - 1) := by omega
          rw [level]
          exact ih balanced.2
        · next notCloses =>
          rw [if_neg notCloses] at balanced
          rw [if_neg (by omega)]
          exact ih balanced

structure SizeGroup where
  inside : List Char
  behind : List Char
  balanced : nested 0 inside = true
  plain : Unparenthesised behind

namespace SizeGroup

def text (g : SizeGroup) : List Char :=
  grouped [] g.inside g.behind

theorem outsideParentheses_text (g : SizeGroup) (rest : List Char) :
    outsideParentheses 0 (g.text ++ rest) = g.behind ++ outsideParentheses 0 rest := by
  have unopened : ∀ c ∈ g.behind, c ≠ '(' := fun c listed => (g.plain c listed).1
  have closes : ¬ ')' = '(' := by decide
  rw [text, grouped, List.nil_append, List.cons_append, List.append_assoc, List.cons_append,
    outsideParentheses, if_pos rfl, outsideParentheses_nested g.balanced 0, outsideParentheses,
    if_neg closes, if_pos rfl, outsideParentheses_append_of_unopened unopened,
    outsideParentheses_eq_self g.plain]

end SizeGroup

def withGroups (front : List Char) (groups : List SizeGroup) : List Char :=
  front ++ groups.flatMap SizeGroup.text

def EndsInGroup (groups : List SizeGroup) : Prop :=
  ∃ g, groups.getLast? = some g ∧ g.behind = []

theorem withGroups_concat (front : List Char) (groups : List SizeGroup) (g : SizeGroup) :
    withGroups front (groups ++ [g]) =
      grouped (front ++ groups.flatMap SizeGroup.text) g.inside g.behind := by
  simp [withGroups, SizeGroup.text, grouped]

theorem getLast?_withGroups_of_ends (front : List Char) {groups : List SizeGroup}
    (ends : EndsInGroup groups) : (withGroups front groups).getLast? = some ')' := by
  obtain ⟨g, last, nothing⟩ := ends
  obtain ⟨others, rfl⟩ := List.getLast?_eq_some_iff.mp last
  rw [withGroups_concat, nothing, grouped, ← List.cons_append, ← List.append_assoc,
    List.getLast?_concat]

section Groups

variable {front : List Char} {groups : List SizeGroup} (free : Unparenthesised front)

include free

/-- What is outside parentheses is what stands before, between and behind the groups. -/
theorem outsideParentheses_withGroups :
    outsideParentheses 0 (withGroups front groups) =
      front ++ groups.flatMap SizeGroup.behind := by
  have unopened : ∀ c ∈ front, c ≠ '(' := fun c listed => (free c listed).1
  have between : outsideParentheses 0 (groups.flatMap SizeGroup.text) =
      groups.flatMap SizeGroup.behind := by
    induction groups with
    | nil => rfl
    | cons g groups ih =>
        rw [List.flatMap_cons, g.outsideParentheses_text, ih, List.flatMap_cons]
  rw [withGroups, outsideParentheses_append_of_unopened unopened, outsideParentheses_eq_self free,
    between]

theorem lookupName_withGroups :
    lookupName (withGroups front groups) =
      String.ofList (canonical (front ++ groups.flatMap SizeGroup.behind)) := by
  rw [lookupName_eq_canonical, outsideParentheses_withGroups free]

theorem cutAt?_withGroups_of_ends (ends : EndsInGroup groups) :
    ∃ after, cutAt? (· = '(') (withGroups front groups) = some (front, after) := by
  obtain ⟨g, last, _⟩ := ends
  cases groups with
  | nil => cases last
  | cons first others =>
      have unopened : '(' ∉ front := fun listed => (free '(' listed).1 rfl
      exact ⟨_, cutAt?_mark_eq_some_iff.mpr ⟨unopened, rfl⟩⟩

theorem endsInGroup_of_getLast? (last : (withGroups front groups).getLast? = some ')') :
    EndsInGroup groups := by
  rcases List.eq_nil_or_concat groups with rfl | ⟨others, g, rfl⟩
  · rw [withGroups, List.flatMap_nil, List.append_nil] at last
    exact absurd rfl (free ')' (List.mem_of_mem_getLast? last)).2
  · rw [List.concat_eq_append, withGroups_concat] at last
    rcases TypeExpr.getLast?_grouped last with ⟨_, nothing⟩ | listed
    · exact ⟨g, by simp, nothing⟩
    · exact absurd rfl (g.plain ')' listed).2

end Groups

namespace TypeExpr

theorem stripSize_withGroups_of_ends {front : List Char} {groups : List SizeGroup}
    (free : Unparenthesised front) (ends : EndsInGroup groups) :
    stripSize (withGroups front groups) = trimEnd front := by
  have last := getLast?_withGroups_of_ends front ends
  obtain ⟨behind, here⟩ := cutAt?_withGroups_of_ends free ends
  rcases stripSize_cases (withGroups front groups) with ⟨_, _, cut, _, stripped⟩ | ⟨uncut, _⟩
  · rw [here] at cut
    cases cut
    exact stripped
  · rw [uncut last] at here
    cases here

theorem stripSize_withGroups_of_not_ends {front : List Char} {groups : List SizeGroup}
    (free : Unparenthesised front) (goesOn : ¬ EndsInGroup groups) :
    stripSize (withGroups front groups) = withGroups front groups := by
  rcases stripSize_cases (withGroups front groups) with ⟨_, _, _, last, _⟩ | ⟨_, whole⟩
  · exact absurd (endsInGroup_of_getLast? free last) goesOn
  · exact whole

/--
The leaf of a text without angle brackets is the text without its sizes.  Its name is a beginning of
the name of the text, and all of it if and only if the text does not end in a closing parenthesis
or nothing visible is outside parentheses behind the first opening one.  So a text with groups keeps
all its words if it ends in words, and those before the first group if it ends in a group.
-/
theorem leaf_keeps_name_iff {raw : String} {leaf : TypeLeaf}
    (scalar : parse raw.toList = .leaf leaf) (angleless : splitAngle? (trim raw.toList) = none) :
    leaf.name = stripSize (trim raw.toList) ∧
    (lookupName leaf.name).toList <+: (lookupName raw.toList).toList ∧
    (lookupName leaf.name = lookupName raw.toList ↔ SizeLast (trim raw.toList)) ∧
    ∀ front groups, Unparenthesised front → trim raw.toList = withGroups front groups →
      lookupName raw.toList =
        String.ofList (canonical (front ++ groups.flatMap SizeGroup.behind)) ∧
      (¬ EndsInGroup groups → lookupName leaf.name = lookupName raw.toList) ∧
      (EndsInGroup groups → lookupName leaf.name = String.ofList (canonical front)) := by
  have stripped : leaf.name = stripSize (trim raw.toList) := by
    rw [parse, parseIn_eq, angleless] at scalar
    split at scalar
    · cases scalar
    · cases scalar
      rfl
  rw [stripped, ← lookupName_trim raw.toList]
  refine ⟨rfl, lookupName_stripSize_prefix _, lookupName_stripSize_iff, ?_⟩
  intro front groups free text
  rw [text]
  refine ⟨lookupName_withGroups free, fun goesOn => ?_, fun ends => ?_⟩
  · rw [stripSize_withGroups_of_not_ends free goesOn]
  · rw [stripSize_withGroups_of_ends free ends, lookupName_trimEnd,
      lookupName_of_unparenthesised free]

def characterGroups : List SizeGroup :=
  [⟨"20 (char)".toList, " For Bit".toList, by decide, by simp [Unparenthesised]⟩,
    ⟨"8".toList, " Data".toList, by decide, by simp [Unparenthesised]⟩]

theorem leaf_keeps_name_iff_characters :
    let raw := " Character Varying(20 (char)) For Bit(8) Data "
    let leaf : TypeLeaf := ⟨trim raw.toList, none, none⟩
    parse raw.toList = .leaf leaf ∧ splitAngle? (trim raw.toList) = none ∧
      trim raw.toList = withGroups "Character Varying".toList characterGroups ∧
      lookupName leaf.name = "character varying for bit data" ∧ SizeLast (trim raw.toList) := by
  intro raw leaf
  have scalar : parse raw.toList = .leaf leaf := by decide +kernel
  have angleless : splitAngle? (trim raw.toList) = none := by decide +kernel
  have text : trim raw.toList = withGroups "Character Varying".toList characterGroups := by
    decide +kernel
  have free : Unparenthesised "Character Varying".toList := by simp [Unparenthesised]
  have goesOn : ¬ EndsInGroup characterGroups := by
    rintro ⟨g, last, nothing⟩
    cases last
    cases nothing
  obtain ⟨_, _, whole, written⟩ := leaf_keeps_name_iff scalar angleless
  obtain ⟨name, kept, _⟩ := written _ _ free text
  exact ⟨scalar, angleless, text, (kept goesOn).trans (name.trans (by decide +kernel)),
    whole.mp (kept goesOn)⟩

/--
A type with two groups loses the words between them, and is not found under the name that its text
has without the groups.
-/
theorem leaf_loses_words :
    let raw := "INTERVAL DAY(2) TO SECOND(6)"
    let leaf : TypeLeaf := ⟨"INTERVAL DAY".toList, some 2, none⟩
    let m := TypeMapper.builtin.withOverride .oracle "INTERVAL DAY TO SECOND" .string
    parse raw.toList = .leaf leaf ∧ splitAngle? (trim raw.toList) = none ∧
      leaf.name = stripSize (trim raw.toList) ∧ lookupName leaf.name = "interval day" ∧
      lookupName raw.toList = "interval day to second" ∧
      lookupName leaf.name ≠ lookupName raw.toList ∧
      m.mapType .oracle "INTERVAL DAY TO SECOND" none none = .string ∧
      m.mapType .oracle raw none none = .unsupported := by
  intro raw leaf m
  have name : lookupName leaf.name = "interval day" := by decide +kernel
  have textName : lookupName raw.toList = "interval day to second" := by decide +kernel
  have apart : lookupName leaf.name ≠ lookupName raw.toList := by
    rw [name, textName]
    decide
  exact ⟨by decide +kernel, by decide +kernel, by decide +kernel, name, textName, apart,
    by decide +kernel, by decide +kernel⟩

end TypeExpr

end RowConduit
