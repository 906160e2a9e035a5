import RowConduit.Proofs.Types.Override

/-!
# Size groups

A scalar type may have a group of sizes in parentheses behind its name or among its words.  The
group may hold anything, brackets and commas too: the text ends as it does without the group or in
the parenthesis that closes it, and so it is a leaf in both cases.  The name of the leaf has no
parentheses in it, so the group adds nothing to the leaf but its numbers, and numbers make a
difference to two names only.
-/

namespace RowConduit

open RowConduit.Text

def Unparenthesised (cs : List Char) : Prop :=
  ∀ c ∈ cs, c ≠ '(' ∧ c ≠ ')'

theorem Unparenthesised.mono {cs ds : List Char} (free : Unparenthesised ds) (within : cs ⊆ ds) :
    Unparenthesised cs :=
  fun c listed => free c (within listed)

def Bracketless (cs : List Char) : Prop :=
  ∀ c ∈ cs, c ≠ '<' ∧ c ≠ '>' ∧ c ≠ '[' ∧ c ≠ ']'

def grouped (front group back : List Char) : List Char :=
  front ++ '(' :: (group ++ ')' :: back)

namespace TypeMapper

/-- A precision decides about Oracle numbers and MySQL tinyints, and about no other scalar type. -/
def IsRefined (kind : SourceKind) (name : String) : Prop :=
  (kind = .oracle ∧ name = "number") ∨ (kind = .mySql ∧ name = "tinyint")

theorem decided?_of_not_isRefined {kind : SourceKind} {name : String}
    (plain : ¬ IsRefined kind name) (precision scale : Option UInt32) :
    decided? kind name precision scale = none := by
  rw [decided?, if_neg, if_neg]
  · rintro ⟨mySql, tinyint, _⟩
    exact plain (Or.inr ⟨mySql, tinyint⟩)
  · rintro ⟨oracle, number, _⟩
    exact plain (Or.inl ⟨oracle, number⟩)

end TypeMapper

namespace TypeExpr

section Groups

variable {front group back : List Char} (closed : Unparenthesised group)

include closed in
theorem outsideParentheses_group :
    outsideParentheses 1 (group ++ ')' :: back) = outsideParentheses 0 back := by
  induction group with
  | nil => rfl
  | cons c group ih =>
      have first := closed c List.mem_cons_self
      have later := ih fun d listed => closed d (List.mem_cons_of_mem c listed)
      rw [List.cons_append, outsideParentheses, if_neg first.1, if_neg first.2,
        if_neg Nat.one_ne_zero, later]

include closed in
theorem outsideParentheses_grouped (opens : Unparenthesised front) :
    outsideParentheses 0 (grouped front group back) = outsideParentheses 0 (front ++ back) := by
  have unopened : ∀ c ∈ front, c ≠ '(' := fun c listed => (opens c listed).1
  rw [grouped, outsideParentheses_append_of_unopened unopened, outsideParentheses, if_pos rfl,
    outsideParentheses_group closed, outsideParentheses_append_of_unopened unopened]

include closed in
theorem lookupName_grouped (opens : Unparenthesised front) :
    lookupName (grouped front group back) = lookupName (front ++ back) := by
  rw [lookupName, lookupName, outsideParentheses_grouped closed opens]

theorem sizeNumbers_grouped (opens : Unparenthesised front) (closes : Unparenthesised back) :
    sizeNumbers (grouped front group back) = sizeNumbers (grouped [] group []) := by
  have unopened : ∀ c ∈ front, c ≠ '(' := fun c listed => (opens c listed).1
  have within := sizeNumbers_within unopened closes (grouped [] group [])
  simpa [grouped] using within

theorem trim_grouped (front group back : List Char) :
    trim (grouped front group back) = grouped (trimStart front) group (trimEnd back) := by
  rw [grouped, trim_append_cons (by decide), trimEnd_append_cons (by decide), grouped]

theorem getLast?_grouped {c : Char} (last : (grouped front group back).getLast? = some c) :
    (c = ')' ∧ back = []) ∨ c ∈ back := by
  have tail : (grouped front group back).getLast? = (')' :: back).getLast? := by
    rw [grouped, ← List.cons_append, ← List.append_assoc, List.getLast?_append,
      List.getLast?_cons, Option.some_or]
  rw [tail] at last
  cases back with
  | nil =>
      cases last
      exact Or.inl ⟨rfl, rfl⟩
  | cons d rest =>
      rw [List.getLast?_cons_cons] at last
      exact Or.inr (List.mem_of_mem_getLast? last)

include closed in
theorem sizeLast_grouped (opens : Unparenthesised front) (closes : Unparenthesised back) :
    SizeLast (grouped front group back) := by
  intro last before after cut
  have unopened : ∀ c ∈ front, decide (c = '(') = false :=
    fun c listed => decide_eq_false (opens c listed).1
  rcases getLast?_grouped last with ⟨_, rfl⟩ | listed
  · rw [grouped, cutAt?_append_cons unopened (by decide)] at cut
    cases cut
    rw [outsideParentheses_group closed]
    exact List.forall_mem_nil _
  · exact absurd rfl (closes ')' listed).2

end Groups

section Unparenthesised

variable {cs : List Char} (free : Unparenthesised cs)

include free

theorem cutAt?_of_unparenthesised : cutAt? (· = '(') cs = none :=
  cutAt?_eq_none_iff.mpr fun c listed => decide_eq_false (free c listed).1

theorem sizeNumbers_of_unparenthesised : sizeNumbers cs = (none, none) := by
  rw [sizeNumbers, cutAt?_of_unparenthesised free]

theorem stripSize_of_unparenthesised : stripSize cs = cs := by
  rw [stripSize, cutAt?_of_unparenthesised free]

end Unparenthesised

end TypeExpr

namespace TypeMapper

open TypeExpr

/-- A text that ends in no bracket is a scalar type: its name and its numbers decide. -/
theorem mapType_of_end (m : TypeMapper) (kind : SourceKind) {raw : String}
    (ends : ∀ c, (trim raw.toList).getLast? = some c → c ≠ ']' ∧ c ≠ '>')
    (last : SizeLast (trim raw.toList)) (precision scale : Option UInt32) :
    m.mapType kind raw precision scale =
      ((decided? kind (lookupName raw.toList) (precision.or (sizeNumbers raw.toList).1)
          (scale.or (sizeNumbers raw.toList).2)).or
        (m.lookup? kind (lookupName raw.toList))).getD .unsupported := by
  rw [mapType, parse_of_end ends, leafOf, mapExpr, mapScalar_eq, lookupName_stripSize_iff.mpr last,
    lookupName_trim]

/-- A text with a group is mapped by the name that it has without the group. -/
theorem mapType_grouped (m : TypeMapper) (kind : SourceKind) {raw : String}
    {front group back : List Char} (opens : Unparenthesised front)
    (closed : Unparenthesised group) (closes : Unparenthesised back)
    (plainBack : Bracketless back) (text : raw.toList = grouped front group back)
    (precision scale : Option UInt32) :
    m.mapType kind raw precision scale =
      ((decided? kind (lookupName (front ++ back))
          (precision.or (sizeNumbers (grouped [] group [])).1)
          (scale.or (sizeNumbers (grouped [] group [])).2)).or
        (m.lookup? kind (lookupName (front ++ back)))).getD .unsupported := by
  have ends : ∀ c, (trim raw.toList).getLast? = some c → c ≠ ']' ∧ c ≠ '>' := by
    rw [text, trim_grouped]
    intro c last
    rcases getLast?_grouped last with ⟨rfl, _⟩ | listed
    · decide
    · have plain := plainBack c (trimEnd_subset back listed)
      exact ⟨plain.2.2.2, plain.2.1⟩
  have last : SizeLast (trim raw.toList) := by
    rw [text, trim_grouped]
    exact sizeLast_grouped closed (opens.mono (trimStart_subset front))
      (closes.mono (trimEnd_subset back))
  rw [mapType_of_end m kind ends last, text, lookupName_grouped closed opens,
    sizeNumbers_grouped opens closes]

/-- A text without parentheses and brackets is mapped by its name and what is reported. -/
theorem mapType_bare (m : TypeMapper) (kind : SourceKind) {raw : String}
    (unparenthesised : Unparenthesised raw.toList) (bracketless : Bracketless raw.toList)
    (precision scale : Option UInt32) :
    m.mapType kind raw precision scale =
      ((decided? kind (lookupName raw.toList) precision scale).or
        (m.lookup? kind (lookupName raw.toList))).getD .unsupported := by
  have listed {c : Char} (last : (trim raw.toList).getLast? = some c) : c ∈ raw.toList :=
    trim_subset raw.toList (List.mem_of_mem_getLast? last)
  have ends : ∀ c, (trim raw.toList).getLast? = some c → c ≠ ']' ∧ c ≠ '>' := by
    intro c last
    have plain := bracketless c (listed last)
    exact ⟨plain.2.2.2, plain.2.1⟩
  have last : SizeLast (trim raw.toList) :=
    fun closing => absurd rfl (unparenthesised ')' (listed closing)).2
  rw [mapType_of_end m kind ends last, sizeNumbers_of_unparenthesised unparenthesised,
    Option.or_none, Option.or_none]

/--
A group of sizes makes the difference to a scalar type that its numbers make when they are reported
with the text that is left without it.  So it makes none unless the type is one that a precision
decides about, whatever is in the group.
-/
theorem mapType_sized (m : TypeMapper) (kind : SourceKind) {front group back : String}
    (opens : Unparenthesised front.toList) (plainFront : Bracketless front.toList)
    (closed : Unparenthesised group.toList) (closes : Unparenthesised back.toList)
    (plainBack : Bracketless back.toList) :
    let sizes := sizeNumbers ("(" ++ group ++ ")").toList
    (∀ precision scale, m.mapType kind (front ++ "(" ++ group ++ ")" ++ back) precision scale =
      m.mapType kind (front ++ back) (precision.or sizes.1) (scale.or sizes.2)) ∧
    (¬ IsRefined kind (lookupName (front ++ back).toList) → ∀ precision scale,
      m.mapType kind (front ++ "(" ++ group ++ ")" ++ back) precision scale =
        m.mapType kind (front ++ back) precision scale) := by
  intro sizes
  have text : (front ++ "(" ++ group ++ ")" ++ back).toList =
      grouped front.toList group.toList back.toList := by
    simp [grouped]
  have alone : ("(" ++ group ++ ")").toList = grouped [] group.toList [] := by
    simp [grouped]
  have both {p : Char → Prop} (first : ∀ c ∈ front.toList, p c) (second : ∀ c ∈ back.toList, p c) :
      ∀ c ∈ (front ++ back).toList, p c := by
    rw [String.toList_append]
    exact List.forall_mem_append.mpr ⟨first, second⟩
  have sized := m.mapType_grouped kind opens closed closes plainBack text
  have bare := m.mapType_bare kind (both opens closes) (both plainFront plainBack)
  rw [← String.toList_append, ← alone] at sized
  constructor
  · intro precision scale
    rw [sized, bare]
  · intro plain precision scale
    rw [sized, bare, decided?_of_not_isRefined plain, decided?_of_not_isRefined plain]

/-- A precision among the words of a timestamp makes no difference, and that of a number does. -/
theorem mapType_sized_timestamp :
    (∀ precision scale,
      TypeMapper.builtin.mapType .postgreSql
        ("timestamp" ++ "(" ++ "6, <int>[]" ++ ")" ++ " with time zone") precision scale =
      TypeMapper.builtin.mapType .postgreSql ("timestamp" ++ " with time zone") precision scale) ∧
    TypeMapper.builtin.mapType .oracle ("Number " ++ "(" ++ "9, 0" ++ ")" ++ "") none none =
      .int := by
  have words : Unparenthesised "timestamp".toList ∧ Unparenthesised " with time zone".toList ∧
      Unparenthesised "6, <int>[]".toList := by simp [Unparenthesised]
  have plain : Bracketless "timestamp".toList ∧ Bracketless " with time zone".toList := by
    simp [Bracketless]
  have number : Unparenthesised "Number ".toList ∧ Unparenthesised "9, 0".toList ∧
      Unparenthesised "".toList ∧ Bracketless "Number ".toList ∧ Bracketless "".toList := by
    simp [Unparenthesised, Bracketless]
  have unrefined : ¬ IsRefined .postgreSql (lookupName ("timestamp" ++ " with time zone").toList) :=
    by simp [IsRefined]
  have timestamps := mapType_sized TypeMapper.builtin .postgreSql words.1 plain.1 words.2.2
    words.2.1 plain.2
  have numbers := mapType_sized TypeMapper.builtin .oracle number.1 number.2.2.2.1 number.2.1
    number.2.2.1 number.2.2.2.2
  exact ⟨timestamps.2 unrefined, (numbers.1 none none).trans (by decide +kernel)⟩

end TypeMapper

end RowConduit
