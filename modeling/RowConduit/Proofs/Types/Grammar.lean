import Mathlib
import RowConduit.Proofs.Types.TypeExpr
import RowConduit.Types.Mapper

/-!
# The grammar of type texts

A type term is a leaf, an array, a frozen term or a map.  It is rendered with the names of the
constructors in any letter case and with blanks around all its parts.  Whatever the rendering, it is
read as the term, and every mapper maps it to what the term means.

The induction is on the rendering.  What carries it through a map is that no comma of a rendering is
outside the brackets and parentheses of that rendering, so that the search for the comma of the map
passes over the whole key.
-/

namespace RowConduit

open RowConduit.Text

/--
Parentheses are balanced and all commas are inside them, where the text starts inside `depth` of
them.
-/
def enclosed : Nat → List Char → Bool
  | depth, [] => depth == 0
  | depth, c :: rest =>
      if c = '(' then enclosed (depth + 1) rest
      else if c = ')' then 0 < depth && enclosed (depth - 1) rest
      else if c = ',' then 0 < depth && enclosed depth rest
      else enclosed depth rest

/-- A scalar type as it is written: some text without brackets, its commas inside parentheses. -/
structure ScalarText where
  chars : List Char
  solid : ∃ c ∈ chars, isBlank c = false
  bracketless : ∀ c ∈ chars, c ≠ '<' ∧ c ≠ '>' ∧ c ≠ '[' ∧ c ≠ ']'
  enclosed : enclosed 0 chars = true

inductive CollectionName where
  | array
  | list
  | set
  deriving DecidableEq, Repr

def CollectionName.text : CollectionName → String
  | .array => "array"
  | .list => "list"
  | .set => "set"

/-- A type as the grammar builds it; `suffixed` is the form with a pair of brackets at the end. -/
inductive TypeTerm where
  | leaf (scalar : ScalarText)
  | suffixed (element : TypeTerm)
  | collection (name : CollectionName) (element : TypeTerm)
  | frozen (argument : TypeTerm)
  | map (key value : TypeTerm)

def Spells (name : String) (letters : List Char) : Prop :=
  letters.map Char.toLower = name.toList

namespace TypeTerm

inductive Renders : TypeTerm → List Char → Prop where
  | leaf (scalar : ScalarText) : Renders (.leaf scalar) scalar.chars
  | padded {t : TypeTerm} {before cs after : List Char} (first : AllBlank before)
      (rendered : Renders t cs) (last : AllBlank after) : Renders t (before ++ (cs ++ after))
  | suffixed {t : TypeTerm} {cs : List Char} (rendered : Renders t cs) :
      Renders (.suffixed t) (cs ++ ['[', ']'])
  | collection {name : CollectionName} {t : TypeTerm} {letters gap cs : List Char}
      (spelled : Spells name.text letters) (blank : AllBlank gap) (rendered : Renders t cs) :
      Renders (.collection name t) (TypeExpr.applied letters gap cs)
  | frozen {t : TypeTerm} {letters gap cs : List Char} (spelled : Spells "frozen" letters)
      (blank : AllBlank gap) (rendered : Renders t cs) :
      Renders (.frozen t) (TypeExpr.applied letters gap cs)
  | map {k v : TypeTerm} {letters gap ks vs : List Char} (spelled : Spells "map" letters)
      (blank : AllBlank gap) (key : Renders k ks) (value : Renders v vs) :
      Renders (.map k v) (TypeExpr.applied letters gap (ks ++ ',' :: vs))

/-- The type that a term stands for, where its leaves are mapped on their own. -/
def meaning (m : TypeMapper) (kind : SourceKind) : TypeTerm → LogicalType
  | .leaf scalar => m.mapType kind (String.ofList scalar.chars) none none
  | .suffixed element => LogicalType.arrayOf (element.meaning m kind)
  | .collection _ element => LogicalType.arrayOf (element.meaning m kind)
  | .frozen argument => argument.meaning m kind
  | .map key value => LogicalType.mapOf (key.meaning m kind) (value.meaning m kind)

def expr : TypeTerm → TypeExpr
  | .leaf scalar => TypeExpr.parse scalar.chars
  | .suffixed element => .array element.expr
  | .collection _ element => .array element.expr
  | .frozen argument => argument.expr
  | .map key value => .map key.expr value.expr

end TypeTerm

namespace TypeExpr

open TypeTerm

/-- The parentheses around a text with balanced ones are left when it has been passed. -/
theorem cutAtComma?_enclosed {cs : List Char} {inner : Nat} (balanced : enclosed inner cs = true)
    (bracketless : ∀ c ∈ cs, c ≠ '<' ∧ c ≠ '>') {depth : Int} (nonneg : 0 ≤ depth)
    (rest : List Char) :
    cutAtComma? (depth + inner) (cs ++ rest) =
      (cutAtComma? depth rest).map fun sides => (cs ++ sides.1, sides.2) := by
  induction cs generalizing inner with
  | nil =>
      have closed : inner = 0 := by simpa [enclosed] using balanced
      simp [closed]
  | cons c cs ih =>
      have first := bracketless c List.mem_cons_self
      have later : ∀ d ∈ cs, d ≠ '<' ∧ d ≠ '>' :=
        fun d listed => bracketless d (List.mem_cons_of_mem c listed)
      -- Whatever the character does to the depth, it is not a comma that ends the search.
      have onward {next : Nat} (uncut : c = ',' → 0 < inner)
          (moved : (depth + inner) + depthStep c = depth + next)
          (goesOn : enclosed next cs = true) :
          cutAtComma? (depth + inner) (c :: cs ++ rest) =
            (cutAtComma? depth rest).map fun sides => (c :: cs ++ sides.1, sides.2) := by
        have deep : c = ',' → depth + inner ≠ 0 := by
          intro comma
          have positive := uncut comma
          omega
        rw [List.cons_append, cutAtComma?_cons deep, moved, ih goesOn later, Option.map_map]
        rfl
      unfold enclosed at balanced
      split at balanced
      · next opened =>
        subst opened
        exact onward (by simp) (by simp [depthStep, Int.add_assoc]) balanced
      · next notOpened =>
        split at balanced
        · next closed =>
          subst closed
          rw [Bool.and_eq_true, decide_eq_true_eq] at balanced
          have step : depthStep ')' = -1 := by decide
          exact onward (by simp) (by rw [step]; omega) balanced.2
        · next notClosed =>
          have level : depthStep c = 0 := by simp [depthStep, first, notOpened, notClosed]
          split at balanced
          · next comma =>
            rw [Bool.and_eq_true, decide_eq_true_eq] at balanced
            exact onward (fun _ => balanced.1) (by rw [level, Int.add_zero]) balanced.2
          · next notComma =>
            exact onward (fun comma => absurd comma notComma) (by rw [level, Int.add_zero])
              balanced

theorem passed_scalar (scalar : ScalarText) : Passed 0 scalar.chars := by
  intro depth rest nonneg
  have bracketless : ∀ c ∈ scalar.chars, c ≠ '<' ∧ c ≠ '>' := by
    intro c listed
    have none := scalar.bracketless c listed
    exact ⟨none.1, none.2.1⟩
  have passed := cutAtComma?_enclosed scalar.enclosed bracketless nonneg rest
  rw [Int.ofNat_zero, Int.add_zero] at passed
  exact passed

theorem isWord_of_spells {name : String} {letters : List Char} (spelled : Spells name letters)
    (word : IsWord name.toList) : IsWord letters where
  nonempty := by
    rintro rfl
    exact word.nonempty spelled.symm
  letters := by
    intro c listed
    rw [← Char.isAlpha_toLower_eq_isAlpha]
    apply word.letters
    rw [← spelled]
    exact List.mem_map_of_mem listed

theorem spells_iff {name : String} {letters : List Char} :
    Spells name letters ↔ String.ofList (letters.map Char.toLower) = name := by
  rw [Spells, ← String.toList_inj, String.toList_ofList]

section Names

variable {letters : List Char}

theorem Constructor.ofName_eq_transparent_iff :
    Constructor.ofName letters = .transparent ↔ Spells "frozen" letters := by
  rw [spells_iff, Constructor.ofName]
  grind

theorem Constructor.ofName_eq_collection_iff :
    Constructor.ofName letters = .collection ↔
      ∃ name : CollectionName, Spells name.text letters := by
  constructor
  · intro collection
    have listed : String.ofList (letters.map Char.toLower) = "array" ∨
        String.ofList (letters.map Char.toLower) = "list" ∨
        String.ofList (letters.map Char.toLower) = "set" := by
      rw [Constructor.ofName] at collection
      grind
    rcases listed with array | list | set
    · exact ⟨.array, spells_iff.mpr array⟩
    · exact ⟨.list, spells_iff.mpr list⟩
    · exact ⟨.set, spells_iff.mpr set⟩
  · rintro ⟨name, spelled⟩
    rw [Constructor.ofName, spells_iff.mp spelled]
    cases name <;> rfl

theorem Constructor.ofName_eq_pairing_iff :
    Constructor.ofName letters = .pairing ↔ Spells "map" letters := by
  rw [spells_iff, Constructor.ofName]
  grind

end Names

theorem isWord_frozen : IsWord "frozen".toList where
  nonempty := by simp
  letters := by simp

theorem isWord_map : IsWord "map".toList where
  nonempty := by simp
  letters := by simp

theorem isWord_collection (name : CollectionName) : IsWord name.text.toList where
  nonempty := by cases name <;> simp [CollectionName.text]
  letters := by cases name <;> simp [CollectionName.text]

end TypeExpr

namespace TypeTerm

open TypeExpr

namespace Renders

variable {t : TypeTerm} {cs : List Char}

theorem not_allBlank (rendered : Renders t cs) : ¬ AllBlank cs := by
  have bracket {letters gap arguments : List Char} :
      ¬ AllBlank (applied letters gap arguments) := by
    intro blank
    have blankBracket := blank '<' (by simp [applied])
    exact absurd blankBracket (by decide)
  induction rendered with
  | leaf scalar =>
      obtain ⟨c, listed, visible⟩ := scalar.solid
      intro blank
      rw [blank c listed] at visible
      cases visible
  | padded first rendered last ih =>
      intro blank
      refine ih fun c listed => blank c ?_
      exact List.mem_append_right _ (List.mem_append_left _ listed)
  | suffixed rendered ih =>
      intro blank
      exact ih fun c listed => blank c (List.mem_append_left _ listed)
  | collection spelled blank rendered ih => exact bracket
  | frozen spelled blank rendered ih => exact bracket
  | map spelled blank key value keyIh valueIh => exact bracket

/-- All commas of a rendering are inside its own brackets and parentheses. -/
theorem passed (rendered : Renders t cs) : Passed 0 cs := by
  induction rendered with
  | leaf scalar => exact passed_scalar scalar
  | padded first rendered last ih =>
      exact (passed_of_allBlank first 0).append (ih.append (passed_of_allBlank last 0))
  | suffixed rendered ih => exact ih.append (passed_of_level (by simp [depthStep]) 0)
  | @collection name t letters gap cs spelled blank rendered ih =>
      have word := isWord_of_spells spelled (isWord_collection name)
      exact passed_applied word blank (ih.mono (by decide))
  | frozen spelled blank rendered ih =>
      have word := isWord_of_spells spelled isWord_frozen
      exact passed_applied word blank (ih.mono (by decide))
  | map spelled blank key value keyIh valueIh =>
      have word := isWord_of_spells spelled isWord_map
      have comma := passed_comma.append (valueIh.mono (by decide))
      exact passed_applied word blank ((keyIh.mono (by decide)).append comma)

/-- A rendering of a term is read as the term. -/
theorem parse_eq (rendered : Renders t cs) : parse cs = t.expr := by
  induction rendered with
  | leaf scalar => rfl
  | @padded t before cs after first rendered last ih =>
      rw [parse_congr (trim_padded first last cs), ih]
  | @suffixed t cs rendered ih => rw [parse_suffixed, ih, expr]
  | @collection name t letters gap cs spelled blank rendered ih =>
      have word := isWord_of_spells spelled (isWord_collection name)
      rw [parse_applied word blank rendered.not_allBlank,
        Constructor.ofName_eq_collection_iff.mpr ⟨name, spelled⟩]
      dsimp only
      rw [ih, expr]
  | @frozen t letters gap cs spelled blank rendered ih =>
      have word := isWord_of_spells spelled isWord_frozen
      rw [parse_applied word blank rendered.not_allBlank,
        Constructor.ofName_eq_transparent_iff.mpr spelled]
      dsimp only
      rw [ih, expr]
  | @map k v letters gap ks vs spelled blank key value keyIh valueIh =>
      have word := isWord_of_spells spelled isWord_map
      have solid : ¬ AllBlank (ks ++ ',' :: vs) := by
        intro all
        exact key.not_allBlank fun c listed => all c (List.mem_append_left _ listed)
      have pair := splitPair?_eq_some key.passed key.not_allBlank value.not_allBlank
      rw [parse_applied word blank solid, Constructor.ofName_eq_pairing_iff.mpr spelled, pair]
      dsimp only
      rw [parse_trim, parse_trim, keyIh, valueIh, expr]

end Renders

theorem mapExpr_expr (m : TypeMapper) (kind : SourceKind) (t : TypeTerm) :
    m.mapExpr kind none none t.expr = t.meaning m kind := by
  induction t with
  | leaf scalar => rw [expr, meaning, TypeMapper.mapType, String.toList_ofList]
  | suffixed element ih => rw [expr, meaning, TypeMapper.mapExpr, ih]
  | collection name element ih => rw [expr, meaning, TypeMapper.mapExpr, ih]
  | frozen argument ih => rw [expr, meaning, ih]
  | map key value keyIh valueIh => rw [expr, meaning, TypeMapper.mapExpr, keyIh, valueIh]

end TypeTerm

open TypeTerm

/-- Every rendering of a term is mapped to what the term means. -/
theorem TypeMapper.mapType_rendered (m : TypeMapper) (kind : SourceKind) {t : TypeTerm}
    {raw : String} (rendered : Renders t raw.toList) :
    m.mapType kind raw none none = t.meaning m kind := by
  rw [TypeMapper.mapType, rendered.parse_eq, mapExpr_expr]

def decimalScalar : ScalarText where
  chars := "decimal(10,2)".toList
  solid := ⟨'d', by simp, by decide⟩
  bracketless := by simp
  enclosed := by decide

def textScalar : ScalarText where
  chars := "text".toList
  solid := ⟨'t', by simp, by decide⟩
  bracketless := by simp
  enclosed := by decide

def nestedTerm : TypeTerm :=
  .suffixed (.map (.leaf decimalScalar) (.frozen (.collection .list (.leaf textScalar))))

theorem TypeMapper.mapType_rendered_nested :
    Renders nestedTerm " MAP<decimal(10,2) ,\tFrozen <LIST< text>> > []".toList ∧
      TypeMapper.builtin.mapType .cassandra " MAP<decimal(10,2) ,\tFrozen <LIST< text>> > []"
        none none = .array (.map .numericString (.array .string)) := by
  have empty : AllBlank [] := List.forall_mem_nil _
  have space : AllBlank [' '] := by simp [AllBlank, isBlank]
  have tab : AllBlank ['\t'] := by simp [AllBlank, isBlank]
  have decimal : decimalScalar.chars = "decimal(10,2)".toList := rfl
  have text : textScalar.chars = "text".toList := rfl
  have listName : Spells CollectionName.list.text "LIST".toList := by
    simp [Spells, CollectionName.text]
  have list := Renders.collection listName empty (.padded space (.leaf textScalar) empty)
  have frozen := Renders.frozen (by simp [Spells] : Spells "frozen" "Frozen".toList) space list
  have map := Renders.map (by simp [Spells] : Spells "map" "MAP".toList) empty
    (.padded empty (.leaf decimalScalar) space) (.padded tab frozen space)
  have whole := Renders.padded space (.suffixed (.padded empty map space)) empty
  obtain ⟨cs, built, shape⟩ : ∃ cs, Renders nestedTerm cs ∧
      cs = " MAP<decimal(10,2) ,\tFrozen <LIST< text>> > []".toList :=
    ⟨_, whole, by simp [TypeExpr.applied, decimal, text]⟩
  have rendered : Renders nestedTerm " MAP<decimal(10,2) ,\tFrozen <LIST< text>> > []".toList := by
    rw [← shape]
    exact built
  exact ⟨rendered, (TypeMapper.mapType_rendered TypeMapper.builtin .cassandra rendered).trans
    (by decide +kernel)⟩

end RowConduit
