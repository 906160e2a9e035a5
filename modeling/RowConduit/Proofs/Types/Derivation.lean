import RowConduit.Proofs.Types.Punctuation
import RowConduit.Proofs.Types.SizeGroup

/-!
# What is accepted as a type

Without sizes and overrides, the texts of supported types are the renderings of the terms whose
leaves are names of the table, in any letter case and with any blanks between their words, and the
type is what the term stands for in the table.  So a text with brackets or commas out of place is the
text of no supported type.

That nothing else is accepted is by induction on the length of the text, as the reader goes.  The
reader may cut a malformed text at a wrong comma or take a stray bracket for its own, but then a
bracket or a comma is left over in some leaf, and no name of a table has one.
-/

namespace RowConduit

open RowConduit.Text

/-- The type that a table lists for a text, letter case and the blanks around words aside. -/
def TypeTable.listed? (table : TypeTable) (cs : List Char) : Option LogicalType :=
  table.lookup (String.ofList (canonical cs))

def TypeTerm.denotes? (table : TypeTable) : TypeTerm → Option LogicalType
  | .leaf scalar => table.listed? scalar.chars
  | .suffixed element => (element.denotes? table).map .array
  | .collection _ element => (element.denotes? table).map .array
  | .frozen argument => argument.denotes? table
  | .map key value =>
      (key.denotes? table).bind fun k => (value.denotes? table).map fun v => .map k v

/-- The text is a rendering of a term that stands for the type in the table. -/
def Derives (table : TypeTable) (cs : List Char) (type : LogicalType) : Prop :=
  ∃ t : TypeTerm, t.Renders cs ∧ t.denotes? table = some type

def typeMarks : List Char :=
  ['<', '>', '[', ']', '(', ')', ',']

section Tables

def isPlainEntry (entry : String × LogicalType) : Bool :=
  !entry.1.toList.isEmpty && (entry.1.toList.all fun c => !typeMarks.contains c) &&
    !entry.2.isUnsupported

theorem isPlainEntry_builtin (kind : SourceKind) :
    (builtinTypes kind).all isPlainEntry = true := by
  cases kind <;>
    simp [builtinTypes, googleSqlTypes, postgreSqlTypes, cassandraTypes, mySqlTypes, oracleTypes,
      isPlainEntry, typeMarks, LogicalType.isUnsupported]

variable {kind : SourceKind} {cs : List Char} {type : LogicalType}

theorem isPlainEntry_of_listed (listed : (builtinTypes kind).listed? cs = some type) :
    canonical cs ≠ [] ∧ (∀ c ∈ canonical cs, c ∉ typeMarks) ∧ type.isUnsupported = false := by
  have member := TypeTable.mem_of_lookup listed
  have plain := List.all_eq_true.mp (isPlainEntry_builtin kind) _ member
  simpa [isPlainEntry, and_assoc] using plain

theorem not_allBlank_of_listed (listed : (builtinTypes kind).listed? cs = some type) :
    ¬ AllBlank cs := by
  intro blank
  apply (isPlainEntry_of_listed listed).1
  rw [canonical, trim_eq_nil_iff, allBlank_respell_iff]
  exact blank

/-- A mark in a text would be one in its canonical spelling too. -/
theorem unmarked_of_listed (listed : (builtinTypes kind).listed? cs = some type) :
    ∀ c ∈ cs, c ∉ typeMarks := by
  intro c member mark
  have marks : (typeMarks.all fun d => !d.isAlpha && !isBlank d) = true := by decide
  have letterless : c.isAlpha = false ∧ isBlank c = false := by
    simpa using List.all_eq_true.mp marks c mark
  have kept := mem_canonical member letterless.2
  rw [(toLower_eq_iff letterless.1 c).mpr rfl] at kept
  exact (isPlainEntry_of_listed listed).2.1 c kept mark

theorem unparenthesised_of_listed (listed : (builtinTypes kind).listed? cs = some type) :
    Unparenthesised cs := by
  intro c member
  have unmarked := unmarked_of_listed listed c member
  simp only [typeMarks, List.mem_cons, not_or] at unmarked
  exact ⟨unmarked.2.2.2.2.1, unmarked.2.2.2.2.2.1⟩

theorem bracketless_of_listed (listed : (builtinTypes kind).listed? cs = some type) :
    Bracketless cs := by
  intro c member
  have unmarked := unmarked_of_listed listed c member
  simp only [typeMarks, List.mem_cons, not_or] at unmarked
  exact ⟨unmarked.1, unmarked.2.1, unmarked.2.2.1, unmarked.2.2.2.1⟩

theorem commaless_of_listed (listed : (builtinTypes kind).listed? cs = some type) :
    ∀ c ∈ cs, c ≠ ',' := by
  rintro c member rfl
  exact unmarked_of_listed listed ',' member (by simp [typeMarks])

end Tables

section Leaves

variable (kind : SourceKind) {cs whole : List Char}

open TypeMapper in
/-- Without parentheses and a reported precision the table decides. -/
theorem decided?_or_lookup?_builtin (free : Unparenthesised cs) :
    (decided? kind (lookupName cs) none none).or (TypeMapper.builtin.lookup? kind (lookupName cs)) =
      (builtinTypes kind).listed? cs := by
  have undecided : decided? kind (lookupName cs) none none = none := by
    simp [decided?, fitsInteger]
  rw [undecided, Option.none_or, lookupName_of_unparenthesised free]
  rfl

theorem mapExpr_leafOf (free : Unparenthesised cs)
    (unsized : TypeExpr.sizeNumbers whole = (none, none)) :
    TypeMapper.builtin.mapExpr kind none none (TypeExpr.leafOf cs whole) =
      ((builtinTypes kind).listed? cs).getD .unsupported := by
  rw [TypeExpr.leafOf, unsized, TypeMapper.mapExpr, TypeMapper.mapScalar_eq, Option.none_or,
    decided?_or_lookup?_builtin kind free]

variable {type : LogicalType} (supported : type.isUnsupported = false)

include supported in
theorem listed_of_mapExpr_leafOf (free : Unparenthesised cs)
    (unsized : TypeExpr.sizeNumbers whole = (none, none))
    (mapped : TypeMapper.builtin.mapExpr kind none none (TypeExpr.leafOf cs whole) = type) :
    (builtinTypes kind).listed? cs = some type := by
  rw [mapExpr_leafOf kind free unsized] at mapped
  cases listed : (builtinTypes kind).listed? cs with
  | none =>
      rw [← mapped, listed] at supported
      cases supported
  | some found => rw [← mapped, listed, Option.getD_some]

include supported in
/-- A bracket that is left in a leaf keeps the leaf out of every table. -/
theorem mapExpr_leafOf_ne (free : Unparenthesised cs)
    (unsized : TypeExpr.sizeNumbers whole = (none, none)) (bracket : '<' ∈ cs) :
    TypeMapper.builtin.mapExpr kind none none (TypeExpr.leafOf cs whole) ≠ type := by
  intro mapped
  have listed := listed_of_mapExpr_leafOf kind supported free unsized mapped
  exact absurd rfl (bracketless_of_listed listed '<' bracket).1

end Leaves

namespace TypeTerm

variable {kind : SourceKind} {t : TypeTerm} {type : LogicalType}

/-- What a term stands for in a built-in table is what the built-in mapper maps it to. -/
theorem meaning_of_denotes (denoted : t.denotes? (builtinTypes kind) = some type) :
    t.meaning TypeMapper.builtin kind = type ∧ type.isUnsupported = false := by
  induction t generalizing type with
  | leaf scalar =>
      have text : (String.ofList scalar.chars).toList = scalar.chars := String.toList_ofList
      have free := unparenthesised_of_listed denoted
      have plain := bracketless_of_listed denoted
      rw [← text] at free plain
      have listed := denoted
      rw [denotes?, ← text] at listed
      refine ⟨?_, (isPlainEntry_of_listed denoted).2.2⟩
      rw [meaning, TypeMapper.builtin.mapType_bare kind free plain,
        decided?_or_lookup?_builtin kind free, listed, Option.getD_some]
  | suffixed element ih =>
      obtain ⟨inner, found, rfl⟩ := Option.map_eq_some_iff.mp denoted
      obtain ⟨mapped, supported⟩ := ih found
      rw [meaning, mapped, LogicalType.arrayOf_of_supported supported]
      exact ⟨rfl, rfl⟩
  | collection name element ih =>
      obtain ⟨inner, found, rfl⟩ := Option.map_eq_some_iff.mp denoted
      obtain ⟨mapped, supported⟩ := ih found
      rw [meaning, mapped, LogicalType.arrayOf_of_supported supported]
      exact ⟨rfl, rfl⟩
  | frozen argument ih => exact ih denoted
  | map key value keyIh valueIh =>
      obtain ⟨k, keyFound, rest⟩ := Option.bind_eq_some_iff.mp denoted
      obtain ⟨v, valueFound, rfl⟩ := Option.map_eq_some_iff.mp rest
      obtain ⟨keyMapped, keySupported⟩ := keyIh keyFound
      obtain ⟨valueMapped, valueSupported⟩ := valueIh valueFound
      rw [meaning, keyMapped, valueMapped,
        LogicalType.mapOf_of_supported keySupported valueSupported]
      exact ⟨rfl, rfl⟩

theorem commaFree_of_denotes (denoted : t.denotes? (builtinTypes kind) = some type) :
    t.CommaFree := by
  induction t generalizing type with
  | leaf scalar => exact commaless_of_listed denoted
  | suffixed element ih =>
      obtain ⟨_, inner, _⟩ := Option.map_eq_some_iff.mp denoted
      exact ih inner
  | collection name element ih =>
      obtain ⟨_, inner, _⟩ := Option.map_eq_some_iff.mp denoted
      exact ih inner
  | frozen argument ih => exact ih denoted
  | map key value keyIh valueIh =>
      obtain ⟨_, first, rest⟩ := Option.bind_eq_some_iff.mp denoted
      obtain ⟨_, second, _⟩ := Option.map_eq_some_iff.mp rest
      exact ⟨keyIh first, valueIh second⟩

end TypeTerm

theorem enclosed_of_plain {cs : List Char} (free : Unparenthesised cs)
    (commaless : ∀ c ∈ cs, c ≠ ',') : enclosed 0 cs = true := by
  induction cs with
  | nil => rfl
  | cons c rest ih =>
      have parenthesis := free c List.mem_cons_self
      have comma := commaless c List.mem_cons_self
      have later := ih (fun d member => free d (List.mem_cons_of_mem c member))
        fun d member => commaless d (List.mem_cons_of_mem c member)
      rw [enclosed, if_neg parenthesis.1, if_neg parenthesis.2, if_neg comma, later]

namespace Derives

variable {table : TypeTable} {cs letters gap inside : List Char} {type : LogicalType}

theorem of_trim (derived : Derives table (trim cs) type) : Derives table cs type := by
  obtain ⟨t, rendered, denoted⟩ := derived
  obtain ⟨before, after, first, last, whole⟩ := exists_padded_trim cs
  refine ⟨t, ?_, denoted⟩
  rw [← whole]
  exact .padded first rendered last

theorem of_listed {kind : SourceKind} (listed : (builtinTypes kind).listed? cs = some type) :
    Derives (builtinTypes kind) cs type := by
  have solid : ∃ c ∈ cs, isBlank c = false := by
    simpa [AllBlank] using not_allBlank_of_listed listed
  have enclosed := enclosed_of_plain (unparenthesised_of_listed listed) (commaless_of_listed listed)
  let scalar : ScalarText := ⟨cs, solid, bracketless_of_listed listed, enclosed⟩
  exact ⟨.leaf scalar, .leaf scalar, listed⟩

theorem suffixed (derived : Derives table cs type) :
    Derives table (cs ++ ['[', ']']) (.array type) := by
  obtain ⟨t, rendered, denoted⟩ := derived
  exact ⟨.suffixed t, .suffixed rendered, by rw [TypeTerm.denotes?, denoted, Option.map_some]⟩

theorem frozen (spelled : Spells "frozen" letters) (blank : AllBlank gap)
    (derived : Derives table inside type) :
    Derives table (TypeExpr.applied letters gap inside) type := by
  obtain ⟨t, rendered, denoted⟩ := derived
  exact ⟨.frozen t, .frozen spelled blank rendered, denoted⟩

theorem collection {name : CollectionName} (spelled : Spells name.text letters)
    (blank : AllBlank gap) (derived : Derives table inside type) :
    Derives table (TypeExpr.applied letters gap inside) (.array type) := by
  obtain ⟨t, rendered, denoted⟩ := derived
  exact ⟨.collection name t, .collection spelled blank rendered,
    by rw [TypeTerm.denotes?, denoted, Option.map_some]⟩

theorem map {key value : List Char} {keyType valueType : LogicalType}
    (spelled : Spells "map" letters) (blank : AllBlank gap) (first : Derives table key keyType)
    (second : Derives table value valueType) :
    Derives table (TypeExpr.applied letters gap (key ++ ',' :: value))
      (.map keyType valueType) := by
  obtain ⟨k, keyRendered, keyDenoted⟩ := first
  obtain ⟨v, valueRendered, valueDenoted⟩ := second
  refine ⟨.map k v, .map spelled blank keyRendered valueRendered, ?_⟩
  rw [TypeTerm.denotes?, keyDenoted, valueDenoted]
  rfl

/-- The arguments of a map are derived as they are split, wherever the comma is that splits them. -/
theorem pair {sides : List Char × List Char} {keyType valueType : LogicalType}
    (spelled : Spells "map" letters) (blank : AllBlank gap)
    (split : TypeExpr.splitPair? (trim inside) = some sides) (free : Unparenthesised inside)
    (first : Unparenthesised sides.1 → Derives table sides.1 keyType)
    (second : Unparenthesised sides.2 → Derives table sides.2 valueType) :
    Derives table (TypeExpr.applied letters gap inside) (.map keyType valueType) := by
  obtain ⟨key, value, parts, keyTrimmed, valueTrimmed⟩ := TypeExpr.eq_of_splitPair? split
  rw [← keyTrimmed] at first
  rw [← valueTrimmed] at second
  subst parts
  have whole : Unparenthesised key ∧ Unparenthesised (',' :: value) := List.forall_mem_append.mp free
  have keyFree := whole.1.mono (trim_subset key)
  have valueFree := whole.2.mono fun c listed => List.mem_cons_of_mem ',' (trim_subset value listed)
  exact .map spelled blank (first keyFree).of_trim (second valueFree).of_trim

/-- Blanks may stand around the name before a bracket. -/
theorem of_applied {before : List Char}
    (derived : ∀ gap, AllBlank gap →
      Derives table (TypeExpr.applied (trim before) gap inside) type) :
    Derives table (before ++ '<' :: (inside ++ ['>'])) type := by
  obtain ⟨front, gap, blank, spaced, whole⟩ := exists_padded_trim before
  obtain ⟨t, rendered, denoted⟩ := derived gap spaced
  have padded := TypeTerm.Renders.padded blank rendered (List.forall_mem_nil _)
  refine ⟨t, ?_, denoted⟩
  rw [← whole]
  simpa [TypeExpr.applied] using padded

end Derives

namespace TypeExpr

variable (kind : SourceKind)

/-- The texts that are read as supported types are derivations of them. -/
theorem derives_of_mapExpr {whole text : List Char} {type : LogicalType}
    (free : Unparenthesised text) (unsized : sizeNumbers whole = (none, none))
    (mapped : TypeMapper.builtin.mapExpr kind none none (parseIn whole text) = type)
    (supported : type.isUnsupported = false) : Derives (builtinTypes kind) text type := by
  have shrinks := trim_length text
  have trimmed : Unparenthesised (trim text) := free.mono (trim_subset text)
  apply Derives.of_trim
  rw [parseIn_eq] at mapped
  cases dropped : dropEnd? ['[', ']'] (trim text) with
  | some element =>
      rw [dropped] at mapped
      obtain ⟨elementSupported, rfl⟩ := LogicalType.eq_array_of_arrayOf mapped supported
      have smaller := dropEnd?_length dropped
      have shorter : element.length < text.length := by
        simp only [List.length_cons, List.length_nil] at smaller
        omega
      rw [eq_append_of_dropEnd? dropped] at trimmed ⊢
      have inner : Unparenthesised element := trimmed.mono (List.subset_append_left _ _)
      have part := derives_of_mapExpr inner (sizeNumbers_of_unparenthesised inner) rfl
        elementSupported
      exact part.suffixed
  | none =>
      rw [dropped] at mapped
      dsimp only at mapped
      cases angle : splitAngle? (trim text) with
      | none =>
          rw [angle, stripSize_of_unparenthesised trimmed] at mapped
          exact .of_listed (listed_of_mapExpr_leafOf kind supported trimmed unsized mapped)
      | some sides =>
          obtain ⟨name, arguments⟩ := sides
          rw [angle] at mapped
          dsimp only at mapped
          have smaller := splitAngle?_length angle
          obtain ⟨before, inside, shape, rfl, _, rfl⟩ := eq_of_splitAngle? angle
          have bracket : '<' ∈ trim text := by
            rw [shape]
            exact List.mem_append_right _ List.mem_cons_self
          have misread := mapExpr_leafOf_ne kind supported trimmed unsized bracket
          rw [shape] at trimmed ⊢
          have within : Unparenthesised inside := trimmed.mono fun c listed => by simp [listed]
          have inner : Unparenthesised (trim inside) := within.mono (trim_subset inside)
          apply Derives.of_applied
          intro gap blank
          cases made : Constructor.ofName (trim before) with
          | transparent =>
              rw [made] at mapped
              have spelled := Constructor.ofName_eq_transparent_iff.mp made
              have part := derives_of_mapExpr inner unsized mapped supported
              exact part.of_trim.frozen spelled blank
          | collection =>
              rw [made] at mapped
              obtain ⟨name, spelled⟩ := Constructor.ofName_eq_collection_iff.mp made
              obtain ⟨elementSupported, rfl⟩ := LogicalType.eq_array_of_arrayOf mapped supported
              have part := derives_of_mapExpr inner (sizeNumbers_of_unparenthesised inner) rfl
                elementSupported
              exact part.of_trim.collection spelled blank
          | pairing =>
              rw [made] at mapped
              dsimp only at mapped
              cases split : splitPair? (trim inside) with
              | none =>
                  rw [split] at mapped
                  exact absurd mapped misread
              | some sides =>
                  obtain ⟨key, value⟩ := sides
                  rw [split] at mapped
                  obtain ⟨keySupported, valueSupported, rfl⟩ :=
                    LogicalType.eq_map_of_mapOf mapped supported
                  have spelled := Constructor.ofName_eq_pairing_iff.mp made
                  have shorter := splitPair?_length split
                  have keys (keyFree : Unparenthesised key) :=
                    derives_of_mapExpr keyFree (sizeNumbers_of_unparenthesised keyFree) rfl
                      keySupported
                  have values (valueFree : Unparenthesised value) :=
                    derives_of_mapExpr valueFree (sizeNumbers_of_unparenthesised valueFree) rfl
                      valueSupported
                  exact .pair spelled blank split within keys values
          | unknown =>
              rw [made] at mapped
              exact absurd mapped misread
termination_by text.length

end TypeExpr

open TypeExpr TypeTerm

/--
Where no sizes are given, a text is the text of a supported type exactly if it is a rendering of a
term that stands for this type in the table of the source.  So no other text is the text of a
supported type, and in particular none whose brackets are not balanced or whose brackets and commas
are not those of a term.
-/
theorem TypeMapper.mapType_eq_iff_derives (kind : SourceKind) {raw : String}
    (free : Unparenthesised raw.toList) :
    (∀ type, type ≠ .unsupported →
      (TypeMapper.builtin.mapType kind raw none none = type ↔
        ∃ t : TypeTerm, t.Renders raw.toList ∧ t.denotes? (builtinTypes kind) = some type)) ∧
    (wellPunctuated raw.toList = false ∨ raw.toList.count '<' ≠ raw.toList.count '>' ∨
        raw.toList.count '[' ≠ raw.toList.count ']' →
      TypeMapper.builtin.mapType kind raw none none = .unsupported) := by
  have derived {type : LogicalType} (supported : type ≠ .unsupported)
      (mapped : TypeMapper.builtin.mapType kind raw none none = type) :
      Derives (builtinTypes kind) raw.toList type := by
    rw [← LogicalType.isUnsupported_eq_false_iff] at supported
    exact derives_of_mapExpr kind free (sizeNumbers_of_unparenthesised free) mapped supported
  refine ⟨fun type supported => ⟨derived supported, ?_⟩, ?_⟩
  · rintro ⟨t, rendered, denoted⟩
    rw [TypeMapper.mapType, rendered.parse_eq, mapExpr_expr]
    exact (meaning_of_denotes denoted).1
  · intro malformed
    by_contra supported
    obtain ⟨t, rendered, denoted⟩ := derived supported rfl
    have scanned := rendered.wellPunctuated (commaFree_of_denotes denoted)
    obtain ⟨angles, squares, _⟩ := balanced_of_wellPunctuated scanned
    rcases malformed with refused | angle | square
    · rw [scanned] at refused
      cases refused
    · exact angle angles
    · exact square squares

/-- A nested type is derived; one with two commas, and one with an open bracket, are not. -/
theorem TypeMapper.mapType_eq_iff_derives_nested :
    (∃ t : TypeTerm, t.Renders " Map < TEXT ,frozen<list<Double\tPrecision>>> []".toList ∧
      t.denotes? (builtinTypes .postgreSql) = some (.array (.map .string (.array .float)))) ∧
    TypeMapper.builtin.mapType .cassandra "map<text,,int>" none none = .unsupported ∧
    TypeMapper.builtin.mapType .cassandra "list<set<int>" none none = .unsupported := by
  have nested : Unparenthesised " Map < TEXT ,frozen<list<Double\tPrecision>>> []".toList := by
    simp [Unparenthesised]
  have commas : Unparenthesised "map<text,,int>".toList := by simp [Unparenthesised]
  have bracket : Unparenthesised "list<set<int>".toList := by simp [Unparenthesised]
  have derived := (TypeMapper.mapType_eq_iff_derives .postgreSql nested).1
    (.array (.map .string (.array .float))) (by decide)
  have refused : wellPunctuated "map<text,,int>".toList = false := by decide +kernel
  have unbalanced : "list<set<int>".toList.count '<' ≠ "list<set<int>".toList.count '>' := by simp
  exact ⟨derived.mp (by decide +kernel),
    (TypeMapper.mapType_eq_iff_derives .cassandra commas).2 (Or.inl refused),
    (TypeMapper.mapType_eq_iff_derives .cassandra bracket).2 (Or.inr (Or.inl unbalanced))⟩

end RowConduit
