import RowConduit.Proofs.Types.LookupName
import RowConduit.Types.Mapper

/-!
# Overrides of a type mapper

A mapper asks its tables for the names of the leaves of a type text, each name on its own, and puts
the type together from the answers.  An override is the answer for one name of one kind of source.
So it changes only the types of texts that have a leaf of this name, and overrides of different
names can be given in any order.

A scalar type is stored under the name of the whole text and looked up under the name of its leaf.
Both are the same name for a text that is neither frozen nor has words behind its sizes.
-/

namespace RowConduit

open RowConduit.Text

theorem TypeTable.mem_of_lookup {table : TypeTable} {name : String} {type : LogicalType}
    (found : table.lookup name = some type) : (name, type) ∈ table := by
  obtain ⟨front, back, shape, _⟩ := List.lookup_eq_some_iff.mp found
  rw [shape]
  exact List.mem_append_right _ List.mem_cons_self

namespace TypeMapper

theorem lookup?_withOverride (m : TypeMapper) (kind other : SourceKind) (raw name : String)
    (type : LogicalType) :
    (m.withOverride kind raw type).lookup? other name =
      if other = kind ∧ name = lookupName raw.toList then some type else m.lookup? other name := by
  rw [lookup?, withOverride]
  simp only [List.find?_cons]
  by_cases asked : other = kind ∧ name = lookupName raw.toList
  · obtain ⟨rfl, rfl⟩ := asked
    rw [if_pos ⟨rfl, rfl⟩, beq_self_eq_true, beq_self_eq_true]
    rfl
  · have passed : (kind == other && lookupName raw.toList == name) = false := by
      rw [Bool.eq_false_iff]
      intro hit
      obtain ⟨sameKind, sameName⟩ := (Bool.and_eq_true _ _).mp hit
      exact asked ⟨(eq_of_beq sameKind).symm, (eq_of_beq sameName).symm⟩
    rw [passed, if_neg asked, lookup?]

theorem lookup?_withOverride_comm (m : TypeMapper) {kind other : SourceKind}
    {raw otherRaw : String} (type otherType : LogicalType)
    (apart : kind ≠ other ∨ lookupName raw.toList ≠ lookupName otherRaw.toList)
    (asked : SourceKind) (name : String) :
    ((m.withOverride kind raw type).withOverride other otherRaw otherType).lookup? asked name =
      ((m.withOverride other otherRaw otherType).withOverride kind raw type).lookup? asked name := by
  simp only [lookup?_withOverride]
  by_cases first : asked = kind ∧ name = lookupName raw.toList
  · have missed : ¬ (asked = other ∧ name = lookupName otherRaw.toList) := by
      rintro ⟨sameKind, sameName⟩
      rcases apart with kinds | names
      · exact kinds (first.1.symm.trans sameKind)
      · exact names (first.2.symm.trans sameName)
    rw [if_neg missed, if_pos first, if_pos first]
  · rw [if_neg first, if_neg first]

/-- What a precision decides about a scalar type before any table is asked. -/
def decided? (kind : SourceKind) (name : String) (precision scale : Option UInt32) :
    Option LogicalType :=
  if kind = .oracle ∧ name = "number" ∧ fitsInteger precision scale then some .int
  else if kind = .mySql ∧ name = "tinyint" ∧ precision = some 1 then some .bool
  else none

theorem mapScalar_eq (m : TypeMapper) (kind : SourceKind) (name : List Char)
    (precision scale : Option UInt32) :
    m.mapScalar kind name precision scale =
      ((decided? kind (lookupName name) precision scale).or
        (m.lookup? kind (lookupName name))).getD .unsupported := by
  rw [mapScalar, decided?]
  split
  · rfl
  · split <;> rfl

theorem mapExpr_congr {m n : TypeMapper} {kind : SourceKind} {e : TypeExpr}
    (agree : ∀ leaf ∈ e.leaves,
      m.lookup? kind (lookupName leaf.name) = n.lookup? kind (lookupName leaf.name))
    (precision scale : Option UInt32) :
    m.mapExpr kind precision scale e = n.mapExpr kind precision scale e := by
  induction e generalizing precision scale with
  | leaf leaf =>
      have answer := agree leaf List.mem_cons_self
      rw [mapExpr, mapExpr, mapScalar_eq, mapScalar_eq, answer]
  | array element ih => rw [mapExpr, mapExpr, ih agree]
  | map key value keyIh valueIh =>
      have keyAgree := keyIh fun leaf listed => agree leaf (List.mem_append_left _ listed)
      have valueAgree := valueIh fun leaf listed => agree leaf (List.mem_append_right _ listed)
      rw [mapExpr, mapExpr, keyAgree, valueAgree]

/--
A type that an override changes is one of the overridden kind, and a leaf of its text has the
overridden name.  Overrides of two kinds or of two names map every text alike in either order.
-/
theorem mapType_withOverride_confined (m : TypeMapper) (kind : SourceKind) (raw : String)
    (type : LogicalType) :
    (∀ asked query precision scale,
      (m.withOverride kind raw type).mapType asked query precision scale ≠
          m.mapType asked query precision scale →
        asked = kind ∧ ∃ leaf ∈ (TypeExpr.parse query.toList).leaves,
          lookupName leaf.name = lookupName raw.toList) ∧
    ∀ other otherRaw otherType,
      kind ≠ other ∨ lookupName raw.toList ≠ lookupName otherRaw.toList →
        ∀ asked query precision scale,
          ((m.withOverride kind raw type).withOverride other otherRaw otherType).mapType asked
              query precision scale =
            ((m.withOverride other otherRaw otherType).withOverride kind raw type).mapType asked
              query precision scale := by
  constructor
  · intro asked query precision scale changed
    by_contra untouched
    apply changed
    refine mapExpr_congr (fun leaf listed => ?_) precision scale
    have passed : ¬ (asked = kind ∧ lookupName leaf.name = lookupName raw.toList) :=
      fun ⟨same, name⟩ => untouched ⟨same, leaf, listed, name⟩
    rw [lookup?_withOverride, if_neg passed]
  · intro other otherRaw otherType apart asked query precision scale
    exact mapExpr_congr
      (fun leaf _ => m.lookup?_withOverride_comm type otherType apart asked _) precision scale

/-- A type of addresses is made known to one kind of source, and to another one as something else. -/
theorem mapType_withOverride_confined_addresses :
    let m := TypeMapper.builtin.withOverride .cassandra "UDT_Address " .json
    (∃ leaf ∈ (TypeExpr.parse "map<text, frozen<list<udt_address>>>".toList).leaves,
      lookupName leaf.name = "udt_address") ∧
    (m.withOverride .oracle "udt_address" .string).mapType .cassandra "set<udt_address>" none none =
      ((TypeMapper.builtin.withOverride .oracle "udt_address" .string).withOverride .cassandra
        "UDT_Address " .json).mapType .cassandra "set<udt_address>" none none := by
  intro m
  have name : lookupName "UDT_Address ".toList = "udt_address" := by decide +kernel
  have changed : m.mapType .cassandra "map<text, frozen<list<udt_address>>>" none none ≠
      TypeMapper.builtin.mapType .cassandra "map<text, frozen<list<udt_address>>>" none none := by
    decide +kernel
  obtain ⟨confined, swapped⟩ :=
    mapType_withOverride_confined TypeMapper.builtin .cassandra "UDT_Address " .json
  obtain ⟨_, leaf, listed, same⟩ := confined _ _ _ _ changed
  have apart : SourceKind.cassandra ≠ .oracle := by decide
  exact ⟨⟨leaf, listed, same.trans name⟩, swapped _ _ _ (Or.inl apart) _ _ _ _⟩

end TypeMapper

namespace TypeExpr

def IsFrozen (text : List Char) : Prop :=
  ∃ name arguments, splitAngle? (trim text) = some (name, arguments) ∧
    Constructor.ofName name = .transparent

/-- The leaf of a scalar text that is not frozen has the text as its name, without its sizes if it
has no angle brackets. -/
theorem leaf_of_parse {text : List Char} {leaf : TypeLeaf} (scalar : parse text = .leaf leaf)
    (thawed : ¬ IsFrozen text) :
    (leaf.name = trim text ∨ leaf.name = stripSize (trim text)) ∧
      leaf.precision = (sizeNumbers text).1 ∧ leaf.scale = (sizeNumbers text).2 := by
  rw [parse, parseIn] at scalar
  split at scalar
  · cases scalar
  · split at scalar
    · cases scalar
      exact ⟨Or.inr rfl, rfl, rfl⟩
    · next name arguments angle =>
      cases constructor : Constructor.ofName name with
      | transparent => exact absurd ⟨name, arguments, angle, constructor⟩ thawed
      | collection =>
          rw [constructor] at scalar
          cases scalar
      | unknown =>
          rw [constructor] at scalar
          cases scalar
          exact ⟨Or.inl rfl, rfl, rfl⟩
      | pairing =>
          rw [constructor] at scalar
          dsimp only at scalar
          split at scalar
          · cases scalar
          · cases scalar
            exact ⟨Or.inl rfl, rfl, rfl⟩

theorem lookupName_leaf {text : List Char} {leaf : TypeLeaf} (scalar : parse text = .leaf leaf)
    (thawed : ¬ IsFrozen text) (last : SizeLast (trim text)) :
    lookupName leaf.name = lookupName text := by
  rcases (leaf_of_parse scalar thawed).1 with whole | stripped
  · rw [whole, lookupName_trim]
  · rw [stripped, lookupName_stripSize_iff.mpr last, lookupName_trim]

end TypeExpr

namespace TypeMapper

open TypeExpr

/--
A scalar type that was overridden is mapped to the type given for it, unless its precision decides
otherwise: an Oracle number stays an integer if it is narrow enough, and a MySQL tinyint of width
one stays a truth value.  What is not reported is read from the text.
-/
theorem mapType_withOverride (m : TypeMapper) (kind : SourceKind) {raw : String}
    (type : LogicalType) {leaf : TypeLeaf} (scalar : parse raw.toList = .leaf leaf)
    (thawed : ¬ IsFrozen raw.toList) (last : SizeLast (trim raw.toList))
    (precision scale : Option UInt32) :
    (m.withOverride kind raw type).mapType kind raw precision scale =
      (decided? kind (lookupName raw.toList) (precision.or (sizeNumbers raw.toList).1)
        (scale.or (sizeNumbers raw.toList).2)).getD type := by
  obtain ⟨_, leafPrecision, leafScale⟩ := leaf_of_parse scalar thawed
  rw [mapType, scalar, mapExpr, mapScalar_eq, lookupName_leaf scalar thawed last,
    lookup?_withOverride, if_pos ⟨rfl, rfl⟩, leafPrecision, leafScale, Option.getD_or,
    Option.getD_some]

theorem mapType_withOverride_number :
    let m := TypeMapper.builtin.withOverride .oracle "NUMBER (10)" .string
    parse "NUMBER (10)".toList = leafOf "NUMBER".toList "NUMBER (10)".toList ∧
      ¬ IsFrozen "NUMBER (10)".toList ∧ SizeLast (trim "NUMBER (10)".toList) ∧
      m.mapType .oracle "NUMBER (10)" (some 38) none = .string ∧
      m.mapType .oracle "NUMBER (10)" none none = .int := by
  intro m
  have scalar : parse "NUMBER (10)".toList = leafOf "NUMBER".toList "NUMBER (10)".toList := by
    decide +kernel
  have angleless : splitAngle? (trim "NUMBER (10)".toList) = none := by decide +kernel
  have thawed : ¬ IsFrozen "NUMBER (10)".toList := by
    rintro ⟨name, arguments, angle, _⟩
    rw [angleless] at angle
    cases angle
  have last : SizeLast (trim "NUMBER (10)".toList) := by
    intro _ before after cut
    have sides : cutAt? (· = '(') (trim "NUMBER (10)".toList) =
        some ("NUMBER ".toList, "10)".toList) := by decide +kernel
    rw [sides] at cut
    cases cut
    exact List.forall_mem_nil _
  have mapped := mapType_withOverride TypeMapper.builtin .oracle .string scalar thawed last
  exact ⟨scalar, thawed, last, (mapped (some 38) none).trans (by decide +kernel),
    (mapped none none).trans (by decide +kernel)⟩

/-- Three scalar types on which their own overrides have no effect. -/
theorem mapType_withOverride_unseen :
    (TypeMapper.builtin.withOverride .mySql "tinyint(1)" .int).mapType .mySql "tinyint(1)" none
        none = .bool ∧
      (TypeMapper.builtin.withOverride .cassandra "frozen<udt_address>" .json).mapType .cassandra
        "frozen<udt_address>" none none = .unsupported ∧
      (TypeMapper.builtin.withOverride .oracle "INTERVAL DAY(2) TO SECOND(6)" .string).mapType
        .oracle "INTERVAL DAY(2) TO SECOND(6)" none none = .unsupported ∧
      ∀ raw ∈ ["tinyint(1)", "frozen<udt_address>", "INTERVAL DAY(2) TO SECOND(6)"],
        ∃ leaf, parse raw.toList = .leaf leaf := by
  refine ⟨by decide +kernel, by decide +kernel, by decide +kernel, ?_⟩
  intro raw listed
  rcases List.mem_cons.mp listed with rfl | others
  · exact ⟨⟨"tinyint".toList, some 1, none⟩, by decide +kernel⟩
  · rcases List.mem_cons.mp others with rfl | last
    · exact ⟨⟨"udt_address".toList, none, none⟩, by decide +kernel⟩
    · rw [List.mem_singleton.mp last]
      exact ⟨⟨"INTERVAL DAY".toList, some 2, none⟩, by decide +kernel⟩

end TypeMapper

end RowConduit
