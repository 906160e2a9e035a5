import RowConduit.Proofs.Convert.Typing
import RowConduit.Proofs.Reading.Mapping
import RowConduit.Proofs.Types.Override

/-!
# Whole types

A type is whole if nothing in it is unsupported.  A type that is put together has parts that are
whole or is unsupported itself, so a mapper gives whole types and the unsupported one, and no others,
if its overrides do.  Whoever asks whether a type is unsupported therefore learns whether anything
in it is: a row mapper degrades every column that has an item or an entry that cannot be mapped, and
coercion makes NULL only of NULL, at every depth.
-/

namespace RowConduit

open SqlValue

/-- Nothing in the type is unsupported. -/
def LogicalType.isWhole : LogicalType → Bool
  | .unsupported => false
  | .array element => element.isWhole
  | .map key value => key.isWhole && value.isWhole
  | _ => true

/-- Nothing in the type is unsupported, unless the type itself is. -/
def LogicalType.Unmixed (type : LogicalType) : Prop :=
  type = .unsupported ∨ type.isWhole = true

namespace LogicalType

variable {type element key value : LogicalType}

theorem isUnsupported_of_isWhole (whole : type.isWhole = true) : type.isUnsupported = false := by
  rw [isUnsupported_eq_false_iff]
  rintro rfl
  cases whole

theorem Unmixed.isWhole (unmixed : type.Unmixed) (supported : type ≠ .unsupported) :
    type.isWhole = true :=
  unmixed.resolve_left supported

theorem Unmixed.arrayOf (unmixed : element.Unmixed) : (arrayOf element).Unmixed := by
  rcases unmixed with rfl | whole
  · exact Or.inl rfl
  · rw [arrayOf_of_supported (isUnsupported_of_isWhole whole)]
    exact Or.inr whole

theorem Unmixed.mapOf (first : key.Unmixed) (second : value.Unmixed) :
    (mapOf key value).Unmixed := by
  rcases first with rfl | wholeKey
  · exact Or.inl rfl
  · rcases second with rfl | wholeValue
    · left
      rw [LogicalType.mapOf, isUnsupported, Bool.or_true, if_pos rfl]
    · rw [mapOf_of_supported (isUnsupported_of_isWhole wholeKey)
        (isUnsupported_of_isWhole wholeValue)]
      right
      rw [LogicalType.isWhole, wholeKey, wholeValue, Bool.and_true]

end LogicalType

namespace TypeMapper

theorem isWhole_builtin (kind : SourceKind) :
    ((builtinTypes kind).all fun entry => entry.2.isWhole) = true := by
  cases kind <;> rfl

variable {m : TypeMapper} (declared : ∀ o ∈ m.overrides, o.type.Unmixed) (kind : SourceKind)

include declared in
theorem unmixed_of_lookup? {name : String} {type : LogicalType}
    (found : m.lookup? kind name = some type) : type.Unmixed := by
  unfold lookup? at found
  split at found
  · next o overridden =>
    cases found
    exact declared o (List.mem_of_find?_eq_some overridden)
  · have listed := TypeTable.mem_of_lookup found
    exact Or.inr (List.all_eq_true.mp (isWhole_builtin kind) _ listed)

theorem unmixed_of_decided? {name : String} {precision scale : Option UInt32}
    {type : LogicalType} (decided : decided? kind name precision scale = some type) :
    type.Unmixed := by
  unfold decided? at decided
  split at decided
  · cases decided
    exact Or.inr rfl
  · split at decided
    · cases decided
      exact Or.inr rfl
    · cases decided

include declared in
theorem mapExpr_unmixed (precision scale : Option UInt32) (e : TypeExpr) :
    (m.mapExpr kind precision scale e).Unmixed := by
  induction e generalizing precision scale with
  | leaf leaf =>
      rw [mapExpr, mapScalar_eq]
      generalize answer : (decided? _ _ _ _).or _ = type
      cases type with
      | none => exact Or.inl rfl
      | some type =>
          rcases Option.or_eq_some_iff.mp answer with decided | ⟨_, found⟩
          · exact unmixed_of_decided? kind decided
          · exact unmixed_of_lookup? declared kind found
  | array element ih => exact (ih none none).arrayOf
  | map key value keyIh valueIh => exact (keyIh none none).mapOf (valueIh none none)

end TypeMapper

namespace RowMapper

/-- A column of an unsupported type is NULL, with a diagnostic that says why. -/
theorem degraded_mapRow {m : RowMapper} (reader : ColumnReader) {column : Column}
    (sourced : column ∈ m.table.sourcedColumns)
    (unsupported : m.types.mapColumn column = .unsupported) :
    ∃ fields, (m.mapRow reader).payload = .columns fields ∧ (column.name, .null) ∈ fields ∧
      ⟨column.name, "unsupported source type " ++ column.rawType⟩ ∈
        (m.mapRow reader).diagnostics := by
  have read : m.readColumn reader column =
      .error ("unsupported source type " ++ column.rawType) := by
    rw [readColumn, unsupported]
    rfl
  refine ⟨_, rfl, List.mem_map.mpr ⟨column, sourced, ?_⟩,
    List.mem_filterMap.mpr ⟨column, sourced, ?_⟩⟩
  · rw [field, read]
  · rw [diagnostic?, read]

end RowMapper

def SqlValue.isFlat : SqlValue → Bool
  | .null => false
  | .array _ => false
  | .map _ => false
  | _ => true

/--
What is NULL in the second value, at any depth, is NULL at the same place of the first one.  A map is
compared with the entries of a map or with the members of an object, in order.
-/
inductive SqlValue.KeepsNulls : SqlValue → SqlValue → Prop where
  | null : KeepsNulls .null .null
  | flat {v w : SqlValue} (present : v ≠ .null) (found : w.isFlat = true) : KeepsNulls v w
  | items {items results : List SqlValue} (each : List.Forall₂ KeepsNulls items results) :
      KeepsNulls (.array items) (.array results)
  | entries {entries results : List (SqlValue × SqlValue)}
      (keys : List.Forall₂ KeepsNulls (entries.map (·.1)) (results.map (·.1)))
      (values : List.Forall₂ KeepsNulls (entries.map (·.2)) (results.map (·.2))) :
      KeepsNulls (.map entries) (.map results)
  | members {members : Json.Members} {results : List (SqlValue × SqlValue)}
      (keys : List.Forall₂ KeepsNulls (members.map fun member => .text member.1)
        (results.map (·.1)))
      (values : List.Forall₂ KeepsNulls (members.map fun member => ofJson member.2)
        (results.map (·.2))) :
      KeepsNulls (.json (.object members)) (.map results)

theorem SqlValue.isFlat_of_hasType {type : LogicalType} {w : SqlValue}
    (flat : type.isScalar = true) (found : w ≠ .null) (typed : w.HasType type) :
    w.isFlat = true := by
  cases w with
  | null => exact absurd rfl found
  | array items => cases type <;> cases flat <;> cases typed
  | map entries => cases type <;> cases flat <;> cases typed
  | _ => rfl

theorem coerce_keepsNulls {field : String} {type : LogicalType} {v w : SqlValue}
    (whole : type.isWhole = true) (coerced : coerce field type v = .ok w) : v.KeepsNulls w := by
  cases coerced_of_eq_ok coerced with
  | null => exact .null
  | unsupported => cases whole
  | scalar flat present found typed => exact .flat present (isFlat_of_hasType flat found typed)
  | @items element items results each =>
      have wholeElement : element.isWhole = true := whole
      exact .items (each.imp fun item result step => coerce_keepsNulls wholeElement step)
  | @entries key value entries results each =>
      obtain ⟨wholeKey, wholeValue⟩ := (Bool.and_eq_true _ _).mp whole
      refine .entries ?_ ?_ <;> rw [List.forall₂_map_left_iff, List.forall₂_map_right_iff]
      · exact each.imp fun entry result step => coerce_keepsNulls wholeKey step.1
      · exact each.imp fun entry result step => coerce_keepsNulls wholeValue step.2
  | @members key value members results each =>
      obtain ⟨wholeKey, wholeValue⟩ := (Bool.and_eq_true _ _).mp whole
      refine .members ?_ ?_ <;> rw [List.forall₂_map_left_iff, List.forall₂_map_right_iff]
      · exact each.imp fun member result step => coerce_keepsNulls wholeKey step.1
      · exact each.imp fun member result step => coerce_keepsNulls wholeValue step.2
termination_by type

/--
A mapper whose overrides are unsupported or whole types gives unsupported or whole types only.  So
every sourced column whose type is not whole is degraded when a row is mapped, and where a type is
not unsupported, coercion makes NULL of NULL only.
-/
theorem TypeMapper.mapType_unmixed (m : TypeMapper)
    (declared : ∀ o ∈ m.overrides, o.type = .unsupported ∨ o.type.isWhole = true) :
    (∀ kind raw precision scale,
      m.mapType kind raw precision scale = .unsupported ∨
        (m.mapType kind raw precision scale).isWhole = true) ∧
    (∀ (r : RowMapper) (reader : ColumnReader), r.types = m →
      ∀ column ∈ r.table.sourcedColumns, (m.mapColumn column).isWhole = false →
        ∃ fields, (r.mapRow reader).payload = .columns fields ∧ (column.name, .null) ∈ fields ∧
          ⟨column.name, "unsupported source type " ++ column.rawType⟩ ∈
            (r.mapRow reader).diagnostics) ∧
    (∀ kind raw precision scale, m.mapType kind raw precision scale ≠ .unsupported →
      ∀ field v w, coerce field (m.mapType kind raw precision scale) v = .ok w →
        v.KeepsNulls w) := by
  have unmixed (kind : SourceKind) (raw : String) (precision scale : Option UInt32) :
      (m.mapType kind raw precision scale).Unmixed :=
    mapExpr_unmixed declared kind precision scale (TypeExpr.parse raw.toList)
  refine ⟨unmixed, ?_, ?_⟩
  · rintro r reader rfl column sourced partly
    refine RowMapper.degraded_mapRow reader sourced ?_
    by_contra supported
    have whole := (unmixed _ _ _ _).isWhole supported
    rw [mapColumn, whole] at partly
    cases partly
  · intro kind raw precision scale supported field v w coerced
    exact coerce_keepsNulls ((unmixed kind raw precision scale).isWhole supported) coerced

def shopTypes : TypeMapper :=
  (TypeMapper.builtin.withOverride .cassandra "udt_address" .json).withOverride .cassandra
    "counter" .unsupported

def shopMapper : RowMapper :=
  ⟨⟨"shop", .cassandra⟩,
    ⟨"buyers", [⟨"id", "uuid", .cassandra, none, none, false⟩,
      ⟨"visits", "map<text,list<counter>>", .cassandra, none, none, false⟩], none, []⟩, shopTypes⟩

/-- The addresses are whole, the visits are degraded, and the addresses that are missing are NULL. -/
theorem TypeMapper.mapType_unmixed_shop :
    (shopTypes.mapType .cassandra "map<text,frozen<list<udt_address>>>" none none).isWhole = true ∧
    (∃ fields, (shopMapper.mapRow (namedReader [])).payload = .columns fields ∧
      ("visits", .null) ∈ fields ∧
      ⟨"visits", "unsupported source type map<text,list<counter>>"⟩ ∈
        (shopMapper.mapRow (namedReader [])).diagnostics) ∧
    (SqlValue.array [.null, .text "[]"]).KeepsNulls (.array [.null, .json (.array [])]) := by
  have declared : ∀ o ∈ shopTypes.overrides, o.type = .unsupported ∨ o.type.isWhole = true := by
    simp [shopTypes, TypeMapper.withOverride, TypeMapper.builtin, LogicalType.isWhole]
  obtain ⟨unmixed, degraded, kept⟩ := TypeMapper.mapType_unmixed shopTypes declared
  have addresses : shopTypes.mapType .cassandra "list<udt_address>" none none = .array .json := by
    decide +kernel
  have visits : ⟨"visits", "map<text,list<counter>>", .cassandra, none, none, false⟩ ∈
      shopMapper.table.sourcedColumns := by decide
  have coerced : coerce "addresses" (.array .json) (.array [.null, .text "[]"]) =
      .ok (.array [.null, .json (.array [])]) := by cbv
  refine ⟨(unmixed _ _ _ _).resolve_left (by decide +kernel), ?_, ?_⟩
  · exact degraded shopMapper (namedReader []) rfl _ visits (by decide +kernel)
  · rw [← addresses] at coerced
    exact kept _ _ _ _ (by decide +kernel) _ _ _ coerced

end RowConduit
