/-!
# Logical types

The types that all sources share.  Projections, row mapping and conversion look at logical types
only, never at the type names of a source.
-/

namespace RowConduit

/--
A logical type.  `numericString` is an exact number carried as text; `unsupported` is the answer for
a type that cannot be mapped, which is an answer and not an error.
-/
inductive LogicalType where
  | bool
  | int
  | float
  | numericString
  | string
  | bytes
  | date
  | dateTime
  | timestamp
  | json
  | uuid
  | array (element : LogicalType)
  | map (key value : LogicalType)
  | unsupported
  deriving DecidableEq, Repr

namespace LogicalType

def isUnsupported : LogicalType → Bool
  | .unsupported => true
  | _ => false

def element? : LogicalType → Option LogicalType
  | .array element => some element
  | _ => none

def display : LogicalType → String
  | .bool => "BOOL"
  | .int => "INT64"
  | .float => "FLOAT64"
  | .numericString => "NUMERIC_STRING"
  | .string => "STRING"
  | .bytes => "BYTES"
  | .date => "DATE"
  | .dateTime => "DATETIME"
  | .timestamp => "TIMESTAMP"
  | .json => "JSON"
  | .uuid => "UUID"
  | .array element => "ARRAY<" ++ element.display ++ ">"
  | .map key value => "MAP<" ++ key.display ++ "," ++ value.display ++ ">"
  | .unsupported => "UNSUPPORTED"

/-- The array of an element type; an element that cannot be mapped makes the array so. -/
def arrayOf (element : LogicalType) : LogicalType :=
  if element.isUnsupported then .unsupported else .array element

/-- The map of a key and a value type; a part that cannot be mapped makes the map so. -/
def mapOf (key value : LogicalType) : LogicalType :=
  if key.isUnsupported || value.isUnsupported then .unsupported else .map key value

theorem isUnsupported_eq_true_iff {type : LogicalType} :
    type.isUnsupported = true ↔ type = .unsupported := by
  cases type <;> simp [isUnsupported]

theorem isUnsupported_eq_false_iff {type : LogicalType} :
    type.isUnsupported = false ↔ type ≠ .unsupported := by
  rw [← Bool.not_eq_true, isUnsupported_eq_true_iff]

@[simp]
theorem isUnsupported_arrayOf (element : LogicalType) :
    (arrayOf element).isUnsupported = element.isUnsupported := by
  cases supported : element.isUnsupported <;> rw [arrayOf, supported] <;> rfl

@[simp]
theorem isUnsupported_mapOf (key value : LogicalType) :
    (mapOf key value).isUnsupported = (key.isUnsupported || value.isUnsupported) := by
  cases supported : key.isUnsupported || value.isUnsupported <;> rw [mapOf, supported] <;> rfl

theorem arrayOf_of_supported {element : LogicalType} (supported : element.isUnsupported = false) :
    arrayOf element = .array element := by
  rw [arrayOf, supported, if_neg Bool.false_ne_true]

theorem mapOf_of_supported {key value : LogicalType} (keySupported : key.isUnsupported = false)
    (valueSupported : value.isUnsupported = false) : mapOf key value = .map key value := by
  rw [mapOf, keySupported, valueSupported, Bool.or_false, if_neg Bool.false_ne_true]

theorem eq_array_of_arrayOf {element type : LogicalType} (made : arrayOf element = type)
    (supported : type.isUnsupported = false) :
    element.isUnsupported = false ∧ type = .array element := by
  rw [← made, isUnsupported_arrayOf] at supported
  exact ⟨supported, by rw [← made, arrayOf_of_supported supported]⟩

theorem eq_map_of_mapOf {key value type : LogicalType} (made : mapOf key value = type)
    (supported : type.isUnsupported = false) :
    key.isUnsupported = false ∧ value.isUnsupported = false ∧ type = .map key value := by
  rw [← made, isUnsupported_mapOf, Bool.or_eq_false_iff] at supported
  exact ⟨supported.1, supported.2, by rw [← made, mapOf_of_supported supported.1 supported.2]⟩

end LogicalType

end RowConduit
