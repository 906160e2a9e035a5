import RowConduit.Schema.Table
import RowConduit.Types.Catalog
import RowConduit.Types.TypeExpr

/-!
# Mapping source types

A type mapper gives every source type text its logical type.  It is total: a name that no table
lists, and a collection of such names, is unsupported.  Overrides replace or add scalar types for
one kind of source.
-/

namespace RowConduit

open RowConduit.Text

structure TypeOverride where
  kind : SourceKind
  name : String
  type : LogicalType
  deriving DecidableEq, Repr

/-- The built-in tables with overrides, the newest first. -/
structure TypeMapper where
  overrides : List TypeOverride
  deriving DecidableEq, Repr

namespace TypeMapper

def builtin : TypeMapper :=
  ⟨[]⟩

def withOverride (m : TypeMapper) (kind : SourceKind) (raw : String) (type : LogicalType) :
    TypeMapper :=
  ⟨⟨kind, lookupName raw.toList, type⟩ :: m.overrides⟩

def lookup? (m : TypeMapper) (kind : SourceKind) (name : String) : Option LogicalType :=
  match m.overrides.find? fun o => o.kind == kind && o.name == name with
  | some o => some o.type
  | none => (builtinTypes kind).lookup name

/-- The largest precision of a decimal without places that fits 64-bit integers. -/
def maxIntegerPrecision : UInt32 :=
  18

/-- A decimal of this precision and scale is an integer of at most 64 bits. -/
def fitsInteger (precision scale : Option UInt32) : Bool :=
  match precision with
  | some p => 0 < p && p ≤ maxIntegerPrecision && scale.getD 0 == 0
  | none => false

/--
The logical type of a scalar.  An Oracle number without places that is narrow enough is an integer,
and a MySQL tinyint of width one is a truth value; the tables decide everything else.
-/
def mapScalar (m : TypeMapper) (kind : SourceKind) (name : List Char)
    (precision scale : Option UInt32) : LogicalType :=
  let key := lookupName name
  if kind = .oracle ∧ key = "number" ∧ fitsInteger precision scale then .int
  else if kind = .mySql ∧ key = "tinyint" ∧ precision = some 1 then .bool
  else (m.lookup? kind key).getD .unsupported

/--
The logical type of a source type.  A reported precision and scale come before those in the text;
they belong to the type as a whole, not to the elements of a collection.
-/
def mapExpr (m : TypeMapper) (kind : SourceKind) (precision scale : Option UInt32) :
    TypeExpr → LogicalType
  | .leaf l => m.mapScalar kind l.name (precision.or l.precision) (scale.or l.scale)
  | .array element => LogicalType.arrayOf (m.mapExpr kind none none element)
  | .map key value =>
      LogicalType.mapOf (m.mapExpr kind none none key) (m.mapExpr kind none none value)

def mapType (m : TypeMapper) (kind : SourceKind) (raw : String)
    (precision scale : Option UInt32) : LogicalType :=
  m.mapExpr kind precision scale (TypeExpr.parse raw.toList)

def mapColumn (m : TypeMapper) (column : Column) : LogicalType :=
  m.mapType column.kind column.rawType column.precision column.scale

end TypeMapper

end RowConduit
