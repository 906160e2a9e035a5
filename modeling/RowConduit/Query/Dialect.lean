import RowConduit.Query.Identifier
import RowConduit.Schema.Table
import RowConduit.Text.Quoted
import RowConduit.Types.Mapper

/-!
# Query dialects

The two dialects in which read queries are written: how they quote names and literals, and how a
column is projected.  A query is a list of fragments, in which names and literals stand apart from
the code around them; quoting happens only when fragments are written out.
-/

namespace RowConduit

open RowConduit.Text

inductive Dialect where
  | googleSql
  | postgres
  deriving DecidableEq, Repr

inductive Fragment where
  | code (text : String)
  | identifier (name : Identifier)
  | literal (value : String)

namespace Dialect

def name : Dialect → String
  | .googleSql => "googlesql"
  | .postgres => "postgres"

def spokenNames : List (String × Dialect) :=
  [("googlesql", .googleSql), ("google_standard_sql", .googleSql), ("spanner", .googleSql),
    ("postgres", .postgres), ("postgresql", .postgres), ("pg", .postgres)]

/-- The dialect a user asks for, blanks around the name and letter case aside. -/
def ofSpokenName (s : String) : Except JobError Dialect :=
  let name := lower (trimmed s)
  match spokenNames.lookup name with
  | some dialect => .ok dialect
  | none => .error (.unsupportedDialect (.unknownName name))

def ofSourceKind : SourceKind → Except JobError Dialect
  | .googleSql => .ok .googleSql
  | .postgreSql => .ok .postgres
  | .cassandra => .error (.unsupportedDialect (.noDialect .cassandra))
  | .mySql => .error (.unsupportedDialect (.noDialect .mySql))
  | .oracle => .error (.unsupportedDialect (.noDialect .oracle))

def identifierStyle : Dialect → QuoteStyle
  | .googleSql => ⟨'\x60', .backslash⟩
  | .postgres => ⟨'"', .doubling⟩

def literalStyle : Dialect → QuoteStyle
  | .googleSql => ⟨'"', .backslash⟩
  | .postgres => ⟨'\x27', .doubling⟩

def quoteIdentifier (d : Dialect) (name : String) : Except IdentifierFault String :=
  (Identifier.of name).map fun id => d.identifierStyle.quoteText id.name

def quoteLiteral (d : Dialect) (value : String) : String :=
  d.literalStyle.quoteText value

def writeFragment (d : Dialect) : Fragment → String
  | .code text => text
  | .identifier id => d.identifierStyle.quoteText id.name
  | .literal value => d.literalStyle.quoteText value

def write (d : Dialect) (fragments : List Fragment) : String :=
  String.join (fragments.map d.writeFragment)

end Dialect

def plainColumn (id : Identifier) : List Fragment :=
  [.code "t.", .identifier id]

/-- A conversion of a column under its own name, where NULL stays NULL. -/
def unlessNull (id : Identifier) (converted : List Fragment) : List Fragment :=
  [.code "CASE WHEN t.", .identifier id, .code " IS NULL THEN NULL ELSE "] ++ converted ++
    [.code " END AS ", .identifier id]

/-- An array column with every element that is not NULL converted; an empty array stays empty. -/
def convertElements (id : Identifier) (conversion : String) : List Fragment :=
  unlessNull id
    [.code ("IFNULL((SELECT ARRAY_AGG(CASE WHEN e IS NULL THEN NULL ELSE " ++ conversion ++
        " END) FROM UNNEST(t."),
      .identifier id, .code ") AS e), [])"]

/-- An array column with every element converted by an expression that keeps NULL. -/
def selectElements (id : Identifier) (conversion : String) : List Fragment :=
  unlessNull id
    [.code ("ARRAY(SELECT " ++ conversion ++ " FROM UNNEST(t."), .identifier id,
      .code ") AS e)"]

namespace Dialect

/--
The projection of a column.  Types that the reader of the rows cannot decode are turned into text;
a converted column keeps its name through an alias.
-/
def projection : Dialect → Identifier → LogicalType → List Fragment
  | .googleSql, id, .json =>
      unlessNull id [.code "TO_JSON_STRING(t.", .identifier id, .code ")"]
  | .googleSql, id, .uuid =>
      [.code "CAST(t.", .identifier id, .code " AS STRING) AS ", .identifier id]
  | .googleSql, id, .array .numericString => convertElements id "CAST(e AS STRING)"
  | .googleSql, id, .array .json => convertElements id "TO_JSON_STRING(e)"
  | .googleSql, id, .array .uuid => selectElements id "CAST(e AS STRING)"
  | .postgres, id, .uuid => [.code "t.", .identifier id, .code "::text AS ", .identifier id]
  | .postgres, id, .array .uuid => selectElements id "e::text"
  | _, id, _ => plainColumn id

def columnFragments (d : Dialect) (column : String) (type : LogicalType) :
    Except IdentifierFault (List Fragment) :=
  (Identifier.of column).map fun id => d.projection id type

def columnExpression (d : Dialect) (column : String) (type : LogicalType) :
    Except IdentifierFault String :=
  (d.columnFragments column type).map d.write

def projectColumn (d : Dialect) (mapper : TypeMapper) (column : Column) :
    Except IdentifierFault String :=
  d.columnExpression column.name (mapper.mapColumn column)

end Dialect

end RowConduit
