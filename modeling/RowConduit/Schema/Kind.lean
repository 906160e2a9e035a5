/-!
# Kinds of sources

The kinds of database that a schema, a column or a change event can belong to, and the name of a
logical source: its kind together with the name of the database, keyspace or instance.
-/

namespace RowConduit

inductive SourceKind where
  | googleSql
  | postgreSql
  | cassandra
  | mySql
  | oracle
  deriving DecidableEq, Repr

namespace SourceKind

def all : List SourceKind :=
  [.googleSql, .postgreSql, .cassandra, .mySql, .oracle]

def name : SourceKind → String
  | .googleSql => "googlesql"
  | .postgreSql => "postgresql"
  | .cassandra => "cassandra"
  | .mySql => "mysql"
  | .oracle => "oracle"

def ofName? (s : String) : Option SourceKind :=
  all.find? fun kind => kind.name == s

def documentNames : List (String × SourceKind) :=
  [("googlesql", .googleSql), ("postgres", .postgreSql), ("postgresql", .postgreSql),
    ("cassandra", .cassandra), ("mysql", .mySql), ("oracle", .oracle)]

def ofDocumentName? (s : String) : Option SourceKind :=
  documentNames.lookup s

def spokenNames : List (String × SourceKind) :=
  [("googlesql", .googleSql), ("google_standard_sql", .googleSql), ("spanner", .googleSql),
    ("postgresql", .postgreSql), ("postgres", .postgreSql), ("pg", .postgreSql),
    ("cassandra", .cassandra), ("astra", .cassandra), ("mysql", .mySql), ("mariadb", .mySql),
    ("oracle", .oracle)]

theorem ofName?_name (kind : SourceKind) : ofName? kind.name = some kind := by
  cases kind <;> decide

theorem ofDocumentName?_name (kind : SourceKind) : ofDocumentName? kind.name = some kind := by
  cases kind <;> decide

end SourceKind

structure SchemaReference where
  name : String
  kind : SourceKind
  deriving DecidableEq, Repr

def SchemaReference.display (r : SchemaReference) : String :=
  r.kind.name ++ ":" ++ r.name

end RowConduit
