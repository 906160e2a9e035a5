import RowConduit.Schema.Kind
import RowConduit.Types.LogicalType

/-!
# Built-in type tables

The scalar types of each kind of source with their logical types.  Names are lower case with single
spaces.
-/

namespace RowConduit

abbrev TypeTable : Type :=
  List (String × LogicalType)

def googleSqlTypes : TypeTable :=
  [("bool", .bool), ("int64", .int), ("float32", .float), ("float64", .float),
    ("numeric", .numericString), ("string", .string), ("bytes", .bytes), ("date", .date),
    ("timestamp", .timestamp), ("json", .json), ("uuid", .uuid)]

/-- PostgreSQL types; a timestamp is local unless it says otherwise. -/
def postgreSqlTypes : TypeTable :=
  [("boolean", .bool), ("bool", .bool), ("smallint", .int), ("int2", .int), ("integer", .int),
    ("int", .int), ("int4", .int), ("bigint", .int), ("int8", .int), ("serial", .int),
    ("bigserial", .int), ("real", .float), ("float4", .float), ("double precision", .float),
    ("float8", .float), ("numeric", .numericString), ("decimal", .numericString),
    ("money", .numericString), ("character varying", .string), ("varchar", .string),
    ("character", .string), ("char", .string), ("bpchar", .string), ("text", .string),
    ("citext", .string), ("bytea", .bytes), ("date", .date), ("timestamp", .dateTime),
    ("timestamp without time zone", .dateTime), ("timestamptz", .timestamp),
    ("timestamp with time zone", .timestamp), ("spanner.commit_timestamp", .timestamp),
    ("json", .json), ("jsonb", .json), ("uuid", .uuid)]

def cassandraTypes : TypeTable :=
  [("ascii", .string), ("bigint", .int), ("blob", .bytes), ("boolean", .bool), ("counter", .int),
    ("date", .date), ("decimal", .numericString), ("double", .float), ("duration", .string),
    ("float", .float), ("inet", .string), ("int", .int), ("smallint", .int), ("text", .string),
    ("time", .int), ("timestamp", .timestamp), ("timeuuid", .uuid), ("tinyint", .int),
    ("uuid", .uuid), ("varchar", .string), ("varint", .numericString)]

def mySqlTypes : TypeTable :=
  [("bit", .bytes), ("bool", .bool), ("boolean", .bool), ("tinyint", .int), ("smallint", .int),
    ("mediumint", .int), ("int", .int), ("integer", .int), ("bigint", .int), ("year", .int),
    ("float", .float), ("double", .float), ("real", .float), ("decimal", .numericString),
    ("numeric", .numericString), ("char", .string), ("varchar", .string), ("tinytext", .string),
    ("text", .string), ("mediumtext", .string), ("longtext", .string), ("enum", .string),
    ("set", .string), ("time", .string), ("binary", .bytes), ("varbinary", .bytes),
    ("tinyblob", .bytes), ("blob", .bytes), ("mediumblob", .bytes), ("longblob", .bytes),
    ("date", .date), ("datetime", .dateTime), ("timestamp", .timestamp), ("json", .json)]

def oracleTypes : TypeTable :=
  [("number", .numericString), ("integer", .int), ("float", .float), ("binary_float", .float),
    ("binary_double", .float), ("char", .string), ("nchar", .string), ("varchar", .string),
    ("varchar2", .string), ("nvarchar2", .string), ("clob", .string), ("nclob", .string),
    ("long", .string), ("rowid", .string), ("blob", .bytes), ("raw", .bytes), ("long raw", .bytes),
    ("date", .dateTime), ("timestamp", .dateTime), ("timestamp with time zone", .timestamp),
    ("timestamp with local time zone", .timestamp), ("json", .json)]

def builtinTypes : SourceKind → TypeTable
  | .googleSql => googleSqlTypes
  | .postgreSql => postgreSqlTypes
  | .cassandra => cassandraTypes
  | .mySql => mySqlTypes
  | .oracle => oracleTypes

end RowConduit
