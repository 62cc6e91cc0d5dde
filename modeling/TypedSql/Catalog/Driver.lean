import TypedSql.Catalog.Dialogue
import TypedSql.Dialect
import TypedSql.Schema

/-!
# Drivers

A driver knows how the catalog of one database engine is questioned and how
the engine's column signals become canonical types.  Unless a driver says
otherwise, the columns of a table are those of a query for all of them, so
that tables and query results are classified in the same way.
-/

namespace TypedSql
namespace Catalog

/-- An index as the catalog describes it. -/
structure IndexDefinition where
  /-- Column names in key order. -/
  columns : List String
  isPrimary : Bool
  isUnique : Bool
  deriving DecidableEq, Repr

/-- A foreign key as the catalog describes it. -/
structure ForeignKeyDefinition where
  /-- Local column names in key order. -/
  columns : List String
  targetTable : String
  targetColumns : List String
  deriving DecidableEq, Repr

/-- The result columns of a query, as they are described and classified. -/
def classifyQuery
    (classify : List RawColumn → Except Error (List Column))
    (query : String) :
    Introspection (List Column) := do
  let described ← Introspection.describe query
  Introspection.ofExcept (classify described)

/-- The query whose result columns are the columns of a table, which is given
by its quoted name. -/
def columnsQuery (quotedTable : String) : String :=
  "SELECT * FROM " ++ quotedTable

/-- What a run needs to know of one database engine. -/
structure Driver where
  /-- The name under which the driver is registered. -/
  name : String
  dialect : Dialect
  /-- The canonical types that the driver can produce. -/
  dataTypes : List CanonicalType
  /-- Classify the columns of a described result. -/
  classify : List RawColumn → Except Error (List Column)
  /-- An identifier as it is written inside SQL text for the engine. -/
  quote : String → String := dialect.quote
  /-- The columns of a table, in order. -/
  columns : String → Introspection (List Column) := fun table =>
    classifyQuery classify (columnsQuery (quote table))
  /-- The names of the base tables of the current database. -/
  tableNames : Introspection (List String)
  /-- The name of a table's column with automatic numbering; engines without
  such columns have none. -/
  autoIncrement : String → Introspection (Option String) := fun _ => pure none
  /-- The names of all indexes of a table. -/
  indexNames : String → Introspection (List String)
  /-- One index of a table. -/
  index (table index : String) : Introspection IndexDefinition
  /-- The names of all foreign keys of a table. -/
  foreignKeyNames : String → Introspection (List String)
  /-- One foreign key of a table. -/
  foreignKey (table key : String) : Introspection ForeignKeyDefinition

namespace Driver

/-- The classified result columns of a query. -/
def queryColumns (driver : Driver) : String → Introspection (List Column) :=
  classifyQuery driver.classify

end Driver
end Catalog
end TypedSql
