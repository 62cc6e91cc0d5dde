import TypedSql.Catalog.Driver

/-!
# Loading a schema

The schema of the current database, read table by table.  Loading is all or
nothing: names of key columns have to be columns of their table, and once all
tables are known, foreign keys have to lead to tables and columns among them.
-/

namespace TypedSql
namespace Catalog

/-- The position of a column that something of its table refers to. -/
def resolveColumn
    (table : String)
    (columns : List Column)
    (owner : ColumnOwner)
    (column : String) :
    Except Error Nat :=
  match columns.findIdx? (·.name == column) with
  | some position => .ok position
  | none => .error (.inconsistent (.unknownColumn owner table column))

/-- An index with its columns as positions. -/
def IndexDefinition.resolve
    (definition : IndexDefinition)
    (table : String)
    (columns : List Column)
    (name : String) :
    Except Error Index := do
  let positions ←
    definition.columns.mapM (resolveColumn table columns (.index name))
  pure
    { name
      columns := positions
      isPrimary := definition.isPrimary
      isUnique := definition.isUnique }

/-- A foreign key with its local columns as positions; each of them needs a
column that it refers to. -/
def ForeignKeyDefinition.resolve
    (definition : ForeignKeyDefinition)
    (table : String)
    (columns : List Column)
    (name : String) :
    Except Error ForeignKey := do
  if definition.columns.length ≠ definition.targetColumns.length then
    .error (.inconsistent (.unequalKey name table
      definition.columns.length definition.targetColumns.length))
  else
    let positions ←
      definition.columns.mapM (resolveColumn table columns (.foreignKey name))
    pure
      { name
        columns := positions
        targetTable := definition.targetTable
        targetColumns := definition.targetColumns }

/-- Load the columns of a table. -/
def loadColumns (driver : Driver) (table : String) :
    Introspection (List Column) := do
  let columns ← driver.columns table
  pure (columns.map fun column => { column with table := some table })

/-- Load the position of a table's column with automatic numbering. -/
def loadAutoIncrement
    (driver : Driver)
    (table : String)
    (columns : List Column) :
    Introspection (Option Nat) := do
  match ← driver.autoIncrement table with
  | none => pure none
  | some column =>
    let position ←
      Introspection.ofExcept (resolveColumn table columns .autoIncrement column)
    pure (some position)

/-- Load one index of a table. -/
def loadIndex
    (driver : Driver)
    (table : String)
    (columns : List Column)
    (name : String) :
    Introspection Index := do
  let definition ← driver.index table name
  Introspection.ofExcept (definition.resolve table columns name)

/-- Load one foreign key of a table. -/
def loadForeignKey
    (driver : Driver)
    (table : String)
    (columns : List Column)
    (name : String) :
    Introspection ForeignKey := do
  let definition ← driver.foreignKey table name
  Introspection.ofExcept (definition.resolve table columns name)

/-- Load one table: its columns, automatic numbering, indexes and foreign
keys, in this order. -/
def loadTable (driver : Driver) (name : String) : Introspection Table := do
  let columns ← loadColumns driver name
  let autoIncrement ← loadAutoIncrement driver name columns
  let indexNames ← driver.indexNames name
  let indexes ← indexNames.mapM (loadIndex driver name columns)
  let foreignKeyNames ← driver.foreignKeyNames name
  let foreignKeys ← foreignKeyNames.mapM (loadForeignKey driver name columns)
  pure { name, columns, autoIncrement, indexes, foreignKeys }

/-- Load all tables of the current database. -/
def loadTables (driver : Driver) : Introspection (List Table) := do
  let names ← driver.tableNames
  names.mapM (loadTable driver)

/-- A foreign key leads to a table of the schema that has all of the columns
referred to. -/
def checkForeignKey
    (schema : Schema)
    (table : String)
    (key : ForeignKey) :
    Except Error Unit :=
  match schema.table? key.targetTable with
  | none =>
    .error (.inconsistent (.unknownTarget key.name table key.targetTable))
  | some target =>
    match key.targetColumns.find? fun name => (target.column? name).isNone with
    | none => .ok ()
    | some missing =>
      .error (.inconsistent
        (.unknownTargetColumn key.name table key.targetTable missing))

/-- All foreign keys of a schema lead somewhere. -/
def checkForeignKeys (schema : Schema) : Except Error Unit :=
  schema.tables.forM fun table =>
    table.foreignKeys.forM (checkForeignKey schema table.name)

/-- Load the schema of the current database. -/
def loadSchema (driver : Driver) : Introspection Schema := do
  let tables ← loadTables driver
  let schema := Schema.ofTables tables
  Introspection.ofExcept (checkForeignKeys schema)
  pure schema

end Catalog
end TypedSql
