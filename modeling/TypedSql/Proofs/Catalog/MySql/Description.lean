import TypedSql.Catalog.MySql.InformationSchema
import TypedSql.Catalog.Script
import TypedSql.Fixture

/-!
# Descriptions of databases

A description says what a database holds by names: tables with columns,
automatic numbering, indexes and foreign keys.  It has two readings.  One is
the schema with positions instead of names.  The other is a script that
answers the catalog queries of the MySQL family for the database, in the way
in which the standard connection is scripted.
-/

namespace TypedSql
namespace Catalog
namespace MySql

/-! ## What a database holds -/

/-- A column as a connection reports it, and the type that it classifies to. -/
structure DescribedColumn where
  raw : RawColumn
  dataType : CanonicalType
  classified : classify raw = .ok dataType

/-- An index over at least one column. -/
structure DescribedIndex where
  name : String
  /-- Column names in key order. -/
  columns : List String
  isUnique : Bool
  nonempty : columns ≠ []

/-- A foreign key of at least one column. -/
structure DescribedForeignKey where
  name : String
  targetTable : String
  /-- Local columns in key order, each with the column that it refers to. -/
  links : List (String × String)
  nonempty : links ≠ []

/-- A table.  The names of its indexes and of its foreign keys are distinct,
and these refer to columns that the table has. -/
structure DescribedTable where
  name : String
  columns : List DescribedColumn
  /-- The name of the column with automatic numbering. -/
  autoIncrement : Option String
  indexes : List DescribedIndex
  foreignKeys : List DescribedForeignKey
  autoIncrement_mem (column : String) (numbered : autoIncrement = some column) :
    column ∈ columns.map (·.raw.name)
  indexNames_nodup : (indexes.map (·.name)).Nodup
  index_mem (index : DescribedIndex) (owned : index ∈ indexes) :
    ∀ column ∈ index.columns, column ∈ columns.map (·.raw.name)
  foreignKeyNames_nodup : (foreignKeys.map (·.name)).Nodup
  foreignKey_mem (key : DescribedForeignKey) (owned : key ∈ foreignKeys) :
    ∀ link ∈ key.links, link.1 ∈ columns.map (·.raw.name)

/-- The names of the columns, in order. -/
def DescribedTable.columnNames (table : DescribedTable) : List String :=
  table.columns.map (·.raw.name)

/-- A database with a name.  The names of its tables are distinct, and its
foreign keys refer to columns of them. -/
structure Description where
  database : String
  tables : List DescribedTable
  database_ne : database ≠ ""
  tableNames_nodup : (tables.map (·.name)).Nodup
  target_mem
    (table : DescribedTable)
    (member : table ∈ tables)
    (key : DescribedForeignKey)
    (owned : key ∈ table.foreignKeys) :
    ∃ target ∈ tables,
      target.name = key.targetTable ∧
        ∀ link ∈ key.links, link.2 ∈ target.columnNames

/-! ## The schema -/

/-- The place of a column in its table. -/
def DescribedTable.place (table : DescribedTable) (column : String) : Nat :=
  table.columnNames.idxOf column

/-- The columns of the schema, in order. -/
def DescribedTable.schemaColumns (table : DescribedTable) : List Column :=
  table.columns.zipIdx.map fun (column, position) =>
    { name := column.raw.name
      position
      dataType := column.dataType
      nullable := column.raw.nullable.getD true
      table := some table.name }

/-- An index of a table of the schema. -/
def DescribedIndex.inSchema
    (index : DescribedIndex)
    (table : DescribedTable) :
    Index where
  name := index.name
  columns := index.columns.map table.place
  isPrimary := index.name == primaryIndexName
  isUnique := index.isUnique

/-- A foreign key of a table of the schema. -/
def DescribedForeignKey.inSchema
    (key : DescribedForeignKey)
    (table : DescribedTable) :
    ForeignKey where
  name := key.name
  columns := key.links.map fun link => table.place link.1
  targetTable := key.targetTable
  targetColumns := key.links.map (·.2)

/-- A table of the schema. -/
def DescribedTable.inSchema (table : DescribedTable) : Table where
  name := table.name
  columns := table.schemaColumns
  autoIncrement := table.autoIncrement.map table.place
  indexes := table.indexes.map (·.inSchema table)
  foreignKeys := table.foreignKeys.map (·.inSchema table)

/-- The schema of the database. -/
def Description.schema (description : Description) : Schema :=
  .ofTables (description.tables.map (·.inSchema))

/-! ## The scripted connection -/

/-- The row of a column of an index, which tells whether the index allows
repeated values. -/
def indexRow (isUnique : Bool) (column : String) (ordinal : Nat) : Row :=
  Row.ofTexts [if isUnique then "0" else "1", column, toString ordinal]

/-- The rows of an index; ordinals count from one. -/
def DescribedIndex.rows (index : DescribedIndex) : List Row :=
  (index.columns.zipIdx 1).map fun (column, ordinal) =>
    indexRow index.isUnique column ordinal

/-- The row of a column of a foreign key and the column that it refers to. -/
def foreignKeyRow
    (targetTable : String)
    (link : String × String)
    (ordinal : Nat) :
    Row :=
  Row.ofTexts [link.1, toString ordinal, targetTable, link.2]

/-- The rows of a foreign key; ordinals count from one. -/
def DescribedForeignKey.rows (key : DescribedForeignKey) : List Row :=
  (key.links.zipIdx 1).map fun (link, ordinal) =>
    foreignKeyRow key.targetTable link ordinal

open Fixture (nameRows)

/-- Answer the queries for one index. -/
def DescribedIndex.addTo
    (index : DescribedIndex)
    (database table : String)
    (script : Script) :
    Script :=
  script.onQueryWith Fixture.indexMark [database, table, index.name] index.rows

/-- Answer the queries for one foreign key. -/
def DescribedForeignKey.addTo
    (key : DescribedForeignKey)
    (database table : String)
    (script : Script) :
    Script :=
  script.onQueryWith Fixture.foreignKeyMark [database, table, key.name] key.rows

/-- Answer the queries for one table. -/
def DescribedTable.addTo
    (table : DescribedTable)
    (database : String)
    (dialect : Dialect)
    (script : Script) :
    Script :=
  let withIndexNames := script
    |>.onDescribe (columnsQuery (dialect.quote table.name))
        (table.columns.map (·.raw))
    |>.onQueryWith Fixture.autoIncrementMark
        [database, table.name, autoIncrementPattern]
        (nameRows table.autoIncrement.toList)
    |>.onQueryWith Fixture.indexNamesMark [database, table.name]
        (nameRows (table.indexes.map (·.name)))
  let withIndexes := table.indexes.foldl
    (fun script index => index.addTo database table.name script) withIndexNames
  let withForeignKeyNames :=
    withIndexes.onQueryWith Fixture.foreignKeyNamesMark [database, table.name]
      (nameRows (table.foreignKeys.map (·.name)))
  table.foreignKeys.foldl
    (fun script key => key.addTo database table.name script)
    withForeignKeyNames

/-- Answer the catalog queries for a database. -/
def Description.addTo
    (description : Description)
    (dialect : Dialect)
    (script : Script) :
    Script :=
  let withTableNames := script
    |>.useDatabase description.database
    |>.onQueryWith Fixture.tableNamesMark [description.database]
        (nameRows (description.tables.map (·.name)))
  description.tables.foldl
    (fun script table => table.addTo description.database dialect script)
    withTableNames

/-! ## The standard schema -/

/-- The users of the standard schema. -/
def standardUsers : DescribedTable where
  name := "users"
  columns :=
    [⟨rawColumn "id" "BIGINT UNSIGNED" (some false), .uint64, by rfl⟩,
      ⟨rawColumn "email" "VARCHAR" (some false), .string, by rfl⟩,
      ⟨rawColumn "name" "VARCHAR" (some true), .string, by rfl⟩,
      ⟨rawColumn "active" "BOOLEAN" (some false), .bool, by rfl⟩,
      ⟨rawColumn "created_at" "DATETIME" (some true), .time, by rfl⟩]
  autoIncrement := some "id"
  indexes :=
    [⟨"PRIMARY", ["id"], true, by simp⟩,
      ⟨"uniq_email", ["email"], true, by simp⟩,
      ⟨"uniq_profile", ["name", "email", "created_at"], true, by simp⟩]
  foreignKeys := []
  autoIncrement_mem := by simp [rawColumn]
  indexNames_nodup := by simp
  index_mem := by simp [rawColumn]
  foreignKeyNames_nodup := by simp
  foreignKey_mem := by simp

/-- The orders of the standard schema. -/
def standardOrders : DescribedTable where
  name := "orders"
  columns :=
    [⟨rawColumn "id" "BIGINT" (some false), .int64, by rfl⟩,
      ⟨rawColumn "user_id" "BIGINT UNSIGNED" (some false), .uint64, by rfl⟩,
      ⟨rawColumn "total" "DOUBLE" (some true), .float64, by rfl⟩,
      ⟨rawColumn "status" "VARCHAR" (some false), .string, by rfl⟩,
      ⟨rawColumn "meta" "JSON" (some true), .json, by rfl⟩]
  autoIncrement := some "id"
  indexes :=
    [⟨"PRIMARY", ["id"], true, by simp⟩,
      ⟨"idx_user", ["user_id"], false, by simp⟩]
  foreignKeys := [⟨"fk_orders_user", "users", [("user_id", "id")], by simp⟩]
  autoIncrement_mem := by simp [rawColumn]
  indexNames_nodup := by simp
  index_mem := by simp [rawColumn]
  foreignKeyNames_nodup := by simp
  foreignKey_mem := by simp [rawColumn]

/-- The description of which the standard connection is the script. -/
def standard : Description where
  database := Fixture.database
  tables := [standardUsers, standardOrders]
  database_ne := by decide
  tableNames_nodup := by simp [standardUsers, standardOrders]
  target_mem := by
    simp [standardUsers, standardOrders, DescribedTable.columnNames, rawColumn]

example (script : Script) :
    standard.addTo .mySql script = Fixture.addStandardSchema script := by
  rfl

example : standard.schema = Fixture.schema := by
  rfl

end MySql
end Catalog
end TypedSql
