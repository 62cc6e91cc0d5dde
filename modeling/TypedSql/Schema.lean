import Std.Data.HashMap
import TypedSql.CanonicalType
import TypedSql.Json.Basic

/-!
# Database schemas

Tables with their columns, indexes and foreign keys.  Keys refer to the
columns of their own table by position, so that a composite key keeps its
order.  A schema finds its tables by name through an index that is derived
from the table list; of several tables with one name, the last is found.
-/

namespace TypedSql

/-- A column of a table or of a query result. -/
structure Column where
  name : String
  /-- Zero-based place among its siblings. -/
  position : Nat
  dataType : CanonicalType
  nullable : Bool := false
  /-- The owning table; a result column has none. -/
  table : Option String := none
  deriving DecidableEq, Repr

/-- An index of a table. -/
structure Index where
  name : String
  /-- Column positions in key order. -/
  columns : List Nat
  isPrimary : Bool := false
  isUnique : Bool := false
  deriving DecidableEq, Repr

/-- A foreign key of a table. -/
structure ForeignKey where
  name : String
  /-- Local column positions in key order. -/
  columns : List Nat
  /-- The table that is referred to. -/
  targetTable : String
  /-- Names of the columns referred to, one for each local column. -/
  targetColumns : List String
  deriving DecidableEq, Repr

/-- A base table. -/
structure Table where
  name : String
  columns : List Column
  /-- Position of the column with automatic numbering. -/
  autoIncrement : Option Nat := none
  indexes : List Index := []
  foreignKeys : List ForeignKey := []
  deriving DecidableEq, Repr

namespace Table

/-- The first column of a name. -/
def column? (table : Table) (name : String) : Option Column :=
  table.columns.find? (·.name == name)

/-- The position of the first column of a name. -/
def positionOf? (table : Table) (name : String) : Option Nat :=
  table.columns.findIdx? (·.name == name)

/-- The column with automatic numbering. -/
def autoIncrementColumn? (table : Table) : Option Column :=
  table.autoIncrement.bind (table.columns[·]?)

/-- The first index that is the primary key. -/
def primaryKey? (table : Table) : Option Index :=
  table.indexes.find? (·.isPrimary)

/-- The first index of a name. -/
def index? (table : Table) (name : String) : Option Index :=
  table.indexes.find? (·.name == name)

/-- The first foreign key of a name. -/
def foreignKey? (table : Table) (name : String) : Option ForeignKey :=
  table.foreignKeys.find? (·.name == name)

/-- The columns at some positions; positions without a column are skipped. -/
def columnsAt (table : Table) (positions : List Nat) : List Column :=
  positions.filterMap (table.columns[·]?)

end Table

/-- The tables of one database and where each name is found among them. -/
structure Schema where
  tables : List Table
  positions : Std.HashMap String Nat

namespace Schema

/-- Where each table name stands last, counting from `start`. -/
def indexNames
    (tables : List Table)
    (start : Nat)
    (positions : Std.HashMap String Nat) :
    Std.HashMap String Nat :=
  match tables with
  | [] => positions
  | table :: rest =>
    indexNames rest (start + 1) (positions.insert table.name start)

/-- The schema of a list of tables, whose order it keeps. -/
def ofTables (tables : List Table) : Schema where
  tables
  positions := indexNames tables 0 ∅

instance : Inhabited Schema := ⟨ofTables []⟩

/-- Two schemas are alike when their tables are. -/
instance : BEq Schema where
  beq left right := left.tables == right.tables

@[simp] theorem tables_ofTables (tables : List Table) :
    (ofTables tables).tables = tables :=
  rfl

/-- The last table of a name. -/
def table? (schema : Schema) (name : String) : Option Table :=
  schema.positions[name]?.bind (schema.tables[·]?)

/-- The number of tables. -/
def size (schema : Schema) : Nat :=
  schema.tables.length

/-- Whether there are no tables. -/
def isEmpty (schema : Schema) : Bool :=
  schema.tables.isEmpty

/-- The schema of the accepted tables. -/
def filter (keep : Table → Bool) (schema : Schema) : Schema :=
  ofTables (schema.tables.filter keep)

@[simp] theorem tables_filter (keep : Table → Bool) (schema : Schema) :
    (schema.filter keep).tables = schema.tables.filter keep :=
  rfl

end Schema

/-! ## JSON form -/

/-- A column with all of its properties. -/
def Column.toJson (column : Column) : Json :=
  .object
    [("name", .text column.name),
      ("position", .ofNat column.position),
      ("data_type", .text column.dataType.name),
      ("nullable", .bool column.nullable),
      ("table", .optional .text column.table)]

/-- An index with its column positions. -/
def Index.toJson (index : Index) : Json :=
  .object
    [("name", .text index.name),
      ("columns", .naturals index.columns),
      ("is_primary", .bool index.isPrimary),
      ("is_unique", .bool index.isUnique)]

/-- A foreign key with its local positions and the columns referred to. -/
def ForeignKey.toJson (key : ForeignKey) : Json :=
  .object
    [("name", .text key.name),
      ("columns", .naturals key.columns),
      ("ref_table", .text key.targetTable),
      ("ref_columns", .texts key.targetColumns)]

/-- A table with its columns and keys. -/
def Table.toJson (table : Table) : Json :=
  .object
    [("name", .text table.name),
      ("columns", .list (table.columns.map Column.toJson)),
      ("auto_inc_column", .optional .ofNat table.autoIncrement),
      ("indexes", .list (table.indexes.map Index.toJson)),
      ("foreign_keys", .list (table.foreignKeys.map ForeignKey.toJson))]

/-- A schema as the list of its tables. -/
def Schema.toJson (schema : Schema) : Json :=
  .object [("tables", .list (schema.tables.map Table.toJson))]

end TypedSql
