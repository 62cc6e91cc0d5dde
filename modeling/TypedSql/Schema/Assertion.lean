import TypedSql.Schema

/-!
# Checks on schemas

Conditions that a test of a schema asks for: the properties of one column, the
column order of a table, and the columns and flags of an index.
-/

namespace TypedSql

/-- Whether a column has a name, a type and a nullability. -/
def Column.hasProperties
    (column : Column)
    (name : String)
    (dataType : CanonicalType)
    (nullable : Bool) : Bool :=
  column.name == name &&
    column.dataType == dataType &&
    column.nullable == nullable

/-- Whether a table has just these columns, each at its own position. -/
def Table.hasColumnOrder (table : Table) (names : List String) : Bool :=
  table.columns.map (·.name) == names &&
    table.columns.map (·.position) == List.range table.columns.length

/-- Whether a table has an index over these columns, in key order, with the
two flags. -/
def Table.hasIndex
    (table : Table)
    (name : String)
    (columns : List String)
    (isPrimary isUnique : Bool) : Bool :=
  match table.index? name with
  | none => false
  | some index =>
    (table.columnsAt index.columns).map (·.name) == columns &&
      index.isPrimary == isPrimary &&
      index.isUnique == isUnique

end TypedSql
