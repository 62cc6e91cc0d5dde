import TypedSql.Catalog.Driver
import TypedSql.Catalog.MySql.Classification

/-!
# The information schema of the MySQL family

The queries by which a driver reads tables, automatic numbering, indexes and
foreign keys of the current database, and how their rows are read.  Every
catalog query follows a question for the current database, whose name is its
first parameter.

The rows of one key carry ordinals, which count from one without gaps.  The
first row, and in it the first value, that breaks a rule decides the error.
-/

namespace TypedSql
namespace Catalog
namespace MySql

/-! ## Query texts -/

def currentDatabaseQuery : String :=
  "SELECT DATABASE()"

def tableNamesQuery : String :=
  "
            SELECT
                CAST(TABLE_NAME AS CHAR)
            FROM INFORMATION_SCHEMA.TABLES
            WHERE TABLE_SCHEMA = ? AND TABLE_TYPE = 'BASE TABLE'
            ORDER BY TABLE_NAME
        "

def autoIncrementQuery : String :=
  "
            SELECT
                CAST(COLUMN_NAME AS CHAR)
            FROM INFORMATION_SCHEMA.COLUMNS
            WHERE TABLE_SCHEMA = ? AND TABLE_NAME = ? AND EXTRA LIKE ?
            ORDER BY ORDINAL_POSITION
        "

/-- The pattern of a column property that tells automatic numbering. -/
def autoIncrementPattern : String :=
  "%auto_increment%"

def indexNamesQuery : String :=
  "
            SELECT DISTINCT
                CAST(INDEX_NAME AS CHAR) AS INDEX_NAME
            FROM INFORMATION_SCHEMA.STATISTICS
            WHERE TABLE_SCHEMA = ? AND TABLE_NAME = ?
            ORDER BY INDEX_NAME
        "

def indexQuery : String :=
  "
            SELECT
                CAST(NON_UNIQUE AS CHAR),
                CAST(COLUMN_NAME AS CHAR),
                CAST(SEQ_IN_INDEX AS CHAR)
            FROM INFORMATION_SCHEMA.STATISTICS
            WHERE TABLE_SCHEMA = ? AND TABLE_NAME = ? AND INDEX_NAME = ?
            ORDER BY SEQ_IN_INDEX
        "

/-- Foreign keys into other databases have no target in the schema, so they
are left out. -/
def foreignKeyNamesQuery : String :=
  "
            SELECT
                CAST(CONSTRAINT_NAME AS CHAR)
            FROM INFORMATION_SCHEMA.REFERENTIAL_CONSTRAINTS
            WHERE CONSTRAINT_SCHEMA = ? AND TABLE_NAME = ?
                AND UNIQUE_CONSTRAINT_SCHEMA = CONSTRAINT_SCHEMA
            ORDER BY CONSTRAINT_NAME
        "

def foreignKeyQuery : String :=
  "
            SELECT
                CAST(COLUMN_NAME AS CHAR),
                CAST(ORDINAL_POSITION AS CHAR),
                CAST(REFERENCED_TABLE_NAME AS CHAR),
                CAST(REFERENCED_COLUMN_NAME AS CHAR)
            FROM INFORMATION_SCHEMA.KEY_COLUMN_USAGE
            WHERE TABLE_SCHEMA = ? AND TABLE_NAME = ? AND CONSTRAINT_NAME = ?
                AND REFERENCED_TABLE_SCHEMA = TABLE_SCHEMA
            ORDER BY ORDINAL_POSITION
        "

/-! ## Reading rows -/

/-- The name of the current database, which is NULL or empty when none is
selected. -/
def databaseOfRows (rows : List Row) : Except Error String :=
  match rows.head?.bind (·.get? 0) with
  | some name => if name.isEmpty then .error .noDatabaseSelected else .ok name
  | none => .error .noDatabaseSelected

/-- The names in the first column of a result. -/
def namesOfRows (what : String) (rows : List Row) :
    Except Error (List String) :=
  rows.mapM fun row => row.text 0 what

/-- One column of an index: its name and whether the index allows repeated
values. -/
structure IndexPart where
  column : String
  allowsRepeats : Bool
  deriving DecidableEq, Repr

/-- The parts of an index whose rows follow the ordinal `previous`. -/
def indexParts (previous : Nat) : List Row → Except Error (List IndexPart)
  | [] => .ok []
  | row :: rest => do
    let nonUnique ← row.number 0 "NON_UNIQUE"
    let column ← row.text 1 "COLUMN_NAME"
    let ordinal ← row.number 2 "SEQ_IN_INDEX"
    expectNextOrdinal previous ordinal "SEQ_IN_INDEX"
    let parts ← indexParts ordinal rest
    pure ({ column, allowsRepeats := nonUnique ≠ 0 } :: parts)

/-- The name that is reserved for the primary key. -/
def primaryIndexName : String :=
  "PRIMARY"

/-- An index from its rows; the last row tells whether it is unique. -/
def indexOfRows
    (table index : String)
    (rows : List Row) :
    Except Error IndexDefinition := do
  let parts ← indexParts 0 rows
  match parts.getLast? with
  | none => .error (.indexNotFound table index)
  | some last =>
    pure
      { columns := parts.map (·.column)
        isPrimary := index == primaryIndexName
        isUnique := !last.allowsRepeats }

/-- One column of a foreign key and the column that it refers to. -/
structure ForeignKeyPart where
  column : String
  targetTable : String
  targetColumn : String
  deriving DecidableEq, Repr

/-- The parts of a foreign key whose rows follow the ordinal `previous` and
refer to the table `target`, if one is known already. -/
def foreignKeyParts
    (table key : String)
    (previous : Nat)
    (target : Option String) :
    List Row → Except Error (List ForeignKeyPart)
  | [] => .ok []
  | row :: rest => do
    let column ← row.text 0 "COLUMN_NAME"
    let ordinal ← row.number 1 "ORDINAL_POSITION"
    let targetTable ← row.text 2 "REFERENCED_TABLE_NAME"
    let targetColumn ← row.text 3 "REFERENCED_COLUMN_NAME"
    expectNextOrdinal previous ordinal "ORDINAL_POSITION"
    expectSameTarget targetTable
    let parts ← foreignKeyParts table key ordinal (some targetTable) rest
    pure ({ column, targetTable, targetColumn } :: parts)
where
  /-- All rows of a foreign key refer to one table. -/
  expectSameTarget (found : String) : Except Error Unit :=
    match target with
    | none => .ok ()
    | some known =>
      if known = found then
        .ok ()
      else
        .error (.inconsistent (.twoTargets key table known found))

/-- A foreign key from its rows. -/
def foreignKeyOfRows
    (table key : String)
    (rows : List Row) :
    Except Error ForeignKeyDefinition := do
  let parts ← foreignKeyParts table key 0 none rows
  match parts.head? with
  | none => .error (.foreignKeyNotFound table key)
  | some first =>
    pure
      { columns := parts.map (·.column)
        targetTable := first.targetTable
        targetColumns := parts.map (·.targetColumn) }

/-! ## Questions -/

/-- Ask for the name of the current database. -/
def currentDatabase : Introspection String := do
  let rows ← Introspection.fetch currentDatabaseQuery []
  Introspection.ofExcept (databaseOfRows rows)

/-- Ask a catalog query about the current database, whose name is put in front
of the parameters, and read the rows. -/
def ask
    {α : Type}
    (query : String)
    (params : List String)
    (read : List Row → Except Error α) :
    Introspection α := do
  let database ← currentDatabase
  let rows ← Introspection.fetch query (database :: params)
  Introspection.ofExcept (read rows)

/-- The driver of a member of the MySQL family. -/
def driver (dialect : Dialect) : Driver where
  name := dialect.name
  dialect
  dataTypes := CanonicalType.all
  classify := classifyAll
  tableNames := ask tableNamesQuery [] (namesOfRows "TABLE_NAME")
  autoIncrement table :=
    List.head? <$>
      ask autoIncrementQuery [table, autoIncrementPattern]
        (namesOfRows "COLUMN_NAME")
  indexNames table := ask indexNamesQuery [table] (namesOfRows "INDEX_NAME")
  index table index := ask indexQuery [table, index] (indexOfRows table index)
  foreignKeyNames table :=
    ask foreignKeyNamesQuery [table] (namesOfRows "CONSTRAINT_NAME")
  foreignKey table key :=
    ask foreignKeyQuery [table, key] (foreignKeyOfRows table key)

end MySql
end Catalog
end TypedSql
