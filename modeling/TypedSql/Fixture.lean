import TypedSql.Catalog.MySql.InformationSchema
import TypedSql.Catalog.Script

/-!
# Fixtures

A small schema of two tables, the scripted connection from which it loads, and
two sample documents.
-/

namespace TypedSql
namespace Fixture

open Catalog

/-- The database of the standard schema. -/
def database : String := "app"

/-! ## The standard schema -/

/-- A table whose columns are given by name, type and nullability. -/
def tableOf
    (name : String)
    (columns : List (String × CanonicalType × Bool)) :
    Table where
  name
  columns := columns.zipIdx.map fun
      ((columnName, dataType, nullable), position) =>
    { name := columnName, position, dataType, nullable, table := some name }

/-- Users: an unsigned key with automatic numbering, a unique address, and a
unique index over three columns that are not in table order. -/
def users : Table :=
  { tableOf "users"
      [("id", .uint64, false),
        ("email", .string, false),
        ("name", .string, true),
        ("active", .bool, false),
        ("created_at", .time, true)] with
    autoIncrement := some 0
    indexes :=
      [{ name := "PRIMARY"
         columns := [0]
         isPrimary := true
         isUnique := true },
        { name := "uniq_email", columns := [1], isUnique := true },
        { name := "uniq_profile", columns := [2, 1, 4], isUnique := true }] }

/-- Orders, which refer to their users. -/
def orders : Table :=
  { tableOf "orders"
      [("id", .int64, false),
        ("user_id", .uint64, false),
        ("total", .float64, true),
        ("status", .string, false),
        ("meta", .json, true)] with
    autoIncrement := some 0
    indexes :=
      [{ name := "PRIMARY"
         columns := [0]
         isPrimary := true
         isUnique := true },
        { name := "idx_user", columns := [1] }]
    foreignKeys :=
      [{ name := "fk_orders_user"
         columns := [1]
         targetTable := "users"
         targetColumns := ["id"] }] }

/-- The tables of users and of orders. -/
def schema : Schema :=
  .ofTables [users, orders]

/-! ## The standard connection -/

/-- The described columns of the users table. -/
def usersDescribed : List RawColumn :=
  [MySql.rawColumn "id" "BIGINT UNSIGNED" (some false),
    MySql.rawColumn "email" "VARCHAR" (some false),
    MySql.rawColumn "name" "VARCHAR" (some true),
    MySql.rawColumn "active" "BOOLEAN" (some false),
    MySql.rawColumn "created_at" "DATETIME" (some true)]

/-- The described columns of the orders table. -/
def ordersDescribed : List RawColumn :=
  [MySql.rawColumn "id" "BIGINT" (some false),
    MySql.rawColumn "user_id" "BIGINT UNSIGNED" (some false),
    MySql.rawColumn "total" "DOUBLE" (some true),
    MySql.rawColumn "status" "VARCHAR" (some false),
    MySql.rawColumn "meta" "JSON" (some true)]

/-- Fragments that tell the catalog queries apart. -/
def tableNamesMark : String := "INFORMATION_SCHEMA.TABLES"

def autoIncrementMark : String := "INFORMATION_SCHEMA.COLUMNS"

def indexNamesMark : String := "AS INDEX_NAME"

def indexMark : String := "CAST(NON_UNIQUE AS CHAR)"

def foreignKeyNamesMark : String :=
  "INFORMATION_SCHEMA.REFERENTIAL_CONSTRAINTS"

def foreignKeyMark : String := "INFORMATION_SCHEMA.KEY_COLUMN_USAGE"

/-- Rows of one text each. -/
def nameRows (names : List String) : List Row :=
  names.map fun name => Row.ofTexts [name]

/-- Add the standard schema to a script, as the MySQL driver sees it. -/
def addStandardSchema (script : Script) : Script :=
  script
    |>.useDatabase database
    |>.onQueryWith tableNamesMark [database] (nameRows ["users", "orders"])
    |>.onDescribe "SELECT * FROM \x60users\x60" usersDescribed
    |>.onQueryWith autoIncrementMark
        [database, "users", MySql.autoIncrementPattern] (nameRows ["id"])
    |>.onQueryWith indexNamesMark [database, "users"]
        (nameRows ["PRIMARY", "uniq_email", "uniq_profile"])
    |>.onQueryWith indexMark [database, "users", "PRIMARY"]
        [Row.ofTexts ["0", "id", "1"]]
    |>.onQueryWith indexMark [database, "users", "uniq_email"]
        [Row.ofTexts ["0", "email", "1"]]
    |>.onQueryWith indexMark [database, "users", "uniq_profile"]
        [Row.ofTexts ["0", "name", "1"],
          Row.ofTexts ["0", "email", "2"],
          Row.ofTexts ["0", "created_at", "3"]]
    |>.onQueryWith foreignKeyNamesMark [database, "users"] []
    |>.onDescribe "SELECT * FROM \x60orders\x60" ordersDescribed
    |>.onQueryWith autoIncrementMark
        [database, "orders", MySql.autoIncrementPattern] (nameRows ["id"])
    |>.onQueryWith indexNamesMark [database, "orders"]
        (nameRows ["PRIMARY", "idx_user"])
    |>.onQueryWith indexMark [database, "orders", "PRIMARY"]
        [Row.ofTexts ["0", "id", "1"]]
    |>.onQueryWith indexMark [database, "orders", "idx_user"]
        [Row.ofTexts ["1", "user_id", "1"]]
    |>.onQueryWith foreignKeyNamesMark [database, "orders"]
        (nameRows ["fk_orders_user"])
    |>.onQueryWith foreignKeyMark [database, "orders", "fk_orders_user"]
        [Row.ofTexts ["user_id", "1", "users", "id"]]

/-! ## Sample documents -/

/-- A document whose statements use every directive. -/
def userQueries : String :=
  "<stmts>
  <stmt name=\"GetUser\" single=\"true\">
    SELECT <wc table=\"users\" as=\"u\"/> FROM users AS u
    WHERE u.id = <arg name=\"id\" type=\"uint64\">1</arg>
  </stmt>
  <stmt name=\"CountActive\">
    SELECT COUNT(*) AS <replace with=\"cnt\">n</replace> FROM users WHERE active = 1
  </stmt>
  <stmt name=\"Deactivate\">
    UPDATE users SET active = 0 WHERE id = <arg name=\"id\" type=\"uint64\">1</arg>
  </stmt>
</stmts>"

/-- A document with a tag that stands for no directive. -/
def unknownTag : String :=
  "<stmts>\n  <stmt name=\"Bad\">SELECT <bogus/> FROM users</stmt>\n</stmts>"

end Fixture
end TypedSql
