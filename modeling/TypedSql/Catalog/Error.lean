import TypedSql.Json.Basic
import TypedSql.Text.Quoted

/-!
# Catalog errors

What can go wrong between a driver and a database.  Every error is a cause
with the values that explain it; `Error.message` is the only place that puts
it into words, and `Error.kind` groups the causes for uniform reports.
-/

namespace TypedSql
namespace Catalog

/-- What refers to a column of its table by name. -/
inductive ColumnOwner where
  | autoIncrement
  | index (name : String)
  | foreignKey (name : String)
  deriving DecidableEq, Repr

/-- The owner as it is named in a message. -/
def ColumnOwner.text : ColumnOwner → String
  | autoIncrement => "auto increment column"
  | index name => s!"index '{name}'"
  | foreignKey name => s!"foreign key '{name}'"

/-- A way in which catalog data contradicts itself. -/
inductive Inconsistency where
  | unexpectedNull (what : String)
  | malformed (what value : String)
  | badOrdinal (what : String) (previous current : Nat)
  | twoTargets (key table first second : String)
  | unequalKey (key table : String) (columns targetColumns : Nat)
  | unknownColumn (owner : ColumnOwner) (table column : String)
  | unknownTarget (key table target : String)
  | unknownTargetColumn (key table target column : String)
  | other (reason : String)
  deriving DecidableEq, Repr

/-- The contradiction in words. -/
def Inconsistency.reason : Inconsistency → String
  | unexpectedNull what => s!"unexpected NULL {what}"
  | malformed what value => s!"malformed {what}: " ++ Text.quoted value
  | badOrdinal what previous current =>
    s!"bad {what}, previous is {previous}, current is {current}"
  | twoTargets key table first second =>
    s!"foreign key '{key}' in table '{table}' references both '{first}' " ++
      s!"and '{second}'"
  | unequalKey key table columns targetColumns =>
    s!"foreign key '{key}' in table '{table}' has {columns} columns " ++
      s!"but {targetColumns} referenced columns"
  | unknownColumn owner table column =>
    owner.text ++ s!" of table '{table}' names unknown column '{column}'"
  | unknownTarget key table target =>
    s!"foreign key '{key}' in table '{table}' references unknown table " ++
      s!"'{target}'"
  | unknownTargetColumn key table target column =>
    s!"foreign key '{key}' in table '{table}' references unknown column " ++
      s!"'{target}.{column}'"
  | other reason => reason

/-- The class of a failure. -/
inductive ErrorKind where
  /-- Missing or invalid configuration. -/
  | configuration
  /-- Catalog data that contradicts itself. -/
  | inconsistency
  /-- A column type without a canonical type. -/
  | classification
  /-- A failure of the connection or of a query. -/
  | io
  deriving DecidableEq, Repr

/-- The name of the class in reports. -/
def ErrorKind.label : ErrorKind → String
  | configuration => "Configuration"
  | inconsistency => "Inconsistency"
  | classification => "Classification"
  | io => "Io"

/-- A failure of a catalog operation. -/
inductive Error where
  | connectionFailed (reason : String)
  | queryFailed (query reason : String)
  | noDatabaseSelected
  | unknownDriver (name : String)
  | unclassifiedColumn (column scanType typeName : String)
  | inconsistent (cause : Inconsistency)
  | indexNotFound (table index : String)
  | foreignKeyNotFound (table name : String)
  | invalidConfiguration (reason : String)
  deriving DecidableEq, Repr

namespace Error

/-- The class of the failure. -/
def kind : Error → ErrorKind
  | connectionFailed _ | queryFailed _ _ => .io
  | noDatabaseSelected | unknownDriver _ | invalidConfiguration _ =>
    .configuration
  | unclassifiedColumn _ _ _ => .classification
  | inconsistent _ | indexNotFound _ _ | foreignKeyNotFound _ _ =>
    .inconsistency

/-- The failure in words. -/
def message : Error → String
  | connectionFailed reason => s!"Failed to connect to database: {reason}"
  | queryFailed query reason =>
    s!"Query execution failed: {reason}\n  Query: {query}"
  | noDatabaseSelected => "No database selected"
  | unknownDriver name => s!"Unknown driver '{name}'"
  | unclassifiedColumn column scanType typeName =>
    s!"Unknown column type for '{column}': scan_type={scanType} " ++
      "database_type_name=" ++ Text.quoted typeName
  | inconsistent cause => "Introspection inconsistency: " ++ cause.reason
  | indexNotFound table index =>
    s!"Index '{index}' in table '{table}' not found"
  | foreignKeyNotFound table name =>
    s!"Foreign key '{name}' in table '{table}' not found"
  | invalidConfiguration reason => s!"Invalid catalog configuration: {reason}"

/-- The name of the cause in reports. -/
def label : Error → String
  | connectionFailed _ => "ConnectionFailed"
  | queryFailed _ _ => "QueryFailed"
  | noDatabaseSelected => "NoDatabaseSelected"
  | unknownDriver _ => "UnknownDriver"
  | unclassifiedColumn _ _ _ => "UnclassifiedColumn"
  | inconsistent _ => "Inconsistency"
  | indexNotFound _ _ => "IndexNotFound"
  | foreignKeyNotFound _ _ => "ForeignKeyNotFound"
  | invalidConfiguration _ => "ConfigurationError"

/-- The values that explain the failure, under the name of the cause; a cause
without values is its bare name. -/
def toJson (error : Error) : Json :=
  match error with
  | noDatabaseSelected => .text error.label
  | connectionFailed reason | invalidConfiguration reason =>
    tagged (.text reason)
  | unknownDriver name => tagged (.text name)
  | inconsistent cause => tagged (.text cause.reason)
  | queryFailed query reason =>
    tagged (.object [("query", .text query), ("message", .text reason)])
  | unclassifiedColumn column scanType typeName =>
    tagged (.object
      [("column", .text column),
        ("scan_type", .text scanType),
        ("database_type_name", .text typeName)])
  | indexNotFound table index =>
    tagged (.object [("table", .text table), ("index", .text index)])
  | foreignKeyNotFound table name =>
    tagged (.object [("table", .text table), ("name", .text name)])
where
  tagged (content : Json) : Json :=
    .object [(error.label, content)]

end Error
end Catalog
end TypedSql
