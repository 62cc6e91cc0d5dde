import TypedSql.Catalog.Error

/-!
# Connection strings of the MySQL family

A connection string has to name the protocol; whether it leads to a database
is found out only by connecting.
-/

namespace TypedSql
namespace Catalog
namespace MySql

/-- The protocol with which a connection string starts. -/
def protocol : String := "mysql://"

/-- How much of a refused connection string is shown. -/
def shownLength : Nat := 10

/-- Check the form of a connection string. -/
def checkConnectionString (text : String) : Except Error Unit :=
  if text.isEmpty then
    .error (.invalidConfiguration "connection_string cannot be empty")
  else if protocol.toList.isPrefixOf text.toList then
    .ok ()
  else
    .error (.invalidConfiguration
      (s!"connection_string must start with '{protocol}', got: " ++
        String.ofList (text.toList.take shownLength)))

end MySql
end Catalog
end TypedSql
