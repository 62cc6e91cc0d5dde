import Std.Data.TreeMap
import TypedSql.Catalog.MySql.InformationSchema

/-!
# Driver registry

Drivers by name.  A driver is always registered under its own name, and
registering another one of that name takes its place.
-/

namespace TypedSql
namespace Catalog

/-- The drivers that a run may choose from. -/
structure DriverRegistry where
  drivers : Std.TreeMap String Driver

namespace DriverRegistry

/-- No drivers. -/
def empty : DriverRegistry :=
  ⟨∅⟩

/-- Register a driver under its own name. -/
def register (registry : DriverRegistry) (driver : Driver) : DriverRegistry :=
  ⟨registry.drivers.insert driver.name driver⟩

/-- The drivers of the MySQL family. -/
def builtin : DriverRegistry :=
  [Dialect.mySql, .mariaDb, .tiDb].foldl
    (fun registry dialect => registry.register (MySql.driver dialect)) empty

/-- The driver of a name. -/
def get (registry : DriverRegistry) (name : String) : Except Error Driver :=
  match registry.drivers[name]? with
  | some driver => .ok driver
  | none => .error (.unknownDriver name)

/-- The registered names in ascending order. -/
def names (registry : DriverRegistry) : List String :=
  registry.drivers.keys

/-- The registered names, as they are shown in reports. -/
def summary (registry : DriverRegistry) : String :=
  "DriverRegistry \x7b drivers: " ++ Text.quotedList registry.names ++ " \x7d"

end DriverRegistry
end Catalog
end TypedSql
