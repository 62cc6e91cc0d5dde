import Std.Data.TreeMap
import Std.Data.TreeSet
import TypedSql.Json.Parser
import TypedSql.Text.Search

/-!
# Configuration

What a run is told: the driver, the connection string, which tables are
exposed, and the target types.  A configuration is read from JSON, either from
an object, in which every field may be missing, or from a list of the fields in
their order, of which the last ones may be missing.
-/

namespace TypedSql

/-- The configuration of a run. -/
structure Config where
  /-- The name of the driver. -/
  driver : String := "mysql"
  /-- The connection string. -/
  dsn : String := ""
  /-- If there are any, only these tables are exposed. -/
  whitelist : Std.TreeSet String := ∅
  /-- These tables are hidden. -/
  blacklist : Std.TreeSet String := ∅
  /-- Target types by the names of canonical types; if there are none, no
  mapping is wanted. -/
  typeMap : Std.TreeMap String String := ∅

namespace Config

/-- Why a configuration cannot be used. -/
inductive Error where
  | missingDriver
  | missingConnectionString
  | invalidConnectionString (reason : String)
  | ambiguousTableFilter
  | unreadable (reason : String)
  deriving DecidableEq, Repr

/-- The defect in words. -/
def Error.message : Error → String
  | missingDriver => "Driver name is required"
  | missingConnectionString => "Connection string is required"
  | invalidConnectionString reason => s!"Invalid connection string: {reason}"
  | ambiguousTableFilter => "Both whitelist and blacklist are set"
  | unreadable reason => s!"Invalid configuration: {reason}"

/-! ## Use -/

/-- What ends the protocol of a connection string. -/
def protocolEnd : String := "://"

/-- Check a configuration: it names a driver, its connection string names a
protocol, and it has at most one table filter. -/
def validate (config : Config) : Except Error Unit :=
  if config.driver.isEmpty then
    .error .missingDriver
  else if config.dsn.isEmpty then
    .error .missingConnectionString
  else if !Text.contains config.dsn protocolEnd then
    .error (.invalidConnectionString "Missing protocol (e.g., mysql://)")
  else if !config.whitelist.isEmpty && !config.blacklist.isEmpty then
    .error .ambiguousTableFilter
  else
    .ok ()

/-- Whether a table is exposed. -/
def selects (config : Config) (table : String) : Bool :=
  if config.whitelist.isEmpty then
    !config.blacklist.contains table
  else
    config.whitelist.contains table

/-! ## Reading -/

/-- A text field. -/
def readText : Json → Option String
  | .text value => some value
  | _ => none

/-- A set of texts; repeated ones count once. -/
def readSet : Json → Option (Std.TreeSet String)
  | .list items =>
    (items.mapM readText).map fun names =>
      names.foldl (fun set name => set.insert name) ∅
  | _ => none

/-- A named text. -/
def readEntry (field : String × Json) : Option (String × String) :=
  (readText field.2).map fun value => (field.1, value)

/-- Texts by name; of several with one name, the last counts. -/
def readMap : Json → Option (Std.TreeMap String String)
  | .object fields =>
    (fields.mapM readEntry).map fun entries =>
      entries.foldl (fun map entry => map.insert entry.1 entry.2) ∅
  | _ => none

/-- The fields of a configuration in their order. -/
def fieldNames : List String :=
  ["driver", "dsn", "whitelist", "blacklist", "type_map"]

/-- Set the field of a name. -/
def setField (config : Config) (name : String) (value : Json) :
    Option Config :=
  match name with
  | "driver" => (readText value).map ({ config with driver := · })
  | "dsn" => (readText value).map ({ config with dsn := · })
  | "whitelist" => (readSet value).map ({ config with whitelist := · })
  | "blacklist" => (readSet value).map ({ config with blacklist := · })
  | "type_map" => (readMap value).map ({ config with typeMap := · })
  | _ => none

/-- Set fields in turn. -/
def setFields (config : Config) : List (String × Json) → Option Config
  | [] => some config
  | (name, value) :: rest => do
    let config ← config.setField name value
    config.setFields rest

/-- Whether a name occurs more than once. -/
def hasRepeats : List String → Bool
  | [] => false
  | name :: rest => rest.contains name || hasRepeats rest

/-- The configuration that a JSON value describes. -/
def ofJson : Json → Option Config
  | .object fields =>
    if hasRepeats (fields.map (·.1)) then
      none
    else
      setFields {} fields
  | .list items =>
    if items.length ≤ fieldNames.length then
      setFields {} (fieldNames.zip items)
    else
      none
  | _ => none

/-- Read a configuration, which is not checked. -/
def read (text : String) : Except Error Config :=
  match Json.parse text with
  | none => .error (.unreadable "malformed JSON")
  | some value =>
    match ofJson value with
    | none => .error (.unreadable "unexpected fields or values")
    | some config => .ok config

/-- Read a configuration and check it. -/
def parse (text : String) : Except Error Config := do
  let config ← read text
  config.validate
  pure config

/-- The configuration with its filters in ascending order. -/
def toJson (config : Config) : Json :=
  .object
    [("driver", .text config.driver),
      ("dsn", .text config.dsn),
      ("whitelist", .texts config.whitelist.toList),
      ("blacklist", .texts config.blacklist.toList),
      ("type_map", .object (config.typeMap.toList.map fun (name, target) =>
        (name, .text target)))]

end Config
end TypedSql
