import TypedSql.Catalog.DriverRegistry
import TypedSql.Catalog.SchemaLoad
import TypedSql.Config
import TypedSql.Statement.Compilation
import TypedSql.TypeMap

/-!
# Generator runs

A run looks up the driver, checks the type map, loads the schema, and then
configures and compiles the documents one after the other.  The first error
ends it.  The table filters of the configuration only decide which tables are
part of the output.
-/

namespace TypedSql

open Catalog (Dialogue Driver DriverRegistry)

namespace Generator

/-- A document of statements. -/
structure Document where
  /-- The name by which errors and the output refer to the document. -/
  name : String
  text : String
  deriving DecidableEq, Repr

/-- Why a run failed. -/
inductive Error where
  | config (error : Config.Error)
  | catalog (error : Catalog.Error)
  | typeMap (error : TypeMap.Error)
  | document (name : String) (error : Template.Error)
  | statement (failure : Statement.Failure)
  deriving DecidableEq, Repr

namespace Error

/-- The failure in words. -/
def message : Error → String
  | config error => error.message
  | catalog error => error.message
  | typeMap error => error.message
  | document name error => s!"{name}: " ++ error.message
  | statement failure => failure.message

/-- The statement that failed, if it was one. -/
def statementName? : Error → Option String
  | statement failure => some failure.statement
  | _ => none

/-- The query that failed, if there was one. -/
def query? : Error → Option String
  | statement failure => failure.query
  | _ => none

end Error

/-- The compiled statements of a document, in order. -/
structure CompiledDocument where
  name : String
  statements : List Statement.Compiled

/-- What a run produces. -/
structure Output where
  /-- The name of the driver. -/
  driver : String
  /-- The exposed tables, in the order in which they were loaded. -/
  tables : List Table
  /-- The checked type map, if one was wanted. -/
  typeMap : Option TypeMap
  /-- The compiled documents, in the order in which they were given. -/
  documents : List CompiledDocument

/-- A step of a run. -/
abbrev Step (α : Type) : Type :=
  ExceptT Error Dialogue α

/-- A step whose result is already known. -/
def Step.ofExcept {α : Type} (result : Except Error α) : Step α :=
  .mk (.done result)

/-- Check the type map of a configuration, if it has one. -/
def checkTypeMap (config : Config) (driver : Driver) :
    Except Error (Option TypeMap) :=
  if config.typeMap.isEmpty then
    .ok none
  else
    match TypeMap.build config.typeMap driver.dataTypes with
    | .ok map => .ok (some map)
    | .error error => .error (.typeMap error)

/-- The results of all statements, or the first failure among them. -/
def collect :
    List (Except Statement.Failure Statement.Compiled) →
    Except Error (List Statement.Compiled)
  | [] => .ok []
  | .ok compiled :: rest => (compiled :: ·) <$> collect rest
  | .error failure :: _ => .error (.statement failure)

/-- Configure the statements of a document. -/
def buildChains
    (directives : Directive.Registry)
    (driver : Driver)
    (schema : Schema)
    (document : Document) :
    Except Error (List Chain) :=
  (Chain.buildDocument directives schema driver.dialect document.text).mapError
    (Error.document document.name)

/-- Configure and compile a document. -/
def compileDocument
    (directives : Directive.Registry)
    (driver : Driver)
    (schema : Schema)
    (document : Document) :
    Step CompiledDocument := do
  let chains ←
    Step.ofExcept (buildChains directives driver schema document)
  let results ← ExceptT.lift (Statement.compileAll driver document.name chains)
  let statements ← Step.ofExcept (collect results)
  pure { name := document.name, statements }

/-- Load the schema of the current database. -/
def loadSchema (driver : Driver) : Step Schema :=
  ExceptT.adapt Error.catalog (Catalog.loadSchema driver)

end Generator

/-- A checked configuration and the drivers and directives that a run may
use. -/
structure Generator where
  config : Config
  drivers : DriverRegistry
  directives : Directive.Registry

namespace Generator

/-- Make a generator for a configuration, which is checked. -/
def make
    (config : Config)
    (drivers : DriverRegistry := .builtin)
    (directives : Directive.Registry := .builtin) :
    Except Error Generator :=
  match config.validate with
  | .ok () => .ok { config, drivers, directives }
  | .error error => .error (.config error)

/-- The driver that the configuration names. -/
def driver (generator : Generator) : Except Error Driver :=
  match generator.drivers.get generator.config.driver with
  | .ok driver => .ok driver
  | .error error => .error (.catalog error)

/-- Run the generator over some documents. -/
def run (generator : Generator) (documents : List Document) : Step Output := do
  let driver ← Step.ofExcept generator.driver
  let typeMap ← Step.ofExcept (checkTypeMap generator.config driver)
  let schema ← loadSchema driver
  let compiled ←
    documents.mapM (compileDocument generator.directives driver schema)
  let exposed := schema.filter fun table => generator.config.selects table.name
  pure
    { driver := driver.name
      tables := exposed.tables
      typeMap
      documents := compiled }

/-! ## JSON form -/

/-- A compiled document with its statements. -/
def CompiledDocument.toJson (document : CompiledDocument) : Json :=
  .object
    [("name", .text document.name),
      ("statements",
        .list (document.statements.map Statement.Compiled.toJson))]

/-- The output of a run. -/
def Output.toJson (output : Output) : Json :=
  .object
    [("driver", .text output.driver),
      ("tables", .list (output.tables.map Table.toJson)),
      ("type_map", .optional TypeMap.toJson output.typeMap),
      ("documents", .list (output.documents.map CompiledDocument.toJson))]

end Generator
end TypedSql
