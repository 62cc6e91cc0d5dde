import TypedSql.Catalog.MySql.ConnectionString
import TypedSql.CommandLine.Arguments
import TypedSql.Generator

/-!
# Preparing a run

Everything that happens before a database is needed: the verbosity is checked,
the configuration is read and checked, and the documents are read.  The files
come from a function that gives the text of a file, or nothing if there is no
text to be read.
-/

namespace TypedSql
namespace CommandLine

/-- Why the program cannot do its job. -/
inductive Failure where
  | invalidVerbosity
  | unreadableConfig (path : String)
  | invalidConfig (path : String)
  | rejected (error : Generator.Error)
  | unreadableTemplate (path : String)
  | connection (error : Catalog.Error)
  deriving DecidableEq, Repr

/-- The failure in words. -/
def Failure.message : Failure → String
  | invalidVerbosity => "invalid --verbosity"
  | unreadableConfig path => s!"failed to read config {path}"
  | invalidConfig path => s!"invalid config {path}"
  | rejected error => error.message
  | unreadableTemplate path => s!"failed to read template {path}"
  | connection error => error.message

/-! ## Verbosity -/

/-- The names of the levels of verbosity. -/
def levelNames : List String :=
  ["off", "error", "warn", "info", "debug", "trace"]

/-- Whether a text is a level, in letters of any case. -/
def isLevel (text : String) : Bool :=
  levelNames.contains text.toLower

/-- Whether a text is one part of a verbosity: a level, the name of a part of
the program, or such a name with a level. -/
def isVerbosityPart (text : String) : Bool :=
  match text.splitOn "=" with
  | [_] => true
  | [_, level] => isLevel level
  | _ => false

/-- Whether a text is a verbosity: parts between commas, which may be empty. -/
def isVerbosity (text : String) : Bool :=
  (text.splitOn ",").all isVerbosityPart

/-! ## Paths -/

/-- The last component of a path, unless it leads upwards. -/
def fileName? (path : String) : Option String :=
  let components :=
    (path.splitOn "/").filter fun component =>
      component != "" && component != "."
  components.getLast?.filter (· != "..")

/-- The name by which a document is known: that of its file. -/
def documentName (path : String) : String :=
  (fileName? path).getD path

/-! ## Preparation -/

/-- A run that only needs a connection. -/
structure Job where
  generator : Generator
  documents : List Generator.Document
  /-- Where the output is written, if not to the standard output. -/
  output : Option String

/-- Where the configuration is read from, unless the arguments say so. -/
def defaultConfigPath : String := "sqlforge.json"

variable {m : Type → Type} [Monad m]

/-- Read the configuration, which is not checked. -/
def loadConfig (load : String → m (Option String)) (path : String) :
    ExceptT Failure m Config := do
  match ← ExceptT.lift (load path) with
  | none => throw (.unreadableConfig path)
  | some text =>
    match Config.read text with
    | .ok config => pure config
    | .error _ => throw (.invalidConfig path)

/-- Read a document. -/
def loadDocument (load : String → m (Option String)) (path : String) :
    ExceptT Failure m Generator.Document := do
  match ← ExceptT.lift (load path) with
  | none => throw (.unreadableTemplate path)
  | some text => pure { name := documentName path, text }

/-- Prepare the run that an invocation asks for. -/
def prepare (load : String → m (Option String)) (invocation : Invocation) :
    ExceptT Failure m Job := do
  if !invocation.verbosity.all isVerbosity then
    throw .invalidVerbosity
  let config ← loadConfig load (invocation.config.getD defaultConfigPath)
  let dsn := invocation.dsn.getD config.dsn
  match Generator.make { config with dsn } with
  | .error error => throw (.rejected error)
  | .ok generator =>
    let documents ← invocation.templates.mapM (loadDocument load)
    pure { generator, documents, output := invocation.output }

/-- Why the connection that a job needs cannot be made.  No database client
belongs to the program, so that a connection string of the right form does not
lead to a connection either. -/
def Job.connectionError (job : Job) : Catalog.Error :=
  match Catalog.MySql.checkConnectionString job.generator.config.dsn with
  | .error error => error
  | .ok () => .connectionFailed "no database client is available"

end CommandLine
end TypedSql
