import TypedSql.Text.Search

/-!
# Arguments of the program

The arguments are read from left to right.  Each option may be given once, its
value either attached or as the next argument; everything else is the path of
a template.  Two hyphens end the options.  The first request for help or for
the version is followed at once, whatever comes after it.
-/

namespace TypedSql
namespace CommandLine

/-- The options that have a value. -/
inductive Setting where
  | config
  | dsn
  | output
  | verbosity
  deriving DecidableEq, Repr

namespace Setting

/-- The name of a setting, as it is written behind two hyphens. -/
def name : Setting → String
  | config => "config"
  | dsn => "dsn"
  | output => "output"
  | verbosity => "verbosity"

/-- All settings. -/
def all : List Setting :=
  [config, dsn, output, verbosity]

/-- The setting of a name. -/
def ofName? (name : String) : Option Setting :=
  all.find? (·.name == name)

/-- The setting of a letter, as it is written behind one hyphen. -/
def ofLetter? : Char → Option Setting
  | 'c' => some config
  | 'o' => some output
  | _ => none

/-- Whether the value is a path, which cannot be empty. -/
def isPath : Setting → Bool
  | config | output => true
  | dsn | verbosity => false

end Setting

/-- Why the arguments do not make sense. -/
inductive UsageError where
  | unknownOption (text : String)
  | missingValue (setting : Setting)
  | repeatedOption (setting : Setting)
  | unexpectedValue (option : String)
  | emptyPath
  deriving DecidableEq, Repr

/-- The defect in words. -/
def UsageError.message : UsageError → String
  | unknownOption text => s!"unexpected argument '{text}'"
  | missingValue setting => s!"a value is required for '--{setting.name}'"
  | repeatedOption setting =>
    s!"'--{setting.name}' cannot be used multiple times"
  | unexpectedValue option => s!"no value is expected for '--{option}'"
  | emptyPath => "a path cannot be empty"

/-- What the arguments set. -/
structure Invocation where
  config : Option String := none
  /-- Takes the place of the configured connection string. -/
  dsn : Option String := none
  /-- Where the output is written, if not to the standard output. -/
  output : Option String := none
  verbosity : Option String := none
  /-- The paths of the statement documents. -/
  templates : List String := []
  deriving DecidableEq, Repr

namespace Invocation

/-- The value of a setting, if it was given. -/
def value? (invocation : Invocation) : Setting → Option String
  | .config => invocation.config
  | .dsn => invocation.dsn
  | .output => invocation.output
  | .verbosity => invocation.verbosity

/-- The invocation with a value of a setting. -/
def set (invocation : Invocation) (setting : Setting) (value : String) :
    Invocation :=
  match setting with
  | .config => { invocation with config := some value }
  | .dsn => { invocation with dsn := some value }
  | .output => { invocation with output := some value }
  | .verbosity => { invocation with verbosity := some value }

/-- Give a setting its value. -/
def assign (invocation : Invocation) (setting : Setting) (value : String) :
    Except UsageError Invocation :=
  if (invocation.value? setting).isSome then
    .error (.repeatedOption setting)
  else if setting.isPath && value.isEmpty then
    .error .emptyPath
  else
    .ok (invocation.set setting value)

/-- Add the path of a template. -/
def addTemplate (invocation : Invocation) (path : String) :
    Except UsageError Invocation :=
  if path.isEmpty then
    .error .emptyPath
  else
    .ok { invocation with templates := invocation.templates ++ [path] }

end Invocation

/-- What the program is asked to do. -/
inductive Request where
  | run (invocation : Invocation)
  | help
  | version
  deriving DecidableEq, Repr

/-- The meaning of one argument. -/
inductive Word where
  | plain (text : String)
  | option (setting : Setting) (attached : Option String)
  | help
  | version
  | endOfOptions
  deriving DecidableEq, Repr

namespace Word

/-- The text behind two hyphens, split at the first equals sign. -/
def splitValue (text : List Char) : String × Option String :=
  match Text.cutAt ['='] text with
  | some (name, value) => (String.ofList name, some (String.ofList value))
  | none => (String.ofList text, none)

/-- Read the name of an option and the value that is attached to it. -/
def ofName (name : String) (attached : Option String) :
    Except UsageError Word :=
  match Setting.ofName? name with
  | some setting => .ok (option setting attached)
  | none =>
    match name, attached with
    | "help", none => .ok help
    | "version", none => .ok version
    | "help", some _ | "version", some _ => .error (.unexpectedValue name)
    | _, _ => .error (.unknownOption ("--" ++ name))

/-- The value that stands directly behind the letter of an option; an equals
sign in front of it does not belong to it. -/
def attachedValue : List Char → Option String
  | [] => none
  | '=' :: value => some (String.ofList value)
  | value => some (String.ofList value)

/-- Read the letter of an option and what stands behind it. -/
def ofLetter (letter : Char) (rest : List Char) : Except UsageError Word :=
  match Setting.ofLetter? letter with
  | some setting => .ok (option setting (attachedValue rest))
  | none =>
    match letter with
    | 'h' => .ok help
    | 'V' => .ok version
    | _ => .error (.unknownOption (String.ofList ['-', letter]))

/-- Read one argument.  A single hyphen is plain text. -/
def ofText (text : String) : Except UsageError Word :=
  match text.toList with
  | ['-', '-'] => .ok endOfOptions
  | '-' :: '-' :: rest =>
    let (name, attached) := splitValue rest
    ofName name attached
  | '-' :: letter :: rest => ofLetter letter rest
  | _ => .ok (plain text)

end Word

/-- Read arguments, after some that are already found. -/
def readArguments (found : Invocation) :
    List String → Except UsageError Request
  | [] => .ok (.run found)
  | text :: rest =>
    match Word.ofText text with
    | .error error => .error error
    | .ok .help => .ok .help
    | .ok .version => .ok .version
    | .ok .endOfOptions =>
      Request.run <$> rest.foldlM Invocation.addTemplate found
    | .ok (.plain path) => do
      let found ← found.addTemplate path
      readArguments found rest
    | .ok (.option setting (some value)) => do
      let found ← found.assign setting value
      readArguments found rest
    | .ok (.option setting none) =>
      match rest with
      | [] => .error (.missingValue setting)
      | next :: rest =>
        match Word.ofText next with
        | .ok (.plain value) => do
          let found ← found.assign setting value
          readArguments found rest
        | _ => .error (.missingValue setting)

/-- Read the arguments of the program. -/
def parse (arguments : List String) : Except UsageError Request :=
  readArguments {} arguments

end CommandLine
end TypedSql
