import TypedSql.Directive.Registry
import TypedSql.Template.Document

/-!
# Directive chains

A statement whose directives are configured, in the order of its nodes.  The
chain assembles the final query and the probe, and lets every directive adjust
the result columns in turn.
-/

namespace TypedSql

open Template (Node)

/-- A statement with its configured directives. -/
structure Chain where
  name : String
  hints : Template.Attributes
  /-- Where the statement begins in its document. -/
  position : Markup.Position
  directives : List Directive
  /-- The declared arguments in document order. -/
  arguments : List Argument

namespace Chain

/-- The kind of directive that a node stands for. -/
def kindOf (registry : Directive.Registry) (statement : String) :
    Node → Except Template.Error Directive.Kind
  | .text _ => .ok (Directive.literal "")
  | .element element =>
    match registry.kind? element.tag with
    | some kind => .ok kind
    | none =>
      .error (.unknownDirective element.tag statement element.position)

/-- Configure the directive of one node; gives back the arguments declared
until then. -/
def configureNode
    (registry : Directive.Registry)
    (scope : Directive.Scope)
    (arguments : List Argument)
    (node : Node) :
    Except Template.Error (Directive × List Argument) := do
  let kind ← kindOf registry scope.statement node
  match (kind.configure scope node).run.run ⟨kind.fresh, arguments⟩ with
  | (.ok (), draft) => pure (draft.directive, draft.arguments)
  | (.error error, _) => .error error

/-- Configure the directives of all nodes, in order. -/
def configureNodes
    (registry : Directive.Registry)
    (scope : Directive.Scope)
    (arguments : List Argument) :
    List Node → Except Template.Error (List Directive × List Argument)
  | [] => .ok ([], arguments)
  | node :: rest => do
    let (directive, arguments) ← configureNode registry scope arguments node
    let (directives, arguments) ← configureNodes registry scope arguments rest
    pure (directive :: directives, arguments)

/-- Configure the directives of a statement. -/
def build
    (registry : Directive.Registry)
    (schema : Schema)
    (dialect : Dialect)
    (statement : Template.Statement) :
    Except Template.Error Chain := do
  let (directives, arguments) ←
    configureNodes registry ⟨statement.name, schema, dialect⟩ []
      statement.nodes
  pure
    { name := statement.name
      hints := statement.hints
      position := statement.position
      directives
      arguments }

/-- Read a document and configure all of its statements. -/
def buildDocument
    (registry : Directive.Registry)
    (schema : Schema)
    (dialect : Dialect)
    (text : String) :
    Except Template.Error (List Chain) := do
  let statements ← Template.parseDocument text
  statements.mapM (build registry schema dialect)

/-- The number of directives. -/
def size (chain : Chain) : Nat :=
  chain.directives.length

/-- Whether there are no directives. -/
def isEmpty (chain : Chain) : Bool :=
  chain.directives.isEmpty

/-- The final query. -/
def final (chain : Chain) : Except Template.Error String :=
  String.join <$> chain.directives.mapM (·.final)

/-- The query that is put to the database in order to learn the result
columns. -/
def probe (chain : Chain) : Except Template.Error String :=
  String.join <$> chain.directives.mapM (·.probe)

/-- Let every directive adjust the result columns, in order. -/
def adjust (chain : Chain) : Adjustment :=
  chain.directives.forM (·.adjust)

end Chain
end TypedSql
