import TypedSql.Dialect
import TypedSql.Json.Basic
import TypedSql.Schema
import TypedSql.Template.Error
import TypedSql.Template.Node

/-!
# Directives

A directive is one piece of a query.  It contributes a text to the final query
and a possibly different text to the probe, which is the query that is put to
the database in order to learn the result columns, and it may adjust what was
learned.

A kind of directive knows how to configure a directive from a template node.
Configuration may declare arguments of the statement.  When it fails, what it
did before the failure stays.
-/

namespace TypedSql

/-- An argument of a statement. -/
structure Argument where
  /-- Unique within the statement. -/
  name : String
  /-- The declared type, word for word. -/
  typeHint : Option String
  /-- The value that stands for the argument in the probe. -/
  sample : String
  deriving DecidableEq, Repr

/-- An argument with its type and sample. -/
def Argument.toJson (argument : Argument) : Json :=
  .object
    [("name", .text argument.name),
      ("type_hint", .optional .text argument.typeHint),
      ("sample", .text argument.sample)]

/-- The type of a result column. -/
structure ResultType where
  dataType : CanonicalType
  nullable : Bool
  deriving DecidableEq, Repr

/-- The names and the types of the result columns, which directives may adjust
independently of each other. -/
structure ResultShape where
  names : List String
  types : List ResultType
  deriving DecidableEq, Repr

/-- The names and types of classified columns. -/
def ResultShape.ofColumns (columns : List Column) : ResultShape where
  names := columns.map (·.name)
  types := columns.map fun column => ⟨column.dataType, column.nullable⟩

/-- An adjustment of a result shape, which may fail halfway. -/
abbrev Adjustment : Type :=
  ExceptT Template.Error (StateM ResultShape) Unit

/-- A configured piece of a query. -/
structure Directive where
  /-- The piece of the final query. -/
  final : Except Template.Error String
  /-- The piece of the probe. -/
  probe : Except Template.Error String
  /-- What is made of the discovered result columns. -/
  adjust : Adjustment := pure ()

namespace Directive

/-- The directive that contributes two fixed texts and adjusts nothing. -/
def ofTexts (final probe : String) : Directive where
  final := .ok final
  probe := .ok probe

@[simp] theorem final_ofTexts (final probe : String) :
    (ofTexts final probe).final = .ok final :=
  rfl

@[simp] theorem probe_ofTexts (final probe : String) :
    (ofTexts final probe).probe = .ok probe :=
  rfl

/-- What a directive reads while it is configured. -/
structure Scope where
  /-- The name of the statement. -/
  statement : String
  schema : Schema
  dialect : Dialect

/-- A directive under configuration, and the arguments that the statement has
so far, in the order of their declaration. -/
structure Draft where
  directive : Directive
  arguments : List Argument

/-- A step of a configuration. -/
abbrev Configuration (α : Type) : Type :=
  ExceptT Template.Error (StateM Draft) α

/-- Replace the directive under configuration. -/
def become (directive : Directive) : Configuration Unit :=
  modify fun draft => { draft with directive }

/-- Declare an argument of the statement, whose name must not be taken. -/
def declare (scope : Scope) (argument : Argument) : Configuration Unit := do
  let draft ← get
  if draft.arguments.any (·.name == argument.name) then
    throw (.duplicateArgument argument.name scope.statement)
  else
    set { draft with arguments := draft.arguments ++ [argument] }

/-- A kind of directive: what one is before its configuration, and how it is
configured. -/
structure Kind where
  fresh : Directive
  configure : Scope → Template.Node → Configuration Unit

end Directive
end TypedSql
