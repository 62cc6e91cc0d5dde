import TypedSql.Markup.Error
import TypedSql.Markup.Position
import TypedSql.Text.Quoted

/-!
# Template errors

What can be wrong with a document of statements, with a directive in it, or
with what a directive makes of a query.
-/

namespace TypedSql
namespace Template

open Markup (Position)

/-- Why a template does not have the right form. -/
inductive Malformation where
  /-- The document is not well-formed markup. -/
  | markup (cause : Markup.Error)
  /-- Text that belongs to no statement. -/
  | strayText (position : Position)
  /-- An element where only text makes sense. -/
  | textExpected (tag : String)
  /-- Text where a directive needs an element. -/
  | elementExpected (directive statement : String)
  | other (reason : String)
  deriving DecidableEq, Repr

/-- A position, as it is written in messages. -/
def positionText (position : Position) : String :=
  s!"{position.line}:{position.column}"

/-- The malformation in words. -/
def Malformation.reason : Malformation → String
  | markup cause => cause.message
  | strayText position =>
    "unexpected text outside statements at " ++ positionText position
  | textExpected tag => s!"literal text expected, found <{tag}>"
  | elementExpected directive statement =>
    s!"<{directive}> directive of statement '{statement}' built from text"
  | other reason => reason

/-- A failure of a template. -/
inductive Error where
  | malformed (cause : Malformation)
  | unknownDirective (tag statement : String) (position : Position)
  | missingAttribute (directive name statement : String)
  | invalidAttribute (directive name value reason : String)
  | missingContent (directive statement : String)
  | unknownTable (table statement : String)
  | duplicateArgument (name statement : String)
  | missingStatementName (position : Position)
  | duplicateStatementName (name : String) (position : Position)
  deriving DecidableEq, Repr

/-- The failure in words. -/
def Error.message : Error → String
  | malformed cause => "Malformed template: " ++ cause.reason
  | unknownDirective tag statement position =>
    s!"Unknown directive <{tag}> in statement '{statement}' at " ++
      positionText position
  | missingAttribute directive name statement =>
    s!"Missing '{name}' attribute in <{directive}> directive of " ++
      s!"statement '{statement}'"
  | invalidAttribute directive name value reason =>
    s!"Invalid '{name}' attribute " ++ Text.quoted value ++
      s!" in <{directive}> directive: {reason}"
  | missingContent directive statement =>
    s!"Missing content in <{directive}> directive of statement '{statement}'"
  | unknownTable table statement =>
    s!"Unknown table '{table}' in statement '{statement}'"
  | duplicateArgument name statement =>
    s!"Duplicate argument '{name}' in statement '{statement}'"
  | missingStatementName position =>
    "Missing statement name at " ++ positionText position
  | duplicateStatementName name position =>
    s!"Duplicate statement name '{name}' at " ++ positionText position

end Template
end TypedSql
