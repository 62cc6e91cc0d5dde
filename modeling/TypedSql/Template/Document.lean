import TypedSql.Template.Error
import TypedSql.Template.Node
import TypedSql.Text.Blank

/-!
# Statement documents

A document is one root element whose child elements are statements.  Every
statement has a name of its own; its other attributes are hints on the shape
of the result, and its content is the template of a query.  Only blank text
may stand between statements.
-/

namespace TypedSql
namespace Template

open Markup (Attribute Position Tree)

/-- A statement as it is written in a document. -/
structure Statement where
  name : String
  /-- All attributes except the name. -/
  hints : Attributes
  nodes : List Node
  /-- Where the start tag begins. -/
  position : Position

/-- The attribute that names a statement. -/
def nameAttribute : String := "name"

/-- The name that attributes give to a statement; a qualified attribute does
not name it. -/
def statementName? (attributes : List Attribute) : Option String :=
  (attributes.find? fun found =>
    found.space.isNone && found.localName == nameAttribute).map (·.value)
    |>.filter (!·.isEmpty)

/-- The hints among the attributes of a statement. -/
def statementHints (attributes : List Attribute) : Attributes :=
  collectAttributes
    (attributes.filter fun found => found.localName != nameAttribute)

namespace Statement

/-- The statements among the children of a root element, in order; `seen`
holds the names that are taken. -/
def ofTrees (seen : List String) : List Tree → Except Error (List Statement)
  | [] => .ok []
  | .comment :: rest => ofTrees seen rest
  | .instruction :: rest => ofTrees seen rest
  | .text content position :: rest =>
    if Text.isBlankText content then
      ofTrees seen rest
    else
      .error (.malformed (.strayText position))
  | .element _ attributes children position :: rest =>
    match statementName? attributes with
    | none => .error (.missingStatementName position)
    | some name =>
      if seen.contains name then
        .error (.duplicateStatementName name position)
      else do
        let statements ← ofTrees (name :: seen) rest
        pure
          ({ name
             hints := statementHints attributes
             nodes := Node.ofTrees children
             position } ::
            statements)

end Statement

/-- The statements of a document tree. -/
def statementsOfTree : Tree → Except Error (List Statement)
  | .element _ _ children _ => Statement.ofTrees [] children
  | _ => .ok []

/-- Read a document as its statements. -/
def parseDocument (text : String) : Except Error (List Statement) :=
  match Markup.parse text with
  | .error cause => .error (.malformed (.markup cause))
  | .ok root => statementsOfTree root

end Template
end TypedSql
