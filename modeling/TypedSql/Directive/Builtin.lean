import TypedSql.Directive.Basic
import TypedSql.Text.Blank

/-!
# Built-in directives

* Literal text is the same in the final query and in the probe.
* `replace` puts its content into the probe and its `with` attribute into the
  final query.
* `arg` declares an argument.  The final query gets a placeholder, and the
  probe gets the sample that is the element's content.
* `wc` stands for all columns of a table, qualified by the table's name or by
  an alias.
-/

namespace TypedSql
namespace Directive

open Template (Element Node)

/-- The element that a directive is configured from. -/
def expectElement (scope : Scope) (directive : String) (node : Node) :
    Except Template.Error (Element Node) :=
  match node with
  | .element element => .ok element
  | .text _ => .error (.malformed (.elementExpected directive scope.statement))

/-- The value of an attribute that must be there and not be empty. -/
def requiredAttribute (scope : Scope) (element : Element Node) (name : String) :
    Except Template.Error String :=
  match element.nonemptyAttribute? name with
  | some value => .ok value
  | none => .error (.missingAttribute element.tag name scope.statement)

/-! ## Literal text -/

/-- Literal text; before its configuration it has the given one. -/
def literal (text : String) : Kind where
  fresh := ofTexts text text
  configure _ node :=
    match node with
    | .text content => become (ofTexts content content)
    | .element element => throw (.malformed (.textExpected element.tag))

/-! ## Replacement -/

/-- What a replacement contributes: its `with` attribute and its content. -/
def replacementTexts (scope : Scope) (node : Node) :
    Except Template.Error (String × String) := do
  let element ← expectElement scope "replace" node
  let final ← requiredAttribute scope element "with"
  pure (final, element.leadingText)

/-- Different texts in the final query and in the probe. -/
def replacement : Kind where
  fresh := ofTexts "" ""
  configure scope node := do
    let (final, probe) ← replacementTexts scope node
    become (ofTexts final probe)

/-! ## Arguments -/

/-- What stands for an argument in the final query. -/
def placeholder : String := "?"

/-- The optional type of an argument, which has to name a canonical type. -/
def argumentType (element : Element Node) :
    Except Template.Error (Option String) :=
  match element.nonemptyAttribute? "type" with
  | none => .ok none
  | some hint =>
    match CanonicalType.parse hint with
    | .ok _ => .ok (some hint)
    | .error unknown =>
      .error (.invalidAttribute "arg" "type" hint unknown.message)

/-- The argument that an element declares. -/
def argumentOf (scope : Scope) (node : Node) :
    Except Template.Error Argument := do
  let element ← expectElement scope "arg" node
  let name ← requiredAttribute scope element "name"
  let sample := Text.trim element.leadingText
  if sample.isEmpty then
    .error (.missingContent "arg" scope.statement)
  else
    let typeHint ← argumentType element
    pure { name, typeHint, sample }

/-- A placeholder for an argument.  The sample is set before the argument is
declared, so it stays even if the declaration fails. -/
def argument : Kind where
  fresh := ofTexts placeholder ""
  configure scope node := do
    let found ← argumentOf scope node
    become (ofTexts placeholder found.sample)
    declare scope found

/-! ## Wildcards -/

/-- The columns of a table, each behind a qualifier. -/
def columnList (dialect : Dialect) (qualifier : String) (table : Table) :
    String :=
  ", ".intercalate
    (table.columns.map fun column =>
      dialect.quote qualifier ++ "." ++ dialect.quote column.name)

/-- The column list that an element stands for. -/
def wildcardText (scope : Scope) (node : Node) :
    Except Template.Error String := do
  let element ← expectElement scope "wc" node
  let name ← requiredAttribute scope element "table"
  match scope.schema.table? name with
  | none => .error (.unknownTable name scope.statement)
  | some table =>
    pure
      (columnList scope.dialect
        ((element.nonemptyAttribute? "as").getD name) table)

/-- All columns of a table. -/
def wildcard : Kind where
  fresh := ofTexts "" ""
  configure scope node := do
    let text ← wildcardText scope node
    become (ofTexts text text)

end Directive
end TypedSql
