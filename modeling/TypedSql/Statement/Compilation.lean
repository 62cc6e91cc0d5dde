import TypedSql.Catalog.Driver
import TypedSql.Statement.Chain
import TypedSql.Statement.Failure
import TypedSql.Statement.Kind

/-!
# Compiling statements

A query is compiled in four steps: the final text is assembled, then the
probe; the probe is described by the database and its columns are classified;
the directives adjust the columns, in order.  Statements of any other kind
have no result columns, and the database is not asked about them.
-/

namespace TypedSql
namespace Statement

open Catalog (Dialogue Driver)

/-- A compiled statement. -/
structure Compiled where
  /-- The statement that was compiled. -/
  source : Chain
  kind : StatementKind
  /-- The final query. -/
  text : String
  /-- The query that was put to the database, if any. -/
  probe : Option String
  /-- The result columns. -/
  columns : List Column

/-- The columns of a result shape with as many names as types. -/
def columnsOfShape (shape : ResultShape) : List Column :=
  (shape.names.zip shape.types).zipIdx.map fun ((name, type), position) =>
    { name, position, dataType := type.dataType, nullable := type.nullable }

/-- The result columns of a statement, from those of its probe. -/
def resultColumns (chain : Chain) (discovered : List Column) :
    Except Cause (List Column) :=
  match chain.adjust.run.run (ResultShape.ofColumns discovered) with
  | (.error error, _) => .error (.template error)
  | (.ok (), shape) =>
    if shape.names.length = shape.types.length then
      .ok (columnsOfShape shape)
    else
      .error (.resultShape shape.names.length shape.types.length)

/-- Compile one statement of a document. -/
def compile (driver : Driver) (document : String) (chain : Chain) :
    Dialogue (Except Failure Compiled) :=
  let fail (query : Option String) (cause : Cause) :
      Dialogue (Except Failure Compiled) :=
    pure (.error { document, statement := chain.name, query, cause })
  match chain.final with
  | .error error => fail none (.template error)
  | .ok text =>
    let kind := StatementKind.detect text
    if kind = .select then
      match chain.probe with
      | .error error => fail none (.template error)
      | .ok probe => do
        match ← (driver.queryColumns probe).run with
        | .error error => fail (some probe) (.catalog error)
        | .ok discovered =>
          match resultColumns chain discovered with
          | .error cause => fail (some probe) cause
          | .ok columns =>
            pure (.ok
              { source := chain, kind, text, probe := some probe, columns })
    else
      pure (.ok
        { source := chain, kind, text, probe := none, columns := [] })

/-- Compile all statements of a document, each by itself: the failure of one
does not keep the others from being compiled. -/
def compileAll (driver : Driver) (document : String) (chains : List Chain) :
    Dialogue (List (Except Failure Compiled)) :=
  chains.mapM (compile driver document)

/-- A compiled statement with its declared identity. -/
def Compiled.toJson (compiled : Compiled) : Json :=
  .object
    [("statement", .object
        [("name", .text compiled.source.name),
          ("hints", .object
            (compiled.source.hints.toList.map fun (name, value) =>
              (name, .text value))),
          ("args", .list (compiled.source.arguments.map Argument.toJson))]),
      ("kind", .text compiled.kind.name),
      ("text", .text compiled.text),
      ("probe", .optional .text compiled.probe),
      ("columns", .list (compiled.columns.map Column.toJson))]

end Statement
end TypedSql
