import TypedSql.Catalog.Error
import TypedSql.Template.Error

/-!
# Statement failures

Why one statement of a document could not be compiled.  The probe is part of
the failure as soon as it was assembled and put to the database.
-/

namespace TypedSql
namespace Statement

/-- What went wrong with a statement. -/
inductive Cause where
  /-- A directive could not contribute to a query or adjust its result. -/
  | template (error : Template.Error)
  /-- The probe could not be described or classified. -/
  | catalog (error : Catalog.Error)
  /-- The directives left different numbers of names and types. -/
  | resultShape (names types : Nat)
  deriving DecidableEq, Repr

/-- The cause in words. -/
def Cause.message : Cause → String
  | template error => error.message
  | catalog error => error.message
  | resultShape names types =>
    s!"result has {names} names but {types} types after processing"

/-- A statement that could not be compiled. -/
structure Failure where
  document : String
  statement : String
  /-- The probe, if it was put to the database. -/
  query : Option String
  cause : Cause
  deriving DecidableEq, Repr

/-- The failure in words. -/
def Failure.message (failure : Failure) : String :=
  s!"{failure.document}: statement '{failure.statement}': " ++
    failure.cause.message ++
    match failure.query with
    | some query => s!"\n  Query: {query}"
    | none => ""

end Statement
end TypedSql
