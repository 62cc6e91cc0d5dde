import TypedSql.Catalog.Dialogue
import TypedSql.Text.Search

/-!
# Scripted connections

A connection whose answers are written down in advance, for trying out
dialogues without a database.  Row queries are matched by a fragment of their
text and, if wanted, by their exact parameters; descriptions by the query text
without its outer blanks.  Of several matching entries the newest answers, and
every query is recorded.
-/

namespace TypedSql
namespace Catalog

/-- A prepared answer to row queries. -/
structure RowScript where
  /-- Occurs in the queries that are answered. -/
  fragment : String
  /-- The parameters that a query needs to have, if they matter. -/
  params : Option (List String) := none
  answer : Answer (List Row)

/-- Whether an entry answers a query with parameters. -/
def RowScript.answers
    (script : RowScript)
    (query : String)
    (params : List String) : Bool :=
  Text.contains query script.fragment &&
    script.params.all (· == params)

/-- A prepared description of a query. -/
structure DescribeScript where
  /-- The query text without outer blanks. -/
  query : String
  answer : Answer (List RawColumn)

/-- The prepared answers of a connection, newest first, and the queries that
it was asked so far, oldest first. -/
structure Script where
  rows : List RowScript := []
  descriptions : List DescribeScript := []
  issued : List String := []
  /-- The database that was last selected, if any. -/
  database : Option String := none

namespace Script

/-! ## Preparing answers -/

/-- Answer every query in which a fragment occurs. -/
def onQuery (script : Script) (fragment : String) (rows : List Row) : Script :=
  { script with rows := { fragment, answer := .ok rows } :: script.rows }

/-- Answer a query in which a fragment occurs and that has just these
parameters. -/
def onQueryWith
    (script : Script)
    (fragment : String)
    (params : List String)
    (rows : List Row) :
    Script :=
  { script with
    rows :=
      { fragment, params := some params, answer := .ok rows } :: script.rows }

/-- Fail every query in which a fragment occurs. -/
def failQuery (script : Script) (fragment reason : String) : Script :=
  { script with
    rows :=
      { fragment, answer := .error (.queryFailed fragment reason) } ::
        script.rows }

/-- Describe the result columns of a query. -/
def onDescribe
    (script : Script)
    (query : String)
    (columns : List RawColumn) :
    Script :=
  { script with
    descriptions :=
      { query := Text.trim query, answer := .ok columns } ::
        script.descriptions }

/-- Fail to describe a query. -/
def failDescribe (script : Script) (query reason : String) : Script :=
  { script with
    descriptions :=
      { query := Text.trim query
        answer := .error (.queryFailed query reason) } ::
        script.descriptions }

/-- Occurs in the question for the current database. -/
def currentDatabaseMark : String :=
  "SELECT DATABASE()"

/-- Select a current database. -/
def useDatabase (script : Script) (name : String) : Script :=
  { script.onQuery currentDatabaseMark [Row.ofTexts [name]] with
    database := some name }

/-! ## Answering -/

/-- The answer to a row query. -/
def fetch
    (script : Script)
    (query : String)
    (params : List String) :
    Answer (List Row) :=
  match script.rows.find? (·.answers query params) with
  | some entry => entry.answer
  | none =>
    .error (.queryFailed query
      ("no scripted rows for params " ++ Text.quotedList params))

/-- The answer to the description of a query. -/
def describe (script : Script) (query : String) : Answer (List RawColumn) :=
  match script.descriptions.find? (·.query == Text.trim query) with
  | some entry => entry.answer
  | none => .error (.queryFailed query "no scripted describe")

/-- The script after one more query. -/
def record (script : Script) (query : String) : Script :=
  { script with issued := script.issued ++ [query] }

/-- The connection that answers by the script and records every query. -/
def connection : Connection Script where
  fetch query params script := (script.fetch query params, script.record query)
  describe query script := (script.describe query, script.record query)

/-- The number of recorded queries in which a fragment occurs. -/
def countIssued (script : Script) (fragment : String) : Nat :=
  script.issued.countP (Text.contains · fragment)

end Script
end Catalog
end TypedSql
