import Mathlib.Logic.Relation
import TypedSql.Proofs.Catalog.MySql.Completeness
import TypedSql.Proofs.Catalog.MySql.Questions

/-!
# Isolation of a load

Whatever a scripted connection knows about other databases, or about other
tables than those of the current database, has no part in a load: such answers
may be added in any number without a change of the result or of the round
trips.  The newest entry that fits a query answers it, so every query has to
tell its database and its table apart from all others.
-/

namespace TypedSql
namespace Catalog
namespace MySql

/-! ## Additions that are foreign to a database -/

/-- Parameters that start with another database, or with the database and
something that is none of its tables. -/
inductive ForeignParams (database : String) (tables : List String) :
    List String → Prop where
  | otherDatabase
      {first : String}
      (differs : first ≠ database)
      (rest : List String) :
      ForeignParams database tables (first :: rest)
  | otherTable
      {second : String}
      (absent : second ∉ tables)
      (rest : List String) :
      ForeignParams database tables (database :: second :: rest)

/-- A text that does not ask for the columns of one of some tables. -/
def ForeignText (dialect : Dialect) (tables : List String) (text : String) :
    Prop :=
  ∀ table ∈ tables, Text.trim text ≠ columnsQuery (dialect.quote table)

/-- A script gets one more answer, which is foreign to a database with some
tables. -/
inductive AddsForeign
    (dialect : Dialect)
    (database : String)
    (tables : List String)
    (script : Script) :
    Script → Prop where
  | onQueryWith
      (fragment : String)
      {params : List String}
      (foreign : ForeignParams database tables params)
      (rows : List Row) :
      AddsForeign dialect database tables script
        (script.onQueryWith fragment params rows)
  | onDescribe
      {text : String}
      (foreign : ForeignText dialect tables text)
      (columns : List RawColumn) :
      AddsForeign dialect database tables script
        (script.onDescribe text columns)
  | failDescribe
      {text : String}
      (foreign : ForeignText dialect tables text)
      (reason : String) :
      AddsForeign dialect database tables script
        (script.failDescribe text reason)

section Additions

variable
  {dialect : Dialect}
  {database : String}
  {tables : List String}
  {script other : Script}
  {question : Question}

/-- No question of a load has foreign parameters. -/
theorem ForeignParams.ne_of_asked
    {query : String}
    {params wanted : List String}
    (foreign : ForeignParams database tables params)
    (asked : LoadQuestion dialect database tables (.fetch query wanted)) :
    params ≠ wanted := by
  rintro rfl
  cases foreign with
  | otherDatabase differs =>
      cases asked with
      | tableNames => exact differs rfl
      | ofTable member asked =>
          cases asked with
          | catalog => exact differs rfl
  | otherTable absent =>
      cases asked with
      | ofTable member asked =>
          cases asked with
          | catalog => exact absent member

/-- No question of a load has a foreign text. -/
theorem ForeignText.ne_of_asked
    {text query : String}
    (foreign : ForeignText dialect tables text)
    (asked : LoadQuestion dialect database tables (.describe query)) :
    Text.trim text ≠ Text.trim query := by
  cases asked with
  | ofTable member asked =>
      cases asked with
      | columns =>
          rw [trim_columnsQuery_quote]
          exact foreign _ member

/-- One foreign answer changes no answer to a question of the load. -/
theorem AddsForeign.agreesOn
    (adds : AddsForeign dialect database tables script other)
    (asked : LoadQuestion dialect database tables question) :
    script.AgreesOn other question := by
  cases adds with
  | onQueryWith fragment foreign rows =>
      cases question with
      | fetch query wanted =>
          apply Script.fetch_cons_of_not_answers
          simp [RowScript.answers, foreign.ne_of_asked asked]
      | describe query => rfl
  | onDescribe foreign columns =>
      cases question with
      | fetch query wanted => rfl
      | describe query =>
          exact Script.describe_cons_of_ne (foreign.ne_of_asked asked)
  | failDescribe foreign reason =>
      cases question with
      | fetch query wanted => rfl
      | describe query =>
          exact Script.describe_cons_of_ne (foreign.ne_of_asked asked)

/-- Neither do any number of them. -/
theorem agreesOn_of_extension
    (extension :
      Relation.ReflTransGen (AddsForeign dialect database tables) script other)
    (asked : LoadQuestion dialect database tables question) :
    script.AgreesOn other question := by
  induction extension with
  | refl => exact .refl script question
  | tail _ adds inductionHypothesis =>
      exact inductionHypothesis.trans (adds.agreesOn asked)

/-- Preparing answers puts no query. -/
theorem issued_eq_of_extension
    (extension :
      Relation.ReflTransGen (AddsForeign dialect database tables) script
        other) :
    other.issued = script.issued := by
  induction extension with
  | refl => rfl
  | tail _ adds inductionHypothesis =>
      rw [← inductionHypothesis]
      cases adds <;> rfl

end Additions

/-! ## Loads -/

/-- If a script selects a database, it is this one, and if it lists tables,
they are these. -/
structure Tells
    (dialect : Dialect)
    (script : Script)
    (database : String)
    (tables : List String) :
    Prop where
  selected (name : String) (found : script.result currentDatabase = .ok name) :
    name = database
  listed
      (names : List String)
      (found : script.result (driver dialect).tableNames = .ok names) :
    names = tables

/-- Answers that are foreign to the current database and its tables change
neither the result of a load nor its round trips. -/
theorem loadSchema_isolated
    {dialect : Dialect}
    {script extended : Script}
    {database : String}
    {tables : List String}
    (tells : Tells dialect script database tables)
    (extension :
      Relation.ReflTransGen (AddsForeign dialect database tables) script
        extended) :
    ((loadSchema (driver dialect)).run.run Script.connection extended).1 =
        ((loadSchema (driver dialect)).run.run Script.connection script).1 ∧
      (loadSchema (driver dialect)).run.exchanges Script.connection extended =
        (loadSchema (driver dialect)).run.exchanges Script.connection script ∧
      ((loadSchema (driver dialect)).run.run Script.connection
          extended).2.issued =
        ((loadSchema (driver dialect)).run.run Script.connection
          script).2.issued := by
  have asks := asksOnly_loadSchema tells.selected tells.listed
  have agree :
      ∀ question, LoadQuestion dialect database tables question →
        script.AgreesOn extended question :=
    fun _ => agreesOn_of_extension extension
  rw [Script.run_connection, Script.run_connection]
  refine ⟨Script.value_eq_of_agree agree asks,
    Script.exchanges_eq_of_agree agree asks, ?_⟩
  change extended.issued ++ _ = script.issued ++ _
  rw [issued_eq_of_extension extension, Script.queries_eq_of_agree agree asks]

/-! ## Secrets beside the standard schema -/

/-- The standard script with answers for another database and for a table that
is not listed. -/
def withSecrets : Script :=
  Fixture.addStandardSchema {}
    |>.onQueryWith "SELECT" ["vault", "users"] [Row.ofTexts ["secrets"]]
    |>.onQueryWith "INFORMATION_SCHEMA" ["app", "secrets"]
        [Row.ofTexts ["PRIMARY"]]
    |>.onDescribe "SELECT * FROM \x60secrets\x60" []
    |>.failDescribe "SELECT * FROM users" "not quoted"

/-- The standard script tells its database and its tables. -/
theorem tells_standard :
    Tells .mySql (Fixture.addStandardSchema {}) "app" ["users", "orders"] where
  selected := standard.eq_database_of_selected .mySql {}
  listed _ found :=
    (Except.ok.inj ((standard.result_tableNames .mySql {}).symm.trans found)).symm

theorem extension_withSecrets :
    Relation.ReflTransGen (AddsForeign .mySql "app" ["users", "orders"])
      (Fixture.addStandardSchema {}) withSecrets :=
  .tail (.tail (.tail (.tail .refl
    (.onQueryWith _ (.otherDatabase (by decide) _) _))
    (.onQueryWith _ (.otherTable (by decide) _) _))
    (.onDescribe (by unfold ForeignText; decide) _))
    (.failDescribe (by unfold ForeignText; decide) _)

/-- Answers about another database, about a table that is not listed, and to a
query without quotes do not show up in what is loaded. -/
theorem loadSchema_withSecrets :
    Tells .mySql (Fixture.addStandardSchema {}) "app" ["users", "orders"] ∧
      Relation.ReflTransGen (AddsForeign .mySql "app" ["users", "orders"])
        (Fixture.addStandardSchema {}) withSecrets ∧
      ((loadSchema (driver .mySql)).run.run Script.connection withSecrets).1 =
        ((loadSchema (driver .mySql)).run.run Script.connection
          (Fixture.addStandardSchema {})).1 ∧
      (loadSchema (driver .mySql)).run.exchanges Script.connection withSecrets =
        (loadSchema (driver .mySql)).run.exchanges Script.connection
          (Fixture.addStandardSchema {}) ∧
      ((loadSchema (driver .mySql)).run.run Script.connection
          withSecrets).2.issued =
        ((loadSchema (driver .mySql)).run.run Script.connection
          (Fixture.addStandardSchema {})).2.issued :=
  ⟨tells_standard, extension_withSecrets,
    loadSchema_isolated tells_standard extension_withSecrets⟩

end MySql
end Catalog
end TypedSql
