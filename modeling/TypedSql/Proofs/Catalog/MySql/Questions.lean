import TypedSql.Catalog.SchemaLoad
import TypedSql.Proofs.Catalog.Agreement
import TypedSql.Proofs.Catalog.MySql.Answers

/-!
# Questions of a load

A load asks for the current database, for the names of its tables, and about
each of these.  Every question about a table carries the table's name: the
description of its columns has it in the query, and each catalog query has it
as a parameter, next to the name of the database.
-/

namespace TypedSql
namespace Catalog
namespace MySql

variable {α : Type}

/-- The questions about one table of a database. -/
inductive TableQuestion (dialect : Dialect) (database table : String) :
    Question → Prop where
  | columns :
      TableQuestion dialect database table
        (.describe (columnsQuery (dialect.quote table)))
  | catalog
      (topic : Topic)
      (differs : topic ≠ .tableNames)
      (key : List String) :
      TableQuestion dialect database table
        (.fetch topic.query (database :: table :: key))

/-- The questions about a database and some of its tables. -/
inductive LoadQuestion
    (dialect : Dialect)
    (database : String)
    (tables : List String) :
    Question → Prop where
  | currentDatabase :
      LoadQuestion dialect database tables
        (.fetch Topic.currentDatabase.query [])
  | tableNames :
      LoadQuestion dialect database tables
        (.fetch Topic.tableNames.query [database])
  | ofTable
      {table : String}
      (member : table ∈ tables)
      {question : Question}
      (asked : TableQuestion dialect database table question) :
      LoadQuestion dialect database tables question

section Asking

variable
  {script : Script}
  {questions : Question → Prop}
  {database : String}
  (selected : ∀ name,
    script.result currentDatabase = .ok name → name = database)
  (asksDatabase : questions (.fetch Topic.currentDatabase.query []))

include selected asksDatabase

/-- A catalog query asks for the database and then for its topic. -/
theorem asksOnly_ask
    (topic : Topic)
    {params : List String}
    (asks : questions (.fetch topic.query (database :: params)))
    (read : List Row → Except Error α) :
    script.AsksOnly questions (ask topic.query params read).run := by
  have first : script.AsksOnly questions currentDatabase.run :=
    Script.asksOnly_run_bind (Script.asksOnly_fetch asksDatabase) fun _ _ =>
      Script.asksOnly_ofExcept _
  apply Script.asksOnly_run_bind first
  intro name found
  obtain rfl := selected name found
  exact Script.asksOnly_run_bind (Script.asksOnly_fetch asks) fun rows _ =>
    Script.asksOnly_ofExcept (read rows)

variable
  {dialect : Dialect}
  {table : String}
  (aboutTable : ∀ question,
    TableQuestion dialect database table question → questions question)

include aboutTable

/-- All topics but the names of the tables are about one table. -/
theorem asksOnly_ask_table
    (topic : Topic)
    (differs : topic ≠ .tableNames)
    (key : List String)
    (read : List Row → Except Error α) :
    script.AsksOnly questions (ask topic.query (table :: key) read).run :=
  asksOnly_ask selected asksDatabase topic
    (aboutTable _ (.catalog topic differs key)) read

omit selected asksDatabase in
/-- The columns of a table are described, without a look at the catalog. -/
theorem asksOnly_loadColumns :
    script.AsksOnly questions (loadColumns (driver dialect) table).run := by
  have described :
      script.AsksOnly questions ((driver dialect).columns table).run :=
    Script.asksOnly_run_bind
      (Script.asksOnly_describe (aboutTable _ .columns))
      fun _ _ => Script.asksOnly_ofExcept _
  exact Script.asksOnly_run_bind described fun _ _ => trivial

/-- The numbered column is asked for, and resolving its name asks nothing
more. -/
theorem asksOnly_loadAutoIncrement (columns : List Column) :
    script.AsksOnly questions
      (loadAutoIncrement (driver dialect) table columns).run := by
  have asked :
      script.AsksOnly questions ((driver dialect).autoIncrement table).run :=
    Script.asksOnly_run_map
      (asksOnly_ask_table selected asksDatabase aboutTable .autoIncrement
        nofun [autoIncrementPattern] _) _
  apply Script.asksOnly_run_bind asked
  intro name _
  cases name with
  | none => trivial
  | some column =>
      exact Script.asksOnly_run_bind (Script.asksOnly_ofExcept _) fun _ _ =>
        trivial

theorem asksOnly_loadIndex (columns : List Column) (name : String) :
    script.AsksOnly questions
      (loadIndex (driver dialect) table columns name).run :=
  Script.asksOnly_run_bind
    (asksOnly_ask_table selected asksDatabase aboutTable .index nofun [name] _)
    fun _ _ => Script.asksOnly_ofExcept _

theorem asksOnly_loadForeignKey (columns : List Column) (name : String) :
    script.AsksOnly questions
      (loadForeignKey (driver dialect) table columns name).run :=
  Script.asksOnly_run_bind
    (asksOnly_ask_table selected asksDatabase aboutTable .foreignKey nofun
      [name] _)
    fun _ _ => Script.asksOnly_ofExcept _

/-- The load of a table asks about this table only. -/
theorem asksOnly_loadTable :
    script.AsksOnly questions (loadTable (driver dialect) table).run := by
  apply Script.asksOnly_run_bind (asksOnly_loadColumns aboutTable)
  intro columns _
  apply Script.asksOnly_run_bind
    (asksOnly_loadAutoIncrement selected asksDatabase aboutTable columns)
  intro autoIncrement _
  apply Script.asksOnly_run_bind
    (asksOnly_ask_table selected asksDatabase aboutTable .indexNames nofun [] _)
  intro indexNames _
  apply Script.asksOnly_run_bind (Script.asksOnly_run_mapM fun name _ =>
    asksOnly_loadIndex selected asksDatabase aboutTable columns name)
  intro indexes _
  apply Script.asksOnly_run_bind
    (asksOnly_ask_table selected asksDatabase aboutTable .foreignKeyNames nofun
      [] _)
  intro keyNames _
  apply Script.asksOnly_run_bind (Script.asksOnly_run_mapM fun name _ =>
    asksOnly_loadForeignKey selected asksDatabase aboutTable columns name)
  intro keys _
  trivial

end Asking

/-- A load asks about the current database and its tables only. -/
theorem asksOnly_loadSchema
    {dialect : Dialect}
    {script : Script}
    {database : String}
    (selected : ∀ name,
      script.result currentDatabase = .ok name → name = database)
    {tables : List String}
    (listed : ∀ names,
      script.result (driver dialect).tableNames = .ok names →
        names = tables) :
    script.AsksOnly (LoadQuestion dialect database tables)
      (loadSchema (driver dialect)).run := by
  have namesAsked :
      script.AsksOnly (LoadQuestion dialect database tables)
        (driver dialect).tableNames.run :=
    asksOnly_ask selected .currentDatabase Topic.tableNames .tableNames _
  have tablesAsked :
      script.AsksOnly (LoadQuestion dialect database tables)
        (loadTables (driver dialect)).run := by
    apply Script.asksOnly_run_bind namesAsked
    intro names found
    obtain rfl := listed names found
    apply Script.asksOnly_run_mapM
    intro table member
    exact asksOnly_loadTable selected .currentDatabase fun _ asked =>
      .ofTable member asked
  apply Script.asksOnly_run_bind tablesAsked
  intro found _
  exact Script.asksOnly_run_bind (Script.asksOnly_ofExcept _) fun _ _ => trivial

end MySql
end Catalog
end TypedSql
