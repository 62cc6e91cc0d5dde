import TypedSql.Proofs.Catalog.MySql.Completeness
import TypedSql.Proofs.Catalog.MySql.Questions

/-!
# The order of tables

A script is told which tables there are, and in which order.  Each of them is
loaded from the rest of the script alone, and foreign keys are checked against
all of them together.  So whether the load succeeds depends on the set of names
only, and the loaded tables stand in the order of the names.
-/

namespace TypedSql
namespace Catalog
namespace MySql

/-! ## Listing the tables -/

/-- A script gets one more answer, which is for the names of the tables and for
no other question of a load: either the fragment or the parameters see to
that. -/
inductive ListsTables (script : Script) (names : List String) :
    Script → Prop where
  | onQuery
      {fragment : String}
      (marks : ∀ topic : Topic,
        Text.contains topic.query fragment = decide (topic = .tableNames))
      {rows : List Row}
      (read : namesOfRows "TABLE_NAME" rows = .ok names) :
      ListsTables script names (script.onQuery fragment rows)
  | onQueryWith
      {fragment : String}
      (occurs : Text.contains Topic.tableNames.query fragment = true)
      {database : String}
      (selected : ∀ name,
        script.result currentDatabase = .ok name → name = database)
      {rows : List Row}
      (read : namesOfRows "TABLE_NAME" rows = .ok names) :
      ListsTables script names (script.onQueryWith fragment [database] rows)

section Listing

variable
  {script listed : Script}
  {names : List String}
  (lists : ListsTables script names listed)

include lists

/-- The names are what the script answers about the current database. -/
theorem ListsTables.fetch_tableNames
    {database : String}
    (selected : script.result currentDatabase = .ok database) :
    ∃ rows,
      listed.fetch Topic.tableNames.query [database] = .ok rows ∧
        namesOfRows "TABLE_NAME" rows = .ok names := by
  cases lists with
  | @onQuery fragment marks rows read =>
      refine ⟨rows, Script.fetch_cons_of_answers ?_, read⟩
      simp [RowScript.answers, marks]
  | @onQueryWith fragment occurs known unique rows read =>
      refine ⟨rows, Script.fetch_cons_of_answers ?_, read⟩
      simp [RowScript.answers, occurs, unique database selected]

/-- The answers to all other questions stay. -/
theorem ListsTables.fetch_eq
    {topic : Topic}
    (differs : topic ≠ .tableNames)
    {params : List String}
    (notOne : params.length ≠ 1) :
    listed.fetch topic.query params = script.fetch topic.query params := by
  cases lists with
  | onQuery marks read =>
      apply Script.fetch_cons_of_not_answers
      simp [RowScript.answers, marks, differs]
  | @onQueryWith fragment occurs database selected rows read =>
      apply Script.fetch_cons_of_not_answers
      have otherParams : [database] ≠ params := by
        rintro rfl
        exact notOne rfl
      simp [RowScript.answers, otherParams]

theorem ListsTables.describe_eq (query : String) :
    listed.describe query = script.describe query := by
  cases lists <;> rfl

theorem ListsTables.fetch_currentDatabase :
    listed.fetch Topic.currentDatabase.query [] =
      script.fetch Topic.currentDatabase.query [] := by
  have differs : Topic.currentDatabase ≠ .tableNames := nofun
  exact lists.fetch_eq differs (by simp)

theorem ListsTables.result_currentDatabase :
    listed.result currentDatabase = script.result currentDatabase := by
  have same := lists.fetch_currentDatabase
  rw [currentDatabase, Script.result_bind, Script.result_bind]
  exact congrArg (· >>= databaseOfRows) same

/-- The names are told to whoever asks, provided that a database is selected. -/
theorem ListsTables.result_tableNames_eq_ok_iff
    (dialect : Dialect)
    (found : List String) :
    listed.result (driver dialect).tableNames = .ok found ↔
      (∃ database, script.result currentDatabase = .ok database) ∧
        found = names := by
  have read (database : String)
      (selected : script.result currentDatabase = .ok database) :
      listed.fetch Topic.tableNames.query [database] >>=
          namesOfRows "TABLE_NAME" =
        .ok names := by
    obtain ⟨rows, fetched, named⟩ := lists.fetch_tableNames selected
    exact Result.bind_eq_ok_iff.2 ⟨rows, fetched, named⟩
  change listed.result (ask Topic.tableNames.query [] _) = _ ↔ _
  rw [result_ask, lists.result_currentDatabase, Result.bind_eq_ok_iff]
  constructor
  · rintro ⟨database, selected, named⟩
    rw [read database selected] at named
    exact ⟨⟨database, selected⟩, (Except.ok.inj named).symm⟩
  · rintro ⟨⟨database, selected⟩, rfl⟩
    exact ⟨database, selected, read database selected⟩

/-- Every table is loaded as if the names had not been told. -/
theorem ListsTables.result_loadTable (dialect : Dialect) (table : String) :
    listed.result (loadTable (driver dialect) table) =
      script.result (loadTable (driver dialect) table) := by
  obtain ⟨database, selected⟩ :
      ∃ database, ∀ name,
        script.result currentDatabase = .ok name → name = database := by
    cases script.result currentDatabase with
    | error failure => exact ⟨"", nofun⟩
    | ok database => exact ⟨database, fun _ equal => (Except.ok.inj equal).symm⟩
  have aboutTable (question : Question)
      (asked : TableQuestion dialect database table question) :
      script.AgreesOn listed question := by
    cases asked with
    | columns => exact lists.describe_eq _
    | catalog topic differs key => exact lists.fetch_eq differs (by simp)
  exact Script.result_eq_of_agree (fun _ agreed => agreed)
    (asksOnly_loadTable selected lists.fetch_currentDatabase aboutTable)

end Listing

/-! ## What can be loaded -/

/-- The table that a script has under a name; one without columns, if it cannot
be loaded. -/
def loadedTable (dialect : Dialect) (script : Script) (name : String) : Table :=
  match script.result (loadTable (driver dialect) name) with
  | .ok table => table
  | .error _ => { name, columns := [] }

/-- A script selects a database, each of some names is that of a table which
can be loaded, and the foreign keys of these lead to columns of such tables. -/
structure Loadable
    (dialect : Dialect)
    (script : Script)
    (names : List String) :
    Prop where
  selects : ∃ database, script.result currentDatabase = .ok database
  loads (name : String) (member : name ∈ names) :
    ∃ table, script.result (loadTable (driver dialect) name) = .ok table
  leads
      (name : String)
      (member : name ∈ names)
      (key : ForeignKey)
      (owned : key ∈ (loadedTable dialect script name).foreignKeys) :
    key.targetTable ∈ names ∧
      ∀ target ∈ key.targetColumns,
        ∃ column ∈ (loadedTable dialect script key.targetTable).columns,
          column.name = target

section Loading

variable {dialect : Dialect} {script : Script} {names others : List String}

/-- Only the set of the names counts. -/
theorem Loadable.congr
    (same : ∀ name, name ∈ names ↔ name ∈ others)
    (loadable : Loadable dialect script names) :
    Loadable dialect script others where
  selects := loadable.selects
  loads name member := loadable.loads name ((same name).2 member)
  leads name member key owned := by
    obtain ⟨reached, known⟩ :=
      loadable.leads name ((same name).2 member) key owned
    exact ⟨(same key.targetTable).1 reached, known⟩

theorem name_loadedTable (name : String) :
    (loadedTable dialect script name).name = name := by
  unfold loadedTable
  split
  next table loaded =>
    have ended :
        ((loadTable (driver dialect) name).run.run Script.connection
          script).1 = .ok table := by
      rw [Script.fst_run_connection]
      exact loaded
    exact (loadsTable_of_finds (Introspection.finds_of_run ended)).name_eq
  next => rfl

/-- The tables of some names are found by these. -/
theorem table?_loadedTables_eq_some_iff {name : String} {table : Table} :
    (Schema.ofTables (names.map (loadedTable dialect script))).table? name =
        some table ↔
      name ∈ names ∧ table = loadedTable dialect script name := by
  have distinct :
      ∀ left ∈ names.map (loadedTable dialect script),
        ∀ right ∈ names.map (loadedTable dialect script),
          left.name = right.name → left = right := by
    simp only [List.forall_mem_map, name_loadedTable]
    rintro left - right - rfl
    rfl
  rw [Schema.table?_ofTables_eq_some_iff distinct]
  constructor
  · rintro ⟨member, rfl⟩
    obtain ⟨name, present, rfl⟩ := List.mem_map.1 member
    rw [name_loadedTable]
    exact ⟨present, rfl⟩
  · rintro ⟨present, rfl⟩
    exact ⟨List.mem_map_of_mem present, name_loadedTable name⟩

/-- The check of all foreign keys does not depend on the order of the tables. -/
theorem checkForeignKeys_loadedTables_eq_ok_iff :
    checkForeignKeys (.ofTables (names.map (loadedTable dialect script))) =
        .ok () ↔
      ∀ name ∈ names,
        ∀ key ∈ (loadedTable dialect script name).foreignKeys,
          key.targetTable ∈ names ∧
            ∀ target ∈ key.targetColumns,
              ∃ column ∈ (loadedTable dialect script key.targetTable).columns,
                column.name = target := by
  simp only [checkForeignKeys_eq_ok_iff, Schema.tables_ofTables,
    List.forall_mem_map, ForeignKey.LeadsInto, table?_loadedTables_eq_some_iff,
    and_assoc, exists_and_left, exists_eq_left]

variable {listed : Script} (lists : ListsTables script names listed)

include lists

/-- The tables are loaded in the order of the names, if each of them can be
loaded at all. -/
theorem ListsTables.result_loadTables_eq_ok_iff (loaded : List Table) :
    listed.result (loadTables (driver dialect)) = .ok loaded ↔
      (∃ database, script.result currentDatabase = .ok database) ∧
        (∀ name ∈ names, ∃ table,
          script.result (loadTable (driver dialect) name) = .ok table) ∧
        loaded = names.map (loadedTable dialect script) := by
  have each (name : String) (member : name ∈ names) (table : Table) :
      listed.result (loadTable (driver dialect) name) = .ok table ↔
        (∃ table,
          script.result (loadTable (driver dialect) name) = .ok table) ∧
          table = loadedTable dialect script name := by
    rw [lists.result_loadTable, loadedTable]
    cases script.result (loadTable (driver dialect) name) with
    | error failure => simp
    | ok found => simp [eq_comm]
  rw [loadTables, Script.result_bind, Result.bind_eq_ok_iff]
  simp only [lists.result_tableNames_eq_ok_iff, Script.result_mapM, and_assoc]
  constructor
  · rintro ⟨_, selects, rfl, traversed⟩
    exact ⟨selects, (Result.mapM_eq_ok_iff_of_fits each loaded).1 traversed⟩
  · rintro ⟨selects, fits⟩
    exact ⟨names, selects, rfl,
      (Result.mapM_eq_ok_iff_of_fits each loaded).2 fits⟩

/-- The schema of the listed tables is loaded exactly if they can be. -/
theorem ListsTables.loadSchema_eq_ok_iff (schema : Schema) :
    ((loadSchema (driver dialect)).run.run Script.connection listed).1 =
        .ok schema ↔
      Loadable dialect script names ∧
        schema = .ofTables (names.map (loadedTable dialect script)) := by
  simp only [Script.fst_run_connection, result_loadSchema_eq_ok_iff,
    lists.result_loadTables_eq_ok_iff]
  constructor
  · rintro ⟨_, ⟨selects, loads, rfl⟩, checked, rfl⟩
    have leads := checkForeignKeys_loadedTables_eq_ok_iff.1 checked
    exact ⟨⟨selects, loads, leads⟩, rfl⟩
  · rintro ⟨⟨selects, loads, leads⟩, rfl⟩
    have checked := checkForeignKeys_loadedTables_eq_ok_iff.2 leads
    exact ⟨_, ⟨selects, loads, rfl⟩, checked, rfl⟩

end Loading

/-- The tables that the script of a description has are those of the schema. -/
theorem Description.map_loadedTable
    {description : Description}
    (fits : description.OrdinalsFit)
    (dialect : Dialect)
    (script : Script) :
    (description.tables.map (·.name)).map
        (loadedTable dialect (description.addTo dialect script)) =
      description.tables.map (·.inSchema) := by
  rw [List.map_map]
  apply List.map_congr_left
  intro table member
  have loaded := (result_loadTable_eq_ok_iff dialect script member _).2
    ⟨fits table member, rfl⟩
  simp only [Function.comp_apply, loadedTable, loaded]

/-- The tables of a description can be loaded from its script. -/
theorem Description.loadable
    {description : Description}
    (fits : description.OrdinalsFit)
    (dialect : Dialect)
    (script : Script) :
    Loadable dialect (description.addTo dialect script)
      (description.tables.map (·.name)) where
  selects :=
    ⟨description.database, description.result_currentDatabase dialect script⟩
  loads := by
    intro name listed
    obtain ⟨table, member, rfl⟩ := List.mem_map.1 listed
    exact ⟨table.inSchema, (result_loadTable_eq_ok_iff dialect script member _).2
      ⟨fits table member, rfl⟩⟩
  leads := by
    apply checkForeignKeys_loadedTables_eq_ok_iff.1
    rw [Description.map_loadedTable fits]
    exact description.checkForeignKeys_schema

/-! ## Two orders -/

/-- Whether a load succeeds is decided by the set of the listed names, wherever
among them the tables stand that foreign keys lead to.  Two loads that succeed
differ in the order of their tables only. -/
theorem loadSchema_perm
    {dialect : Dialect}
    {script left right : Script}
    {names others : List String}
    (listsLeft : ListsTables script names left)
    (listsRight : ListsTables script others right)
    (permuted : names.Perm others) :
    ((∃ schema,
        ((loadSchema (driver dialect)).run.run Script.connection left).1 =
          .ok schema) ↔
      Loadable dialect script names) ∧
      ((∃ schema,
          ((loadSchema (driver dialect)).run.run Script.connection left).1 =
            .ok schema) ↔
        ∃ schema,
          ((loadSchema (driver dialect)).run.run Script.connection right).1 =
            .ok schema) ∧
      ∀ leftSchema rightSchema,
        ((loadSchema (driver dialect)).run.run Script.connection left).1 =
            .ok leftSchema →
          ((loadSchema (driver dialect)).run.run Script.connection right).1 =
              .ok rightSchema →
            (∀ name, leftSchema.table? name = rightSchema.table? name) ∧
              ∃ tableOf : String → Table,
                (∀ name ∈ names,
                  leftSchema.table? name = some (tableOf name)) ∧
                  leftSchema.tables = names.map tableOf ∧
                  rightSchema.tables = others.map tableOf := by
  have sameNames (name : String) : name ∈ names ↔ name ∈ others :=
    permuted.mem_iff
  have sameCondition :
      Loadable dialect script names ↔ Loadable dialect script others :=
    ⟨.congr sameNames, .congr fun name => (sameNames name).symm⟩
  simp only [listsLeft.loadSchema_eq_ok_iff, listsRight.loadSchema_eq_ok_iff,
    exists_and_left, exists_eq, and_true, sameCondition, true_and]
  rintro _ _ ⟨-, rfl⟩ ⟨-, rfl⟩
  refine ⟨?_, loadedTable dialect script, ?_, rfl, rfl⟩
  · intro name
    apply Option.ext
    intro table
    rw [table?_loadedTables_eq_some_iff, table?_loadedTables_eq_some_iff,
      sameNames]
  · intro name member
    exact table?_loadedTables_eq_some_iff.2 ⟨member, rfl⟩

/-- The standard script, told of the orders behind the users that they refer
to. -/
def usersFirst : Script :=
  (Fixture.addStandardSchema {}).onQuery Fixture.tableNamesMark
    (Fixture.nameRows ["users", "orders"])

/-- The standard script, told of the orders in front of the users. -/
def ordersFirst : Script :=
  (Fixture.addStandardSchema {}).onQueryWith Fixture.tableNamesMark
    [Fixture.database] (Fixture.nameRows ["orders", "users"])

theorem listsTables_usersFirst :
    ListsTables (Fixture.addStandardSchema {}) ["users", "orders"] usersFirst :=
  .onQuery (fun topic => topic.contains_mark .tableNames)
    (namesOfRows_nameRows _ _)

/-- These names come with the parameters of the query, the database that is
selected. -/
theorem listsTables_ordersFirst :
    ListsTables (Fixture.addStandardSchema {}) ["orders", "users"]
      ordersFirst := by
  refine .onQueryWith ?_ ?_ (namesOfRows_nameRows _ _)
  · exact Topic.tableNames.contains_mark .tableNames
  · exact standard.eq_database_of_selected .mySql {}

theorem loadable_standard :
    Loadable .mySql (Fixture.addStandardSchema {}) ["users", "orders"] :=
  Description.loadable (by decide : standard.OrdinalsFit) .mySql {}

/-- The standard tables are found by their names in either order, although one
of them refers to the other. -/
theorem loadSchema_ordersFirst :
    ∃ left right,
      ((loadSchema (driver .mySql)).run.run Script.connection usersFirst).1 =
          .ok left ∧
        ((loadSchema (driver .mySql)).run.run Script.connection
          ordersFirst).1 = .ok right ∧
        ∀ name, left.table? name = right.table? name := by
  obtain ⟨loads, reordered, agree⟩ :=
    loadSchema_perm listsTables_usersFirst listsTables_ordersFirst
      (.swap "orders" "users" [])
  obtain ⟨left, leftLoaded⟩ := loads.2 loadable_standard
  obtain ⟨right, rightLoaded⟩ := reordered.1 ⟨left, leftLoaded⟩
  exact ⟨left, right, leftLoaded, rightLoaded,
    (agree left right leftLoaded rightLoaded).1⟩

end MySql
end Catalog
end TypedSql
