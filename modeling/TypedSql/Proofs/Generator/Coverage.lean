import TypedSql.Proofs.Catalog.Soundness
import TypedSql.Proofs.Generator.Exposure
import TypedSql.Proofs.Statement.Meaning
import TypedSql.Proofs.TypeMap

/-!
# Coverage of type maps

A type map is checked against the types that a driver declares, before
anything is classified.  All columns of an output are classified by this
driver: those of tables when the schema is loaded, and those of statements
when their probes are described, which the built-in directives leave as they
are.  So the type of every column of the output has a target.
-/

namespace TypedSql

open Catalog (Connection Dialogue Driver DriverRegistry)

namespace Catalog

open Introspection

/-- A driver declares all types to which it classifies columns, and it
classifies the columns of a table like those of any other query. -/
structure Driver.CoversItsTypes (driver : Driver) : Prop where
  classified
      (table : String)
      (columns : List Column)
      (found : (driver.columns table).Finds columns) :
    ∃ described, driver.classify described = .ok columns
  mem_dataTypes
      (described : List RawColumn)
      (columns : List Column)
      (classified : driver.classify described = .ok columns) :
    ∀ column ∈ columns, column.dataType ∈ driver.dataTypes

/-- The drivers of the MySQL family list all types that they classify to. -/
theorem MySql.coversItsTypes_driver (dialect : Dialect) :
    (MySql.driver dialect).CoversItsTypes where
  classified table columns found := by
    obtain ⟨described, -, read⟩ := finds_bind_iff.1 found
    exact ⟨described, finds_ofExcept_iff.1 read⟩
  mem_dataTypes _ _ _ column _ := column.dataType.mem_all

/-- The columns of a loaded schema have types that the driver declares. -/
theorem Driver.CoversItsTypes.mem_of_loadSchema
    {driver : Driver}
    (covers : driver.CoversItsTypes)
    {schema : Schema}
    (found : (loadSchema driver).Finds schema)
    (table : Table)
    (member : table ∈ schema.tables)
    (column : Column)
    (owned : column ∈ table.columns) :
    column.dataType ∈ driver.dataTypes := by
  have loads := loadsTable_of_loadSchema found table member
  obtain ⟨classified, asked, made⟩ := finds_bind_iff.1 loads.columns
  rw [finds_pure_iff.1 made] at owned
  obtain ⟨original, present, rfl⟩ := List.mem_map.1 owned
  obtain ⟨described, accepted⟩ := covers.classified table.name classified asked
  exact covers.mem_dataTypes described classified accepted original present

end Catalog

/-! ## Statements -/

/-- Pieces that only have texts leave the result columns as they are. -/
theorem Chain.eq_of_adjusts
    {fragments : List Fragment}
    {start last : ResultShape}
    (adjusts : Adjusts (fragments.map Fragment.directive) start last) :
    last = start := by
  induction fragments generalizing start with
  | nil =>
      cases adjusts
      rfl
  | cons fragment rest inductionHypothesis =>
      cases adjusts with
      | cons adjusted onward =>
          cases adjusted
          exact inductionHypothesis onward

/-- The columns of a shape have its types. -/
theorem Statement.exists_type_of_mem_columnsOfShape
    {shape : ResultShape}
    {column : Column}
    (member : column ∈ columnsOfShape shape) :
    ∃ type ∈ shape.types, column.dataType = type.dataType := by
  obtain ⟨⟨⟨name, type⟩, position⟩, placed, rfl⟩ := List.mem_map.1 member
  have paired := List.of_mem_zip (List.fst_mem_of_mem_zipIdx placed)
  exact ⟨type, paired.2, rfl⟩

/-- The result columns of a statement with built-in directives have types that
the driver declares. -/
theorem Catalog.Driver.CoversItsTypes.mem_of_compile
    {driver : Driver}
    (covers : driver.CoversItsTypes)
    {schema : Schema}
    {statement : Template.Statement}
    {chain : Chain}
    (built : Chain.build .builtin schema driver.dialect statement = .ok chain)
    {document : String}
    {σ : Type}
    {connection : Connection σ}
    {state : σ}
    {compiled : Statement.Compiled}
    (succeeded :
      ((Statement.compile driver document chain).run connection state).1 =
        .ok compiled)
    (column : Column)
    (member : column ∈ compiled.columns) :
    column.dataType ∈ driver.dataTypes := by
  have result :=
    (Statement.run_compile_eq_ok_iff driver document chain connection state
      compiled).1 succeeded
  by_cases query : compiled.kind = .select
  · obtain ⟨_, described, classified, shape, -, -, -, accepted, adjusts,
      describes⟩ := result.probed query
    obtain ⟨fragments, -, -, rfl⟩ := Chain.build_eq_ok_iff.1 built
    rw [Statement.describes_iff, Chain.eq_of_adjusts adjusts] at describes
    rw [describes.2] at member
    obtain ⟨_, typed, same⟩ := Statement.exists_type_of_mem_columnsOfShape member
    obtain ⟨original, present, rfl⟩ := List.mem_map.1 typed
    rw [same]
    exact covers.mem_dataTypes described classified accepted original present
  · rw [(result.unprobed query).2] at member
    cases member

namespace Generator

/-! ## Documents -/

/-- Collected statements are all results. -/
theorem eq_map_of_collect
    {results : List (Except Statement.Failure Statement.Compiled)}
    {statements : List Statement.Compiled}
    (collected : collect results = .ok statements) :
    results = statements.map .ok := by
  induction results generalizing statements with
  | nil =>
      cases collected
      rfl
  | cons result rest inductionHypothesis =>
      cases result with
      | error failure => cases collected
      | ok compiled =>
          rw [collect, map_eq_pure_bind] at collected
          obtain ⟨others, collectedRest, made⟩ :=
            Result.bind_eq_ok_iff.1 collected
          cases made
          rw [List.map_cons, inductionHypothesis collectedRest]

/-- A statement of a compiled document has been built from a statement of the
text and compiled over some state of the database. -/
theorem exists_compile_of_compileDocument
    {σ : Type}
    {directives : Directive.Registry}
    {driver : Driver}
    {schema : Schema}
    {document : Document}
    {connection : Connection σ}
    {state after : σ}
    {result : CompiledDocument}
    (ended :
      (compileDocument directives driver schema document).run.run connection
          state =
        (.ok result, after))
    {compiled : Statement.Compiled}
    (member : compiled ∈ result.statements) :
    ∃ statement chain before,
      Chain.build directives schema driver.dialect statement = .ok chain ∧
        ((Statement.compile driver document.name chain).run connection
          before).1 = .ok compiled := by
  simp only [compileDocument, Dialogue.run_bind_eq_ok_iff,
    run_ofExcept_eq_ok_iff, Dialogue.run_lift_eq_ok_iff] at ended
  obtain ⟨chains, _, ⟨configured, rfl⟩, results, between, compiling, statements,
    _, ⟨collected, rfl⟩, ⟨⟩⟩ := ended
  have present :
      .ok compiled ∈
        ((Statement.compileAll driver document.name chains).run connection
          state).1 := by
    rw [compiling, eq_map_of_collect collected]
    exact List.mem_map_of_mem member
  obtain ⟨chain, chainMember, before, succeeded⟩ :=
    Dialogue.exists_of_mem_run_mapM present
  rw [buildChains, Result.mapError_eq_ok_iff, Chain.buildDocument,
    Result.bind_eq_ok_iff] at configured
  obtain ⟨sources, -, built⟩ := configured
  obtain ⟨statement, -, builtChain⟩ :=
    Result.exists_of_mem_right (Result.mapM_eq_ok_iff.1 built) chainMember
  exact ⟨statement, chain, before, builtChain, succeeded⟩

/-! ## Outputs -/

/-- A type map gives a column the target that a configuration has under the
name of the column's type. -/
def Maps (config : Config) (map : TypeMap) (column : Column) : Prop :=
  ∃ target,
    config.typeMap[column.dataType.name]? = some target ∧
      map.get? column.dataType = some target

/-- A type map that is checked has the configured target for each type of the
driver. -/
theorem exists_typeMap_of_checkTypeMap
    {config : Config}
    (wanted : config.typeMap.isEmpty = false)
    {driver : Driver}
    {typeMap : Option TypeMap}
    (checked : checkTypeMap config driver = .ok typeMap) :
    ∃ map,
      typeMap = some map ∧
        ∀ column : Column,
          column.dataType ∈ driver.dataTypes → Maps config map column := by
  unfold checkTypeMap at checked
  rw [wanted, if_neg Bool.false_ne_true] at checked
  split at checked
  next map built =>
    cases checked
    exact ⟨map, rfl, fun _ => TypeMap.exists_target_of_build built⟩
  next => cases checked

/-- The drivers of the MySQL family declare all types to which they classify
columns.  When a driver does so, and a type map is wanted, a run with the
built-in directives outputs a type map with the configured target for each
column of its tables and of its statements. -/
theorem typeMap_covers_output :
    (∀ dialect, (Catalog.MySql.driver dialect).CoversItsTypes) ∧
      ∀ (config : Config) (drivers : DriverRegistry) (generator : Generator),
        make config drivers .builtin = .ok generator →
        config.typeMap.isEmpty = false →
        ∀ driver,
          drivers.drivers[config.driver]? = some driver →
          driver.CoversItsTypes →
          ∀ (σ : Type) (connection : Connection σ) (state : σ)
              (documents : List Document) (output : Output),
            ((generator.run documents).run.run connection state).1 =
                .ok output →
              ∃ map,
                output.typeMap = some map ∧
                  (∀ table ∈ output.tables, ∀ column ∈ table.columns,
                    Maps config map column) ∧
                  ∀ document ∈ output.documents,
                    ∀ statement ∈ document.statements,
                      ∀ column ∈ statement.columns,
                        Maps config map column := by
  refine ⟨Catalog.MySql.coversItsTypes_driver, ?_⟩
  intro config drivers generator made wanted driver registered covers σ
    connection state documents output ended
  obtain ⟨-, rfl⟩ := make_eq_ok_iff.1 made
  obtain ⟨_, ⟨checked, succeeded, compiled⟩, rfl⟩ :=
    run_eq_ok_iff.1 (Prod.ext ended rfl)
  obtain rfl := Option.some.inj (registered.symm.trans checked.registered)
  obtain ⟨map, rfl, maps⟩ := exists_typeMap_of_checkTypeMap wanted checked.typed
  refine ⟨map, rfl, ?_, ?_⟩
  · intro table exposed column owned
    have member := List.mem_of_mem_filter exposed
    have found : (Catalog.loadSchema driver).Finds _ :=
      Catalog.Introspection.finds_of_run (congrArg Prod.fst succeeded)
    exact maps column (covers.mem_of_loadSchema found table member column owned)
  · intro document written statement member column owned
    obtain ⟨source, -, _, _, compiling⟩ :=
      Dialogue.exists_of_mem_run_mapM_ok compiled written
    obtain ⟨_, chain, _, built, succeeded⟩ :=
      exists_compile_of_compileDocument compiling member
    exact maps column (covers.mem_of_compile built succeeded column owned)

/-- A configuration that gives every type a target. -/
def fullyTyped : Config where
  dsn := "mysql://localhost"
  typeMap :=
    CanonicalType.all.foldl
      (fun map type => map.insert type.name ("T_" ++ type.name)) ∅

theorem isEmpty_typeMap_fullyTyped : fullyTyped.typeMap.isEmpty = false := by
  decide +kernel

theorem exists_checkTypeMap_fullyTyped :
    ∃ map,
      checkTypeMap fullyTyped (Catalog.MySql.driver .mySql) =
        .ok (some map) := by
  have covers :
      (TypeMap.build fullyTyped.typeMap
          (Catalog.MySql.driver .mySql).dataTypes).toOption.isSome =
        true := by
    decide +kernel
  rw [checkTypeMap, isEmpty_typeMap_fullyTyped, if_neg Bool.false_ne_true]
  cases built :
      TypeMap.build fullyTyped.typeMap
        (Catalog.MySql.driver .mySql).dataTypes with
  | error error =>
      rw [built] at covers
      cases covers
  | ok map => exact ⟨map, rfl⟩

/-- The staff are loaded and queried with a type map, which has a target for
each of their columns. -/
theorem typeMap_covers_allStaff :
    ∃ output map,
      ((run ⟨fullyTyped, .builtin, .builtin⟩ [allStaff]).run.run
          Catalog.staffConnection Catalog.staffResults).1 = .ok output ∧
        output.typeMap = some map ∧
        (∀ table ∈ output.tables, ∀ column ∈ table.columns,
          Maps fullyTyped map column) ∧
        ∃ document ∈ output.documents, ∃ statement ∈ document.statements,
          statement.text = allStaffText ∧
            ∀ column ∈ statement.columns, Maps fullyTyped map column := by
  have made : make fullyTyped = .ok ⟨fullyTyped, .builtin, .builtin⟩ :=
    make_eq_ok_iff.2 ⟨by decide +kernel, rfl⟩
  obtain ⟨_, typed⟩ := exists_checkTypeMap_fullyTyped
  obtain ⟨_, _, produces⟩ := produces_allStaff rfl typed
  have ended := produces.run_eq
  obtain ⟨map, given, tables, documents⟩ :=
    typeMap_covers_output.2 fullyTyped .builtin _ made
      isEmpty_typeMap_fullyTyped _ getElem?_builtin_mySql
      (typeMap_covers_output.1 .mySql) _ Catalog.staffConnection
      Catalog.staffResults [allStaff] _ ended
  exact ⟨_, map, ended, given, tables, _, List.mem_cons_self, _,
    List.mem_cons_self, rfl,
    documents _ List.mem_cons_self _ List.mem_cons_self⟩

end Generator
end TypedSql
