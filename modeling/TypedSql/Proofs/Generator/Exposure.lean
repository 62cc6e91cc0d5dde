import TypedSql.Proofs.Catalog.Soundness
import TypedSql.Proofs.Generator.Outcome
import TypedSql.Proofs.Statement.Meaning

/-!
# Exposed tables

The table filters of a configuration are applied to the finished output.  So
two runs whose configurations differ in filters and connection strings only
hold the same conversation with the database and come to the same output but
for its tables, and documents are compiled against tables that are hidden as
well.
-/

namespace TypedSql

open Catalog (Connection Dialogue Driver DriverRegistry)

/-! ## Filters -/

namespace Config

/-- What two configurations that differ in their connection strings and their
filters have in common. -/
structure AgreesUpToFilters (left right : Config) : Prop where
  driver_eq : left.driver = right.driver
  typeMap_equiv : left.typeMap.Equiv right.typeMap

/-- A table is exposed when it is among the wanted ones, if there are any, and
not among the hidden ones. -/
def Exposes (config : Config) (table : String) : Prop :=
  (table ∈ config.whitelist ∨ config.whitelist.isEmpty = true) ∧
    table ∉ config.blacklist

instance (config : Config) (table : String) :
    Decidable (config.Exposes table) :=
  inferInstanceAs (Decidable (_ ∧ _))

/-- At most one of the filters of a valid configuration is in use. -/
theorem isEmpty_of_validate
    {config : Config}
    (valid : config.validate = .ok ()) :
    config.whitelist.isEmpty = true ∨ config.blacklist.isEmpty = true := by
  unfold validate at valid
  split_ifs at valid with noDriver noDsn noProtocol both
  rw [Bool.and_eq_true, not_and_or] at both
  simpa using both

/-- In a valid configuration at most one filter is in force, and it decides
which tables are exposed. -/
theorem selects_eq
    {config : Config}
    (valid : config.validate = .ok ())
    (table : String) :
    config.selects table = decide (config.Exposes table) := by
  rw [Bool.eq_iff_iff, decide_eq_true_iff, selects, Exposes]
  split
  next all => simp [all, ← Std.TreeSet.contains_iff_mem]
  next notAll =>
    have hidesNone : config.blacklist.isEmpty = true :=
      (isEmpty_of_validate valid).resolve_left notAll
    have notHidden : table ∉ config.blacklist :=
      Std.TreeSet.not_mem_of_isEmpty hidesNone
    simp [notAll, notHidden]

end Config

/-! ## Runs without filters -/

namespace Generator

/-- The output with the tables that the filters of a configuration leave. -/
def Output.expose (config : Config) (output : Output) : Output :=
  { output with
    tables := output.tables.filter fun table => config.selects table.name }

/-- A run that exposes all tables. -/
def runUnfiltered (generator : Generator) (documents : List Document) :
    Step Output := do
  let driver ← Step.ofExcept generator.driver
  let typeMap ← Step.ofExcept (checkTypeMap generator.config driver)
  let schema ← loadSchema driver
  let compiled ←
    documents.mapM (compileDocument generator.directives driver schema)
  pure
    { driver := driver.name
      tables := schema.tables
      typeMap
      documents := compiled }

/-- The filters are applied to the output of a run without filters. -/
theorem run_eq_map_runUnfiltered
    (generator : Generator)
    (documents : List Document) :
    generator.run documents =
      Output.expose generator.config <$>
        generator.runUnfiltered documents := by
  simp only [run, runUnfiltered, map_bind, map_pure]
  rfl

/-- Type maps are not looked at together with filters. -/
theorem checkTypeMap_congr
    {left right : Config}
    (agree : left.AgreesUpToFilters right)
    (driver : Driver) :
    checkTypeMap left driver = checkTypeMap right driver := by
  rw [checkTypeMap, checkTypeMap, agree.typeMap_equiv.isEmpty_eq,
    TypeMap.build, TypeMap.build, agree.typeMap_equiv.toList_eq]

/-- Up to the selection of tables a run does not look at the filters. -/
theorem runUnfiltered_congr
    {left right : Config}
    (agree : left.AgreesUpToFilters right)
    (drivers : DriverRegistry)
    (directives : Directive.Registry)
    (documents : List Document) :
    runUnfiltered ⟨left, drivers, directives⟩ documents =
      runUnfiltered ⟨right, drivers, directives⟩ documents := by
  simp only [runUnfiltered, driver, agree.driver_eq, checkTypeMap_congr agree]

section Runs

variable
  {σ : Type}
  {connection : Connection σ}
  {state : σ}
  {generator : Generator}
  {documents : List Document}

/-- What a run that exposes all tables goes through when it succeeds, and the
state in which it leaves the database. -/
inductive Produces
    (generator : Generator)
    (documents : List Document)
    (connection : Connection σ)
    (state : σ) :
    Output → σ → Prop where
  | intro
      {driver : Driver}
      {typeMap : Option TypeMap}
      (checked : ChecksPass generator driver typeMap)
      {schema : Schema}
      {loaded after : σ}
      (succeeded :
        (Catalog.loadSchema driver).run.run connection state =
          (.ok schema, loaded))
      {results : List CompiledDocument}
      (compiled :
        (documents.mapM
            (compileDocument generator.directives driver schema)).run.run
            connection loaded =
          (.ok results, after)) :
      Produces generator documents connection state
        { driver := driver.name
          tables := schema.tables
          typeMap
          documents := results }
        after

theorem run_loadSchema_eq_ok_iff
    {driver : Driver}
    {schema : Schema}
    {loaded : σ} :
    (loadSchema driver).run.run connection state = (.ok schema, loaded) ↔
      (Catalog.loadSchema driver).run.run connection state =
        (.ok schema, loaded) := by
  change (Except.mapError Error.catalog <$>
    (Catalog.loadSchema driver).run).run connection state = _ ↔ _
  rw [Dialogue.run_map, Prod.ext_iff, Prod.ext_iff]
  exact and_congr_left' Result.mapError_eq_ok_iff

theorem run_ofExcept_eq_ok_iff
    {α : Type}
    {result : Except Error α}
    {value : α}
    {after : σ} :
    (Step.ofExcept result).run.run connection state = (.ok value, after) ↔
      result = .ok value ∧ state = after :=
  Prod.ext_iff

/-- A run produces its output step by step. -/
theorem runUnfiltered_eq_ok_iff {output : Output} {after : σ} :
    (generator.runUnfiltered documents).run.run connection state =
        (.ok output, after) ↔
      Produces generator documents connection state output after := by
  simp only [runUnfiltered, Dialogue.run_bind_eq_ok_iff,
    run_ofExcept_eq_ok_iff, run_loadSchema_eq_ok_iff, driver_eq_ok_iff]
  constructor
  · rintro ⟨driver, _, ⟨registered, rfl⟩, typeMap, _, ⟨typed, rfl⟩, schema,
      loaded, succeeded, results, _, compiled, ⟨⟩⟩
    exact .intro ⟨registered, typed⟩ succeeded compiled
  · rintro ⟨checked, succeeded, compiled⟩
    exact ⟨_, _, ⟨checked.registered, rfl⟩, _, _, ⟨checked.typed, rfl⟩, _, _,
      succeeded, _, _, compiled, rfl⟩

/-- A run that succeeds exposes tables of an output with all tables. -/
theorem run_eq_ok_iff {output : Output} {after : σ} :
    (generator.run documents).run.run connection state =
        (.ok output, after) ↔
      ∃ whole,
        Produces generator documents connection state whole after ∧
          output = whole.expose generator.config := by
  simp only [← runUnfiltered_eq_ok_iff]
  rw [run_eq_map_runUnfiltered, ExceptT.run_map, Dialogue.run_map]
  rcases (generator.runUnfiltered documents).run.run connection state with
    ⟨error | whole, final⟩
  · constructor
    · rintro ⟨⟩
    · rintro ⟨_, ⟨⟩, _⟩
  · constructor
    · rintro ⟨⟩
      exact ⟨whole, rfl, rfl⟩
    · rintro ⟨_, ⟨⟩, rfl⟩
      rfl

/-- The filters are applied at the very end, to the tables of the output. -/
theorem Produces.run_eq
    {whole : Output}
    {after : σ}
    (produces : Produces generator documents connection state whole after) :
    ((generator.run documents).run.run connection state).1 =
      .ok (whole.expose generator.config) := by
  rw [run_eq_ok_iff.2 ⟨whole, produces, rfl⟩]

end Runs

/-! ## Runs with different filters -/

/-- Two results are the same error, or outputs that differ in their tables at
most. -/
inductive AgreeUpToTables : Except Error Output → Except Error Output → Prop where
  | error (error : Error) : AgreeUpToTables (.error error) (.error error)
  | ok
      {left right : Output}
      (driver_eq : left.driver = right.driver)
      (typeMap_eq : left.typeMap = right.typeMap)
      (documents_eq : left.documents = right.documents) :
      AgreeUpToTables (.ok left) (.ok right)

/-- An output shows, in their order, those of the loaded tables that the
configuration exposes, and its documents are compiled against all of them. -/
inductive Shows
    {σ : Type}
    (generator : Generator)
    (documents : List Document)
    (connection : Connection σ)
    (state : σ)
    (output : Output) :
    Prop where
  | intro
      {driver : Driver}
      (registered :
        generator.drivers.drivers[generator.config.driver]? = some driver)
      {schema : Schema}
      {loaded after : σ}
      (succeeded :
        (Catalog.loadSchema driver).run.run connection state =
          (.ok schema, loaded))
      (compiled :
        (documents.mapM
            (compileDocument generator.directives driver schema)).run.run
            connection loaded =
          (.ok output.documents, after))
      (tables_eq :
        output.tables = schema.tables.filter fun table =>
          decide (generator.config.Exposes table.name))

/-- A generator is made of a valid configuration, as it is. -/
theorem make_eq_ok_iff
    {config : Config}
    {drivers : DriverRegistry}
    {directives : Directive.Registry}
    {generator : Generator} :
    make config drivers directives = .ok generator ↔
      config.validate = .ok () ∧ generator = { config, drivers, directives } := by
  unfold make
  cases config.validate <;> simp [eq_comm]

section Filters

variable
  {σ : Type}
  {left right : Config}
  {drivers : DriverRegistry}
  {directives : Directive.Registry}
  {leftGenerator rightGenerator : Generator}

/-- What a run shows are the tables that the configuration exposes, in their
order. -/
theorem shows_of_run
    (made : make left drivers directives = .ok leftGenerator)
    {documents : List Document}
    {connection : Connection σ}
    {state : σ}
    {output : Output}
    (ended :
      ((leftGenerator.run documents).run.run connection state).1 =
        .ok output) :
    Shows leftGenerator documents connection state output := by
  obtain ⟨valid, rfl⟩ := make_eq_ok_iff.1 made
  obtain ⟨_, ⟨checked, succeeded, compiled⟩, rfl⟩ :=
    run_eq_ok_iff.1 (Prod.ext ended rfl)
  refine .intro checked.registered succeeded compiled ?_
  simp only [Output.expose, Config.selects_eq valid]

/-- Two generators that differ in the table filters and connection strings of
their valid configurations hold the same conversation with a database, and
they come to the same error or to outputs that differ in the exposed tables
only. -/
theorem run_agrees_up_to_tables
    (leftMade : make left drivers directives = .ok leftGenerator)
    (rightMade : make right drivers directives = .ok rightGenerator)
    (agree : left.AgreesUpToFilters right)
    (documents : List Document)
    (connection : Connection σ)
    (state : σ) :
    (leftGenerator.run documents).run.exchanges connection state =
        (rightGenerator.run documents).run.exchanges connection state ∧
      ((leftGenerator.run documents).run.run connection state).2 =
        ((rightGenerator.run documents).run.run connection state).2 ∧
      AgreeUpToTables
        ((leftGenerator.run documents).run.run connection state).1
        ((rightGenerator.run documents).run.run connection state).1 ∧
      ∀ output,
        ((leftGenerator.run documents).run.run connection state).1 =
            .ok output →
          Shows leftGenerator documents connection state output := by
  refine ⟨?_, ?_, ?_, fun output => shows_of_run leftMade⟩
  all_goals
    obtain ⟨-, rfl⟩ := make_eq_ok_iff.1 leftMade
    obtain ⟨-, rfl⟩ := make_eq_ok_iff.1 rightMade
    simp only [run_eq_map_runUnfiltered, ExceptT.run_map,
      runUnfiltered_congr agree]
  · rw [Dialogue.exchanges_map, Dialogue.exchanges_map]
  · rw [Dialogue.run_map, Dialogue.run_map]
  · rw [Dialogue.run_map, Dialogue.run_map]
    cases ((runUnfiltered ⟨right, drivers, directives⟩ documents).run.run
      connection state).1 with
    | error error => exact .error error
    | ok whole => exact .ok rfl rfl rfl

end Filters

/-! ## A hidden table -/

section Staff

open Catalog (staff staffConnection staffResults)
open Template (Node)

/-- A query for all columns of the employees. -/
def allStaff : Document where
  name := "staff"
  text :=
    "<stmts><stmt name=\"AllStaff\">SELECT <wc table=\"staff\"/> FROM staff" ++
      "</stmt></stmts>"

/-- What the nodes of the query stand for. -/
def allStaffFragments : List Fragment :=
  [⟨"SELECT ", "SELECT ", none⟩,
    ⟨"\x60staff\x60.\x60id\x60, \x60staff\x60.\x60lead\x60",
      "\x60staff\x60.\x60id\x60, \x60staff\x60.\x60lead\x60", none⟩,
    ⟨" FROM staff", " FROM staff", none⟩]

/-- The text of a node, or its tag and its `table` and `as` attributes. -/
def outline : Node → List (Option String)
  | .text content => [some content]
  | .element element =>
    [some element.tag, element.attribute? "table", element.attribute? "as"]

theorem outline_allStaff :
    (Template.parseDocument allStaff.text).toOption.map
        (·.map (·.nodes.map outline)) =
      some
        [[[some "SELECT "], [some "wc", some "staff", none],
          [some " FROM staff"]]] := by
  decide +kernel

/-- A node whose outline is a text is this text. -/
theorem eq_text_of_outline
    {node : Node}
    {content : String}
    (outlined : outline node = [some content]) :
    node = .text content := by
  cases node <;> cases outlined
  rfl

theorem denotes_of_outline
    {nodes : List Node}
    (outlined :
      nodes.map outline =
        [[some "SELECT "], [some "wc", some "staff", none],
          [some " FROM staff"]])
    (name : String) :
    List.Forall₂ (Denotes ⟨name, .ofTables [staff], .mySql⟩) nodes
      allStaffFragments := by
  have found : (Schema.ofTables [staff]).table? "staff" = some staff := by
    rw [Schema.table?_ofTables]
    rfl
  have listed :
      Directive.columnList .mySql "staff" staff =
        "\x60staff\x60.\x60id\x60, \x60staff\x60.\x60lead\x60" := by
    decide +kernel
  simp only [List.map_eq_cons_iff, List.map_eq_nil_iff] at outlined
  obtain ⟨_, _, rfl, first, wildcard, _, rfl, middle, _, _, rfl, last, rfl⟩ :=
    outlined
  rw [eq_text_of_outline first, eq_text_of_outline last]
  cases wildcard with
  | text content => cases middle
  | element element =>
      simp only [outline, List.cons.injEq, Option.some.injEq, and_true]
        at middle
      obtain ⟨tag, named, unqualified⟩ := middle
      have qualified :
          ((element.attribute? "as").filter (· ≠ "")).getD "staff" =
            "staff" := by
        rw [unqualified]
        rfl
      exact .cons (.text _)
        (.cons (.wildcard tag named (by decide) found qualified listed)
          (.cons (.text _) .nil))

/-- The configured query. -/
def allStaffChain (statement : Template.Statement) : Chain where
  name := statement.name
  hints := statement.hints
  position := statement.position
  directives := allStaffFragments.map Fragment.directive
  arguments := []

theorem buildDocument_allStaff :
    ∃ statement,
      Chain.buildDocument .builtin (.ofTables [staff]) .mySql allStaff.text =
        .ok [allStaffChain statement] := by
  have outlined := outline_allStaff
  cases parsed : Template.parseDocument allStaff.text with
  | error error =>
      rw [parsed] at outlined
      cases outlined
  | ok statements =>
      rw [parsed] at outlined
      obtain ⟨statement, _, rfl, nodes, rest⟩ :=
        List.map_eq_cons_iff.1 (Option.some.inj outlined)
      obtain rfl := List.map_eq_nil_iff.1 rest
      have built :
          Chain.build .builtin (.ofTables [staff]) .mySql statement =
            .ok (allStaffChain statement) :=
        Chain.build_eq_ok_iff.2
          ⟨_, denotes_of_outline nodes statement.name, by decide, rfl⟩
      refine ⟨statement, ?_⟩
      rw [Chain.buildDocument, parsed]
      exact Result.mapM_eq_ok_iff.2 (.cons built .nil)

/-- The text of the query and of its probe. -/
def allStaffText : String :=
  "SELECT \x60staff\x60.\x60id\x60, \x60staff\x60.\x60lead\x60 FROM staff"

/-- The compiled query. -/
def allStaffCompiled (statement : Template.Statement) :
    Statement.Compiled where
  source := allStaffChain statement
  kind := .select
  text := allStaffText
  probe := some allStaffText
  columns :=
    [{ name := "id", position := 0, dataType := .int64 },
      { name := "lead", position := 1, dataType := .int64, nullable := true }]

theorem run_compile_allStaff
    (statement : Template.Statement)
    (state : List (List (List String))) :
    (Statement.compile (Catalog.MySql.driver .mySql) allStaff.name
        (allStaffChain statement)).run staffConnection state =
      (.ok (allStaffCompiled statement), state) := by
  have query : StatementKind.detect allStaffText = .select := by
    decide +kernel
  have assembled : (allStaffChain statement).final = .ok allStaffText := rfl
  have probed : (allStaffChain statement).probe = .ok allStaffText := rfl
  have classified :
      (staffConnection.describe allStaffText state).1 >>=
          Catalog.MySql.classifyAll =
        .ok (allStaffCompiled statement).columns :=
    rfl
  have shaped :
      Statement.resultColumns (allStaffChain statement)
          (allStaffCompiled statement).columns =
        .ok (allStaffCompiled statement).columns :=
    rfl
  have result :
      Statement.ofDescribed allStaff.name (allStaffChain statement)
          allStaffText allStaffText
          ((staffConnection.describe allStaffText state).1 >>=
            Catalog.MySql.classifyAll) =
        .ok (allStaffCompiled statement) := by
    refine Statement.ofDescribed_eq_ok_iff.2
      ⟨_, _, classified, shaped, ?_⟩
    rw [query]
    rfl
  rw [Statement.compile_of_probe _ _ assembled query probed]
  exact Prod.ext result rfl

theorem run_compileDocument_allStaff (state : List (List (List String))) :
    ∃ statement,
      (compileDocument .builtin (Catalog.MySql.driver .mySql)
          (.ofTables [staff]) allStaff).run.run staffConnection state =
        (.ok
          { name := "staff", statements := [allStaffCompiled statement] },
          state) := by
  obtain ⟨statement, built⟩ := buildDocument_allStaff
  have compiled :
      (Statement.compileAll (Catalog.MySql.driver .mySql) allStaff.name
          [allStaffChain statement]).run staffConnection state =
        ([.ok (allStaffCompiled statement)], state) := by
    rw [Statement.compileAll, List.mapM_cons, Dialogue.run_bind,
      run_compile_allStaff]
    rfl
  refine ⟨statement, ?_⟩
  simp only [compileDocument, Dialogue.run_bind_eq_ok_iff,
    run_ofExcept_eq_ok_iff, Dialogue.run_lift_eq_ok_iff, buildChains,
    Result.mapError_eq_ok_iff]
  exact ⟨_, _, ⟨built, rfl⟩, _, _, compiled, _, _, ⟨rfl, rfl⟩, rfl⟩

/-- Every driver of the family is registered under the name of its dialect. -/
theorem getElem?_builtin (dialect : Dialect) :
    DriverRegistry.builtin.drivers[dialect.name]? =
      some (Catalog.MySql.driver dialect) := by
  simp only [DriverRegistry.builtin, DriverRegistry.register,
    DriverRegistry.empty, List.foldl_cons, List.foldl_nil,
    Std.TreeMap.getElem?_insert, Std.compare_eq_iff_eq]
  cases dialect <;> rfl

theorem getElem?_builtin_mySql :
    DriverRegistry.builtin.drivers["mysql"]? =
      some (Catalog.MySql.driver .mySql) :=
  getElem?_builtin .mySql

/-- The query is compiled over the connection from which the employees are
loaded, whatever the type map and the filters are. -/
theorem produces_allStaff
    {config : Config}
    (named : config.driver = "mysql")
    {typeMap : Option TypeMap}
    (typed :
      checkTypeMap config (Catalog.MySql.driver .mySql) = .ok typeMap) :
    ∃ statement after,
      Produces ⟨config, .builtin, .builtin⟩ [allStaff] staffConnection
        staffResults
        { driver := "mysql"
          tables := [staff]
          typeMap
          documents :=
            [{ name := "staff", statements := [allStaffCompiled statement] }] }
        after := by
  have registered :
      DriverRegistry.builtin.drivers[config.driver]? =
        some (Catalog.MySql.driver .mySql) := by
    rw [named, getElem?_builtin_mySql]
  have loads := Catalog.loadSchema_staff
  generalize played :
    (Catalog.loadSchema (Catalog.MySql.driver .mySql)).run.run staffConnection
      staffResults = ending at loads
  obtain ⟨_, after⟩ := ending
  cases loads
  obtain ⟨statement, compiled⟩ := run_compileDocument_allStaff after
  have compiledAll :
      ([allStaff].mapM (compileDocument .builtin (Catalog.MySql.driver .mySql)
          (.ofTables [staff]))).run.run staffConnection after =
        (.ok [{ name := "staff", statements := [allStaffCompiled statement] }],
          after) :=
    Dialogue.run_bind_eq_ok_iff.2 ⟨_, _, compiled, rfl⟩
  exact ⟨statement, after, .intro ⟨registered, typed⟩ played compiledAll⟩

/-- Hides the employees. -/
def hidingStaff : Config where
  dsn := "mysql://localhost"
  blacklist := {"staff"}

/-- Hides nothing. -/
def hidingNothing : Config where
  dsn := "mysql://replica"

/-- Hiding the only table leaves the documents as they are, though they refer to
it. -/
theorem run_hidingStaff :
    ∃ output,
      ((run ⟨hidingStaff, .builtin, .builtin⟩ [allStaff]).run.run
          staffConnection staffResults).1 = .ok output ∧
        output.tables = [] ∧
        AgreeUpToTables (.ok output)
          ((run ⟨hidingNothing, .builtin, .builtin⟩ [allStaff]).run.run
            staffConnection staffResults).1 ∧
        Shows ⟨hidingStaff, .builtin, .builtin⟩ [allStaff] staffConnection
          staffResults output := by
  have made :
      make hidingStaff = .ok ⟨hidingStaff, .builtin, .builtin⟩ :=
    make_eq_ok_iff.2 ⟨by decide +kernel, rfl⟩
  have otherMade :
      make hidingNothing = .ok ⟨hidingNothing, .builtin, .builtin⟩ :=
    make_eq_ok_iff.2 ⟨by decide +kernel, rfl⟩
  have agree : hidingStaff.AgreesUpToFilters hidingNothing := ⟨rfl, .rfl⟩
  obtain ⟨-, -, same, shows⟩ :=
    run_agrees_up_to_tables made otherMade agree [allStaff] staffConnection
      staffResults
  have typed :
      checkTypeMap hidingStaff (Catalog.MySql.driver .mySql) = .ok none := rfl
  obtain ⟨statement, after, produces⟩ := produces_allStaff rfl typed
  have ended := produces.run_eq
  rw [ended] at same
  refine ⟨_, ended, ?_, same, shows _ ended⟩
  simp [Output.expose, Config.selects, hidingStaff, staff]

end Staff

end Generator
end TypedSql
