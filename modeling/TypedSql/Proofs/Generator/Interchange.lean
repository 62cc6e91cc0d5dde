import TypedSql.Proofs.Dialect
import TypedSql.Proofs.Generator.Exposure

/-!
# Interchangeable drivers

The drivers of the MySQL family differ in their names and their dialects.  A
run reads the name for its output only, and it reads the dialect only in order
to quote identifiers, which is the same for all dialects of the family.  So
runs with different drivers of the family hold the same conversation with the
database, and they come to the same error or to the same output but for the
name of the driver.
-/

namespace TypedSql

open Catalog (Connection Dialogue Driver DriverRegistry)

/-! ## Directives -/

namespace Directive

/-- A kind of directive is configured in the same way for all dialects. -/
def Kind.IgnoresDialect (kind : Kind) : Prop :=
  ∀ (statement : String) (schema : Schema) (left right : Dialect),
    kind.configure ⟨statement, schema, left⟩ =
      kind.configure ⟨statement, schema, right⟩

theorem ignoresDialect_literal (text : String) :
    (literal text).IgnoresDialect :=
  fun _ _ _ _ => rfl

theorem ignoresDialect_replacement : replacement.IgnoresDialect :=
  fun _ _ _ _ => rfl

/-- Arguments are placeholders in every dialect. -/
theorem ignoresDialect_argument : argument.IgnoresDialect :=
  fun _ _ _ _ => rfl

/-- A wildcard only reads the dialect in order to quote names. -/
theorem ignoresDialect_wildcard : wildcard.IgnoresDialect := by
  intro statement schema left right
  have listed : columnList left = columnList right := by
    funext qualifier table
    rw [columnList, columnList, Dialect.quote_congr left right]
  have written :
      wildcardText ⟨statement, schema, left⟩ =
        wildcardText ⟨statement, schema, right⟩ := by
    funext node
    unfold wildcardText
    rw [listed]
    rfl
  simp only [wildcard, written]

/-- All kinds of a registry are configured in the same way for all dialects. -/
def Registry.IgnoresDialect (registry : Registry) : Prop :=
  ∀ tag kind, registry.kind? tag = some kind → kind.IgnoresDialect

/-- All dialects quote names in the same way, so wildcards ignore the dialect
like the others. -/
theorem ignoresDialect_builtin : Registry.builtin.IgnoresDialect := by
  intro tag kind found
  obtain ⟨-, rfl⟩ | ⟨-, rfl⟩ | ⟨-, rfl⟩ := kind?_builtin_eq_some_iff.1 found
  · exact ignoresDialect_replacement
  · exact ignoresDialect_argument
  · exact ignoresDialect_wildcard

end Directive

/-! ## Chains -/

namespace Chain

variable
  {registry : Directive.Registry}
  (ignores : registry.IgnoresDialect)
  (schema : Schema)
  (left right : Dialect)

include ignores

theorem ignoresDialect_of_kindOf
    {statement : String}
    {node : Template.Node}
    {kind : Directive.Kind}
    (found : kindOf registry statement node = .ok kind) :
    kind.IgnoresDialect := by
  unfold kindOf at found
  split at found
  next =>
    cases found
    exact Directive.ignoresDialect_literal ""
  next element =>
    split at found
    next known =>
      cases found
      exact ignores element.tag kind known
    next => cases found

theorem configureNode_congr
    (statement : String)
    (arguments : List Argument)
    (node : Template.Node) :
    configureNode registry ⟨statement, schema, left⟩ arguments node =
      configureNode registry ⟨statement, schema, right⟩ arguments node := by
  unfold configureNode
  cases found : kindOf registry statement node with
  | error error => rfl
  | ok kind =>
      have same := ignoresDialect_of_kindOf ignores found statement schema left
        right
      change Directive.configured kind _ arguments node =
        Directive.configured kind _ arguments node
      rw [Directive.configured, Directive.configured, same]

/-- The dialect makes no difference to a list of nodes. -/
theorem configureNodes_congr
    (statement : String)
    (arguments : List Argument)
    (nodes : List Template.Node) :
    configureNodes registry ⟨statement, schema, left⟩ arguments nodes =
      configureNodes registry ⟨statement, schema, right⟩ arguments nodes := by
  induction nodes generalizing arguments with
  | nil => rfl
  | cons node rest inductionHypothesis =>
      simp only [configureNodes, configureNode_congr ignores schema left right,
        inductionHypothesis]

theorem buildDocument_congr (text : String) :
    buildDocument registry schema left text =
      buildDocument registry schema right text := by
  have same : build registry schema left = build registry schema right := by
    funext statement
    rw [build, build, configureNodes_congr ignores schema left right]
  rw [buildDocument, buildDocument, same]

end Chain

/-! ## Drivers -/

namespace Catalog

/-- The same driver under another name and with another dialect; its queries
stay as they are. -/
def Driver.relabel (driver : Driver) (name : String) (dialect : Dialect) :
    Driver :=
  { driver with name, dialect }

/-- The drivers of the family only differ in their names and their dialects,
since these all quote alike. -/
theorem MySql.driver_eq_relabel (left right : Dialect) :
    MySql.driver left = (MySql.driver right).relabel left.name left := by
  unfold MySql.driver Driver.relabel
  rw [Dialect.quote_congr left right]

end Catalog

/-! ## Runs -/

namespace Generator

open Catalog (staffConnection staffResults)

/-- The output of another driver. -/
def Output.relabel (name : String) (output : Output) : Output :=
  { output with driver := name }

/-- Neither the name nor the dialect of a driver has a part in compiling a
document. -/
theorem compileDocument_relabel
    {directives : Directive.Registry}
    (ignores : directives.IgnoresDialect)
    (driver : Driver)
    (name : String)
    (dialect : Dialect)
    (schema : Schema) :
    compileDocument directives (driver.relabel name dialect) schema =
      compileDocument directives driver schema := by
  funext document
  have configured :
      buildChains directives (driver.relabel name dialect) schema document =
        buildChains directives driver schema document := by
    rw [buildChains, buildChains,
      Chain.buildDocument_congr ignores schema _ driver.dialect]
  unfold compileDocument
  rw [configured]
  -- Statements are probed and classified by the driver itself, whose name and
  -- dialect these steps do not read.
  rfl

/-- What a run does once it knows its driver. -/
def runWith
    (generator : Generator)
    (driver : Driver)
    (documents : List Document) :
    Step Output := do
  let typeMap ← Step.ofExcept (checkTypeMap generator.config driver)
  let schema ← loadSchema driver
  finish generator documents driver typeMap schema

/-- The label of a driver has a part in the label of the output only. -/
theorem runWith_relabel
    {generator : Generator}
    (ignores : generator.directives.IgnoresDialect)
    (driver : Driver)
    (name : String)
    (dialect : Dialect)
    (documents : List Document) :
    generator.runWith (driver.relabel name dialect) documents =
      Output.relabel name <$> generator.runWith driver documents := by
  simp only [runWith, finish, compileDocument_relabel ignores, map_bind,
    map_pure]
  rfl

/-- A run depends on the registry by the driver that it finds there. -/
theorem run_of_driver
    {generator : Generator}
    {driver : Driver}
    (registered :
      generator.drivers.drivers[generator.config.driver]? = some driver)
    (documents : List Document) :
    generator.run documents = generator.runWith driver documents := by
  rw [run_eq, driver_eq_ok_iff.2 registered]
  rfl

/-- A run with the built-in drivers and directives, of a configuration that is
checked first. -/
def runBuiltin (config : Config) (documents : List Document) : Step Output := do
  let generator ← Step.ofExcept (make config)
  generator.run documents

theorem runBuiltin_of_make
    {config : Config}
    {generator : Generator}
    (made : make config = .ok generator)
    (documents : List Document) :
    runBuiltin config documents = generator.run documents := by
  rw [runBuiltin, made]
  rfl

/-- The name that a configuration gives to its driver decides how the output is
labelled, and nothing else. -/
theorem runBuiltin_eq_map
    (config : Config)
    (left right : Dialect)
    (documents : List Document) :
    runBuiltin { config with driver := left.name } documents =
      Output.relabel left.name <$>
        runBuiltin { config with driver := right.name } documents := by
  have named (dialect : Dialect) : dialect.name.isEmpty = false := by
    cases dialect <;> rfl
  have valid :
      Config.validate { config with driver := left.name } =
        Config.validate { config with driver := right.name } := by
    simp only [Config.validate, named]
  rw [runBuiltin, runBuiltin, make, make, valid]
  cases Config.validate { config with driver := right.name } with
  | error error => rfl
  | ok =>
      change run _ documents = Output.relabel left.name <$> run _ documents
      rw [run_of_driver (getElem?_builtin left),
        run_of_driver (getElem?_builtin right),
        Catalog.MySql.driver_eq_relabel left right,
        runWith_relabel Directive.ignoresDialect_builtin]
      rfl

/-! ## Runs with different drivers -/

/-- Two results are the same error, or outputs of two drivers that only differ
in the names of these. -/
inductive AgreeUpToDriver (left right : String) :
    Except Error Output → Except Error Output → Prop where
  | error (error : Error) :
      AgreeUpToDriver left right (.error error) (.error error)
  | ok
      {leftOutput rightOutput : Output}
      (left_driver : leftOutput.driver = left)
      (right_driver : rightOutput.driver = right)
      (tables_eq : leftOutput.tables = rightOutput.tables)
      (typeMap_eq : leftOutput.typeMap = rightOutput.typeMap)
      (documents_eq : leftOutput.documents = rightOutput.documents) :
      AgreeUpToDriver left right (.ok leftOutput) (.ok rightOutput)

theorem exists_dialect_of_mem
    {name : String}
    (member : name ∈ ["mysql", "mariadb", "tidb"]) :
    ∃ dialect : Dialect, dialect.name = name := by
  simp only [List.mem_cons, List.not_mem_nil, or_false] at member
  obtain rfl | rfl | rfl := member
  · exact ⟨.mySql, rfl⟩
  · exact ⟨.mariaDb, rfl⟩
  · exact ⟨.tiDb, rfl⟩

/-- The names of the built-in drivers can be exchanged in a configuration, be it
valid or not: both runs hold the same conversation with a database, and they
come to the same error or to outputs that differ in the name of the driver
only. -/
theorem run_agrees_up_to_driver
    (config : Config)
    {left right : String}
    (leftBuiltin : left ∈ ["mysql", "mariadb", "tidb"])
    (rightBuiltin : right ∈ ["mysql", "mariadb", "tidb"])
    (documents : List Document)
    {σ : Type}
    (connection : Connection σ)
    (state : σ) :
    (runBuiltin { config with driver := left } documents).run.exchanges
          connection state =
        (runBuiltin { config with driver := right } documents).run.exchanges
          connection state ∧
      ((runBuiltin { config with driver := left } documents).run.run
            connection state).2 =
          ((runBuiltin { config with driver := right } documents).run.run
            connection state).2 ∧
      AgreeUpToDriver left right
        ((runBuiltin { config with driver := left } documents).run.run
          connection state).1
        ((runBuiltin { config with driver := right } documents).run.run
          connection state).1 := by
  obtain ⟨left, rfl⟩ := exists_dialect_of_mem leftBuiltin
  obtain ⟨right, rfl⟩ := exists_dialect_of_mem rightBuiltin
  rw [runBuiltin_eq_map config left .mySql,
    runBuiltin_eq_map config right .mySql, ExceptT.run_map, ExceptT.run_map]
  refine ⟨?_, ?_, ?_⟩
  · rw [Dialogue.exchanges_map, Dialogue.exchanges_map]
  · rw [Dialogue.run_map, Dialogue.run_map]
  · rw [Dialogue.run_map, Dialogue.run_map]
    cases ((runBuiltin { config with driver := Dialect.mySql.name }
      documents).run.run connection state).1 with
    | error error => exact .error error
    | ok output => exact .ok rfl rfl rfl rfl rfl

/-- The staff are queried in the same way under two names. -/
theorem run_allStaff_interchanged :
    "mysql" ∈ ["mysql", "mariadb", "tidb"] ∧
      "tidb" ∈ ["mysql", "mariadb", "tidb"] ∧
      ∃ left right,
        ((runBuiltin { hidingNothing with driver := "mysql" }
            [allStaff]).run.run staffConnection staffResults).1 = .ok left ∧
          ((runBuiltin { hidingNothing with driver := "tidb" }
              [allStaff]).run.run staffConnection staffResults).1 = .ok right ∧
          (left.driver = "mysql" ∧ right.driver = "tidb") ∧
          left.tables = right.tables ∧
          left.typeMap = right.typeMap ∧
          left.documents = right.documents := by
  have leftBuiltin : "mysql" ∈ ["mysql", "mariadb", "tidb"] := by decide
  have rightBuiltin : "tidb" ∈ ["mysql", "mariadb", "tidb"] := by decide
  obtain ⟨-, -, agree⟩ :=
    run_agrees_up_to_driver hidingNothing leftBuiltin rightBuiltin [allStaff]
      staffConnection staffResults
  have made :
      make { hidingNothing with driver := "mysql" } =
        .ok ⟨{ hidingNothing with driver := "mysql" }, .builtin, .builtin⟩ :=
    make_eq_ok_iff.2 ⟨by decide +kernel, rfl⟩
  have typed :
      checkTypeMap { hidingNothing with driver := "mysql" }
          (Catalog.MySql.driver .mySql) =
        .ok none :=
    rfl
  obtain ⟨_, _, produces⟩ := produces_allStaff rfl typed
  rw [runBuiltin_of_make made, produces.run_eq] at agree ⊢
  generalize ((runBuiltin { hidingNothing with driver := "tidb" }
    [allStaff]).run.run staffConnection staffResults).1 = result at agree ⊢
  cases agree with
  | ok left_driver right_driver tables_eq typeMap_eq documents_eq =>
      exact ⟨leftBuiltin, rightBuiltin, _, _, rfl, rfl,
        ⟨left_driver, right_driver⟩, tables_eq, typeMap_eq, documents_eq⟩

end Generator
end TypedSql
