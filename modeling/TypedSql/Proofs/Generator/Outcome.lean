import TypedSql.Generator
import TypedSql.Proofs.Catalog.Script
import TypedSql.Proofs.Statement.Compilation

/-!
# Outcomes of generator runs

What a run over a scripted connection comes to, and which queries it leaves.
The checks before the schema is loaded ask nothing.  After that, documents are
compiled one after the other up to the first one that fails.  A document that
cannot be configured fails before it is probed; one with a failing statement
fails by the first such statement, after all of its statements were probed.
-/

namespace TypedSql

open Catalog (Driver Script)

namespace Generator

/-! ## Single documents -/

/-- The probes of a document's statements, in order. -/
def documentProbes
    (directives : Directive.Registry)
    (driver : Driver)
    (schema : Schema)
    (document : Document) :
    List String :=
  match Chain.buildDocument directives schema driver.dialect document.text with
  | .ok chains => chains.flatMap Statement.probes
  | .error _ => []

/-- A statement of a document compiles on a scripted connection. -/
def CompilesTo
    (driver : Driver)
    (script : Script)
    (document : Document)
    (chain : Chain)
    (statement : Statement.Compiled) :
    Prop :=
  ((Statement.compile driver document.name chain).run Script.connection
    script).1 = .ok statement

/-- All statements of a document compile. -/
inductive DocumentCompiles
    (directives : Directive.Registry)
    (driver : Driver)
    (schema : Schema)
    (script : Script)
    (document : Document) :
    CompiledDocument → Prop where
  | intro
      {chains : List Chain}
      (built :
        Chain.buildDocument directives schema driver.dialect document.text =
          .ok chains)
      {statements : List Statement.Compiled}
      (compiled :
        List.Forall₂ (CompilesTo driver script document) chains statements) :
      DocumentCompiles directives driver schema script document
        { name := document.name, statements }

/-- A document cannot be configured, or a statement of it does not compile
while all before it do. -/
inductive DocumentFails
    (directives : Directive.Registry)
    (driver : Driver)
    (schema : Schema)
    (script : Script)
    (document : Document) :
    Error → Prop where
  | unbuilt
      {error : Template.Error}
      (refused :
        Chain.buildDocument directives schema driver.dialect document.text =
          .error error) :
      DocumentFails directives driver schema script document
        (.document document.name error)
  | statement
      {earlier : List Chain}
      {chain : Chain}
      {later : List Chain}
      (built :
        Chain.buildDocument directives schema driver.dialect document.text =
          .ok (earlier ++ chain :: later))
      (compiled :
        ∀ other ∈ earlier,
          ∃ statement, CompilesTo driver script document other statement)
      {failure : Statement.Failure}
      (failed :
        ((Statement.compile driver document.name chain).run Script.connection
          script).1 = .error failure) :
      DocumentFails directives driver schema script document
        (.statement failure)

/-- The results of statements are collected like steps that may fail. -/
theorem collect_map
    (compile : Chain → Except Statement.Failure Statement.Compiled)
    (chains : List Chain) :
    collect (chains.map compile) =
      chains.mapM fun chain => (compile chain).mapError Error.statement := by
  induction chains with
  | nil => rfl
  | cons chain rest inductionHypothesis =>
      rw [List.map_cons, List.mapM_cons, ← inductionHypothesis]
      cases compile chain with
      | error failure => rfl
      | ok compiled =>
          rw [collect, map_eq_pure_bind]
          rfl

section Documents

variable
  (directives : Directive.Registry)
  (driver : Driver)
  (schema : Schema)
  (script : Script)
  (document : Document)

theorem run_compile_fst (chain : Chain) :
    ((Statement.compile driver document.name chain).run Script.connection
      script).1 =
      script.value (Statement.compile driver document.name chain) := by
  rw [Script.run_connection]

/-- A document is built first.  All of its statements are compiled then, and the
first failure among them is picked afterwards. -/
theorem result_compileDocument :
    script.result (compileDocument directives driver schema document) =
      (do
        let chains ← buildChains directives driver schema document
        let statements ← chains.mapM fun chain =>
          (script.value (Statement.compile driver document.name chain)).mapError
            Error.statement
        pure { name := document.name, statements }) := by
  rw [compileDocument, Script.result_bind]
  apply congrArg
  funext chains
  rw [Script.result_bind, Script.result_lift, Statement.compileAll,
    Script.value_mapM]
  change script.result (_ >>= _) = _
  rw [Script.result_bind, ← collect_map]
  rfl

/-- A document compiles exactly if it can be built and all of its statements
compile. -/
theorem result_compileDocument_eq_ok_iff (compiled : CompiledDocument) :
    script.result (compileDocument directives driver schema document) =
        .ok compiled ↔
      DocumentCompiles directives driver schema script document compiled := by
  rw [result_compileDocument, Result.bind_eq_ok_iff]
  simp only [Result.bind_eq_ok_iff, Result.mapM_eq_ok_iff, buildChains,
    Result.mapError_eq_ok_iff, ← run_compile_fst]
  constructor
  · rintro ⟨chains, built, statements, related, ⟨⟩⟩
    exact .intro built related
  · rintro ⟨built, related⟩
    exact ⟨_, built, _, related, rfl⟩

/-- A document fails because it cannot be built, or by its first statement that
does not compile. -/
theorem result_compileDocument_eq_error_iff (error : Error) :
    script.result (compileDocument directives driver schema document) =
        .error error ↔
      DocumentFails directives driver schema script document error := by
  rw [result_compileDocument, Result.bind_eq_error_iff]
  simp only [Result.bind_eq_error_iff, Result.mapM_eq_error_iff, buildChains,
    Result.mapError_eq_ok_iff, Result.mapError_eq_error_iff, ← run_compile_fst]
  constructor
  · rintro (⟨cause, refused, rfl⟩ |
      ⟨chains, built,
        ⟨earlier, chain, later, rfl, compiled, failure, failed, rfl⟩ |
          ⟨_, _, ⟨⟩⟩⟩)
    · exact .unbuilt refused
    · exact .statement built compiled failed
  · intro fails
    cases fails with
    | unbuilt refused => exact .inl ⟨_, refused, rfl⟩
    | statement built compiled failed =>
        exact .inr ⟨_, built, .inl
          ⟨_, _, _, rfl, compiled, _, failed, rfl⟩⟩

theorem queries_compile (chain : Chain) :
    script.queries (Statement.compile driver document.name chain) =
      Statement.probes chain := by
  rw [← Script.map_query_exchanges, Statement.exchanges_compile, List.map_map]
  exact List.map_id _

/-- All statements of a document are probed, also those behind one that
fails. -/
theorem queries_compileDocument :
    script.queries
        (compileDocument directives driver schema document).run =
      documentProbes directives driver schema document := by
  have afterBuild (chains : List Chain) :
      script.queries
          (ExceptT.lift (Statement.compileAll driver document.name chains) >>=
            fun results => Step.ofExcept (collect results) >>=
              fun statements =>
                pure { name := document.name, statements } :
            Step CompiledDocument).run =
        chains.flatMap Statement.probes := by
    rw [Script.queries_run_bind, Script.queries_run_lift, Script.result_lift,
      Statement.compileAll, Script.queries_mapM]
    simp only [queries_compile]
    cases collect (script.value (chains.mapM
      (Statement.compile driver document.name))) <;>
      exact List.append_nil _
  unfold compileDocument documentProbes buildChains
  cases Chain.buildDocument directives schema driver.dialect document.text with
  | error error => rfl
  | ok chains => exact afterBuild chains

end Documents

/-! ## Whole runs -/

/-- The driver is registered, and the type map is in order if one is wanted. -/
structure ChecksPass
    (generator : Generator)
    (driver : Driver)
    (typeMap : Option TypeMap) :
    Prop where
  registered : generator.drivers.drivers[generator.config.driver]? = some driver
  typed : checkTypeMap generator.config driver = .ok typeMap

/-- What a run over a scripted connection comes to, and the script that it
leaves. -/
inductive Outcome
    (generator : Generator)
    (documents : List Document)
    (script : Script) :
    Except Error Output × Script → Prop where
  | unknownDriver
      (unknown : generator.drivers.drivers[generator.config.driver]? = none) :
      Outcome generator documents script
        (.error (.catalog (.unknownDriver generator.config.driver)), script)
  | typeMap
      {driver : Driver}
      (registered :
        generator.drivers.drivers[generator.config.driver]? = some driver)
      (wanted : generator.config.typeMap.isEmpty = false)
      {error : TypeMap.Error}
      (rejected :
        TypeMap.build generator.config.typeMap driver.dataTypes =
          .error error) :
      Outcome generator documents script (.error (.typeMap error), script)
  | load
      {driver : Driver}
      {typeMap : Option TypeMap}
      (checked : ChecksPass generator driver typeMap)
      {error : Catalog.Error}
      {loaded : Script}
      (failed :
        (Catalog.loadSchema driver).run.run Script.connection script =
          (.error error, loaded)) :
      Outcome generator documents script (.error (.catalog error), loaded)
  | document
      {driver : Driver}
      {typeMap : Option TypeMap}
      (checked : ChecksPass generator driver typeMap)
      {schema : Schema}
      {loaded : Script}
      (succeeded :
        (Catalog.loadSchema driver).run.run Script.connection script =
          (.ok schema, loaded))
      {before : List Document}
      {document : Document}
      {after : List Document}
      (split : documents = before ++ document :: after)
      (compiled :
        ∀ earlier ∈ before,
          ∃ result,
            DocumentCompiles generator.directives driver schema script earlier
              result)
      {error : Error}
      (failed :
        DocumentFails generator.directives driver schema script document
          error) :
      Outcome generator documents script
        (.error error,
          loaded.recordAll
            ((before ++ [document]).flatMap
              (documentProbes generator.directives driver schema)))
  | success
      {driver : Driver}
      {typeMap : Option TypeMap}
      (checked : ChecksPass generator driver typeMap)
      {schema : Schema}
      {loaded : Script}
      (succeeded :
        (Catalog.loadSchema driver).run.run Script.connection script =
          (.ok schema, loaded))
      {results : List CompiledDocument}
      (compiled :
        List.Forall₂
          (DocumentCompiles generator.directives driver schema script)
          documents results) :
      Outcome generator documents script
        (.ok
          { driver := driver.name
            tables := schema.tables.filter fun table =>
              generator.config.selects table.name
            typeMap
            documents := results },
          loaded.recordAll
            (documents.flatMap
              (documentProbes generator.directives driver schema)))

/-- The documents and the output of a run whose schema is loaded. -/
def finish
    (generator : Generator)
    (documents : List Document)
    (driver : Driver)
    (typeMap : Option TypeMap)
    (schema : Schema) :
    Step Output := do
  let compiled ←
    documents.mapM (compileDocument generator.directives driver schema)
  pure
    { driver := driver.name
      tables := schema.tables.filter fun table =>
        generator.config.selects table.name
      typeMap
      documents := compiled }

/-- The driver and the type map are looked at before anything is asked. -/
theorem run_eq (generator : Generator) (documents : List Document) :
    generator.run documents = (do
      let driver ← Step.ofExcept generator.driver
      let typeMap ← Step.ofExcept (checkTypeMap generator.config driver)
      let schema ← loadSchema driver
      finish generator documents driver typeMap schema) :=
  rfl

section Runs

variable
  {generator : Generator}
  {documents : List Document}
  {script : Script}
  {driver : Driver}
  {typeMap : Option TypeMap}
  {schema : Schema}

theorem driver_eq_ok_iff :
    generator.driver = .ok driver ↔
      generator.drivers.drivers[generator.config.driver]? = some driver := by
  rw [Generator.driver, Catalog.DriverRegistry.get]
  cases generator.drivers.drivers[generator.config.driver]? <;> simp

/-- After the checks, which ask nothing, a run goes on to load the schema. -/
theorem ChecksPass.plays_run
    (checked : ChecksPass generator driver typeMap)
    {outcome : Except Error Output}
    {asked : List String}
    (onward :
      script.Plays
        (loadSchema driver >>= finish generator documents driver typeMap)
        outcome asked) :
    script.Plays (generator.run documents) outcome asked := by
  rw [run_eq, driver_eq_ok_iff.2 checked.registered]
  change script.Plays
    (Step.ofExcept (checkTypeMap generator.config driver) >>= _) _ _
  rw [checked.typed]
  exact onward

/-- The documents before the first one that fails are probed, so is this one,
and those behind it are not. -/
theorem plays_documents_of_fails
    {before : List Document}
    (compiled :
      ∀ earlier ∈ before,
        ∃ result,
          DocumentCompiles generator.directives driver schema script earlier
            result)
    {document : Document}
    {error : Error}
    (failed :
      DocumentFails generator.directives driver schema script document error)
    (after : List Document) :
    script.Plays
      ((before ++ document :: after).mapM
        (compileDocument generator.directives driver schema))
      (.error error)
      ((before ++ [document]).flatMap
        (documentProbes generator.directives driver schema)) := by
  simp only [← result_compileDocument_eq_ok_iff] at compiled
  rw [← result_compileDocument_eq_error_iff] at failed
  constructor
  · rw [Script.result_mapM, Result.mapM_eq_error_iff]
    exact ⟨before, document, after, rfl, compiled, failed⟩
  · rw [Script.queries_run_mapM_append _ _ compiled,
      Script.queries_run_mapM_cons_of_error _ _ failed]
    simp only [queries_compileDocument, List.flatMap_append,
      List.flatMap_singleton]

/-- If all documents compile, all of them are probed. -/
theorem plays_documents_of_compiles
    {results : List CompiledDocument}
    (compiled :
      List.Forall₂ (DocumentCompiles generator.directives driver schema script)
        documents results) :
    script.Plays
      (documents.mapM (compileDocument generator.directives driver schema))
      (.ok results)
      (documents.flatMap
        (documentProbes generator.directives driver schema)) := by
  constructor
  · rw [Script.result_mapM, Result.mapM_eq_ok_iff]
    simp only [result_compileDocument_eq_ok_iff]
    exact compiled
  · have each :
        ∀ document ∈ documents,
          ∃ result,
            script.result
                (compileDocument generator.directives driver schema document) =
              .ok result := by
      intro document member
      obtain ⟨result, _, compiles⟩ :=
        Result.exists_of_mem_right (List.Forall₂.flip compiled) member
      exact ⟨result,
        (result_compileDocument_eq_ok_iff _ _ _ _ _ _).2 compiles⟩
    have asked := script.queries_run_mapM_append _ each []
    simp only [List.append_nil, queries_compileDocument] at asked
    rw [asked]
    exact List.append_nil _

/-- An outcome that can be derived is what the run comes to. -/
theorem Outcome.run_eq
    {outcome : Except Error Output × Script}
    (holds : Outcome generator documents script outcome) :
    (generator.run documents).run.run Script.connection script = outcome := by
  cases holds with
  | unknownDriver unknown =>
      rw [Generator.run_eq, Generator.driver, Catalog.DriverRegistry.get,
        unknown]
      rfl
  | typeMap registered wanted rejected =>
      rw [Generator.run_eq, driver_eq_ok_iff.2 registered]
      change (Step.ofExcept (checkTypeMap generator.config _) >>= _).run.run
        _ _ = _
      rw [checkTypeMap, wanted, if_neg Bool.false_ne_true, rejected]
      rfl
  | load checked failed =>
      obtain ⟨asked, plays, rfl⟩ := Script.exists_plays_of_run failed
      exact (checked.plays_run
        ((plays.adapt Error.catalog).bind_error _)).run
  | document checked succeeded split compiled failed =>
      obtain ⟨asked, plays, rfl⟩ := Script.exists_plays_of_run succeeded
      have documentsPlay := plays_documents_of_fails compiled failed
      subst split
      rw [Script.recordAll_recordAll]
      exact (checked.plays_run
        ((plays.adapt Error.catalog).bind_ok
          ((documentsPlay _).bind_error _))).run
  | success checked succeeded compiled =>
      obtain ⟨asked, plays, rfl⟩ := Script.exists_plays_of_run succeeded
      have documentsPlay := plays_documents_of_compiles compiled
      rw [Script.recordAll_recordAll, ← List.append_nil (List.flatMap _ _)]
      exact (checked.plays_run
        ((plays.adapt Error.catalog).bind_ok
          (documentsPlay.bind_ok (script.plays_done (.ok _))))).run

/-- A type map is rejected for what it contains; an empty one never is. -/
theorem rejected_of_checkTypeMap
    {error : Error}
    (failed : checkTypeMap generator.config driver = .error error) :
    generator.config.typeMap.isEmpty = false ∧
      ∃ cause,
        TypeMap.build generator.config.typeMap driver.dataTypes =
          .error cause := by
  unfold checkTypeMap at failed
  split at failed
  · cases failed
  next wanted =>
    refine ⟨Bool.eq_false_iff.2 wanted, ?_⟩
    split at failed
    · cases failed
    next cause rejected => exact ⟨cause, rejected⟩

/-- Once the schema is loaded, either all documents compile or one of them is
the first to fail. -/
theorem exists_outcome_of_loaded
    (checked : ChecksPass generator driver typeMap)
    {loaded : Script}
    (succeeded :
      (Catalog.loadSchema driver).run.run Script.connection script =
        (.ok schema, loaded)) :
    ∃ outcome, Outcome generator documents script outcome := by
  cases compiling :
      documents.mapM fun document => script.result
        (compileDocument generator.directives driver schema document) with
  | error error =>
      obtain ⟨before, document, after, split, compiled, failed⟩ :=
        Result.mapM_eq_error_iff.1 compiling
      simp only [result_compileDocument_eq_ok_iff] at compiled
      rw [result_compileDocument_eq_error_iff] at failed
      exact ⟨_, .document checked succeeded split compiled failed⟩
  | ok results =>
      have compiled := Result.mapM_eq_ok_iff.1 compiling
      simp only [result_compileDocument_eq_ok_iff] at compiled
      exact ⟨_, .success checked succeeded compiled⟩

end Runs

/-- Every run has an outcome. -/
theorem exists_outcome
    (generator : Generator)
    (documents : List Document)
    (script : Script) :
    ∃ outcome, Outcome generator documents script outcome := by
  cases registered :
      generator.drivers.drivers[generator.config.driver]? with
  | none => exact ⟨_, .unknownDriver registered⟩
  | some driver =>
      cases typed : checkTypeMap generator.config driver with
      | error error =>
          obtain ⟨wanted, _, rejected⟩ := rejected_of_checkTypeMap typed
          exact ⟨_, .typeMap registered wanted rejected⟩
      | ok typeMap =>
          rcases loading :
              (Catalog.loadSchema driver).run.run Script.connection script
            with ⟨error | schema, loaded⟩
          · exact ⟨_, .load ⟨registered, typed⟩ loading⟩
          · exact exists_outcome_of_loaded ⟨registered, typed⟩ loading

/-- The outcome of a run over a scripted connection. -/
theorem run_eq_iff_outcome
    (generator : Generator)
    (documents : List Document)
    (script : Script)
    (outcome : Except Error Output × Script) :
    (generator.run documents).run.run Script.connection script = outcome ↔
      Outcome generator documents script outcome := by
  constructor
  · rintro rfl
    obtain ⟨outcome, holds⟩ := exists_outcome generator documents script
    rw [holds.run_eq]
    exact holds
  · exact Outcome.run_eq

end Generator
end TypedSql
