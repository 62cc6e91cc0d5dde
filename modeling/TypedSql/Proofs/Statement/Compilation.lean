import TypedSql.Proofs.Result
import TypedSql.Statement.Compilation

/-!
# Compiled statements

A statement is compiled with one round trip if it is a query whose probe can
be assembled, and with none otherwise.  What comes out is told by the texts of
the directives, by the answer to the probe and by the adjustments, each of
which goes on from where the one before it stopped.
-/

namespace TypedSql

/-! ## Adjustments -/

/-- Directives lead from one result shape to another, each of them from the
shape that the ones before it have left. -/
inductive Adjusts : List Directive → ResultShape → ResultShape → Prop where
  | nil (shape : ResultShape) : Adjusts [] shape shape
  | cons
      {directive : Directive}
      {rest : List Directive}
      {start next last : ResultShape}
      (adjusted : directive.adjust.run.run start = (.ok (), next))
      (onward : Adjusts rest next last) :
      Adjusts (directive :: rest) start last

/-- The directives adjust the result one after the other, until one of them
fails. -/
theorem run_forM_adjust_cons
    (directive : Directive)
    (rest : List Directive)
    (start : ResultShape) :
    ((directive :: rest).forM (·.adjust)).run.run start =
      match directive.adjust.run.run start with
      | (.ok (), next) => (rest.forM (·.adjust)).run.run next
      | (.error error, next) => (.error error, next) := by
  change ((directive.adjust >>= fun _ => rest.forM (·.adjust)).run.run
    start) = _
  rw [ExceptT.run_bind, StateT.run_bind]
  rcases directive.adjust.run.run start with ⟨_ | _, _⟩ <;> rfl

/-- The chain of adjustments is what the loop over the directives does. -/
theorem adjusts_iff_forM
    {directives : List Directive}
    {start last : ResultShape} :
    Adjusts directives start last ↔
      (directives.forM (·.adjust)).run.run start = (.ok (), last) := by
  induction directives generalizing start with
  | nil =>
      constructor
      · intro adjusts
        cases adjusts
        rfl
      · intro same
        cases same
        exact .nil _
  | cons directive rest inductionHypothesis =>
      rw [run_forM_adjust_cons]
      constructor
      · intro adjusts
        cases adjusts with
        | cons adjusted onward =>
            rw [adjusted]
            exact inductionHypothesis.1 onward
      · intro succeeded
        split at succeeded
        next next adjusted =>
          exact .cons adjusted (inductionHypothesis.2 succeeded)
        next => cases succeeded

/-- There are as many names as types, and the columns are made of them, place
by place. -/
structure ResultShape.Describes
    (shape : ResultShape)
    (columns : List Column) :
    Prop where
  sameLength : shape.names.length = shape.types.length
  length_eq : columns.length = shape.names.length
  column
    (position : Nat)
    (name : String)
    (type : ResultType)
    (named : shape.names[position]? = some name)
    (typed : shape.types[position]? = some type) :
    columns[position]? =
      some
        { name
          position
          dataType := type.dataType
          nullable := type.nullable
          table := none }

namespace Statement

open Catalog (Connection Dialogue Driver Exchange Answer)

/-- A column of the result has the name and the type at its place. -/
theorem getElem?_columnsOfShape
    {shape : ResultShape}
    {position : Nat}
    {name : String}
    {type : ResultType}
    (named : shape.names[position]? = some name)
    (typed : shape.types[position]? = some type) :
    (columnsOfShape shape)[position]? =
      some
        { name
          position
          dataType := type.dataType
          nullable := type.nullable } := by
  have paired : (shape.names.zip shape.types)[position]? = some (name, type) :=
    List.getElem?_zip_eq_some.2 ⟨named, typed⟩
  rw [columnsOfShape, List.getElem?_map, List.getElem?_zipIdx, paired,
    Option.map_some, Option.map_some, Nat.zero_add]

/-- The columns of a shape are the only ones that it describes. -/
theorem describes_iff {shape : ResultShape} {columns : List Column} :
    shape.Describes columns ↔
      shape.names.length = shape.types.length ∧
        columns = columnsOfShape shape := by
  have length_columnsOfShape
      (sameLength : shape.names.length = shape.types.length) :
      (columnsOfShape shape).length = shape.names.length := by
    rw [columnsOfShape, List.length_map, List.length_zipIdx, List.length_zip,
      ← sameLength, Nat.min_self]
  constructor
  · intro describes
    have sameLength := describes.sameLength
    refine ⟨sameLength, List.ext_getElem? fun position => ?_⟩
    by_cases inside : position < shape.names.length
    · have named := List.getElem?_eq_getElem inside
      have typed := List.getElem?_eq_getElem (sameLength ▸ inside)
      rw [describes.column position _ _ named typed,
        getElem?_columnsOfShape named typed]
    · rw [Nat.not_lt] at inside
      rw [List.getElem?_eq_none (describes.length_eq ▸ inside),
        List.getElem?_eq_none (length_columnsOfShape sameLength ▸ inside)]
  · rintro ⟨sameLength, rfl⟩
    exact
      { sameLength
        length_eq := length_columnsOfShape sameLength
        column := fun _ _ _ named typed => getElem?_columnsOfShape named typed }

/-- The columns of a result are known if all directives agree to adjust them,
and as many names as types are left. -/
theorem resultColumns_eq_ok_iff
    {chain : Chain}
    {discovered columns : List Column} :
    resultColumns chain discovered = .ok columns ↔
      ∃ shape,
        Adjusts chain.directives (.ofColumns discovered) shape ∧
          shape.Describes columns := by
  simp only [adjusts_iff_forM, describes_iff]
  unfold resultColumns Chain.adjust
  rcases (chain.directives.forM (·.adjust)).run.run (.ofColumns discovered)
    with ⟨error | ⟨⟩, shape⟩
  · constructor
    · intro impossible
      cases impossible
    · rintro ⟨_, ⟨⟩, _⟩
  · constructor
    · intro built
      change (if shape.names.length = shape.types.length then _ else _) = _
        at built
      by_cases sameLength : shape.names.length = shape.types.length
      · rw [if_pos sameLength] at built
        exact ⟨shape, rfl, sameLength, (Except.ok.inj built).symm⟩
      · rw [if_neg sameLength] at built
        cases built
    · rintro ⟨_, ⟨⟩, sameLength, rfl⟩
      exact if_pos sameLength

/-! ## Phases -/

/-- What becomes of a query whose probe was put to the database. -/
def ofDescribed
    (document : String)
    (chain : Chain)
    (text probe : String)
    (described : Except Catalog.Error (List Column)) :
    Except Failure Compiled :=
  let fail (cause : Cause) : Except Failure Compiled :=
    .error
      { document, statement := chain.name, query := some probe, cause }
  match described with
  | .error error => fail (.catalog error)
  | .ok discovered =>
    match resultColumns chain discovered with
    | .error cause => fail cause
    | .ok columns =>
      .ok
        { source := chain
          kind := .detect text
          text
          probe := some probe
          columns }

/-- A query compiles once its columns are described and adjusted. -/
theorem ofDescribed_eq_ok_iff
    {document : String}
    {chain : Chain}
    {text probe : String}
    {described : Except Catalog.Error (List Column)}
    {compiled : Compiled} :
    ofDescribed document chain text probe described = .ok compiled ↔
      ∃ discovered columns,
        described = .ok discovered ∧
          resultColumns chain discovered = .ok columns ∧
          compiled =
            { source := chain
              kind := .detect text
              text
              probe := some probe
              columns } := by
  unfold ofDescribed
  cases described with
  | error error =>
      constructor
      · intro impossible
        cases impossible
      · rintro ⟨_, _, ⟨⟩, _⟩
  | ok discovered =>
      constructor
      · intro succeeded
        dsimp only at succeeded
        cases shaped : resultColumns chain discovered with
        | error cause =>
            rw [shaped] at succeeded
            cases succeeded
        | ok columns =>
            rw [shaped] at succeeded
            exact ⟨discovered, columns, rfl, shaped,
              (Except.ok.inj succeeded).symm⟩
      · rintro ⟨_, columns, ⟨⟩, shaped, rfl⟩
        simp only [shaped]

section Phases

variable
  (driver : Driver)
  (document : String)
  {chain : Chain}

theorem run_queryColumns (query : String) :
    (driver.queryColumns query).run =
      .describe query fun answer => .done (answer >>= driver.classify) := by
  apply congrArg (Dialogue.describe query)
  funext answer
  cases answer <;> rfl

/-- If the text cannot be assembled, nothing is asked. -/
theorem compile_of_final_error
    {error : Template.Error}
    (assembled : chain.final = .error error) :
    compile driver document chain =
      .done
        (.error
          { document
            statement := chain.name
            query := none
            cause := .template error }) := by
  simp only [compile, assembled]
  rfl

/-- A statement that is no query is compiled without asking. -/
theorem compile_of_not_select
    {text : String}
    (assembled : chain.final = .ok text)
    (notQuery : StatementKind.detect text ≠ .select) :
    compile driver document chain =
      .done
        (.ok
          { source := chain
            kind := .detect text
            text
            probe := none
            columns := [] }) := by
  simp only [compile, assembled, if_neg notQuery]
  rfl

/-- If the text to be probed cannot be assembled, nothing is asked either. -/
theorem compile_of_probe_error
    {text : String}
    (assembled : chain.final = .ok text)
    (query : StatementKind.detect text = .select)
    {error : Template.Error}
    (probed : chain.probe = .error error) :
    compile driver document chain =
      .done
        (.error
          { document
            statement := chain.name
            query := none
            cause := .template error }) := by
  simp only [compile, assembled, if_pos query, probed]
  rfl

/-- A query asks for the description of its probe, and this is all that it
asks. -/
theorem compile_of_probe
    {text probe : String}
    (assembled : chain.final = .ok text)
    (query : StatementKind.detect text = .select)
    (probed : chain.probe = .ok probe) :
    compile driver document chain =
      .describe probe fun answer =>
        .done
          (ofDescribed document chain text probe
            (answer >>= driver.classify)) := by
  simp only [compile, assembled, if_pos query, probed, run_queryColumns,
    Dialogue.describe_bind, Dialogue.done_bind]
  apply congrArg (Dialogue.describe probe)
  funext answer
  unfold ofDescribed
  cases answer >>= driver.classify with
  | error error => rfl
  | ok discovered =>
      dsimp only
      cases resultColumns chain discovered <;> rfl

end Phases

/-! ## Round trips -/

/-- The queries that are put to the database for a statement: the probe, if
the statement is a query and its texts can be assembled. -/
def probes (chain : Chain) : List String :=
  match chain.final, chain.probe with
  | .ok text, .ok probe =>
    if StatementKind.detect text = .select then [probe] else []
  | _, _ => []

theorem length_probes_le (chain : Chain) : (probes chain).length ≤ 1 := by
  unfold probes
  split
  · split
    · exact Nat.le_refl 1
    · exact Nat.zero_le 1
  · exact Nat.zero_le 1

/-- What is probed is a query both of whose texts can be assembled. -/
theorem mem_probes_iff {chain : Chain} {probe : String} :
    probe ∈ probes chain ↔
      ∃ text,
        chain.final = .ok text ∧
          StatementKind.detect text = .select ∧ chain.probe = .ok probe := by
  unfold probes
  cases chain.final <;> cases chain.probe <;>
    simp only [List.not_mem_nil, reduceCtorEq, false_and, and_false,
      exists_false, Except.ok.injEq, exists_eq_left']
  split
  next query => simp [query, eq_comm]
  next notQuery => simp [notQuery]

/-- Compiling describes the probe and asks nothing else. -/
theorem exchanges_compile
    (driver : Driver)
    (document : String)
    (chain : Chain)
    {σ : Type}
    (connection : Connection σ)
    (state : σ) :
    (compile driver document chain).exchanges connection state =
      (probes chain).map fun probe =>
        .described probe (connection.describe probe state).1 := by
  unfold probes
  cases assembled : chain.final with
  | error error =>
      rw [compile_of_final_error driver document assembled]
      rfl
  | ok text =>
      by_cases query : StatementKind.detect text = .select
      · cases probed : chain.probe with
        | error error =>
            rw [compile_of_probe_error driver document assembled query probed]
            rfl
        | ok probe =>
            rw [compile_of_probe driver document assembled query probed]
            simp only [if_pos query]
            rfl
      · rw [compile_of_not_select driver document assembled query]
        cases chain.probe with
        | error error => rfl
        | ok probe =>
            simp only [if_neg query]
            rfl

/-! ## Results -/

/-- What a compiled statement is, given how the database describes queries. -/
structure Compiled.IsResult
    (compiled : Compiled)
    (driver : Driver)
    (chain : Chain)
    (describe : String → Answer (List Catalog.RawColumn)) :
    Prop where
  source : compiled.source = chain
  text : chain.final = .ok compiled.text
  kind : compiled.kind = .detect compiled.text
  unprobed (notQuery : compiled.kind ≠ .select) :
    compiled.probe = none ∧ compiled.columns = []
  probed (query : compiled.kind = .select) :
    ∃ probe described classified shape,
      compiled.probe = some probe ∧
        chain.probe = .ok probe ∧
        describe probe = .ok described ∧
        driver.classify described = .ok classified ∧
        Adjusts chain.directives (.ofColumns classified) shape ∧
        shape.Describes compiled.columns

theorem isResult_iff_of_not_select
    {driver : Driver}
    {chain : Chain}
    {describe : String → Answer (List Catalog.RawColumn)}
    {text : String}
    (assembled : chain.final = .ok text)
    (notQuery : StatementKind.detect text ≠ .select)
    {compiled : Compiled} :
    compiled.IsResult driver chain describe ↔
      compiled =
        { source := chain
          kind := .detect text
          text
          probe := none
          columns := [] } := by
  constructor
  · obtain ⟨source, kind, finalText, probe, columns⟩ := compiled
    rintro ⟨sameSource, sameText, sameKind, unprobed, _⟩
    dsimp only at sameSource sameText sameKind unprobed
    obtain rfl := Except.ok.inj (assembled.symm.trans sameText)
    subst sameSource sameKind
    obtain ⟨rfl, rfl⟩ := unprobed notQuery
    rfl
  · rintro rfl
    exact
      { source := rfl
        text := assembled
        kind := rfl
        unprobed := fun _ => ⟨rfl, rfl⟩
        probed := fun query => absurd query notQuery }

theorem isResult_iff_of_probe
    (driver : Driver)
    (document : String)
    {chain : Chain}
    (describe : String → Answer (List Catalog.RawColumn))
    {text probe : String}
    (assembled : chain.final = .ok text)
    (query : StatementKind.detect text = .select)
    (probed : chain.probe = .ok probe)
    (compiled : Compiled) :
    compiled.IsResult driver chain describe ↔
      ofDescribed document chain text probe
          (describe probe >>= driver.classify) =
        .ok compiled := by
  simp only [ofDescribed_eq_ok_iff, Result.bind_eq_ok_iff,
    resultColumns_eq_ok_iff]
  constructor
  · obtain ⟨source, kind, finalText, probeText, columns⟩ := compiled
    rintro ⟨sameSource, sameText, sameKind, _, hasProbe⟩
    dsimp only at sameSource sameText sameKind hasProbe
    obtain rfl := Except.ok.inj (assembled.symm.trans sameText)
    subst sameSource sameKind
    obtain ⟨_, described, classified, shape, rfl, sameProbe, answered,
      accepted, adjusted, describes⟩ := hasProbe query
    obtain rfl := Except.ok.inj (probed.symm.trans sameProbe)
    exact ⟨classified, columns, ⟨described, answered, accepted⟩,
      ⟨shape, adjusted, describes⟩, rfl⟩
  · rintro ⟨classified, columns, ⟨described, answered, accepted⟩,
      ⟨shape, adjusted, describes⟩, rfl⟩
    exact
      { source := rfl
        text := assembled
        kind := rfl
        unprobed := fun notQuery => absurd query notQuery
        probed := fun _ =>
          ⟨probe, described, classified, shape, rfl, probed, answered,
            accepted, adjusted, describes⟩ }

/-- A query whose probe cannot be assembled has no result. -/
theorem not_isResult_of_probe_error
    {driver : Driver}
    {chain : Chain}
    {describe : String → Answer (List Catalog.RawColumn)}
    {text : String}
    (assembled : chain.final = .ok text)
    (query : StatementKind.detect text = .select)
    {error : Template.Error}
    (probed : chain.probe = .error error)
    {compiled : Compiled} :
    ¬compiled.IsResult driver chain describe := by
  intro result
  have sameText : text = compiled.text :=
    Except.ok.inj (assembled.symm.trans result.text)
  rw [sameText, ← result.kind] at query
  obtain ⟨probe, _, _, _, _, assembledProbe, _⟩ := result.probed query
  cases probed.symm.trans assembledProbe

/-- What a statement compiles to depends on the connection by the description of
the probe. -/
theorem run_compile_eq_ok_iff
    (driver : Driver)
    (document : String)
    (chain : Chain)
    {σ : Type}
    (connection : Connection σ)
    (state : σ)
    (compiled : Compiled) :
    ((compile driver document chain).run connection state).1 = .ok compiled ↔
      compiled.IsResult driver chain fun query =>
        (connection.describe query state).1 := by
  cases assembled : chain.final with
  | error error =>
      rw [compile_of_final_error driver document assembled]
      constructor
      · intro impossible
        cases impossible
      · intro result
        cases assembled.symm.trans result.text
  | ok text =>
      by_cases query : StatementKind.detect text = .select
      · cases probed : chain.probe with
        | error error =>
            rw [compile_of_probe_error driver document assembled query probed]
            constructor
            · intro impossible
              cases impossible
            · intro result
              exact absurd result
                (not_isResult_of_probe_error assembled query probed)
        | ok probe =>
            rw [compile_of_probe driver document assembled query probed]
            exact (isResult_iff_of_probe driver document
              (fun query => (connection.describe query state).1)
              assembled query probed compiled).symm
      · rw [compile_of_not_select driver document assembled query,
          isResult_iff_of_not_select assembled query]
        constructor
        · intro equal
          cases equal
          rfl
        · rintro rfl
          rfl

/-- The probe of a compiled statement is the query that was put to the
database, if any was. -/
theorem map_query_exchanges_compile
    {driver : Driver}
    {document : String}
    {chain : Chain}
    {σ : Type}
    {connection : Connection σ}
    {state : σ}
    {compiled : Compiled}
    (succeeded :
      ((compile driver document chain).run connection state).1 =
        .ok compiled) :
    ((compile driver document chain).exchanges connection state).map
        (·.query) =
      compiled.probe.toList := by
  have result :=
    (run_compile_eq_ok_iff driver document chain connection state compiled).1
      succeeded
  have assembled := result.text
  rw [exchanges_compile, List.map_map]
  change (probes chain).map id = _
  rw [List.map_id]
  by_cases query : compiled.kind = .select
  · obtain ⟨probe, _, _, _, present, probed, _⟩ := result.probed query
    rw [result.kind] at query
    simp only [probes, assembled, probed, if_pos query, present,
      Option.toList_some]
  · obtain ⟨absent, _⟩ := result.unprobed query
    rw [result.kind] at query
    cases probed : chain.probe <;>
      simp only [probes, assembled, probed, if_neg query, absent,
        Option.toList_none]

theorem final_congr
    {chain other : Chain}
    (sameTexts :
      other.directives.map (·.final) = chain.directives.map (·.final)) :
    other.final = chain.final := by
  have mapped (directives : List Directive) :
      directives.mapM (·.final) = (directives.map (·.final)).mapM id := by
    rw [List.mapM_map]
    rfl
  rw [Chain.final, Chain.final, mapped, mapped, sameTexts]

/-- A statement that is no query compiles to the same result whatever the
database, the probes and the adjustments are. -/
theorem run_compile_of_not_select
    {driver : Driver}
    {document : String}
    {chain : Chain}
    {σ : Type}
    {connection : Connection σ}
    {state : σ}
    {compiled : Compiled}
    (succeeded :
      ((compile driver document chain).run connection state).1 = .ok compiled)
    (notQuery : compiled.kind ≠ .select)
    (otherDriver : Driver)
    {other : Chain}
    (sameTexts :
      other.directives.map (·.final) = chain.directives.map (·.final))
    {τ : Type}
    (otherConnection : Connection τ)
    (otherState : τ) :
    ((compile otherDriver document other).run otherConnection otherState).1 =
      .ok { compiled with source := other } := by
  have result :=
    (run_compile_eq_ok_iff driver document chain connection state compiled).1
      succeeded
  apply (run_compile_eq_ok_iff otherDriver document other otherConnection
    otherState _).2
  exact
    { source := rfl
      text := (final_congr sameTexts).trans result.text
      kind := result.kind
      unprobed := fun _ => result.unprobed notQuery
      probed := fun query => absurd query notQuery }

/-- Compiling a statement makes at most one round trip, which describes the
probe of a query.  The result is decided by the texts, by the answer to the
probe and by the adjustments, and for a statement that is no query by the
final text alone. -/
theorem compile_correct
    (driver : Driver)
    (document : String)
    (chain : Chain)
    {σ : Type}
    (connection : Connection σ)
    (state : σ) :
    ((compile driver document chain).exchanges connection state).length ≤ 1 ∧
      (∀ trip,
        trip ∈ (compile driver document chain).exchanges connection state ↔
          ∃ text probe,
            chain.final = .ok text ∧
              StatementKind.detect text = .select ∧
              chain.probe = .ok probe ∧
              trip = .described probe (connection.describe probe state).1) ∧
      ∀ compiled,
        (((compile driver document chain).run connection state).1 =
            .ok compiled ↔
          compiled.IsResult driver chain fun query =>
            (connection.describe query state).1) ∧
        (((compile driver document chain).run connection state).1 =
            .ok compiled →
          ((compile driver document chain).exchanges connection state).map
              (·.query) =
            compiled.probe.toList ∧
          (compiled.kind ≠ .select →
            ∀ (otherDriver : Driver) (other : Chain),
              other.directives.map (·.final) =
                  chain.directives.map (·.final) →
                ∀ {τ : Type} (otherConnection : Connection τ) (otherState : τ),
                  ((compile otherDriver document other).run otherConnection
                      otherState).1 =
                    .ok { compiled with source := other })) := by
  refine ⟨?_, ?_, ?_⟩
  · rw [exchanges_compile, List.length_map]
    exact length_probes_le chain
  · intro trip
    simp only [exchanges_compile, List.mem_map, mem_probes_iff]
    constructor
    · rintro ⟨probe, ⟨text, assembled, query, probed⟩, rfl⟩
      exact ⟨text, probe, assembled, query, probed, rfl⟩
    · rintro ⟨text, probe, assembled, query, probed, rfl⟩
      exact ⟨probe, ⟨text, assembled, query, probed⟩, rfl⟩
  · intro compiled
    refine ⟨run_compile_eq_ok_iff driver document chain connection state _, ?_⟩
    intro succeeded
    refine ⟨map_query_exchanges_compile succeeded, ?_⟩
    intro notQuery otherDriver other sameTexts τ otherConnection otherState
    exact run_compile_of_not_select succeeded notQuery otherDriver sameTexts
      otherConnection otherState

end Statement
end TypedSql
