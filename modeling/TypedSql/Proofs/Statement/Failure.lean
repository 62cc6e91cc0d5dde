import TypedSql.Proofs.Statement.Compilation

/-!
# Failures of statements

A statement fails by the first of its phases that fails: the final query, the
probe, its description, the classification, the adjustments, and the check
that there are as many names as types.  The failure says which statement of
which document it was, and it has the probe exactly if that was put to the
database.
-/

namespace TypedSql

/-! ## Failing adjustments -/

/-- Directives adjust a result shape up to the first one of them that fails,
whose error it is. -/
inductive AdjustmentFails :
    List Directive → ResultShape → Template.Error → Prop where
  | here
      {directive : Directive}
      {rest : List Directive}
      {start last : ResultShape}
      {error : Template.Error}
      (failed : directive.adjust.run.run start = (.error error, last)) :
      AdjustmentFails (directive :: rest) start error
  | later
      {directive : Directive}
      {rest : List Directive}
      {start next : ResultShape}
      {error : Template.Error}
      (adjusted : directive.adjust.run.run start = (.ok (), next))
      (onward : AdjustmentFails rest next error) :
      AdjustmentFails (directive :: rest) start error

/-- The adjustment fails where the loop over the directives does. -/
theorem adjustmentFails_iff_forM
    {directives : List Directive}
    {start : ResultShape}
    {error : Template.Error} :
    AdjustmentFails directives start error ↔
      ∃ last,
        (directives.forM (·.adjust)).run.run start = (.error error, last) := by
  induction directives generalizing start with
  | nil =>
      constructor
      · intro fails
        cases fails
      · rintro ⟨_, ⟨⟩⟩
  | cons directive rest inductionHypothesis =>
      rw [run_forM_adjust_cons]
      constructor
      · intro fails
        cases fails with
        | here failed =>
            rw [failed]
            exact ⟨_, rfl⟩
        | later adjusted onward =>
            rw [adjusted]
            exact inductionHypothesis.1 onward
      · rintro ⟨last, failed⟩
        split at failed
        next next adjusted =>
          exact .later adjusted (inductionHypothesis.2 ⟨last, failed⟩)
        next adjusted =>
          cases failed
          exact .here adjusted

namespace Statement

open Catalog (Answer Connection Driver Exchange)

/-- There are no result columns if an adjustment fails, or if the adjustments
leave different numbers of names and types. -/
inductive ColumnsFail (chain : Chain) (classified : List Column) :
    Cause → Prop where
  | adjustment
      {error : Template.Error}
      (failed :
        AdjustmentFails chain.directives (.ofColumns classified) error) :
      ColumnsFail chain classified (.template error)
  | resultShape
      {shape : ResultShape}
      (adjusted : Adjusts chain.directives (.ofColumns classified) shape)
      (unequal : shape.names.length ≠ shape.types.length) :
      ColumnsFail chain classified
        (.resultShape shape.names.length shape.types.length)

/-- The columns are refused by a directive, or because names and types do not
match. -/
theorem resultColumns_eq_error_iff
    {chain : Chain}
    {classified : List Column}
    {cause : Cause} :
    resultColumns chain classified = .error cause ↔
      ColumnsFail chain classified cause := by
  constructor
  · intro failed
    unfold resultColumns at failed
    split at failed
    next error last adjusted =>
      cases failed
      exact .adjustment (adjustmentFails_iff_forM.2 ⟨last, adjusted⟩)
    next shape adjusted =>
      split at failed
      next => cases failed
      next unequal =>
        cases failed
        exact .resultShape (adjusts_iff_forM.2 adjusted) unequal
  · intro fails
    unfold resultColumns Chain.adjust
    cases fails with
    | adjustment failed =>
        obtain ⟨last, failed⟩ := adjustmentFails_iff_forM.1 failed
        rw [failed]
    | resultShape adjusted unequal =>
        rw [adjusts_iff_forM.1 adjusted]
        exact if_neg unequal

/-- Why compiling a statement fails, by the first phase that does, given how
the database describes queries. -/
inductive FirstFailure
    (driver : Driver)
    (chain : Chain)
    (describe : String → Answer (List Catalog.RawColumn)) :
    Cause → Prop where
  | final
      {error : Template.Error}
      (failed : chain.final = .error error) :
      FirstFailure driver chain describe (.template error)
  | probe
      {text : String}
      (assembled : chain.final = .ok text)
      (query : StatementKind.detect text = .select)
      {error : Template.Error}
      (failed : chain.probe = .error error) :
      FirstFailure driver chain describe (.template error)
  | description
      {probe : String}
      (probed : probe ∈ probes chain)
      {error : Catalog.Error}
      (failed : describe probe = .error error) :
      FirstFailure driver chain describe (.catalog error)
  | classification
      {probe : String}
      (probed : probe ∈ probes chain)
      {described : List Catalog.RawColumn}
      (answered : describe probe = .ok described)
      {error : Catalog.Error}
      (failed : driver.classify described = .error error) :
      FirstFailure driver chain describe (.catalog error)
  | columns
      {probe : String}
      (probed : probe ∈ probes chain)
      {described : List Catalog.RawColumn}
      (answered : describe probe = .ok described)
      {classified : List Column}
      (accepted : driver.classify described = .ok classified)
      {cause : Cause}
      (failed : ColumnsFail chain classified cause) :
      FirstFailure driver chain describe cause

/-- The form of the result is the cause exactly if all phases succeed and leave
different numbers of names and types. -/
theorem firstFailure_resultShape_iff
    {driver : Driver}
    {chain : Chain}
    {describe : String → Answer (List Catalog.RawColumn)}
    {names types : Nat} :
    FirstFailure driver chain describe (.resultShape names types) ↔
      ∃ probe described classified shape,
        probe ∈ probes chain ∧
          describe probe = .ok described ∧
          driver.classify described = .ok classified ∧
          Adjusts chain.directives (.ofColumns classified) shape ∧
          shape.names.length = names ∧
          shape.types.length = types ∧ names ≠ types := by
  constructor
  · intro fails
    cases fails with
    | columns probed answered accepted failed =>
        cases failed with
        | resultShape adjusted unequal =>
            exact ⟨_, _, _, _, probed, answered, accepted, adjusted, rfl, rfl,
              unequal⟩
  · rintro ⟨probe, described, classified, shape, probed, answered, accepted,
      adjusted, rfl, rfl, unequal⟩
    exact .columns probed answered accepted (.resultShape adjusted unequal)

/-- A query that was put to the database fails by what the database says or by
its columns. -/
theorem ofDescribed_eq_error_iff
    {document : String}
    {chain : Chain}
    {text probe : String}
    {described : Except Catalog.Error (List Column)}
    {failure : Failure} :
    ofDescribed document chain text probe described = .error failure ↔
      ∃ cause,
        failure =
            { document
              statement := chain.name
              query := some probe
              cause } ∧
          ((∃ error, described = .error error ∧ cause = .catalog error) ∨
            ∃ classified,
              described = .ok classified ∧
                ColumnsFail chain classified cause) := by
  simp only [← resultColumns_eq_error_iff]
  unfold ofDescribed
  cases described with
  | error error =>
      constructor
      · rintro ⟨⟩
        exact ⟨_, rfl, .inl ⟨error, rfl, rfl⟩⟩
      · rintro ⟨_, rfl, ⟨_, ⟨⟩, rfl⟩ | ⟨_, ⟨⟩, _⟩⟩
        rfl
  | ok classified =>
      constructor
      · intro failed
        dsimp only at failed
        split at failed
        next cause refused =>
          cases failed
          exact ⟨cause, rfl, .inr ⟨classified, rfl, refused⟩⟩
        next => cases failed
      · rintro ⟨cause, rfl, ⟨_, ⟨⟩, _⟩ | ⟨_, ⟨⟩, refused⟩⟩
        simp only [refused]

/-- The failure of a statement for a cause: it has the probe, if one is put to
the database. -/
def failureOf (document : String) (chain : Chain) (cause : Cause) : Failure where
  document
  statement := chain.name
  query := (probes chain).head?
  cause

/-- A failure says which statement it is about, which query was put to the
database for it, and why it failed. -/
structure Failure.IsReport
    (failure : Failure)
    (driver : Driver)
    (document : String)
    (chain : Chain)
    (describe : String → Answer (List Catalog.RawColumn))
    (trips : List Exchange) :
    Prop where
  document_eq : failure.document = document
  statement_eq : failure.statement = chain.name
  query_eq : failure.query.toList = trips.map (·.query)
  cause : FirstFailure driver chain describe failure.cause

section Compiling

variable
  (driver : Driver)
  (document : String)
  (chain : Chain)
  {σ : Type}
  (connection : Connection σ)
  (state : σ)

/-- A statement whose probe is put to the database fails by what the database
says or by its columns. -/
theorem run_compile_eq_error_iff_of_probed
    {probe : String}
    (probed : probe ∈ probes chain)
    {failure : Failure} :
    ((compile driver document chain).run connection state).1 =
        .error failure ↔
      ∃ cause,
        failure = failureOf document chain cause ∧
          ((∃ error,
              ((connection.describe probe state).1 >>= driver.classify) =
                  .error error ∧
                cause = .catalog error) ∨
            ∃ classified,
              ((connection.describe probe state).1 >>= driver.classify) =
                  .ok classified ∧
                ColumnsFail chain classified cause) := by
  obtain ⟨text, assembled, query, made⟩ := mem_probes_iff.1 probed
  rw [compile_of_probe driver document assembled query made]
  simp only [failureOf, probes, assembled, made, if_pos query, List.head?_cons]
  exact ofDescribed_eq_error_iff

/-- The first failure is the one that is reported. -/
theorem run_compile_of_firstFailure
    {cause : Cause}
    (fails :
      FirstFailure driver chain
        (fun query => (connection.describe query state).1) cause) :
    ((compile driver document chain).run connection state).1 =
      .error (failureOf document chain cause) := by
  cases fails with
  | final failed =>
      rw [compile_of_final_error driver document failed, failureOf]
      simp only [probes, failed, List.head?_nil]
      rfl
  | probe assembled query failed =>
      rw [compile_of_probe_error driver document assembled query failed,
        failureOf]
      simp only [probes, assembled, failed, List.head?_nil]
      rfl
  | description probed failed =>
      rw [run_compile_eq_error_iff_of_probed _ _ _ _ _ probed]
      exact ⟨_, rfl, .inl ⟨_, Result.bind_eq_error_iff.2 (.inl failed), rfl⟩⟩
  | classification probed answered failed =>
      rw [run_compile_eq_error_iff_of_probed _ _ _ _ _ probed]
      exact ⟨_, rfl, .inl
        ⟨_, Result.bind_eq_error_iff.2 (.inr ⟨_, answered, failed⟩), rfl⟩⟩
  | columns probed answered accepted failed =>
      rw [run_compile_eq_error_iff_of_probed _ _ _ _ _ probed]
      exact ⟨_, rfl, .inr
        ⟨_, Result.bind_eq_ok_iff.2 ⟨_, answered, accepted⟩, failed⟩⟩

/-- What is reported is the first failure. -/
theorem firstFailure_of_run_compile
    {failure : Failure}
    (failed :
      ((compile driver document chain).run connection state).1 =
        .error failure) :
    failure = failureOf document chain failure.cause ∧
      FirstFailure driver chain
        (fun query => (connection.describe query state).1) failure.cause := by
  cases assembled : chain.final with
  | error error =>
      rw [compile_of_final_error driver document assembled] at failed
      cases failed
      simp only [failureOf, probes, assembled, List.head?_nil]
      exact ⟨trivial, .final assembled⟩
  | ok text =>
      by_cases query : StatementKind.detect text = .select
      · cases made : chain.probe with
        | error error =>
            rw [compile_of_probe_error driver document assembled query made]
              at failed
            cases failed
            simp only [failureOf, probes, assembled, made, List.head?_nil]
            exact ⟨trivial, .probe assembled query made⟩
        | ok probe =>
            have probed := mem_probes_iff.2 ⟨text, assembled, query, made⟩
            rw [run_compile_eq_error_iff_of_probed _ _ _ _ _ probed] at failed
            obtain ⟨cause, rfl, refused⟩ := failed
            refine ⟨rfl, ?_⟩
            rcases refused with ⟨_, refused, rfl⟩ | ⟨_, accepted, refused⟩
            · rcases Result.bind_eq_error_iff.1 refused with
                unanswered | ⟨_, answered, unclassified⟩
              · exact .description probed unanswered
              · exact .classification probed answered unclassified
            · obtain ⟨_, answered, accepted⟩ := Result.bind_eq_ok_iff.1 accepted
              exact .columns probed answered accepted refused
      · rw [compile_of_not_select driver document assembled query] at failed
        cases failed

/-- A failure names the query that was put, if there was one. -/
theorem toList_query_failureOf (cause : Cause) :
    (failureOf document chain cause).query.toList =
      ((compile driver document chain).exchanges connection state).map
        (·.query) := by
  have atMostOne := length_probes_le chain
  rw [exchanges_compile, List.map_map]
  change (probes chain).head?.toList = (probes chain).map id
  rw [List.map_id]
  match probes chain, atMostOne with
  | [], _ => rfl
  | [probe], _ => rfl

/-- Compiling fails exactly for its first failure. -/
theorem run_compile_eq_error_iff {failure : Failure} :
    ((compile driver document chain).run connection state).1 =
        .error failure ↔
      failure = failureOf document chain failure.cause ∧
        FirstFailure driver chain
          (fun query => (connection.describe query state).1) failure.cause := by
  constructor
  · exact firstFailure_of_run_compile driver document chain connection state
  · rintro ⟨made, fails⟩
    rw [made]
    exact run_compile_of_firstFailure driver document chain connection state
      fails

/-- The fields of a report leave no choice but for the cause. -/
theorem isReport_iff
    {describe : String → Answer (List Catalog.RawColumn)}
    {failure : Failure} :
    failure.IsReport driver document chain describe
        ((compile driver document chain).exchanges connection state) ↔
      failure = failureOf document chain failure.cause ∧
        FirstFailure driver chain describe failure.cause := by
  obtain ⟨ofDocument, statement, query, cause⟩ := failure
  have asked :=
    toList_query_failureOf driver document chain connection state cause
  constructor
  · rintro ⟨rfl, rfl, sameQuery, fails⟩
    have queryEq := congrArg List.head? (sameQuery.trans asked.symm)
    rw [Option.head?_toList, Option.head?_toList] at queryEq
    dsimp only at queryEq
    exact ⟨by rw [queryEq]; rfl, fails⟩
  · rintro ⟨made, fails⟩
    cases made
    exact
      { document_eq := rfl
        statement_eq := rfl
        query_eq := asked
        cause := fails }

/-- Compiling a statement fails with a report on it: which statement of which
document it is, the query that was put to the database, if any was, and the
first cause.  The cause is the form of the result exactly if all phases succeed
and the adjustments leave different numbers of names and types. -/
theorem failure_attributed :
    (∀ failure,
      ((compile driver document chain).run connection state).1 =
          .error failure ↔
        failure.IsReport driver document chain
          (fun query => (connection.describe query state).1)
          ((compile driver document chain).exchanges connection state)) ∧
      ∀ names types,
        (∃ failure,
          ((compile driver document chain).run connection state).1 =
              .error failure ∧
            failure.cause = .resultShape names types) ↔
          ∃ probe described classified shape,
            probe ∈ probes chain ∧
              (connection.describe probe state).1 = .ok described ∧
              driver.classify described = .ok classified ∧
              Adjusts chain.directives (.ofColumns classified) shape ∧
              shape.names.length = names ∧
              shape.types.length = types ∧ names ≠ types := by
  constructor
  · intro failure
    rw [run_compile_eq_error_iff, isReport_iff]
  · intro names types
    refine Iff.trans ?_ firstFailure_resultShape_iff
    simp only [run_compile_eq_error_iff]
    constructor
    · rintro ⟨failure, ⟨-, fails⟩, isShape⟩
      rwa [isShape] at fails
    · intro fails
      exact ⟨failureOf document chain (.resultShape names types),
        ⟨rfl, fails⟩, rfl⟩

end Compiling

end Statement
end TypedSql
