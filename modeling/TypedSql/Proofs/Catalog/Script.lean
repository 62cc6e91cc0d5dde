import TypedSql.Catalog.Script
import TypedSql.Proofs.Result

/-!
# Dialogues with scripted connections

A script answers a question by the newest entry that fits it, and in the same
way however often it is asked, since the record of queries decides no answer.
So a dialogue with a script comes to a value that depends on the prepared
answers only, and it adds the queries that it asks to the record.  Values and
queries of compound dialogues are made up of those of their parts.
-/

namespace TypedSql
namespace Catalog
namespace Script

variable {α β ε : Type}

/-! ## Single questions -/

/-- The only recent entry that fits a query answers it. -/
theorem fetch_of_unique
    {script : Script}
    {recent older : List RowScript}
    (rows : script.rows = recent ++ older)
    {entry : RowScript}
    (member : entry ∈ recent)
    {query : String}
    {params : List String}
    (fits : entry.answers query params = true)
    (unique : ∀ other ∈ recent,
      other.answers query params = true → other = entry) :
    script.fetch query params = entry.answer := by
  rw [fetch, rows, Result.find?_append_of_unique member fits unique]

/-- The only recent entry for a description gives it. -/
theorem describe_of_unique
    {script : Script}
    {recent older : List DescribeScript}
    (descriptions : script.descriptions = recent ++ older)
    {entry : DescribeScript}
    (member : entry ∈ recent)
    {query : String}
    (fits : entry.query = Text.trim query)
    (unique : ∀ other ∈ recent, other.query = Text.trim query → other = entry) :
    script.describe query = entry.answer := by
  have found :
      (recent ++ older).find? (·.query == Text.trim query) = some entry := by
    apply Result.find?_append_of_unique member
    · exact beq_iff_eq.2 fits
    · intro other present accepted
      exact unique other present (beq_iff_eq.1 accepted)
  rw [describe, descriptions, found]

/-- The newest entry comes first. -/
theorem fetch_cons_of_answers
    {script : Script}
    {entry : RowScript}
    {query : String}
    {params : List String}
    (fits : entry.answers query params = true) :
    ({ script with rows := entry :: script.rows } : Script).fetch query params =
      entry.answer := by
  simp only [fetch, List.find?_cons, fits]

/-- An entry that does not fit a query leaves the answer to the others. -/
theorem fetch_cons_of_not_answers
    {script : Script}
    {entry : RowScript}
    {query : String}
    {params : List String}
    (misses : ¬entry.answers query params = true) :
    ({ script with rows := entry :: script.rows } : Script).fetch query params =
      script.fetch query params := by
  simp only [fetch, List.find?_cons, misses]

/-- The newest description comes first. -/
theorem describe_cons_of_eq
    {script : Script}
    {entry : DescribeScript}
    {query : String}
    (same : entry.query = Text.trim query) :
    ({ script with descriptions := entry :: script.descriptions } :
        Script).describe query =
      entry.answer := by
  have fits : (entry.query == Text.trim query) = true := beq_iff_eq.2 same
  simp only [describe, List.find?_cons, fits]

/-- An entry for another query leaves the description to the others. -/
theorem describe_cons_of_ne
    {script : Script}
    {entry : DescribeScript}
    {query : String}
    (differs : entry.query ≠ Text.trim query) :
    ({ script with descriptions := entry :: script.descriptions } :
        Script).describe query =
      script.describe query := by
  have misses : (entry.query == Text.trim query) = false := by
    simpa using differs
  simp only [describe, List.find?_cons, misses]

/-! ## Whole dialogues -/

/-- The value of a dialogue whose questions a script answers. -/
def value (script : Script) : Dialogue α → α
  | .done value => value
  | .fetch query params next => script.value (next (script.fetch query params))
  | .describe query next => script.value (next (script.describe query))

/-- The queries of a dialogue whose questions a script answers, in order. -/
def queries (script : Script) : Dialogue α → List String
  | .done _ => []
  | .fetch query params next =>
    query :: script.queries (next (script.fetch query params))
  | .describe query next =>
    query :: script.queries (next (script.describe query))

/-- The script after some more queries. -/
def recordAll (script : Script) (queries : List String) : Script :=
  { script with issued := script.issued ++ queries }

theorem recordAll_nil (script : Script) : script.recordAll [] = script := by
  simp [recordAll]

theorem recordAll_cons
    (script : Script)
    (query : String)
    (rest : List String) :
    script.recordAll (query :: rest) =
      (script.record query).recordAll rest := by
  simp [recordAll, record]

theorem recordAll_recordAll (script : Script) (queries others : List String) :
    (script.recordAll queries).recordAll others =
      script.recordAll (queries ++ others) := by
  simp [recordAll]

/-- What has been recorded has no part in the value of a dialogue. -/
theorem value_record
    (script : Script)
    (recorded : String)
    (dialogue : Dialogue α) :
    (script.record recorded).value dialogue = script.value dialogue := by
  induction dialogue with
  | done value => rfl
  | fetch query params next inductionHypothesis =>
      exact inductionHypothesis (script.fetch query params)
  | describe query next inductionHypothesis =>
      exact inductionHypothesis (script.describe query)

theorem value_recordAll
    (script : Script)
    (recorded : List String)
    (dialogue : Dialogue α) :
    (script.recordAll recorded).value dialogue = script.value dialogue := by
  induction recorded generalizing script with
  | nil => rw [recordAll_nil]
  | cons query rest inductionHypothesis =>
      rw [recordAll_cons, inductionHypothesis, value_record]

theorem queries_record
    (script : Script)
    (recorded : String)
    (dialogue : Dialogue α) :
    (script.record recorded).queries dialogue = script.queries dialogue := by
  induction dialogue with
  | done value => rfl
  | fetch query params next inductionHypothesis =>
      exact congrArg (query :: ·)
        (inductionHypothesis (script.fetch query params))
  | describe query next inductionHypothesis =>
      exact congrArg (query :: ·) (inductionHypothesis (script.describe query))

/-- A dialogue with a script comes to its value and leaves its queries. -/
theorem run_connection (dialogue : Dialogue α) (script : Script) :
    dialogue.run connection script =
      (script.value dialogue, script.recordAll (script.queries dialogue)) := by
  induction dialogue generalizing script with
  | done value => rw [queries, recordAll_nil]; rfl
  | fetch query params next inductionHypothesis =>
      change (next (script.fetch query params)).run connection
        (script.record query) = _
      rw [inductionHypothesis, value_record, queries_record, ← recordAll_cons]
      rfl
  | describe query next inductionHypothesis =>
      change (next (script.describe query)).run connection
        (script.record query) = _
      rw [inductionHypothesis, value_record, queries_record, ← recordAll_cons]
      rfl

/-- The queries are those of the round trips. -/
theorem map_query_exchanges (dialogue : Dialogue α) (script : Script) :
    (dialogue.exchanges connection script).map (·.query) =
      script.queries dialogue := by
  induction dialogue generalizing script with
  | done value => rfl
  | fetch query params next inductionHypothesis =>
      have later :=
        inductionHypothesis (script.fetch query params) (script.record query)
      rw [queries_record] at later
      exact congrArg (query :: ·) later
  | describe query next inductionHypothesis =>
      have later :=
        inductionHypothesis (script.describe query) (script.record query)
      rw [queries_record] at later
      exact congrArg (query :: ·) later

/-! ## Compound dialogues -/

/-- The second part of a dialogue sees the value of the first one, and the same
script. -/
theorem value_bind
    (script : Script)
    (dialogue : Dialogue α)
    (next : α → Dialogue β) :
    script.value (dialogue >>= next) =
      script.value (next (script.value dialogue)) := by
  induction dialogue with
  | done value => rfl
  | fetch query params continuation inductionHypothesis =>
      exact inductionHypothesis (script.fetch query params)
  | describe query continuation inductionHypothesis =>
      exact inductionHypothesis (script.describe query)

/-- The queries of the second part come after those of the first one. -/
theorem queries_bind
    (script : Script)
    (dialogue : Dialogue α)
    (next : α → Dialogue β) :
    script.queries (dialogue >>= next) =
      script.queries dialogue ++
        script.queries (next (script.value dialogue)) := by
  induction dialogue with
  | done value => rfl
  | fetch query params continuation inductionHypothesis =>
      exact congrArg (query :: ·)
        (inductionHypothesis (script.fetch query params))
  | describe query continuation inductionHypothesis =>
      exact congrArg (query :: ·) (inductionHypothesis (script.describe query))

theorem value_map
    (script : Script)
    (apply : α → β)
    (dialogue : Dialogue α) :
    script.value (apply <$> dialogue) = apply (script.value dialogue) := by
  rw [map_eq_pure_bind, value_bind]
  rfl

theorem queries_map
    (script : Script)
    (apply : α → β)
    (dialogue : Dialogue α) :
    script.queries (apply <$> dialogue) = script.queries dialogue := by
  rw [map_eq_pure_bind, queries_bind]
  exact List.append_nil _

/-- The items of a list are dealt with independently of each other. -/
theorem value_mapM
    (script : Script)
    (step : α → Dialogue β)
    (items : List α) :
    script.value (items.mapM step) =
      items.map fun item => script.value (step item) := by
  induction items with
  | nil => rfl
  | cons item rest inductionHypothesis =>
      rw [List.mapM_cons, value_bind, value_bind, inductionHypothesis]
      rfl

/-- Their queries follow each other in the order of the items. -/
theorem queries_mapM
    (script : Script)
    (step : α → Dialogue β)
    (items : List α) :
    script.queries (items.mapM step) =
      items.flatMap fun item => script.queries (step item) := by
  induction items with
  | nil => rfl
  | cons item rest inductionHypothesis =>
      rw [List.mapM_cons, queries_bind, queries_bind, inductionHypothesis,
        List.flatMap_cons]
      exact congrArg (_ ++ ·) (List.append_nil _)

/-! ## Dialogues that may fail -/

/-- The result of a dialogue that may fail. -/
def result (script : Script) (dialogue : ExceptT ε Dialogue α) : Except ε α :=
  script.value dialogue.run

/-- Running a dialogue against a script gives its result. -/
theorem fst_run_connection
    (script : Script)
    (dialogue : ExceptT ε Dialogue α) :
    (dialogue.run.run connection script).1 = script.result dialogue := by
  rw [run_connection]
  rfl

@[simp] theorem result_pure (script : Script) (value : α) :
    script.result (pure value : ExceptT ε Dialogue α) = .ok value :=
  rfl

@[simp] theorem result_fetch
    (script : Script)
    (query : String)
    (params : List String) :
    script.result (Introspection.fetch query params) =
      script.fetch query params :=
  rfl

@[simp] theorem result_describe (script : Script) (query : String) :
    script.result (Introspection.describe query) = script.describe query :=
  rfl

@[simp] theorem result_ofExcept (script : Script) (outcome : Except Error α) :
    script.result (Introspection.ofExcept outcome) = outcome :=
  rfl

/-- The result of two steps is that of the second one, or the failure of the
first one. -/
theorem result_bind
    (script : Script)
    (dialogue : ExceptT ε Dialogue α)
    (next : α → ExceptT ε Dialogue β) :
    script.result (dialogue >>= next) =
      script.result dialogue >>= fun value => script.result (next value) := by
  unfold result
  rw [ExceptT.run_bind, value_bind]
  cases script.value dialogue.run <;> rfl

theorem result_map
    (script : Script)
    (apply : α → β)
    (dialogue : ExceptT ε Dialogue α) :
    script.result (apply <$> dialogue) = apply <$> script.result dialogue := by
  rw [map_eq_pure_bind, result_bind, map_eq_pure_bind]
  rfl

/-- The steps for the items of a list fail with the first failure. -/
theorem result_mapM
    (script : Script)
    (step : α → ExceptT ε Dialogue β)
    (items : List α) :
    script.result (items.mapM step) =
      items.mapM fun item => script.result (step item) := by
  induction items with
  | nil => rfl
  | cons item rest inductionHypothesis =>
      simp only [List.mapM_cons, result_bind, inductionHypothesis, result_pure]
      rfl

/-- The second of two dialogues is held only if the first one succeeds. -/
theorem queries_run_bind
    (script : Script)
    (dialogue : ExceptT ε Dialogue α)
    (next : α → ExceptT ε Dialogue β) :
    script.queries (dialogue >>= next).run =
      script.queries dialogue.run ++
        match script.result dialogue with
        | .ok value => script.queries (next value).run
        | .error _ => [] := by
  unfold result
  rw [ExceptT.run_bind, queries_bind]
  cases script.value dialogue.run <;> rfl

/-- Explaining failures does not change the course of a dialogue. -/
theorem result_adapt
    {δ : Type}
    (script : Script)
    (explain : ε → δ)
    (dialogue : ExceptT ε Dialogue α) :
    script.result (ExceptT.adapt explain dialogue) =
      (script.result dialogue).mapError explain :=
  script.value_map (Except.mapError explain) dialogue.run

theorem queries_run_adapt
    {δ : Type}
    (script : Script)
    (explain : ε → δ)
    (dialogue : ExceptT ε Dialogue α) :
    script.queries (ExceptT.adapt explain dialogue).run =
      script.queries dialogue.run :=
  script.queries_map (Except.mapError explain) dialogue.run

theorem result_lift (script : Script) (dialogue : Dialogue α) :
    script.result (ExceptT.lift dialogue : ExceptT ε Dialogue α) =
      .ok (script.value dialogue) :=
  script.value_map Except.ok dialogue

theorem queries_run_lift (script : Script) (dialogue : Dialogue α) :
    script.queries (ExceptT.lift dialogue : ExceptT ε Dialogue α).run =
      script.queries dialogue :=
  script.queries_map Except.ok dialogue

/-- Items whose steps succeed let the steps of the items after them take
place. -/
theorem queries_run_mapM_append
    (script : Script)
    (step : α → ExceptT ε Dialogue β)
    {before : List α}
    (succeed : ∀ item ∈ before, ∃ value, script.result (step item) = .ok value)
    (after : List α) :
    script.queries ((before ++ after).mapM step).run =
      before.flatMap (fun item => script.queries (step item).run) ++
        script.queries (after.mapM step).run := by
  induction before with
  | nil => rfl
  | cons item rest inductionHypothesis =>
      obtain ⟨⟨value, stepped⟩, restSucceed⟩ := List.forall_mem_cons.1 succeed
      have remaining :
          script.queries
              (((rest ++ after).mapM step >>= fun values =>
                pure (value :: values) : ExceptT ε Dialogue (List β))).run =
            script.queries ((rest ++ after).mapM step).run := by
        rw [queries_run_bind]
        cases script.result ((rest ++ after).mapM step) <;>
          exact List.append_nil _
      rw [List.cons_append, List.mapM_cons, queries_run_bind, stepped]
      simp only [remaining, inductionHypothesis restSucceed,
        List.flatMap_cons, List.append_assoc]

/-- An item whose step fails ends the traversal. -/
theorem queries_run_mapM_cons_of_error
    (script : Script)
    (step : α → ExceptT ε Dialogue β)
    {item : α}
    {failure : ε}
    (failed : script.result (step item) = .error failure)
    (after : List α) :
    script.queries ((item :: after).mapM step).run =
      script.queries (step item).run := by
  rw [List.mapM_cons, queries_run_bind, failed]
  exact List.append_nil _

/-! ## Results and queries together -/

/-- A dialogue that may fail comes to a result and asks some queries. -/
structure Plays
    (script : Script)
    (dialogue : ExceptT ε Dialogue α)
    (outcome : Except ε α)
    (asked : List String) :
    Prop where
  result : script.result dialogue = outcome
  queries : script.queries dialogue.run = asked

/-- To play a dialogue is to run it and to record what it has asked. -/
theorem Plays.run
    {script : Script}
    {dialogue : ExceptT ε Dialogue α}
    {outcome : Except ε α}
    {asked : List String}
    (plays : script.Plays dialogue outcome asked) :
    dialogue.run.run connection script = (outcome, script.recordAll asked) := by
  rw [run_connection, plays.queries, ← plays.result]
  rfl

/-- Every run plays its dialogue. -/
theorem exists_plays_of_run
    {script after : Script}
    {dialogue : ExceptT ε Dialogue α}
    {outcome : Except ε α}
    (run : dialogue.run.run connection script = (outcome, after)) :
    ∃ asked, script.Plays dialogue outcome asked ∧
      after = script.recordAll asked := by
  rw [run_connection] at run
  obtain ⟨result, recorded⟩ := Prod.mk.inj run
  exact ⟨_, ⟨result, rfl⟩, recorded.symm⟩

/-- A dialogue that is done asks nothing. -/
theorem plays_done (script : Script) (outcome : Except ε α) :
    script.Plays (.mk (.done outcome)) outcome [] :=
  ⟨rfl, rfl⟩

/-- After a success the dialogue goes on, and both records are joined. -/
theorem Plays.bind_ok
    {script : Script}
    {dialogue : ExceptT ε Dialogue α}
    {value : α}
    {asked : List String}
    (plays : script.Plays dialogue (.ok value) asked)
    {next : α → ExceptT ε Dialogue β}
    {outcome : Except ε β}
    {others : List String}
    (onward : script.Plays (next value) outcome others) :
    script.Plays (dialogue >>= next) outcome (asked ++ others) := by
  constructor
  · rw [result_bind, plays.result]
    exact onward.result
  · rw [queries_run_bind, plays.result, plays.queries, ← onward.queries]

/-- After a failure nothing more is asked. -/
theorem Plays.bind_error
    {script : Script}
    {dialogue : ExceptT ε Dialogue α}
    {failure : ε}
    {asked : List String}
    (plays : script.Plays dialogue (.error failure) asked)
    (next : α → ExceptT ε Dialogue β) :
    script.Plays (dialogue >>= next) (.error failure) asked := by
  constructor
  · rw [result_bind, plays.result]
    rfl
  · rw [queries_run_bind, plays.result, plays.queries]
    exact List.append_nil asked

theorem Plays.adapt
    {δ : Type}
    {script : Script}
    {dialogue : ExceptT ε Dialogue α}
    {outcome : Except ε α}
    {asked : List String}
    (plays : script.Plays dialogue outcome asked)
    (explain : ε → δ) :
    script.Plays (ExceptT.adapt explain dialogue) (outcome.mapError explain)
      asked := by
  constructor
  · rw [result_adapt, plays.result]
  · rw [queries_run_adapt, plays.queries]

end Script
end Catalog
end TypedSql
