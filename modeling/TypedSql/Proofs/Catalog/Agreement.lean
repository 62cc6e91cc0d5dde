import TypedSql.Proofs.Catalog.Script

/-!
# Scripts that agree

A dialogue learns of a script only what the script answers to the questions
that it puts.  Two scripts that agree on these questions therefore lead it to
the same value, over the same round trips.  Which questions a dialogue puts to
a script is found part by part: a later part is only reached with the value
that the earlier one came to.
-/

namespace TypedSql
namespace Catalog

variable {α β ε : Type}

/-- What may be put to a database. -/
inductive Question where
  | fetch (query : String) (params : List String)
  | describe (query : String)

namespace Script

/-- Two scripts give the same answer to a question. -/
def AgreesOn (script other : Script) : Question → Prop
  | .fetch query params => other.fetch query params = script.fetch query params
  | .describe query => other.describe query = script.describe query

theorem AgreesOn.refl (script : Script) (question : Question) :
    script.AgreesOn script question := by
  cases question <;> rfl

/-- Agreement is passed on from script to script. -/
theorem AgreesOn.trans
    {first second third : Script}
    {question : Question}
    (early : first.AgreesOn second question)
    (late : second.AgreesOn third question) :
    first.AgreesOn third question := by
  cases question with
  | fetch query params => exact Eq.trans late early
  | describe query => exact Eq.trans late early

/-- All questions that a dialogue puts to a script are among some. -/
def AsksOnly (script : Script) (questions : Question → Prop) :
    Dialogue α → Prop
  | .done _ => True
  | .fetch query params next =>
    questions (.fetch query params) ∧
      script.AsksOnly questions (next (script.fetch query params))
  | .describe query next =>
    questions (.describe query) ∧
      script.AsksOnly questions (next (script.describe query))

/-! ## What dialogues ask -/

section Asking

variable {script : Script} {questions : Question → Prop}

theorem asksOnly_fetch
    {query : String}
    {params : List String}
    (asks : questions (.fetch query params)) :
    script.AsksOnly questions (Introspection.fetch query params).run :=
  ⟨asks, trivial⟩

theorem asksOnly_describe
    {query : String}
    (asks : questions (.describe query)) :
    script.AsksOnly questions (Introspection.describe query).run :=
  ⟨asks, trivial⟩

/-- An outcome that is known asks nothing. -/
theorem asksOnly_ofExcept (outcome : Except Error α) :
    script.AsksOnly questions (Introspection.ofExcept outcome).run :=
  trivial

/-- Of a dialogue in two parts, the second one is looked at for the value that
the script gives to the first one, and for no other. -/
theorem asksOnly_bind
    {dialogue : Dialogue α}
    (first : script.AsksOnly questions dialogue)
    {next : α → Dialogue β}
    (second : script.AsksOnly questions (next (script.value dialogue))) :
    script.AsksOnly questions (dialogue >>= next) := by
  induction dialogue with
  | done value => exact second
  | fetch query params continuation inductionHypothesis =>
      exact ⟨first.1, inductionHypothesis _ first.2 second⟩
  | describe query continuation inductionHypothesis =>
      exact ⟨first.1, inductionHypothesis _ first.2 second⟩

/-- The second of two dialogues has to keep to the questions only if the first
one succeeds. -/
theorem asksOnly_run_bind
    {dialogue : ExceptT ε Dialogue α}
    (first : script.AsksOnly questions dialogue.run)
    {next : α → ExceptT ε Dialogue β}
    (second : ∀ value, script.result dialogue = .ok value →
      script.AsksOnly questions (next value).run) :
    script.AsksOnly questions (dialogue >>= next).run := by
  rw [ExceptT.run_bind]
  apply asksOnly_bind first
  cases ended : script.value dialogue.run with
  | error failure => trivial
  | ok value => exact second value ended

theorem asksOnly_run_map
    {dialogue : ExceptT ε Dialogue α}
    (asks : script.AsksOnly questions dialogue.run)
    (apply : α → β) :
    script.AsksOnly questions (apply <$> dialogue).run := by
  rw [map_eq_pure_bind]
  exact asksOnly_run_bind asks fun _ _ => trivial

/-- A step that asks only some questions about each item asks only these about
all of them. -/
theorem asksOnly_run_mapM
    {step : α → ExceptT ε Dialogue β}
    {items : List α}
    (each : ∀ item ∈ items, script.AsksOnly questions (step item).run) :
    script.AsksOnly questions (items.mapM step).run := by
  induction items with
  | nil => trivial
  | cons item rest inductionHypothesis =>
      obtain ⟨first, others⟩ := List.forall_mem_cons.1 each
      rw [List.mapM_cons]
      apply asksOnly_run_bind first
      intro value _
      apply asksOnly_run_bind (inductionHypothesis others)
      intro values _
      trivial

end Asking

/-! ## What agreement decides -/

/-- The record of a script has no part in its round trips. -/
theorem exchanges_record
    (dialogue : Dialogue α)
    (script : Script)
    (recorded : String) :
    dialogue.exchanges connection (script.record recorded) =
      dialogue.exchanges connection script := by
  induction dialogue generalizing script recorded with
  | done value => rfl
  | fetch query params next inductionHypothesis =>
      have later := inductionHypothesis (script.fetch query params)
      have twice := (later (script.record recorded) query).trans
        ((later script recorded).trans (later script query).symm)
      exact congrArg (.fetched query params (script.fetch query params) :: ·)
        twice
  | describe query next inductionHypothesis =>
      have later := inductionHypothesis (script.describe query)
      have twice := (later (script.record recorded) query).trans
        ((later script recorded).trans (later script query).symm)
      exact congrArg (.described query (script.describe query) :: ·) twice

/-- A script answers a row query, and the dialogue goes on with this answer in
front of the same script. -/
theorem exchanges_fetch
    (script : Script)
    (query : String)
    (params : List String)
    (next : Answer (List Row) → Dialogue α) :
    (Dialogue.fetch query params next).exchanges connection script =
      .fetched query params (script.fetch query params) ::
        (next (script.fetch query params)).exchanges connection script :=
  congrArg (_ :: ·) (exchanges_record _ script query)

theorem exchanges_describe
    (script : Script)
    (query : String)
    (next : Answer (List RawColumn) → Dialogue α) :
    (Dialogue.describe query next).exchanges connection script =
      .described query (script.describe query) ::
        (next (script.describe query)).exchanges connection script :=
  congrArg (_ :: ·) (exchanges_record _ script query)

section Agreement

variable
  {script other : Script}
  {questions : Question → Prop}
  (agree : ∀ question, questions question → script.AgreesOn other question)

include agree

/-- Two scripts that agree on all that is asked give the same value. -/
theorem value_eq_of_agree
    {dialogue : Dialogue α}
    (asks : script.AsksOnly questions dialogue) :
    other.value dialogue = script.value dialogue := by
  induction dialogue with
  | done value => rfl
  | fetch query params next inductionHypothesis =>
      have answer : other.fetch query params = script.fetch query params :=
        agree _ asks.1
      rw [value, value, answer]
      exact inductionHypothesis _ asks.2
  | describe query next inductionHypothesis =>
      have answer : other.describe query = script.describe query :=
        agree _ asks.1
      rw [value, value, answer]
      exact inductionHypothesis _ asks.2

theorem result_eq_of_agree
    {dialogue : ExceptT ε Dialogue α}
    (asks : script.AsksOnly questions dialogue.run) :
    other.result dialogue = script.result dialogue :=
  value_eq_of_agree agree asks

theorem exchanges_eq_of_agree
    {dialogue : Dialogue α}
    (asks : script.AsksOnly questions dialogue) :
    dialogue.exchanges connection other =
      dialogue.exchanges connection script := by
  induction dialogue with
  | done value => rfl
  | fetch query params next inductionHypothesis =>
      have answer : other.fetch query params = script.fetch query params :=
        agree _ asks.1
      have later := inductionHypothesis _ asks.2
      rw [exchanges_fetch, exchanges_fetch, answer, later]
  | describe query next inductionHypothesis =>
      have answer : other.describe query = script.describe query :=
        agree _ asks.1
      have later := inductionHypothesis _ asks.2
      rw [exchanges_describe, exchanges_describe, answer, later]

/-- A run leaves the same queries behind in the record. -/
theorem queries_eq_of_agree
    {dialogue : Dialogue α}
    (asks : script.AsksOnly questions dialogue) :
    other.queries dialogue = script.queries dialogue := by
  rw [← map_query_exchanges, ← map_query_exchanges,
    exchanges_eq_of_agree agree asks]

end Agreement

end Script
end Catalog
end TypedSql
