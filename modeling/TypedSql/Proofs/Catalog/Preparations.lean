import TypedSql.Proofs.Catalog.Script

/-!
# Prepared answers

The answers of a script are prepared one after the other, for row queries by a
fragment of their text and possibly their exact parameters, and for
descriptions by the text without its outer blanks.  A preparation decides the
answers to the queries that it is meant for and leaves all others as they were,
so a query is answered by the last preparation that is meant for it.

Playing a dialogue changes nothing but the record of queries, and the record has
no part in any answer.
-/

namespace TypedSql
namespace Catalog

open Result (IsLast SetBy)

/-- An answer that a script is prepared to give. -/
inductive Preparation where
  | rows (fragment : String) (rows : List Row)
  | rowsWith (fragment : String) (params : List String) (rows : List Row)
  | rowsFailure (fragment reason : String)
  | description (query : String) (columns : List RawColumn)
  | descriptionFailure (query reason : String)

namespace Preparation

/-- A preparation answers a row query: its fragment occurs in the text, and if
it has parameters, they are those of the query. -/
inductive Fetches :
    Preparation → String → List String → Answer (List Row) → Prop where
  | rows
      {fragment query : String}
      {params : List String}
      {rows : List Row}
      (occurs : fragment.toList <:+: query.toList) :
      Fetches (.rows fragment rows) query params (.ok rows)
  | rowsWith
      {fragment query : String}
      {params : List String}
      {rows : List Row}
      (occurs : fragment.toList <:+: query.toList) :
      Fetches (.rowsWith fragment params rows) query params (.ok rows)
  | rowsFailure
      {fragment query reason : String}
      {params : List String}
      (occurs : fragment.toList <:+: query.toList) :
      Fetches (.rowsFailure fragment reason) query params
        (.error (.queryFailed fragment reason))

/-- A preparation describes a query: their texts differ in outer blanks at
most. -/
inductive Describes :
    Preparation → String → Answer (List RawColumn) → Prop where
  | description
      {text query : String}
      {columns : List RawColumn}
      (same : Text.trim text = Text.trim query) :
      Describes (.description text columns) query (.ok columns)
  | descriptionFailure
      {text query reason : String}
      (same : Text.trim text = Text.trim query) :
      Describes (.descriptionFailure text reason) query
        (.error (.queryFailed text reason))

end Preparation

/-- An entry answers a query in which its fragment occurs, if the parameters are
as expected, or none are. -/
theorem RowScript.answers_iff
    {entry : RowScript}
    {query : String}
    {params : List String} :
    entry.answers query params = true ↔
      entry.fragment.toList <:+: query.toList ∧
        ∀ expected ∈ entry.params, expected = params := by
  rw [answers, Bool.and_eq_true, Text.contains,
    Text.occursIn_iff_isInfix]
  cases entry.params <;> simp

namespace Script

/-! ## One preparation -/

/-- Prepare one more answer. -/
def prepare (script : Script) : Preparation → Script
  | .rows fragment rows => script.onQuery fragment rows
  | .rowsWith fragment params rows => script.onQueryWith fragment params rows
  | .rowsFailure fragment reason => script.failQuery fragment reason
  | .description query columns => script.onDescribe query columns
  | .descriptionFailure query reason => script.failDescribe query reason

/-- The newest preparation comes first, if it is meant for the query. -/
theorem fetch_prepare_of_fetches
    {script : Script}
    {preparation : Preparation}
    {query : String}
    {params : List String}
    {answer : Answer (List Row)}
    (fetches : preparation.Fetches query params answer) :
    (script.prepare preparation).fetch query params = answer := by
  cases fetches with
  | rows occurs =>
      exact fetch_cons_of_answers (RowScript.answers_iff.2 ⟨occurs, nofun⟩)
  | rowsWith occurs =>
      exact fetch_cons_of_answers (RowScript.answers_iff.2 ⟨occurs, by simp⟩)
  | rowsFailure occurs =>
      exact fetch_cons_of_answers (RowScript.answers_iff.2 ⟨occurs, nofun⟩)

/-- Otherwise the query is answered as before.  In particular, no description
changes the answer to a row query. -/
theorem fetch_prepare_of_not_fetches
    {script : Script}
    {preparation : Preparation}
    {query : String}
    {params : List String}
    (silent : ¬∃ answer, preparation.Fetches query params answer) :
    (script.prepare preparation).fetch query params =
      script.fetch query params := by
  cases preparation with
  | rows fragment rows =>
      apply fetch_cons_of_not_answers
      rw [RowScript.answers_iff]
      rintro ⟨occurs, -⟩
      exact silent ⟨_, .rows occurs⟩
  | rowsWith fragment expected rows =>
      apply fetch_cons_of_not_answers
      rw [RowScript.answers_iff]
      rintro ⟨occurs, same⟩
      obtain rfl := same expected rfl
      exact silent ⟨_, .rowsWith occurs⟩
  | rowsFailure fragment reason =>
      apply fetch_cons_of_not_answers
      rw [RowScript.answers_iff]
      rintro ⟨occurs, -⟩
      exact silent ⟨_, .rowsFailure occurs⟩
  | description query columns => rfl
  | descriptionFailure query reason => rfl

/-- The newest description comes first, if its text is that of the query. -/
theorem describe_prepare_of_describes
    {script : Script}
    {preparation : Preparation}
    {query : String}
    {answer : Answer (List RawColumn)}
    (describes : preparation.Describes query answer) :
    (script.prepare preparation).describe query = answer := by
  cases describes with
  | description same => exact describe_cons_of_eq same
  | descriptionFailure same => exact describe_cons_of_eq same

/-- Otherwise the query is described as before. -/
theorem describe_prepare_of_not_describes
    {script : Script}
    {preparation : Preparation}
    {query : String}
    (silent : ¬∃ answer, preparation.Describes query answer) :
    (script.prepare preparation).describe query = script.describe query := by
  cases preparation with
  | rows fragment rows => rfl
  | rowsWith fragment params rows => rfl
  | rowsFailure fragment reason => rfl
  | description text columns =>
      exact describe_cons_of_ne fun same => silent ⟨_, .description same⟩
  | descriptionFailure text reason =>
      exact describe_cons_of_ne fun same => silent ⟨_, .descriptionFailure same⟩

/-! ## Any number of preparations -/

/-- The script of some preparations, which nobody has questioned yet. -/
def ofPreparations (preparations : List Preparation) : Script :=
  preparations.foldl prepare {}

theorem setBy_fetch (query : String) (params : List String) :
    SetBy
      (fun script : Script => script.fetch query params)
      prepare
      (fun preparation => ∃ answer, preparation.Fetches query params answer)
      (fun preparation answer =>
        preparation.Fetches query params answer) where
  set := by
    rintro script preparation answer ⟨other, fetches⟩
    constructor
    · rintro rfl
      rwa [fetch_prepare_of_fetches fetches]
    · exact fetch_prepare_of_fetches
  left := fetch_prepare_of_not_fetches

theorem setBy_describe (query : String) :
    SetBy
      (fun script : Script => script.describe query)
      prepare
      (fun preparation => ∃ answer, preparation.Describes query answer)
      (fun preparation answer => preparation.Describes query answer) where
  set := by
    rintro script preparation answer ⟨other, describes⟩
    constructor
    · rintro rfl
      rwa [describe_prepare_of_describes describes]
    · exact describe_prepare_of_describes
  left := describe_prepare_of_not_describes

/-- The last preparation for a query answers it. -/
theorem fetch_ofPreparations_eq_iff
    {preparations : List Preparation}
    {query : String}
    {params : List String}
    {answer : Answer (List Row)} :
    (ofPreparations preparations).fetch query params = answer ↔
      (∃ preparation,
        IsLast (fun other => ∃ given, other.Fetches query params given)
            preparations preparation ∧
          preparation.Fetches query params answer) ∨
        (∀ preparation ∈ preparations,
            ¬∃ given, preparation.Fetches query params given) ∧
          .error (.queryFailed query
              ("no scripted rows for params " ++ Text.quotedList params)) =
            answer :=
  (setBy_fetch query params).foldl_eq_iff

/-- The last preparation for a query describes it. -/
theorem describe_ofPreparations_eq_iff
    {preparations : List Preparation}
    {query : String}
    {answer : Answer (List RawColumn)} :
    (ofPreparations preparations).describe query = answer ↔
      (∃ preparation,
        IsLast (fun other => ∃ given, other.Describes query given)
            preparations preparation ∧
          preparation.Describes query answer) ∨
        (∀ preparation ∈ preparations,
            ¬∃ given, preparation.Describes query given) ∧
          .error (.queryFailed query "no scripted describe") = answer :=
  (setBy_describe query).foldl_eq_iff

/-! ## Dialogues -/

/-- A dialogue leaves a script as it was, but for the queries of its round
trips, which are recorded word for word. -/
theorem snd_run_connection
    {α : Type}
    (dialogue : Dialogue α)
    (script : Script) :
    (dialogue.run connection script).2 =
      { script with
        issued :=
          script.issued ++
            (dialogue.exchanges connection script).map (·.query) } := by
  rw [run_connection, map_query_exchanges]
  rfl

/-- What a dialogue comes to does not depend on the dialogues before it. -/
theorem fst_run_connection_of_run
    {α β : Type}
    (earlier : Dialogue α)
    (later : Dialogue β)
    (script : Script) :
    (later.run connection (earlier.run connection script).2).1 =
      (later.run connection script).1 := by
  simp only [run_connection, value_recordAll]

/-- A script answers by the last of its preparations that is meant for a
query. -/
structure AnswersByLast
    (script : Script)
    (preparations : List Preparation) :
    Prop where
  fetch_iff
    (query : String)
    (params : List String)
    (answer : Answer (List Row)) :
    script.fetch query params = answer ↔
      (∃ preparation,
        IsLast (fun other => ∃ given, other.Fetches query params given)
            preparations preparation ∧
          preparation.Fetches query params answer) ∨
        (∀ preparation ∈ preparations,
            ¬∃ given, preparation.Fetches query params given) ∧
          .error (.queryFailed query
              ("no scripted rows for params " ++ Text.quotedList params)) =
            answer
  describe_iff
    (query : String)
    (answer : Answer (List RawColumn)) :
    script.describe query = answer ↔
      (∃ preparation,
        IsLast (fun other => ∃ given, other.Describes query given)
            preparations preparation ∧
          preparation.Describes query answer) ∨
        (∀ preparation ∈ preparations,
            ¬∃ given, preparation.Describes query given) ∧
          .error (.queryFailed query "no scripted describe") = answer
  /-- One more preparation answers the row queries that it is meant for. -/
  fetch_prepare
    {preparation : Preparation}
    {query : String}
    {params : List String}
    {answer : Answer (List Row)}
    (fetches : preparation.Fetches query params answer) :
    (script.prepare preparation).fetch query params = answer
  /-- All others are answered as before. -/
  fetch_untouched
    {preparation : Preparation}
    {query : String}
    {params : List String}
    (silent : ∀ answer, ¬preparation.Fetches query params answer) :
    (script.prepare preparation).fetch query params =
      script.fetch query params
  describe_prepare
    {preparation : Preparation}
    {query : String}
    {answer : Answer (List RawColumn)}
    (describes : preparation.Describes query answer) :
    (script.prepare preparation).describe query = answer
  describe_untouched
    {preparation : Preparation}
    {query : String}
    (silent : ∀ answer, ¬preparation.Describes query answer) :
    (script.prepare preparation).describe query = script.describe query
  /-- A question is answered and recorded, whatever the answer is. -/
  asked_fetch
    (query : String)
    (params : List String) :
    connection.fetch query params script =
      (script.fetch query params,
        { script with issued := script.issued ++ [query] })
  asked_describe
    (query : String) :
    connection.describe query script =
      (script.describe query,
        { script with issued := script.issued ++ [query] })
  /-- So is every question of a dialogue. -/
  after_run
    {α : Type}
    (dialogue : Dialogue α) :
    (dialogue.run connection script).2 =
      { script with
        issued :=
          script.issued ++
            (dialogue.exchanges connection script).map (·.query) }
  /-- Questions that were put before have no part in what a dialogue comes
  to. -/
  unaffected
    {α β : Type}
    (earlier : Dialogue α)
    (later : Dialogue β) :
    (later.run connection (earlier.run connection script).2).1 =
      (later.run connection script).1

/-- Whatever answers have been prepared, the last preparation that is meant for
a query decides its answer, and asking changes nothing but the record. -/
theorem answersByLast_ofPreparations (preparations : List Preparation) :
    (ofPreparations preparations).AnswersByLast preparations where
  fetch_iff _ _ _ := fetch_ofPreparations_eq_iff
  describe_iff _ _ := describe_ofPreparations_eq_iff
  fetch_prepare := fetch_prepare_of_fetches
  fetch_untouched silent :=
    fetch_prepare_of_not_fetches (not_exists.2 silent)
  describe_prepare := describe_prepare_of_describes
  describe_untouched silent :=
    describe_prepare_of_not_describes (not_exists.2 silent)
  asked_fetch _ _ := rfl
  asked_describe _ := rfl
  after_run dialogue := snd_run_connection dialogue _
  unaffected earlier later := fst_run_connection_of_run earlier later _

end Script
end Catalog
end TypedSql
