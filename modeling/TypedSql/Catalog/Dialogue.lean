import TypedSql.Catalog.RawColumn
import TypedSql.Catalog.Row

/-!
# Dialogues with a database

A dialogue is a computation that may put questions to a database: fetch the
rows of a query, or describe the columns of its result.  Each question is one
round trip, and the next one is asked only after the answer has been read.

A connection answers questions, and its answers may depend on everything that
was asked before.  `Dialogue.run` plays a dialogue against a connection, and
`Dialogue.exchanges` lists the round trips of that run.
-/

namespace TypedSql
namespace Catalog

/-- The answer to a question, which may be a failure. -/
abbrev Answer (α : Type) : Type :=
  Except Error α

/-- A computation that may question a database. -/
inductive Dialogue (α : Type) : Type where
  | done (value : α) : Dialogue α
  | fetch
      (query : String)
      (params : List String)
      (next : Answer (List Row) → Dialogue α) :
      Dialogue α
  | describe
      (query : String)
      (next : Answer (List RawColumn) → Dialogue α) :
      Dialogue α

/-- A database as a dialogue sees it; `σ` is what its answers depend on. -/
structure Connection (σ : Type) where
  fetch : String → List String → σ → Answer (List Row) × σ
  describe : String → σ → Answer (List RawColumn) × σ

/-- One round trip: a question and its answer. -/
inductive Exchange where
  | fetched
      (query : String)
      (params : List String)
      (answer : Answer (List Row))
  | described
      (query : String)
      (answer : Answer (List RawColumn))

/-- The query text of a round trip. -/
def Exchange.query : Exchange → String
  | fetched query _ _ | described query _ => query

namespace Dialogue

variable {α β σ : Type}

/-- Go on with the value of a dialogue. -/
def andThen : Dialogue α → (α → Dialogue β) → Dialogue β
  | done value, continuation => continuation value
  | fetch query params next, continuation =>
    fetch query params fun answer => (next answer).andThen continuation
  | describe query next, continuation =>
    describe query fun answer => (next answer).andThen continuation

instance : Monad Dialogue where
  pure := done
  bind := andThen

@[simp] theorem done_bind
    (value : α)
    (continuation : α → Dialogue β) :
    (done value >>= continuation) = continuation value :=
  rfl

@[simp] theorem fetch_bind
    (query : String)
    (params : List String)
    (next : Answer (List Row) → Dialogue α)
    (continuation : α → Dialogue β) :
    (fetch query params next >>= continuation) =
      fetch query params fun answer => next answer >>= continuation :=
  rfl

@[simp] theorem describe_bind
    (query : String)
    (next : Answer (List RawColumn) → Dialogue α)
    (continuation : α → Dialogue β) :
    (describe query next >>= continuation) =
      describe query fun answer => next answer >>= continuation :=
  rfl

/-- Going on with nothing changes nothing. -/
theorem bind_done (dialogue : Dialogue α) : (dialogue >>= done) = dialogue := by
  induction dialogue with
  | done value => rfl
  | fetch query params next inductionHypothesis =>
      rw [fetch_bind]
      exact congrArg _ (funext inductionHypothesis)
  | describe query next inductionHypothesis =>
      rw [describe_bind]
      exact congrArg _ (funext inductionHypothesis)

/-- Dialogues that follow each other can be grouped at will. -/
theorem bind_bind
    {γ : Type}
    (dialogue : Dialogue α)
    (first : α → Dialogue β)
    (second : β → Dialogue γ) :
    (dialogue >>= first >>= second) =
      dialogue >>= fun value => first value >>= second := by
  induction dialogue with
  | done value => rfl
  | fetch query params next inductionHypothesis =>
      simp only [fetch_bind]
      exact congrArg _ (funext inductionHypothesis)
  | describe query next inductionHypothesis =>
      simp only [describe_bind]
      exact congrArg _ (funext inductionHypothesis)

instance : LawfulMonad Dialogue :=
  LawfulMonad.mk' Dialogue
    bind_done
    (fun _ _ => rfl)
    bind_bind

/-- Play a dialogue against a connection. -/
def run (connection : Connection σ) : Dialogue α → σ → α × σ
  | done value, state => (value, state)
  | fetch query params next, state =>
    let (answer, state) := connection.fetch query params state
    (next answer).run connection state
  | describe query next, state =>
    let (answer, state) := connection.describe query state
    (next answer).run connection state

/-- The round trips of a dialogue with a connection, in order. -/
def exchanges (connection : Connection σ) : Dialogue α → σ → List Exchange
  | done _, _ => []
  | fetch query params next, state =>
    let (answer, state) := connection.fetch query params state
    .fetched query params answer :: (next answer).exchanges connection state
  | describe query next, state =>
    let (answer, state) := connection.describe query state
    .described query answer :: (next answer).exchanges connection state

end Dialogue

/-- A dialogue about the catalog, which may fail. -/
abbrev Introspection (α : Type) : Type :=
  ExceptT Error Dialogue α

namespace Introspection

/-- Fetch the rows of a query with positional parameters. -/
def fetch (query : String) (params : List String) : Introspection (List Row) :=
  .mk (.fetch query params .done)

/-- Describe the result columns of a query. -/
def describe (query : String) : Introspection (List RawColumn) :=
  .mk (.describe query .done)

/-- A result that is already known. -/
def ofExcept {α : Type} (result : Except Error α) : Introspection α :=
  .mk (.done result)

end Introspection
end Catalog
end TypedSql
