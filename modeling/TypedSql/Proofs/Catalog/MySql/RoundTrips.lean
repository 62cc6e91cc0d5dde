import TypedSql.Proofs.Catalog.Conversation
import TypedSql.Proofs.Catalog.MySql.Answers
import TypedSql.Proofs.Catalog.Refusal

/-!
# Round trips of a load

A load stops at the first round trip that fails and gives back its error; no
other of its errors is one of the connection or of a query.  A catalog query
is put only directly after the current database was asked for, and with the
name that was found.  A load that succeeds has a number of round trips that
its schema tells.

All of this holds of every part of a load and is kept when parts follow each
other, so it is proved along the structure of the load.
-/

namespace TypedSql
namespace Catalog

variable {α β σ : Type}

/-- The failure of a round trip, if it has failed. -/
def Exchange.failure? : Exchange → Option Error
  | .fetched _ _ answer => Result.failure? answer
  | .described _ answer => Result.failure? answer

/-- Whatever a connection itself reports is a failure of the connection or of
a query. -/
structure Connection.FailsInIo (connection : Connection σ) : Prop where
  fetch (query : String) (params : List String) (state : σ) :
    Result.FailsWithin (·.kind = .io) (connection.fetch query params state).1
  describe (query : String) (state : σ) :
    Result.FailsWithin (·.kind = .io) (connection.describe query state).1

theorem Connection.FailsInIo.kind_eq
    {connection : Connection σ}
    (failsInIo : connection.FailsInIo)
    {dialogue : Dialogue α}
    {state : σ}
    {trip : Exchange}
    (member : trip ∈ dialogue.exchanges connection state)
    {failure : Error}
    (failed : trip.failure? = some failure) :
    failure.kind = .io := by
  induction dialogue generalizing state with
  | done value => cases member
  | fetch query params next inductionHypothesis =>
      rcases List.mem_cons.1 member with rfl | later
      · exact failsInIo.fetch query params state failure
          (Result.failure?_eq_some_iff.1 failed)
      · exact inductionHypothesis _ later
  | describe query next inductionHypothesis =>
      rcases List.mem_cons.1 member with rfl | later
      · exact failsInIo.describe query state failure
          (Result.failure?_eq_some_iff.1 failed)
      · exact inductionHypothesis _ later

namespace MySql

/-! ## The current database -/

/-- The first value of the first row is a name. -/
def NamesDatabase (rows : List Row) (name : String) : Prop :=
  ∃ row others, rows = row :: others ∧ row.get? 0 = some name ∧ name ≠ ""

/-- There is no first row, or its first value is NULL or empty. -/
def NamesNoDatabase (rows : List Row) : Prop :=
  rows = [] ∨
    ∃ row others,
      rows = row :: others ∧ (row.get? 0 = none ∨ row.get? 0 = some "")

theorem databaseOfRows_of_namesNoDatabase
    {rows : List Row}
    (nameless : NamesNoDatabase rows) :
    databaseOfRows rows = .error .noDatabaseSelected := by
  rcases nameless with rfl | ⟨row, others, rfl, absent | empty⟩
  · rfl
  · simp [databaseOfRows, absent]
  · simp [databaseOfRows, empty]

/-- The name of the database is the first value of the first row, and it is not
empty. -/
theorem databaseOfRows_eq_ok_iff {rows : List Row} {name : String} :
    databaseOfRows rows = .ok name ↔ NamesDatabase rows name := by
  constructor
  · intro found
    unfold databaseOfRows at found
    split at found
    next first present =>
      split at found
      next => cases found
      next nonempty =>
        cases found
        obtain ⟨row, leads, value⟩ := Option.bind_eq_some_iff.1 present
        obtain ⟨others, rfl⟩ := List.head?_eq_some_iff.1 leads
        exact ⟨row, others, rfl, value, by simpa using nonempty⟩
    next => cases found
  · rintro ⟨row, others, rfl, present, nonempty⟩
    simp [databaseOfRows, present, nonempty]

/-- Rows that name a database do not leave it open. -/
theorem not_namesNoDatabase_of_namesDatabase
    {rows : List Row}
    {name : String}
    (named : NamesDatabase rows name) :
    ¬NamesNoDatabase rows := by
  intro nameless
  have found := databaseOfRows_eq_ok_iff.2 named
  rw [databaseOfRows_of_namesNoDatabase nameless] at found
  cases found

/-! ## Discipline -/

/-- How the round trips of a load, or of a part of it, keep with what the load
comes to. -/
structure Disciplined
    (trips : List Exchange)
    (result : Except Error α) :
    Prop where
  /-- A round trip that fails is the last one, and its failure is the result. -/
  stops
      {before after : List Exchange}
      {trip : Exchange}
      (split : trips = before ++ trip :: after)
      {failure : Error}
      (failed : trip.failure? = some failure) :
    after = [] ∧ result = .error failure
  /-- A failure of the connection or of a query is that of a round trip. -/
  failed_of_io
      {failure : Error}
      (failed : result = .error failure)
      (io : failure.kind = .io) :
    ∃ trip ∈ trips, trip.failure? = some failure
  /-- A catalog query directly follows a question for the current database,
  and the name that was the answer is its first parameter. -/
  inCurrentDatabase
      {before after : List Exchange}
      {query : String}
      {params : List String}
      {answer : Answer (List Row)}
      (split : trips = before ++ .fetched query params answer :: after)
      (differs : query ≠ currentDatabaseQuery) :
    ∃ earlier rows name others,
      before = earlier ++ [.fetched currentDatabaseQuery [] (.ok rows)] ∧
        NamesDatabase rows name ∧ params = name :: others
  /-- When there is no current database, nothing more is asked. -/
  unselected
      {before after : List Exchange}
      {params : List String}
      {rows : List Row}
      (split :
        trips =
          before ++ .fetched currentDatabaseQuery params (.ok rows) :: after)
      (nameless : NamesNoDatabase rows) :
    after = [] ∧ result = .error .noDatabaseSelected

/-- An item of two lists in a row is one of the first or of the second. -/
theorem split_append
    {early late before after : List α}
    {item : α}
    (split : early ++ late = before ++ item :: after) :
    (∃ between,
        early = before ++ item :: between ∧ after = between ++ late) ∨
      ∃ between,
        before = early ++ between ∧ late = between ++ item :: after := by
  rcases List.append_eq_append_iff.1 split with
    ⟨between, prior, rest⟩ | ⟨between, prior, rest⟩
  · exact .inr ⟨between, prior, rest⟩
  · cases between with
    | nil =>
        rw [List.append_nil] at prior
        exact .inr ⟨[], by rw [prior, List.append_nil], rest.symm⟩
    | cons first others =>
        obtain ⟨rfl, rfl⟩ := List.cons.inj rest
        exact .inl ⟨others, prior, rfl⟩

/-- Disciplined parts may follow each other. -/
theorem Disciplined.append
    {early late : List Exchange}
    {value : α}
    {result : Except Error β}
    (first : Disciplined early (.ok value : Except Error α))
    (second : Disciplined late result) :
    Disciplined (early ++ late) result where
  stops split failure failed := by
    rcases split_append split with ⟨between, prior, -⟩ | ⟨between, -, rest⟩
    · cases (first.stops prior failed).2
    · exact second.stops rest failed
  failed_of_io failed io := by
    obtain ⟨trip, member, tripFailed⟩ := second.failed_of_io failed io
    exact ⟨trip, List.mem_append_right _ member, tripFailed⟩
  inCurrentDatabase split differs := by
    rcases split_append split with ⟨between, prior, -⟩ | ⟨between, rfl, rest⟩
    · exact first.inCurrentDatabase prior differs
    · obtain ⟨earlier, rows, name, others, rfl, named, given⟩ :=
        second.inCurrentDatabase rest differs
      exact ⟨early ++ earlier, rows, name, others,
        (List.append_assoc ..).symm, named, given⟩
  unselected split nameless := by
    rcases split_append split with ⟨between, prior, -⟩ | ⟨between, -, rest⟩
    · cases (first.unselected prior nameless).2
    · exact second.unselected rest nameless

/-- What a part that ends with a failure has done does not depend on what it
was to find. -/
theorem Disciplined.of_error
    {trips : List Exchange}
    {failure : Error}
    (disciplined : Disciplined trips (.error failure : Except Error α)) :
    Disciplined trips (.error failure : Except Error β) where
  stops split other failed := by
    obtain ⟨rfl, ⟨⟩⟩ := disciplined.stops split failed
    exact ⟨rfl, rfl⟩
  failed_of_io failed io := by
    cases failed
    exact disciplined.failed_of_io rfl io
  inCurrentDatabase := disciplined.inCurrentDatabase
  unselected split nameless := by
    obtain ⟨rfl, ⟨⟩⟩ := disciplined.unselected split nameless
    exact ⟨rfl, rfl⟩

/-- Without round trips there is no discipline to keep, but a refusal must not
look like one of a round trip. -/
theorem disciplined_nil
    {result : Except Error α}
    (refuses : RefusesOnly result) :
    Disciplined [] result where
  stops split := by simp at split
  failed_of_io failed io := absurd io (refuses _ failed)
  inCurrentDatabase split := by simp at split
  unselected split := by simp at split

/-- What was found may be refused when it is read. -/
theorem Disciplined.read
    {trips : List Exchange}
    {answer : Except Error α}
    (disciplined : Disciplined trips answer)
    {read : α → Except Error β}
    (refuses : ∀ value, RefusesOnly (read value)) :
    Disciplined trips (answer >>= read) := by
  cases answer with
  | error failure => exact disciplined.of_error
  | ok value =>
      rw [← List.append_nil trips]
      exact disciplined.append (disciplined_nil (refuses value))

/-! ## Questions -/

theorem split_singleton
    {item other : α}
    {before after : List α}
    (split : [item] = before ++ other :: after) :
    before = [] ∧ other = item ∧ after = [] := by
  cases before with
  | nil =>
      cases split
      exact ⟨rfl, rfl, rfl⟩
  | cons first others => simp at split

theorem split_pair
    {first second other : α}
    {before after : List α}
    (split : [first, second] = before ++ other :: after) :
    (before = [] ∧ other = first ∧ after = [second]) ∨
      (before = [first] ∧ other = second ∧ after = []) := by
  cases before with
  | nil =>
      cases split
      exact .inl ⟨rfl, rfl, rfl⟩
  | cons head others =>
      obtain ⟨rfl, rest⟩ := List.cons.inj split
      obtain ⟨rfl, rfl, rfl⟩ := split_singleton rest
      exact .inr ⟨rfl, rfl, rfl⟩

/-- A description is one round trip, and its failure is passed on. -/
theorem disciplined_described
    (query : String)
    (answer : Answer (List RawColumn)) :
    Disciplined [.described query answer] answer where
  stops split failure failed := by
    obtain ⟨-, rfl, rfl⟩ := split_singleton split
    exact ⟨rfl, Result.failure?_eq_some_iff.1 failed⟩
  failed_of_io failed _ :=
    ⟨_, List.mem_cons_self, Result.failure?_eq_some_iff.2 failed⟩
  inCurrentDatabase split := by
    obtain ⟨-, ⟨⟩, -⟩ := split_singleton split
  unselected split := by
    obtain ⟨-, ⟨⟩, -⟩ := split_singleton split

/-- The query for the database needs no other in front of it. -/
theorem disciplined_currentDatabase (answer : Answer (List Row)) :
    Disciplined [.fetched currentDatabaseQuery [] answer]
      (answer >>= databaseOfRows) where
  stops split failure failed := by
    obtain ⟨-, rfl, rfl⟩ := split_singleton split
    rw [Result.failure?_eq_some_iff.1 failed]
    exact ⟨rfl, rfl⟩
  failed_of_io failed io := by
    rcases Result.bind_eq_error_iff.1 failed with atOnce | ⟨rows, -, refused⟩
    · exact ⟨_, List.mem_cons_self, Result.failure?_eq_some_iff.2 atOnce⟩
    · exact absurd io (refusesOnly_databaseOfRows rows _ refused)
  inCurrentDatabase split differs := by
    obtain ⟨-, ⟨⟩, -⟩ := split_singleton split
    exact absurd rfl differs
  unselected split nameless := by
    obtain ⟨-, ⟨⟩, rfl⟩ := split_singleton split
    exact ⟨rfl, databaseOfRows_of_namesNoDatabase nameless⟩

/-- A catalog query in the database that was found before. -/
theorem disciplined_asked
    {rows : List Row}
    {name : String}
    (named : NamesDatabase rows name)
    {query : String}
    (differs : query ≠ currentDatabaseQuery)
    (params : List String)
    (answer : Answer (List Row)) :
    Disciplined
      [.fetched currentDatabaseQuery [] (.ok rows),
        .fetched query (name :: params) answer]
      answer where
  stops split failure failed := by
    rcases split_pair split with ⟨-, rfl, rfl⟩ | ⟨-, rfl, rfl⟩
    · cases failed
    · exact ⟨rfl, Result.failure?_eq_some_iff.1 failed⟩
  failed_of_io failed _ :=
    ⟨_, List.mem_cons_of_mem _ List.mem_cons_self,
      Result.failure?_eq_some_iff.2 failed⟩
  inCurrentDatabase split differs := by
    rcases split_pair split with ⟨-, ⟨⟩, -⟩ | ⟨rfl, ⟨⟩, -⟩
    · exact absurd rfl differs
    · exact ⟨[], rows, name, params, rfl, named, rfl⟩
  unselected split nameless := by
    rcases split_pair split with ⟨-, ⟨⟩, -⟩ | ⟨-, ⟨⟩, -⟩
    · exact absurd nameless (not_namesNoDatabase_of_namesDatabase named)
    · exact absurd rfl differs

/-! ## Disciplined introspections -/

/-- Whatever the answers are, the round trips keep the discipline. -/
def IsDisciplined (introspection : Introspection α) : Prop :=
  ∀ trips result,
    introspection.run.Conversation trips result → Disciplined trips result

open Introspection (conversation_bind_iff conversation_bind_ok_iff
  conversation_bind_ofExcept_iff conversation_describe_iff
  conversation_fetch_iff conversation_ofExcept_iff conversation_pure_iff
  length_eq_of_conversation_mapM)

theorem isDisciplined_ofExcept
    {result : Except Error α}
    (refuses : RefusesOnly result) :
    IsDisciplined (Introspection.ofExcept result) := by
  intro trips found conversation
  obtain ⟨rfl, rfl⟩ := conversation_ofExcept_iff.1 conversation
  exact disciplined_nil refuses

theorem isDisciplined_pure (value : α) :
    IsDisciplined (pure value : Introspection α) :=
  isDisciplined_ofExcept (Result.failsWithin_ok value)

/-- Two disciplined introspections follow each other with discipline, since the
second one starts only after the first one has succeeded. -/
theorem IsDisciplined.bind
    {introspection : Introspection α}
    (first : IsDisciplined introspection)
    {next : α → Introspection β}
    (second : ∀ value, IsDisciplined (next value)) :
    IsDisciplined (introspection >>= next) := by
  intro trips result conversation
  rcases conversation_bind_iff.1 conversation with
    ⟨early, late, value, rfl, found, onward⟩ | ⟨failure, failed, rfl⟩
  · exact (first early _ found).append (second value late result onward)
  · exact (first trips _ failed).of_error

theorem IsDisciplined.map
    {introspection : Introspection α}
    (disciplined : IsDisciplined introspection)
    (apply : α → β) :
    IsDisciplined (apply <$> introspection) := by
  rw [map_eq_pure_bind]
  exact disciplined.bind fun value => isDisciplined_pure (apply value)

/-- A disciplined step stays so when it is repeated for each item of a list. -/
theorem isDisciplined_mapM
    {step : α → Introspection β}
    (each : ∀ item, IsDisciplined (step item))
    (items : List α) :
    IsDisciplined (items.mapM step) := by
  induction items with
  | nil => exact isDisciplined_pure []
  | cons item rest inductionHypothesis =>
      rw [List.mapM_cons]
      apply (each item).bind
      intro value
      apply inductionHypothesis.bind
      intro values
      exact isDisciplined_pure (value :: values)

/-- Reported columns may be refused, but only after the round trip. -/
theorem isDisciplined_classifyQuery
    {classify : List RawColumn → Except Error (List Column)}
    (refuses : ∀ described, RefusesOnly (classify described))
    (query : String) :
    IsDisciplined (classifyQuery classify query) := by
  intro trips result conversation
  obtain ⟨answer, described, rfl⟩ :=
    conversation_bind_ofExcept_iff.1 conversation
  obtain rfl := conversation_describe_iff.1 described
  exact (disciplined_described query answer).read refuses

/-- The database is found in one round trip. -/
theorem conversation_currentDatabase_iff
    {trips : List Exchange}
    {result : Except Error String} :
    currentDatabase.run.Conversation trips result ↔
      ∃ answer,
        trips = [.fetched currentDatabaseQuery [] answer] ∧
          result = answer >>= databaseOfRows := by
  unfold currentDatabase
  simp only [conversation_bind_ofExcept_iff, conversation_fetch_iff]

/-- A catalog query that is put to the current database. -/
theorem isDisciplined_ask
    (topic : Topic)
    (differs : topic ≠ .currentDatabase)
    (params : List String)
    {read : List Row → Except Error α}
    (refuses : ∀ rows, RefusesOnly (read rows)) :
    IsDisciplined (ask topic.query params read) := by
  intro trips result conversation
  rcases conversation_bind_iff.1 conversation with
    ⟨early, late, name, rfl, found, asked⟩ | ⟨failure, failed, rfl⟩
  · obtain ⟨databaseAnswer, rfl, known⟩ :=
      conversation_currentDatabase_iff.1 found
    obtain ⟨answer, fetched, rfl⟩ := conversation_bind_ofExcept_iff.1 asked
    obtain rfl := conversation_fetch_iff.1 fetched
    obtain ⟨rows, rfl, read⟩ := Result.bind_eq_ok_iff.1 known.symm
    have named := databaseOfRows_eq_ok_iff.1 read
    have separate := Topic.query_injective.ne differs
    exact (disciplined_asked named separate params answer).read refuses
  · obtain ⟨databaseAnswer, rfl, refused⟩ :=
      conversation_currentDatabase_iff.1 failed
    have disciplined := disciplined_currentDatabase databaseAnswer
    rw [← refused] at disciplined
    exact disciplined.of_error

/-- The rows that answer a catalog query are what is read in the end. -/
theorem run_ask_of_answered
    {query : String}
    (differs : query ≠ currentDatabaseQuery)
    {params : List String}
    {read : List Row → Except Error α}
    {connection : Connection σ}
    {state : σ}
    {given : List String}
    {rows : List Row}
    (answered :
      .fetched query given (.ok rows) ∈
        (ask query params read).run.exchanges connection state) :
    ((ask query params read).run.run connection state).1 = read rows := by
  have conversation :=
    (ask query params read).run.conversation_run connection state
  rcases conversation_bind_iff.1 conversation with
    ⟨early, late, name, split, found, asked⟩ | ⟨failure, failed, -⟩
  · obtain ⟨_, rfl, -⟩ := conversation_currentDatabase_iff.1 found
    obtain ⟨answer, fetched, ended⟩ := conversation_bind_ofExcept_iff.1 asked
    obtain rfl := conversation_fetch_iff.1 fetched
    rw [split] at answered
    rcases List.mem_cons.1 answered with same | later
    · exact absurd (Exchange.fetched.inj same).1 differs
    · cases List.mem_singleton.1 later
      exact ended
  · obtain ⟨_, only, -⟩ := conversation_currentDatabase_iff.1 failed
    rw [only] at answered
    have same := List.mem_singleton.1 answered
    exact absurd (Exchange.fetched.inj same).1 differs

/-! ## Loads -/

theorem isDisciplined_loadColumns (dialect : Dialect) (table : String) :
    IsDisciplined (loadColumns (driver dialect) table) :=
  (isDisciplined_classifyQuery refusesOnly_classifyAll _).bind fun _ =>
    isDisciplined_pure _

theorem isDisciplined_loadAutoIncrement
    (dialect : Dialect)
    (table : String)
    (columns : List Column) :
    IsDisciplined (loadAutoIncrement (driver dialect) table columns) := by
  have asked : IsDisciplined ((driver dialect).autoIncrement table) :=
    (isDisciplined_ask Topic.autoIncrement nofun _
      (refusesOnly_namesOfRows _)).map _
  apply asked.bind
  intro name
  cases name with
  | none => exact isDisciplined_pure none
  | some column =>
      exact (isDisciplined_ofExcept
        (refusesOnly_resolveColumn table columns .autoIncrement column)).bind
          fun _ => isDisciplined_pure _

theorem isDisciplined_loadIndex
    (dialect : Dialect)
    (table : String)
    (columns : List Column)
    (name : String) :
    IsDisciplined (loadIndex (driver dialect) table columns name) :=
  (isDisciplined_ask .index nofun _ (refusesOnly_indexOfRows table name)).bind
    fun definition =>
      isDisciplined_ofExcept (definition.refusesOnly_resolve table columns name)

theorem isDisciplined_loadForeignKey
    (dialect : Dialect)
    (table : String)
    (columns : List Column)
    (name : String) :
    IsDisciplined (loadForeignKey (driver dialect) table columns name) :=
  (isDisciplined_ask .foreignKey nofun _
    (refusesOnly_foreignKeyOfRows table name)).bind fun definition =>
      isDisciplined_ofExcept (definition.refusesOnly_resolve table columns name)

theorem isDisciplined_loadTable (dialect : Dialect) (name : String) :
    IsDisciplined (loadTable (driver dialect) name) := by
  apply (isDisciplined_loadColumns dialect name).bind
  intro columns
  apply (isDisciplined_loadAutoIncrement dialect name columns).bind
  intro autoIncrement
  apply (isDisciplined_ask .indexNames nofun _ (refusesOnly_namesOfRows _)).bind
  intro indexNames
  apply (isDisciplined_mapM
    (isDisciplined_loadIndex dialect name columns) indexNames).bind
  intro indexes
  apply (isDisciplined_ask .foreignKeyNames nofun _ (refusesOnly_namesOfRows _)).bind
  intro keyNames
  apply (isDisciplined_mapM
    (isDisciplined_loadForeignKey dialect name columns) keyNames).bind
  intro keys
  exact isDisciplined_pure _

/-- A schema is loaded with discipline, table by table, and foreign keys are
checked without round trips. -/
theorem isDisciplined_loadSchema (dialect : Dialect) :
    IsDisciplined (loadSchema (driver dialect)) := by
  have tables : IsDisciplined (loadTables (driver dialect)) := by
    apply (isDisciplined_ask .tableNames nofun _ (refusesOnly_namesOfRows _)).bind
    intro names
    exact isDisciplined_mapM (isDisciplined_loadTable dialect) names
  apply tables.bind
  intro found
  apply (isDisciplined_ofExcept
    (refusesOnly_checkForeignKeys (Schema.ofTables found))).bind
  intro _
  exact isDisciplined_pure _

/-! ## The number of round trips -/

/-- A catalog query that succeeds takes two round trips, the first one for the
database. -/
theorem length_eq_of_ask
    {query : String}
    {params : List String}
    {read : List Row → Except Error α}
    {trips : List Exchange}
    {value : α}
    (asked : (ask query params read).run.Conversation trips (.ok value)) :
    trips.length = 2 := by
  obtain ⟨early, late, name, rfl, found, onward⟩ :=
    conversation_bind_ok_iff.1 asked
  obtain ⟨_, rfl, -⟩ := conversation_currentDatabase_iff.1 found
  obtain ⟨_, fetched, -⟩ := conversation_bind_ofExcept_iff.1 onward
  obtain rfl := conversation_fetch_iff.1 fetched
  rfl

/-- What is done with the answer to a catalog query takes no round trip. -/
theorem length_eq_of_ask_read
    {query : String}
    {params : List String}
    {read : List Row → Except Error α}
    {resolve : α → Except Error β}
    {trips : List Exchange}
    {value : β}
    (conversation :
      (ask query params read >>= fun found =>
        Introspection.ofExcept (resolve found)).run.Conversation
          trips (.ok value)) :
    trips.length = 2 := by
  obtain ⟨_, asked, known⟩ := conversation_bind_ofExcept_iff.1 conversation
  obtain ⟨_, rfl, -⟩ := Result.bind_eq_ok_iff.1 known.symm
  exact length_eq_of_ask asked

/-- The columns of a table take one round trip. -/
theorem length_eq_of_loadColumns
    {dialect : Dialect}
    {table : String}
    {trips : List Exchange}
    {columns : List Column}
    (loaded :
      (loadColumns (driver dialect) table).run.Conversation
        trips (.ok columns)) :
    trips.length = 1 := by
  obtain ⟨early, late, _, rfl, found, made⟩ :=
    conversation_bind_ok_iff.1 loaded
  obtain ⟨_, described, -⟩ := conversation_bind_ofExcept_iff.1 found
  obtain rfl := conversation_describe_iff.1 described
  obtain ⟨rfl, -⟩ := conversation_pure_iff.1 made
  rfl

theorem length_eq_of_loadAutoIncrement
    {dialect : Dialect}
    {table : String}
    {columns : List Column}
    {trips : List Exchange}
    {position : Option Nat}
    (loaded :
      (loadAutoIncrement (driver dialect) table columns).run.Conversation
        trips (.ok position)) :
    trips.length = 2 := by
  obtain ⟨early, late, name, rfl, found, onward⟩ :=
    conversation_bind_ok_iff.1 loaded
  have silent : late = [] := by
    cases name with
    | none => exact (conversation_pure_iff.1 onward).1
    | some column =>
        obtain ⟨first, second, _, rfl, resolved, made⟩ :=
          conversation_bind_ok_iff.1 onward
        obtain ⟨rfl, -⟩ := conversation_ofExcept_iff.1 resolved
        exact (conversation_pure_iff.1 made).1
  change (List.head? <$> ask _ _ _ : Introspection _).run.Conversation
    early _ at found
  rw [map_eq_pure_bind] at found
  obtain ⟨asked, rest, _, rfl, question, made⟩ :=
    conversation_bind_ok_iff.1 found
  obtain ⟨rfl, -⟩ := conversation_pure_iff.1 made
  rw [silent, List.append_nil, List.append_nil, length_eq_of_ask question]

/-- A table takes one round trip for its columns and two for each question about
the catalog: which column is numbered, which keys there are, and what each of
them is. -/
theorem length_eq_of_loadTable
    {dialect : Dialect}
    {name : String}
    {trips : List Exchange}
    {table : Table}
    (loaded :
      (loadTable (driver dialect) name).run.Conversation trips (.ok table)) :
    trips.length =
      7 + 2 * (table.indexes.length + table.foreignKeys.length) := by
  obtain ⟨columnTrips, _, columns, rfl, foundColumns, loaded⟩ :=
    conversation_bind_ok_iff.1 loaded
  obtain ⟨positionTrips, _, position, rfl, foundPosition, loaded⟩ :=
    conversation_bind_ok_iff.1 loaded
  obtain ⟨indexNameTrips, _, indexNames, rfl, foundIndexNames, loaded⟩ :=
    conversation_bind_ok_iff.1 loaded
  obtain ⟨indexTrips, _, indexes, rfl, foundIndexes, loaded⟩ :=
    conversation_bind_ok_iff.1 loaded
  obtain ⟨keyNameTrips, _, keyNames, rfl, foundKeyNames, loaded⟩ :=
    conversation_bind_ok_iff.1 loaded
  obtain ⟨keyTrips, _, keys, rfl, foundKeys, made⟩ :=
    conversation_bind_ok_iff.1 loaded
  obtain ⟨rfl, ⟨⟩⟩ := conversation_pure_iff.1 made
  have ofColumns := length_eq_of_loadColumns foundColumns
  have ofPosition := length_eq_of_loadAutoIncrement foundPosition
  have ofIndexNames := length_eq_of_ask foundIndexNames
  have ofIndexes : indexTrips.length = (indexes.map fun _ => 2).sum :=
    length_eq_of_conversation_mapM
      (fun _ _ _ found => length_eq_of_ask_read found) foundIndexes
  have ofKeyNames := length_eq_of_ask foundKeyNames
  have ofKeys : keyTrips.length = (keys.map fun _ => 2).sum :=
    length_eq_of_conversation_mapM
      (fun _ _ _ found => length_eq_of_ask_read found) foundKeys
  rw [List.map_const', List.sum_replicate_nat] at ofIndexes ofKeys
  simp only [List.length_append, List.length_nil]
  omega

/-- A schema takes two round trips for the names of its tables, and those for
each table. -/
theorem length_eq_of_loadSchema
    {dialect : Dialect}
    {trips : List Exchange}
    {schema : Schema}
    (loaded :
      (loadSchema (driver dialect)).run.Conversation trips (.ok schema)) :
    trips.length =
      2 + (schema.tables.map fun table =>
        7 + 2 * (table.indexes.length + table.foreignKeys.length)).sum := by
  obtain ⟨tableTrips, _, tables, rfl, foundTables, loaded⟩ :=
    conversation_bind_ok_iff.1 loaded
  obtain ⟨_, _, _, rfl, checked, made⟩ := conversation_bind_ok_iff.1 loaded
  obtain ⟨rfl, -⟩ := conversation_ofExcept_iff.1 checked
  obtain ⟨rfl, ⟨⟩⟩ := conversation_pure_iff.1 made
  obtain ⟨nameTrips, rest, names, rfl, foundNames, each⟩ :=
    conversation_bind_ok_iff.1 foundTables
  rw [List.append_nil, List.append_nil, List.length_append,
    length_eq_of_ask foundNames, Schema.tables_ofTables,
    length_eq_of_conversation_mapM
      (fun _ _ _ found => length_eq_of_loadTable found) each]

/-! ## Failing fast -/

/-- A load stops at the first round trip that fails, asks nothing outside the
current database, and has as many round trips as its schema tells. -/
structure FailsFast
    (connection : Connection σ)
    (trips : List Exchange)
    (result : Except Error Schema) :
    Prop extends Disciplined trips result where
  /-- When a connection has failures of the class `io` only, just they make a
  load fail in this class. -/
  io_iff (failsInIo : connection.FailsInIo) :
    (∃ failure, result = .error failure ∧ failure.kind = .io) ↔
      ∃ trip ∈ trips, ∃ failure, trip.failure? = some failure
  /-- Two round trips lead to the table names, seven to a table without keys,
  and two to each of its indexes and foreign keys. -/
  length_eq {schema : Schema} (loaded : result = .ok schema) :
    trips.length =
      2 + (schema.tables.map fun table =>
        7 + 2 * (table.indexes.length + table.foreignKeys.length)).sum

/-- Whatever a connection answers, a load fails fast. -/
theorem failsFast_loadSchema
    (dialect : Dialect)
    (connection : Connection σ)
    (state : σ) :
    FailsFast connection
      ((loadSchema (driver dialect)).run.exchanges connection state)
      ((loadSchema (driver dialect)).run.run connection state).1 := by
  have conversation :=
    (loadSchema (driver dialect)).run.conversation_run connection state
  have disciplined := isDisciplined_loadSchema dialect _ _ conversation
  refine { disciplined with io_iff := ?_, length_eq := ?_ }
  · intro failsInIo
    constructor
    · rintro ⟨failure, failed, io⟩
      obtain ⟨trip, member, tripFailed⟩ := disciplined.failed_of_io failed io
      exact ⟨trip, member, failure, tripFailed⟩
    · rintro ⟨trip, member, failure, failed⟩
      obtain ⟨before, after, split⟩ := List.append_of_mem member
      exact ⟨failure, (disciplined.stops split failed).2,
        failsInIo.kind_eq member failed⟩
  · intro schema loaded
    rw [loaded] at conversation
    exact length_eq_of_loadSchema conversation

end MySql
end Catalog
end TypedSql
