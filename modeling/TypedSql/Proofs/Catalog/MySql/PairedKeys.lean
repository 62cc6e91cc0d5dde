import TypedSql.Proofs.Catalog.MySql.ForeignKeyRows
import TypedSql.Proofs.Catalog.MySql.IndexRows

/-!
# Paired columns of foreign keys

A load checks that every local column of a foreign key has a column that it
refers to.  The keys that a driver of the MySQL family finds pass this check
whatever the connection answers, since both columns come from the same row.

No other step of a load has a failure of this kind, so a load that ends with
one passes on the failure of a round trip.
-/

namespace TypedSql
namespace Catalog

variable {α β σ : Type}

/-! ## Failures that are passed on -/

namespace Introspection

/-- Whatever the answers are, a failure is allowed or that of a round trip. -/
def RefusesWithin
    (allowed : Error → Prop)
    (introspection : Introspection α) :
    Prop :=
  ∀ trips failure,
    introspection.run.Conversation trips (.error failure) →
      allowed failure ∨ ∃ trip ∈ trips, trip.failure? = some failure

variable {allowed : Error → Prop}

/-- A known outcome is judged by itself, since there is no round trip that could
have failed. -/
theorem refusesWithin_ofExcept
    {result : Except Error α}
    (refuses : Result.FailsWithin allowed result) :
    RefusesWithin allowed (ofExcept result) := by
  intro trips failure conversation
  obtain ⟨-, failed⟩ := conversation_ofExcept_iff.1 conversation
  exact .inl (refuses failure failed.symm)

theorem refusesWithin_pure (value : α) :
    RefusesWithin allowed (pure value : Introspection α) :=
  refusesWithin_ofExcept (Result.failsWithin_ok value)

/-- A query adds no failures of its own: it reports that of its round trip. -/
theorem refusesWithin_fetch (query : String) (params : List String) :
    RefusesWithin allowed (fetch query params) := by
  intro trips failure conversation
  obtain rfl := conversation_fetch_iff.1 conversation
  exact .inr ⟨_, List.mem_cons_self, rfl⟩

theorem refusesWithin_describe (query : String) :
    RefusesWithin allowed (describe query) := by
  intro trips failure conversation
  obtain rfl := conversation_describe_iff.1 conversation
  exact .inr ⟨_, List.mem_cons_self, rfl⟩

/-- The second of two introspections only has to deal with what the first one
may find. -/
theorem RefusesWithin.bind
    {introspection : Introspection α}
    (first : RefusesWithin allowed introspection)
    {next : α → Introspection β}
    (second : ∀ value, introspection.Finds value →
      RefusesWithin allowed (next value)) :
    RefusesWithin allowed (introspection >>= next) := by
  intro trips failure conversation
  rcases conversation_bind_iff.1 conversation with
    ⟨early, late, value, rfl, found, onward⟩ | ⟨_, failed, ⟨⟩⟩
  · rcases second value ⟨early, found⟩ late failure onward with
      accepted | ⟨trip, member, tripFailed⟩
    · exact .inl accepted
    · exact .inr ⟨trip, List.mem_append_right _ member, tripFailed⟩
  · exact first trips failure failed

theorem RefusesWithin.map
    {introspection : Introspection α}
    (refuses : RefusesWithin allowed introspection)
    (apply : α → β) :
    RefusesWithin allowed (apply <$> introspection) := by
  rw [map_eq_pure_bind]
  exact refuses.bind fun value _ => refusesWithin_pure (apply value)

/-- What was found may be refused when it is read. -/
theorem RefusesWithin.read
    {introspection : Introspection α}
    (refuses : RefusesWithin allowed introspection)
    {read : α → Except Error β}
    (reads : ∀ value, introspection.Finds value →
      Result.FailsWithin allowed (read value)) :
    RefusesWithin allowed (introspection >>= fun value =>
      ofExcept (read value)) :=
  refuses.bind fun value found => refusesWithin_ofExcept (reads value found)

/-- Failures that are allowed in each step are allowed in all of them
together. -/
theorem refusesWithin_mapM
    {step : α → Introspection β}
    (each : ∀ item, RefusesWithin allowed (step item))
    (items : List α) :
    RefusesWithin allowed (items.mapM step) := by
  induction items with
  | nil => exact refusesWithin_pure []
  | cons item rest inductionHypothesis =>
      rw [List.mapM_cons]
      apply (each item).bind
      intro value _
      apply inductionHypothesis.bind
      intro values _
      exact refusesWithin_pure (value :: values)

end Introspection

/-! ## Steps without keys -/

/-- The failure of a foreign key that has more columns than it refers to, or
fewer. -/
inductive Error.IsUnequalKey : Error → Prop where
  | intro (key table : String) (columns targetColumns : Nat) :
      IsUnequalKey
        (.inconsistent (.unequalKey key table columns targetColumns))

/-- A result that, if it is an error, is not one of unequal columns. -/
abbrev Paired (result : Except Error α) : Prop :=
  Result.FailsWithin (fun failure => ¬failure.IsUnequalKey) result

/-- The same for introspections, apart from what a round trip reports. -/
abbrev IsPaired (introspection : Introspection α) : Prop :=
  introspection.RefusesWithin fun failure => ¬failure.IsUnequalKey

theorem paired_resolveColumn
    (table : String)
    (columns : List Column)
    (owner : ColumnOwner)
    (column : String) :
    Paired (resolveColumn table columns owner column) := by
  unfold resolveColumn
  split
  next position _ => exact Result.failsWithin_ok position
  next => exact Result.failsWithin_error nofun

theorem IndexDefinition.paired_resolve
    (definition : IndexDefinition)
    (table : String)
    (columns : List Column)
    (name : String) :
    Paired (definition.resolve table columns name) := by
  apply (Result.failsWithin_mapM
    (paired_resolveColumn table columns (.index name)) _).bind
  intro positions
  exact Result.failsWithin_ok _

/-- A foreign key with as many columns as it refers to is not refused for
their numbers. -/
theorem ForeignKeyDefinition.paired_resolve
    {definition : ForeignKeyDefinition}
    (equal : definition.columns.length = definition.targetColumns.length)
    (table : String)
    (columns : List Column)
    (name : String) :
    Paired (definition.resolve table columns name) := by
  rw [resolve, if_neg (not_not_intro equal)]
  apply (Result.failsWithin_mapM
    (paired_resolveColumn table columns (.foreignKey name)) _).bind
  intro positions
  exact Result.failsWithin_ok _

namespace MySql

theorem paired_databaseOfRows (rows : List Row) :
    Paired (databaseOfRows rows) := by
  unfold databaseOfRows
  split
  next name _ =>
    split
    next => exact Result.failsWithin_error nofun
    next => exact Result.failsWithin_ok name
  next => exact Result.failsWithin_error nofun

theorem paired_namesOfRows (what : String) (rows : List Row) :
    Paired (namesOfRows what rows) := by
  apply Result.failsWithin_mapM
  rintro row failure failed
  obtain ⟨-, rfl⟩ := Row.text_eq_error_iff.1 failed
  exact nofun

theorem paired_classifyAll (described : List RawColumn) :
    Paired (classifyAll described) := by
  apply Result.failsWithin_mapM
  rintro ⟨column, position⟩
  have classified : Paired (classify column) := by
    intro failure failed
    rw [classify] at failed
    -- The branches that fail report a column that has no type.
    split at failed <;> cases failed
    all_goals rintro ⟨⟩
  apply classified.bind
  intro dataType
  exact Result.failsWithin_ok _

/-- The rows of an index are refused for missing or malformed values, and for
their order. -/
theorem paired_indexOfRows (table name : String) (rows : List Row) :
    Paired (indexOfRows table name rows) := by
  rintro failure failed
  rcases eq_or_ne rows [] with rfl | nonempty
  · cases failed
    exact nofun
  · rw [indexOfRows_eq_error_iff nonempty, indexParts_eq_error_iff] at failed
    obtain ⟨_, _, _, cause, -, -, fault, rfl⟩ := failed
    rintro ⟨⟩
    cases fault with
    | flag lacks => cases lacks
    | ordinal _ _ lacks => cases lacks

/-- The rows of a foreign key can be refused for two targets, but not for
unequal numbers of columns. -/
theorem paired_foreignKeyOfRows (table name : String) (rows : List Row) :
    Paired (foreignKeyOfRows table name rows) := by
  rintro failure failed
  rcases eq_or_ne rows [] with rfl | nonempty
  · cases failed
    exact nofun
  · rw [foreignKeyOfRows_eq_error_iff nonempty,
      foreignKeyParts_eq_error_iff] at failed
    obtain ⟨_, _, _, cause, -, -, fault, rfl⟩ := failed
    rintro ⟨⟩
    cases fault with
    | ordinal _ lacks => cases lacks

/-- The columns of a foreign key and those that it refers to come from the
same rows. -/
theorem length_eq_of_foreignKeyOfRows
    {table name : String}
    {rows : List Row}
    {definition : ForeignKeyDefinition}
    (read : foreignKeyOfRows table name rows = .ok definition) :
    definition.columns.length = definition.targetColumns.length := by
  obtain ⟨-, _, -, rfl⟩ := foreignKeyOfRows_eq_ok_iff.1 read
  rw [List.length_map, List.length_map]

/-! ## Loads -/

open Introspection (finds_bind_iff finds_ofExcept_iff refusesWithin_describe
  refusesWithin_fetch refusesWithin_mapM refusesWithin_ofExcept
  refusesWithin_pure)

/-- A catalog query is refused for its database, or for what its rows are read
as. -/
theorem isPaired_ask
    (query : String)
    (params : List String)
    {read : List Row → Except Error α}
    (reads : ∀ rows, Paired (read rows)) :
    IsPaired (ask query params read) := by
  have database : IsPaired currentDatabase :=
    (refusesWithin_fetch _ _).read fun rows _ => paired_databaseOfRows rows
  apply database.bind
  intro name _
  exact (refusesWithin_fetch _ _).read fun rows _ => reads rows

/-- What a catalog query finds has been read from some rows. -/
theorem exists_rows_of_finds_ask
    {query : String}
    {params : List String}
    {read : List Row → Except Error α}
    {value : α}
    (found : (ask query params read).Finds value) :
    ∃ rows, read rows = .ok value := by
  obtain ⟨_, -, asked⟩ := finds_bind_iff.1 found
  obtain ⟨rows, -, decoded⟩ := finds_bind_iff.1 asked
  exact ⟨rows, finds_ofExcept_iff.1 decoded⟩

theorem isPaired_loadColumns (dialect : Dialect) (table : String) :
    IsPaired (loadColumns (driver dialect) table) := by
  have classified :
      IsPaired (classifyQuery classifyAll
        (columnsQuery ((driver dialect).quote table))) :=
    (refusesWithin_describe _).read fun described _ =>
      paired_classifyAll described
  apply classified.bind
  intro columns _
  exact refusesWithin_pure _

theorem isPaired_loadAutoIncrement
    (dialect : Dialect)
    (table : String)
    (columns : List Column) :
    IsPaired (loadAutoIncrement (driver dialect) table columns) := by
  have asked : IsPaired ((driver dialect).autoIncrement table) :=
    (isPaired_ask _ _ (paired_namesOfRows _)).map _
  apply asked.bind
  intro name _
  cases name with
  | none => exact refusesWithin_pure none
  | some column =>
      have resolved :=
        refusesWithin_ofExcept
          (paired_resolveColumn table columns .autoIncrement column)
      exact resolved.bind fun _ _ => refusesWithin_pure _

theorem isPaired_loadIndex
    (dialect : Dialect)
    (table : String)
    (columns : List Column)
    (name : String) :
    IsPaired (loadIndex (driver dialect) table columns name) :=
  (isPaired_ask _ _ (paired_indexOfRows table name)).read
    fun definition _ => definition.paired_resolve table columns name

/-- A foreign key that is found has as many columns as it refers to. -/
theorem isPaired_loadForeignKey
    (dialect : Dialect)
    (table : String)
    (columns : List Column)
    (name : String) :
    IsPaired (loadForeignKey (driver dialect) table columns name) := by
  apply (isPaired_ask _ _ (paired_foreignKeyOfRows table name)).read
  intro definition found
  obtain ⟨rows, read⟩ := exists_rows_of_finds_ask found
  exact ForeignKeyDefinition.paired_resolve
    (length_eq_of_foreignKeyOfRows read) table columns name

/-- No step of loading a table ends with unequal numbers of columns. -/
theorem isPaired_loadTable (dialect : Dialect) (name : String) :
    IsPaired (loadTable (driver dialect) name) := by
  apply (isPaired_loadColumns dialect name).bind
  intro columns _
  apply (isPaired_loadAutoIncrement dialect name columns).bind
  intro autoIncrement _
  apply (isPaired_ask _ _ (paired_namesOfRows _)).bind
  intro indexNames _
  apply (refusesWithin_mapM
    (isPaired_loadIndex dialect name columns) indexNames).bind
  intro indexes _
  apply (isPaired_ask _ _ (paired_namesOfRows _)).bind
  intro keyNames _
  apply (refusesWithin_mapM
    (isPaired_loadForeignKey dialect name columns) keyNames).bind
  intro keys _
  exact refusesWithin_pure _

/-! ## Foreign keys of the driver -/

/-- What a driver of the MySQL family makes of foreign keys, whatever the
connection answers. -/
structure PairsForeignKeys
    (dialect : Dialect)
    (connection : Connection σ)
    (state : σ)
    (table name : String) :
    Prop where
  /-- A foreign key is read as the rows say that answer the query for it. -/
  reads
      {params : List String}
      {rows : List Row}
      (answered :
        .fetched foreignKeyQuery params (.ok rows) ∈
          ((driver dialect).foreignKey table name).run.exchanges connection
            state)
      (few : rows.length < Text.valueCount 32) :
    ReadsForeignKey table name rows
      (((driver dialect).foreignKey table name).run.run connection state).1
  length_eq
      {definition : ForeignKeyDefinition}
      (found :
        (((driver dialect).foreignKey table name).run.run connection state).1 =
          .ok definition) :
    definition.columns.length = definition.targetColumns.length
  /-- A table is never refused because of a key with unequal columns, unless
  it is the connection that says so. -/
  passedOn
      {failure : Error}
      (failed :
        ((loadTable (driver dialect) table).run.run connection state).1 =
          .error failure)
      (unequal : failure.IsUnequalKey) :
    ∃ trip ∈ (loadTable (driver dialect) table).run.exchanges connection state,
      trip.failure? = some failure

/-- The drivers of the MySQL family read foreign keys from their rows, with as
many columns as they refer to, and a table that is refused for unequal numbers
was refused by the connection. -/
theorem pairsForeignKeys
    (dialect : Dialect)
    (connection : Connection σ)
    (state : σ)
    (table name : String) :
    PairsForeignKeys dialect connection state table name where
  reads answered few := by
    have differs : foreignKeyQuery ≠ currentDatabaseQuery :=
      Topic.query_injective.ne (nofun : Topic.foreignKey ≠ .currentDatabase)
    have read := run_ask_of_answered differs answered
    rw [driver, read]
    exact readsForeignKey_foreignKeyOfRows table name few
  length_eq found := by
    obtain ⟨rows, read⟩ :=
      exists_rows_of_finds_ask (Introspection.finds_of_run found)
    exact length_eq_of_foreignKeyOfRows read
  passedOn failed unequal := by
    have conversation :=
      (loadTable (driver dialect) table).run.conversation_run connection state
    rw [failed] at conversation
    rcases isPaired_loadTable dialect table _ _ conversation with
      paired | passed
    · exact absurd unequal paired
    · exact passed

/-- The rows of the key by which employees refer to the one who leads them,
who works in the same branch. -/
def leadRows : List Row :=
  [.ofTexts ["branch", "1", "staff", "branch"],
    .ofTexts ["lead", "2", "staff", "id"]]

/-- The results of the queries for this key. -/
def leadResults : List (List (List String)) :=
  [[["company"]],
    [["branch", "1", "staff", "branch"], ["lead", "2", "staff", "id"]]]

/-- A key of two columns is read from two rows, which agree on the table that
they refer to and are numbered one and two. -/
theorem readsForeignKey_lead :
    .fetched foreignKeyQuery ["company", "staff", "fk_lead"] (.ok leadRows) ∈
        ((driver .mySql).foreignKey "staff" "fk_lead").run.exchanges
          staffConnection leadResults ∧
      leadRows.length < Text.valueCount 32 ∧
        ReadsForeignKey "staff" "fk_lead" leadRows
          (((driver .mySql).foreignKey "staff" "fk_lead").run.run
            staffConnection leadResults).1 ∧
        (((driver .mySql).foreignKey "staff" "fk_lead").run.run
            staffConnection leadResults).1 =
          .ok
            { columns := ["branch", "lead"]
              targetTable := "staff"
              targetColumns := ["branch", "id"] } :=
  have answered :
      .fetched foreignKeyQuery ["company", "staff", "fk_lead"] (.ok leadRows) ∈
        ((driver .mySql).foreignKey "staff" "fk_lead").run.exchanges
          staffConnection leadResults :=
    List.mem_cons_of_mem _ List.mem_cons_self
  have few : leadRows.length < Text.valueCount 32 := by decide
  have pairs :=
    pairsForeignKeys .mySql staffConnection leadResults "staff" "fk_lead"
  ⟨answered, few, pairs.reads answered few, rfl⟩

end MySql
end Catalog
end TypedSql
