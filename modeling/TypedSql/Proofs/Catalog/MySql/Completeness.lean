import Mathlib.Data.List.Basic
import TypedSql.Catalog.SchemaLoad
import TypedSql.Proofs.Catalog.MySql.Answers
import TypedSql.Proofs.Catalog.MySql.Decoding
import TypedSql.Proofs.Catalog.Soundness

/-!
# Completeness of schema loading

Loading a schema from the script of a description gives exactly the schema
that the description stands for.  Every question is answered with the rows of
its table or key, these are read back, and names become the positions of the
columns that they belong to.  The ordinals of every key have to be among the
numbers of the catalog, and nothing else can go wrong.
-/

namespace TypedSql
namespace Catalog
namespace MySql

/-! ## Answers to questions -/

section Answers

variable {α : Type}

/-- A catalog query is asked about the database that a script selects. -/
theorem result_ask
    (script : Script)
    (query : String)
    (params : List String)
    (read : List Row → Except Error α) :
    script.result (ask query params read) =
      script.result currentDatabase >>= fun database =>
        script.fetch query (database :: params) >>= read := by
  simp only [ask, Script.result_bind, Script.result_fetch,
    Script.result_ofExcept]

variable (description : Description) (dialect : Dialect) (script : Script)

/-- The script of a description has selected its database. -/
theorem Description.result_currentDatabase :
    (description.addTo dialect script).result currentDatabase =
      .ok description.database := by
  have fetched := description.fetch_currentDatabase_addTo dialect script
  have named :
      databaseOfRows [Row.ofTexts [description.database]] =
        .ok description.database := by
    change (if description.database.isEmpty then _ else _) = _
    rw [String.isEmpty_eq_false_iff.2 description.database_ne]
    rfl
  rw [currentDatabase, Script.result_bind, Script.result_fetch]
  change
    (description.addTo dialect script).fetch Topic.currentDatabase.query [] >>=
      _ = _
  rw [fetched]
  exact named

theorem Description.eq_database_of_selected
    (name : String)
    (selected :
      (description.addTo dialect script).result currentDatabase = .ok name) :
    name = description.database := by
  rw [description.result_currentDatabase] at selected
  exact (Except.ok.inj selected).symm

variable {description}

/-- A question that the description has rows for is answered by reading
these. -/
theorem Description.Answers.result_ask
    {topic : Topic}
    {params : List String}
    {rows : List Row}
    (answers : description.Answers topic (description.database :: params) rows)
    (read : List Row → Except Error α) :
    (description.addTo dialect script).result (ask topic.query params read) =
      read rows := by
  rw [MySql.result_ask, description.result_currentDatabase]
  change (description.addTo dialect script).fetch topic.query _ >>= read = _
  rw [answers.fetch_addTo dialect script]
  rfl

end Answers

/-! ## Names and positions -/

/-- The names that are written one a row are read back. -/
theorem namesOfRows_nameRows (what : String) (names : List String) :
    namesOfRows what (Fixture.nameRows names) = .ok names := by
  have read :
      names.mapM (fun name => (Row.ofTexts [name]).text 0 what) =
        .ok (names.map id) :=
    Result.mapM_eq_ok fun _ _ => Row.text_ofTexts rfl what
  rw [List.map_id] at read
  rw [namesOfRows, Fixture.nameRows, List.mapM_map]
  exact read

theorem DescribedTable.map_name_schemaColumns (table : DescribedTable) :
    table.schemaColumns.map (·.name) = table.columnNames := by
  have names :
      (table.columns.zipIdx.map Prod.fst).map (·.raw.name) =
        table.columnNames := by
    rw [List.zipIdx_map_fst, columnNames]
  rw [List.map_map] at names
  rw [schemaColumns, List.map_map]
  exact names

/-- The name of a column is resolved to the place of the column. -/
theorem DescribedTable.resolveColumn_schemaColumns
    (table : DescribedTable)
    {column : String}
    (member : column ∈ table.columnNames)
    (owner : ColumnOwner) :
    resolveColumn table.name table.schemaColumns owner column =
      .ok (table.place column) := by
  have named :
      table.columnNames.findIdx? (· == column) = some (table.place column) :=
    List.findIdx?_eq_some_of_exists ⟨column, member, beq_self_eq_true column⟩
  have found :
      table.schemaColumns.findIdx? (·.name == column) =
        some (table.place column) := by
    rw [← table.map_name_schemaColumns, List.findIdx?_map] at named
    exact named
  rw [resolveColumn, found]

/-- The columns of a table as columns of a query result. -/
def DescribedTable.resultColumns (table : DescribedTable) : List Column :=
  table.columns.zipIdx.map fun (column, position) =>
    { name := column.raw.name
      position
      dataType := column.dataType
      nullable := column.raw.nullable.getD true }

theorem DescribedTable.classifyAll_columns (table : DescribedTable) :
    classifyAll (table.columns.map (·.raw)) = .ok table.resultColumns := by
  rw [classifyAll, List.zipIdx_map, List.mapM_map]
  apply Result.mapM_eq_ok
  rintro ⟨column, position⟩ -
  simp only [Function.comp_apply, Prod.map_apply, column.classified]
  rfl

theorem DescribedTable.mapM_resolveColumn_schemaColumns
    (table : DescribedTable)
    {columns : List String}
    (members : ∀ column ∈ columns, column ∈ table.columnNames)
    (owner : ColumnOwner) :
    columns.mapM (resolveColumn table.name table.schemaColumns owner) =
      .ok (columns.map table.place) :=
  Result.mapM_eq_ok fun column member =>
    table.resolveColumn_schemaColumns (members column member) owner

/-- The columns of an index are resolved to their places. -/
theorem DescribedTable.resolve_index
    (table : DescribedTable)
    {index : DescribedIndex}
    (owned : index ∈ table.indexes) :
    index.definition.resolve table.name table.schemaColumns index.name =
      .ok (index.inSchema table) := by
  have resolved := table.mapM_resolveColumn_schemaColumns
    (table.index_mem index owned) (.index index.name)
  rw [IndexDefinition.resolve, DescribedIndex.definition]
  simp only [resolved]
  rfl

theorem DescribedTable.resolve_foreignKey
    (table : DescribedTable)
    {key : DescribedForeignKey}
    (owned : key ∈ table.foreignKeys) :
    key.definition.resolve table.name table.schemaColumns key.name =
      .ok (key.inSchema table) := by
  have members :
      ∀ column ∈ key.definition.columns, column ∈ table.columnNames :=
    List.forall_mem_map.2 (table.foreignKey_mem key owned)
  have resolved := table.mapM_resolveColumn_schemaColumns members
    (.foreignKey key.name)
  have sameLength :
      key.definition.columns.length = key.definition.targetColumns.length := by
    simp only [DescribedForeignKey.definition, List.length_map]
  rw [ForeignKeyDefinition.resolve, if_neg (not_not_intro sameLength), resolved]
  simp only [DescribedForeignKey.definition, List.map_map]
  rfl

/-! ## Loading a table -/

/-- The ordinals of all keys of a table are among the catalog's numbers. -/
def DescribedTable.OrdinalsFit (table : DescribedTable) : Prop :=
  (∀ index ∈ table.indexes, index.columns.length < Text.valueCount 32) ∧
    ∀ key ∈ table.foreignKeys, key.links.length < Text.valueCount 32

instance (table : DescribedTable) : Decidable table.OrdinalsFit :=
  inferInstanceAs (Decidable (_ ∧ _))

/-- A key is loaded exactly if its definition is read, when the definition can
be resolved. -/
theorem result_resolve_eq_ok_iff
    {δ κ : Type}
    {script : Script}
    {ask : Introspection δ}
    {definition : δ}
    {fits : Prop}
    (read : ∀ found,
      script.result ask = .ok found ↔ fits ∧ found = definition)
    {resolve : δ → Except Error κ}
    {key : κ}
    (resolved : resolve definition = .ok key)
    (loaded : κ) :
    script.result
          (ask >>= fun found => Introspection.ofExcept (resolve found)) =
        .ok loaded ↔
      fits ∧ loaded = key := by
  simp only [Script.result_bind, Script.result_ofExcept, Result.bind_eq_ok_iff,
    read]
  constructor
  · rintro ⟨_, ⟨fit, rfl⟩, found⟩
    rw [resolved] at found
    exact ⟨fit, (Except.ok.inj found).symm⟩
  · rintro ⟨fit, rfl⟩
    exact ⟨definition, ⟨fit, rfl⟩, resolved⟩

section Load

variable
  {description : Description}
  (dialect : Dialect)
  (script : Script)
  {table : DescribedTable}
  (member : table ∈ description.tables)

include member

/-- The columns are found under the quoted name of the table, and get the name
of the table as their owner. -/
theorem result_loadColumns :
    (description.addTo dialect script).result
        (loadColumns (driver dialect) table.name) =
      .ok table.schemaColumns := by
  have described := description.describe_addTo dialect script member
  have classified :
      (description.addTo dialect script).result
          ((driver dialect).columns table.name) =
        .ok table.resultColumns := by
    change (description.addTo dialect script).result
      (classifyQuery classifyAll (columnsQuery (dialect.quote table.name))) = _
    rw [classifyQuery, Script.result_bind, Script.result_describe, described]
    exact table.classifyAll_columns
  rw [loadColumns, Script.result_bind, classified]
  change Except.ok _ = _
  rw [DescribedTable.resultColumns, List.map_map]
  rfl

/-- At most one column is numbered, so the first one that is reported is the
one. -/
theorem result_loadAutoIncrement :
    (description.addTo dialect script).result
        (loadAutoIncrement (driver dialect) table.name table.schemaColumns) =
      .ok (table.autoIncrement.map table.place) := by
  have asked :
      (description.addTo dialect script).result
          (ask autoIncrementQuery [table.name, autoIncrementPattern]
            (namesOfRows "COLUMN_NAME")) =
        .ok table.autoIncrement.toList := by
    rw [← namesOfRows_nameRows "COLUMN_NAME"]
    exact (Description.Answers.ofTable member .autoIncrement).result_ask dialect script _
  have first :
      (description.addTo dialect script).result
          ((driver dialect).autoIncrement table.name) =
        .ok table.autoIncrement := by
    change (description.addTo dialect script).result
      (List.head? <$> ask autoIncrementQuery [table.name, autoIncrementPattern]
        (namesOfRows "COLUMN_NAME")) = _
    rw [Script.result_map, asked]
    exact congrArg Except.ok table.autoIncrement.head?_toList
  rw [loadAutoIncrement, Script.result_bind, first]
  cases numbered : table.autoIncrement with
  | none => rfl
  | some column =>
      have resolved := table.resolveColumn_schemaColumns
        (table.autoIncrement_mem column numbered) .autoIncrement
      change (description.addTo dialect script).result (_ >>= _) = _
      rw [Script.result_bind, resolved, Script.result_ofExcept]
      rfl

theorem result_indexNames :
    (description.addTo dialect script).result
        ((driver dialect).indexNames table.name) =
      .ok (table.indexes.map (·.name)) := by
  rw [← namesOfRows_nameRows "INDEX_NAME"]
  exact (Description.Answers.ofTable member .indexNames).result_ask dialect script _

theorem result_foreignKeyNames :
    (description.addTo dialect script).result
        ((driver dialect).foreignKeyNames table.name) =
      .ok (table.foreignKeys.map (·.name)) := by
  rw [← namesOfRows_nameRows "CONSTRAINT_NAME"]
  exact (Description.Answers.ofTable member .foreignKeyNames).result_ask dialect script _

/-- An index is loaded exactly if its ordinals fit. -/
theorem result_loadIndex_eq_ok_iff
    {index : DescribedIndex}
    (owned : index ∈ table.indexes)
    (loaded : Index) :
    (description.addTo dialect script).result
          (loadIndex (driver dialect) table.name table.schemaColumns
            index.name) =
        .ok loaded ↔
      index.columns.length < Text.valueCount 32 ∧
        loaded = index.inSchema table := by
  have asked :
      (description.addTo dialect script).result
          ((driver dialect).index table.name index.name) =
        indexOfRows table.name index.name index.rows :=
    (Description.Answers.ofTable member (.index owned)).result_ask dialect script
      _
  apply result_resolve_eq_ok_iff
  · intro found
    rw [asked]
    exact index.indexOfRows_rows_iff table.name found
  · exact table.resolve_index owned

theorem result_loadForeignKey_eq_ok_iff
    {key : DescribedForeignKey}
    (owned : key ∈ table.foreignKeys)
    (loaded : ForeignKey) :
    (description.addTo dialect script).result
          (loadForeignKey (driver dialect) table.name table.schemaColumns
            key.name) =
        .ok loaded ↔
      key.links.length < Text.valueCount 32 ∧
        loaded = key.inSchema table := by
  have asked :
      (description.addTo dialect script).result
          ((driver dialect).foreignKey table.name key.name) =
        foreignKeyOfRows table.name key.name key.rows :=
    (Description.Answers.ofTable member (.foreignKey owned)).result_ask dialect
      script _
  apply result_resolve_eq_ok_iff
  · intro found
    rw [asked]
    exact key.foreignKeyOfRows_rows_iff table.name found
  · exact table.resolve_foreignKey owned

theorem result_loadIndexes_eq_ok_iff (loaded : List Index) :
    (description.addTo dialect script).result
          ((table.indexes.map (·.name)).mapM
            (loadIndex (driver dialect) table.name table.schemaColumns)) =
        .ok loaded ↔
      (∀ index ∈ table.indexes, index.columns.length < Text.valueCount 32) ∧
        loaded = table.indexes.map (·.inSchema table) := by
  rw [Script.result_mapM, List.mapM_map]
  apply Result.mapM_eq_ok_iff_of_fits
  intro index owned
  exact result_loadIndex_eq_ok_iff dialect script member owned

theorem result_loadForeignKeys_eq_ok_iff (loaded : List ForeignKey) :
    (description.addTo dialect script).result
          ((table.foreignKeys.map (·.name)).mapM
            (loadForeignKey (driver dialect) table.name table.schemaColumns)) =
        .ok loaded ↔
      (∀ key ∈ table.foreignKeys, key.links.length < Text.valueCount 32) ∧
        loaded = table.foreignKeys.map (·.inSchema table) := by
  rw [Script.result_mapM, List.mapM_map]
  apply Result.mapM_eq_ok_iff_of_fits
  intro key owned
  exact result_loadForeignKey_eq_ok_iff dialect script member owned

/-- A table is loaded as the schema has it, exactly if its ordinals fit. -/
theorem result_loadTable_eq_ok_iff (loaded : Table) :
    (description.addTo dialect script).result
        (loadTable (driver dialect) table.name) = .ok loaded ↔
      table.OrdinalsFit ∧ loaded = table.inSchema := by
  have columns := result_loadColumns dialect script member
  have autoIncrement := result_loadAutoIncrement dialect script member
  have indexNames := result_indexNames dialect script member
  have indexes := result_loadIndexes_eq_ok_iff dialect script member
  have foreignKeyNames := result_foreignKeyNames dialect script member
  have foreignKeys := result_loadForeignKeys_eq_ok_iff dialect script member
  rw [loadTable]
  simp only [Script.result_bind, Result.bind_eq_ok_iff, columns, autoIncrement,
    indexNames, indexes, foreignKeyNames, foreignKeys, Except.ok.injEq,
    exists_eq_left', Script.result_pure]
  constructor
  · rintro ⟨_, ⟨indexesFit, rfl⟩, _, ⟨foreignKeysFit, rfl⟩, rfl⟩
    exact ⟨⟨indexesFit, foreignKeysFit⟩, rfl⟩
  · rintro ⟨⟨indexesFit, foreignKeysFit⟩, rfl⟩
    exact ⟨_, ⟨indexesFit, rfl⟩, _, ⟨foreignKeysFit, rfl⟩, rfl⟩

end Load

/-! ## Foreign keys -/

/-- Tables of the schema are told apart by their names. -/
theorem Description.inSchema_eq_of_name_eq
    (description : Description)
    (left : Table)
    (leftMember : left ∈ description.tables.map (·.inSchema))
    (right : Table)
    (rightMember : right ∈ description.tables.map (·.inSchema))
    (sameName : left.name = right.name) :
    left = right := by
  obtain ⟨leftTable, leftPresent, rfl⟩ := List.mem_map.1 leftMember
  obtain ⟨rightTable, rightPresent, rfl⟩ := List.mem_map.1 rightMember
  rw [description.table_eq_of_name_eq leftPresent rightPresent sameName]

/-- A table is found in the schema by its name. -/
theorem Description.table?_schema
    (description : Description)
    {table : DescribedTable}
    (member : table ∈ description.tables) :
    description.schema.table? table.name = some table.inSchema :=
  (Schema.table?_ofTables_eq_some_iff description.inSchema_eq_of_name_eq).2
    ⟨List.mem_map_of_mem member, rfl⟩

/-- All foreign keys of the schema lead somewhere. -/
theorem Description.checkForeignKeys_schema (description : Description) :
    checkForeignKeys description.schema = .ok () := by
  apply checkForeignKeys_eq_ok_iff.2
  intro schemaTable present schemaKey ownedInSchema
  obtain ⟨table, member, rfl⟩ := List.mem_map.1 present
  obtain ⟨key, owned, rfl⟩ := List.mem_map.1 ownedInSchema
  obtain ⟨target, targetMember, sameName, columnsThere⟩ :=
    description.target_mem table member key owned
  refine ⟨target.inSchema, ?_, ?_⟩
  · change description.schema.table? key.targetTable = _
    rw [← sameName]
    exact description.table?_schema targetMember
  · intro column linked
    obtain ⟨link, linkMember, rfl⟩ := List.mem_map.1 linked
    have named := columnsThere link linkMember
    rw [← target.map_name_schemaColumns] at named
    exact List.mem_map.1 named

/-! ## Loading a schema -/

/-- The ordinals of all keys are among the catalog's numbers. -/
def Description.OrdinalsFit (description : Description) : Prop :=
  ∀ table ∈ description.tables, table.OrdinalsFit

instance (description : Description) : Decidable description.OrdinalsFit :=
  inferInstanceAs (Decidable (∀ table ∈ description.tables, table.OrdinalsFit))

theorem Description.result_tableNames
    (description : Description)
    (dialect : Dialect)
    (script : Script) :
    (description.addTo dialect script).result (driver dialect).tableNames =
      .ok (description.tables.map (·.name)) := by
  rw [← namesOfRows_nameRows "TABLE_NAME"]
  exact Description.Answers.tableNames.result_ask dialect script _

/-- The tables are loaded in order, exactly if the ordinals of all of them
fit. -/
theorem Description.result_loadTables_eq_ok_iff
    (description : Description)
    (dialect : Dialect)
    (script : Script)
    (loaded : List Table) :
    (description.addTo dialect script).result (loadTables (driver dialect)) =
        .ok loaded ↔
      description.OrdinalsFit ∧
        loaded = description.tables.map (·.inSchema) := by
  rw [loadTables, Script.result_bind, description.result_tableNames]
  change (description.addTo dialect script).result (List.mapM _ _) = _ ↔ _
  rw [Script.result_mapM, List.mapM_map]
  apply Result.mapM_eq_ok_iff_of_fits
  intro table member
  exact result_loadTable_eq_ok_iff dialect script member

/-- A schema is loaded exactly if its tables are and all of their foreign keys
lead somewhere. -/
theorem result_loadSchema_eq_ok_iff
    {driver : Driver}
    {script : Script}
    {schema : Schema} :
    script.result (loadSchema driver) = .ok schema ↔
      ∃ tables,
        script.result (loadTables driver) = .ok tables ∧
          checkForeignKeys (.ofTables tables) = .ok () ∧
          schema = .ofTables tables := by
  rw [loadSchema]
  simp only [Script.result_bind, Script.result_ofExcept, Script.result_pure,
    Result.bind_eq_ok_iff, Except.ok.injEq]
  constructor
  · rintro ⟨tables, loaded, _, checked, rfl⟩
    exact ⟨tables, loaded, checked, rfl⟩
  · rintro ⟨tables, loaded, checked, rfl⟩
    exact ⟨tables, loaded, (), checked, rfl⟩

/-- What is loaded from the script of a description is its schema, and the load
succeeds exactly if the ordinals fit. -/
theorem Description.loadSchema_addTo_eq_ok_iff
    (description : Description)
    (dialect : Dialect)
    (script : Script)
    (loaded : Schema) :
    ((loadSchema (driver dialect)).run.run Script.connection
        (description.addTo dialect script)).1 = .ok loaded ↔
      description.OrdinalsFit ∧ loaded = description.schema := by
  have tables := description.result_loadTables_eq_ok_iff dialect script
  have checked := description.checkForeignKeys_schema
  simp only [Script.fst_run_connection, result_loadSchema_eq_ok_iff, tables]
  constructor
  · rintro ⟨_, ⟨fits, rfl⟩, -, rfl⟩
    exact ⟨fits, rfl⟩
  · rintro ⟨fits, rfl⟩
    exact ⟨_, ⟨fits, rfl⟩, checked, rfl⟩

/-- Loading the schema from the script of a description gives the schema of
the description, as long as no key has more columns than the catalog's numbers
can count. -/
theorem complete_loadSchema
    (description : Description)
    (dialect : Dialect)
    (script : Script) :
    ((loadSchema (driver dialect)).run.run Script.connection
        (description.addTo dialect script)).1 = .ok description.schema ↔
      description.OrdinalsFit := by
  rw [description.loadSchema_addTo_eq_ok_iff]
  exact and_iff_left rfl

/-- A table of one column, and an index that names this column again and
again. -/
def DescribedTable.repeating
    (count : Nat)
    (positive : 0 < count) :
    DescribedTable where
  name := "events"
  columns := [⟨rawColumn "at" "INT" none, .int32, by rfl⟩]
  autoIncrement := none
  indexes :=
    [⟨"again", List.replicate count "at", false,
      List.ne_nil_of_length_pos (by rwa [List.length_replicate])⟩]
  foreignKeys := []
  autoIncrement_mem := nofun
  indexNames_nodup := List.nodup_singleton _
  index_mem := by
    intro index owned column named
    rw [List.mem_singleton.1 owned] at named
    rw [List.eq_of_mem_replicate named]
    exact List.mem_singleton_self _
  foreignKeyNames_nodup := List.nodup_nil
  foreignKey_mem := nofun

/-- A database of this table. -/
def Description.repeating (count : Nat) (positive : 0 < count) : Description where
  database := "metrics"
  tables := [.repeating count positive]
  database_ne := by decide
  tableNames_nodup := List.nodup_singleton _
  target_mem := by
    intro table member key owned
    rw [List.mem_singleton.1 member] at owned
    cases owned

/-- There is one key to count, with as many columns as the index repeats its
own. -/
theorem Description.ordinalsFit_repeating_iff
    {count : Nat}
    (positive : 0 < count) :
    (repeating count positive).OrdinalsFit ↔ count < Text.valueCount 32 := by
  simp only [OrdinalsFit, DescribedTable.OrdinalsFit, repeating,
    DescribedTable.repeating, List.forall_mem_singleton, List.length_replicate,
    List.not_mem_nil, false_implies, implies_true, and_true]

/-- The last column of an index has an ordinal that is no number of the catalog
if there are as many columns as such numbers, zero among them.  So the index is
not read back, and its schema is not loaded. -/
theorem loadSchema_repeating_ne_schema :
    ((loadSchema (driver .mySql)).run.run Script.connection
        ((Description.repeating (Text.valueCount 32)
          (Nat.two_pow_pos 32)).addTo .mySql {})).1 ≠
      .ok (Description.repeating (Text.valueCount 32)
        (Nat.two_pow_pos 32)).schema := by
  intro loaded
  obtain ⟨fits, -⟩ :=
    (Description.loadSchema_addTo_eq_ok_iff _ _ _ _).1 loaded
  exact absurd ((Description.ordinalsFit_repeating_iff _).1 fits)
    (Nat.lt_irrefl _)

end MySql
end Catalog
end TypedSql
