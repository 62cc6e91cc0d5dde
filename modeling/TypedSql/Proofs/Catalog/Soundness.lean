import TypedSql.Catalog.MySql.InformationSchema
import TypedSql.Catalog.SchemaLoad
import TypedSql.Proofs.Catalog.Conversation
import TypedSql.Proofs.Schema

/-!
# Soundness of loaded schemas

A schema that has been loaded is sound, whatever the connection has answered:
the columns of a table know their place and their table, everything in a table
that refers to its columns refers to one that is there, and every foreign key
leads to columns of a table of the schema.
-/

namespace TypedSql

/-- Columns know their place and their table, and positions stay inside the
table. -/
structure Table.WellFormed (table : Table) : Prop where
  position_eq (place : Nat) (inside : place < table.columns.length) :
    table.columns[place].position = place
  owner_eq (place : Nat) (inside : place < table.columns.length) :
    table.columns[place].table = some table.name
  autoIncrement_lt (place : Nat) (numbered : table.autoIncrement = some place) :
    place < table.columns.length
  index_lt (index : Index) (member : index ∈ table.indexes) :
    ∀ place ∈ index.columns, place < table.columns.length
  foreignKey_lt (key : ForeignKey) (member : key ∈ table.foreignKeys) :
    ∀ place ∈ key.columns, place < table.columns.length
  length_eq (key : ForeignKey) (member : key ∈ table.foreignKeys) :
    key.columns.length = key.targetColumns.length

/-- Positions that stay inside a table are those of the columns found at
them, so none is skipped. -/
theorem Table.WellFormed.map_position_columnsAt
    {table : Table}
    (wellFormed : table.WellFormed)
    {places : List Nat}
    (inside : ∀ place ∈ places, place < table.columns.length) :
    (table.columnsAt places).map (·.position) = places := by
  induction places with
  | nil => rfl
  | cons place rest inductionHypothesis =>
      obtain ⟨first, others⟩ := List.forall_mem_cons.1 inside
      have found : table.columns[place]? = some table.columns[place] :=
        List.getElem?_eq_getElem first
      have remaining := inductionHypothesis others
      unfold Table.columnsAt at remaining ⊢
      rw [List.filterMap_cons_some found, List.map_cons, remaining,
        wellFormed.position_eq place first]

/-- A foreign key leads to a table of a schema that has all columns which the
key refers to. -/
def ForeignKey.LeadsInto (key : ForeignKey) (schema : Schema) : Prop :=
  ∃ target,
    schema.table? key.targetTable = some target ∧
      ∀ name ∈ key.targetColumns, ∃ column ∈ target.columns, column.name = name

namespace Catalog

/-- A driver whose table columns are those of a query for all of them,
classified as those of the MySQL family are. -/
structure Driver.HasMySqlColumns (driver : Driver) : Prop where
  columns_eq (table : String) :
    driver.columns table = driver.queryColumns (columnsQuery (driver.quote table))
  classify_eq : driver.classify = MySql.classifyAll

/-- The drivers of the MySQL family find columns in the way of the family. -/
theorem MySql.hasMySqlColumns_driver (dialect : Dialect) :
    (MySql.driver dialect).HasMySqlColumns :=
  ⟨fun _ => rfl, rfl⟩

/-! ## What the steps of a load find -/

/-- A classified column carries the place at which it was reported. -/
theorem MySql.position_eq_of_classifyAll
    {described : List RawColumn}
    {columns : List Column}
    (classified : MySql.classifyAll described = .ok columns)
    (place : Nat)
    (inside : place < columns.length) :
    columns[place].position = place := by
  have related := Result.mapM_eq_ok_iff.1 classified
  have bound : place < described.zipIdx.length := related.length_eq ▸ inside
  obtain ⟨type, -, made⟩ := Result.bind_eq_ok_iff.1 (related.get bound inside)
  have column : _ = columns[place] := Except.ok.inj made
  rw [← column]
  simp

/-- No column is lost, renamed or moved by classification. -/
theorem MySql.map_name_of_classifyAll
    {described : List RawColumn}
    {columns : List Column}
    (classified : MySql.classifyAll described = .ok columns) :
    columns.map (·.name) = described.map (·.name) := by
  have related := Result.mapM_eq_ok_iff.1 classified
  have named :
      List.Forall₂ (fun entry column => entry.1.name = column.name)
        described.zipIdx columns := by
    apply related.imp
    intro entry column made
    obtain ⟨type, -, made⟩ := Result.bind_eq_ok_iff.1 made
    cases made
    rfl
  have same : described.zipIdx.map (·.1.name) = columns.map (·.name) := by
    rw [← List.forall₂_eq_eq_eq, List.forall₂_map_left_iff,
      List.forall₂_map_right_iff]
    exact named
  calc columns.map (·.name)
      = (described.zipIdx.map Prod.fst).map (·.name) := by
        rw [← same, List.map_map]
        rfl
    _ = described.map (·.name) := by rw [List.zipIdx_map_fst]

theorem lt_of_resolveColumn
    {table : String}
    {columns : List Column}
    {owner : ColumnOwner}
    {name : String}
    {place : Nat}
    (resolved : resolveColumn table columns owner name = .ok place) :
    place < columns.length := by
  unfold resolveColumn at resolved
  split at resolved
  next found position =>
    cases resolved
    exact (List.findIdx?_eq_some_iff_getElem.1 position).1
  next => cases resolved

theorem lt_of_mem_resolved
    {table : String}
    {columns : List Column}
    {owner : ColumnOwner}
    {names : List String}
    {places : List Nat}
    (resolved : names.mapM (resolveColumn table columns owner) = .ok places)
    (place : Nat)
    (member : place ∈ places) :
    place < columns.length := by
  obtain ⟨name, -, found⟩ :=
    Result.exists_of_mem_right (Result.mapM_eq_ok_iff.1 resolved) member
  exact lt_of_resolveColumn found

/-- The places in an index are those of columns. -/
theorem IndexDefinition.lt_of_resolve
    {definition : IndexDefinition}
    {table name : String}
    {columns : List Column}
    {index : Index}
    (resolved : definition.resolve table columns name = .ok index) :
    ∀ place ∈ index.columns, place < columns.length := by
  obtain ⟨places, found, made⟩ := Result.bind_eq_ok_iff.1 resolved
  cases made
  exact lt_of_mem_resolved found

/-- So are the places in a foreign key, of which there are as many as it refers
to. -/
theorem ForeignKeyDefinition.lt_and_length_eq_of_resolve
    {definition : ForeignKeyDefinition}
    {table name : String}
    {columns : List Column}
    {key : ForeignKey}
    (resolved : definition.resolve table columns name = .ok key) :
    (∀ place ∈ key.columns, place < columns.length) ∧
      key.columns.length = key.targetColumns.length := by
  unfold ForeignKeyDefinition.resolve at resolved
  split at resolved
  next => cases resolved
  next sameLength =>
    obtain ⟨places, found, made⟩ := Result.bind_eq_ok_iff.1 resolved
    cases made
    refine ⟨lt_of_mem_resolved found, ?_⟩
    have perName := (Result.mapM_eq_ok_iff.1 found).length_eq
    exact perName.symm.trans (Decidable.not_not.1 sameLength)

open Introspection

/-- Loaded columns stand at their places and belong to their table. -/
theorem finds_loadColumns
    {driver : Driver}
    (hasColumns : driver.HasMySqlColumns)
    {table : String}
    {columns : List Column}
    (found : (loadColumns driver table).Finds columns)
    (place : Nat)
    (inside : place < columns.length) :
    columns[place].position = place ∧ columns[place].table = some table := by
  obtain ⟨classified, asked, made⟩ := finds_bind_iff.1 found
  rw [hasColumns.columns_eq] at asked
  obtain ⟨described, -, read⟩ := finds_bind_iff.1 asked
  rw [finds_ofExcept_iff, hasColumns.classify_eq] at read
  obtain rfl := finds_pure_iff.1 made
  rw [List.getElem_map]
  exact ⟨MySql.position_eq_of_classifyAll read place _, rfl⟩

theorem finds_loadAutoIncrement
    {driver : Driver}
    {table : String}
    {columns : List Column}
    {position : Option Nat}
    (found : (loadAutoIncrement driver table columns).Finds position)
    (place : Nat)
    (numbered : position = some place) :
    place < columns.length := by
  obtain ⟨name, -, resolved⟩ := finds_bind_iff.1 found
  cases name with
  | none =>
      have absent := finds_pure_iff.1 resolved
      rw [absent] at numbered
      cases numbered
  | some name =>
      obtain ⟨value, known, made⟩ := finds_bind_iff.1 resolved
      obtain rfl := finds_pure_iff.1 made
      cases numbered
      exact lt_of_resolveColumn (finds_ofExcept_iff.1 known)

theorem finds_loadIndex
    {driver : Driver}
    {table name : String}
    {columns : List Column}
    {index : Index}
    (found : (loadIndex driver table columns name).Finds index) :
    ∀ place ∈ index.columns, place < columns.length := by
  obtain ⟨definition, -, resolved⟩ := finds_bind_iff.1 found
  exact IndexDefinition.lt_of_resolve (finds_ofExcept_iff.1 resolved)

theorem finds_loadForeignKey
    {driver : Driver}
    {table name : String}
    {columns : List Column}
    {key : ForeignKey}
    (found : (loadForeignKey driver table columns name).Finds key) :
    (∀ place ∈ key.columns, place < columns.length) ∧
      key.columns.length = key.targetColumns.length := by
  obtain ⟨definition, -, resolved⟩ := finds_bind_iff.1 found
  exact ForeignKeyDefinition.lt_and_length_eq_of_resolve
    (finds_ofExcept_iff.1 resolved)

/-- What the load of a table finds, part by part. -/
structure LoadsTable (driver : Driver) (name : String) (table : Table) :
    Prop where
  name_eq : table.name = name
  columns : (loadColumns driver name).Finds table.columns
  autoIncrement :
    (loadAutoIncrement driver name table.columns).Finds table.autoIncrement
  index (index : Index) (member : index ∈ table.indexes) :
    ∃ indexName, (loadIndex driver name table.columns indexName).Finds index
  foreignKey (key : ForeignKey) (member : key ∈ table.foreignKeys) :
    ∃ keyName, (loadForeignKey driver name table.columns keyName).Finds key

/-- A table that is found under a name has this name, and each part of it was
found by its own step. -/
theorem loadsTable_of_finds
    {driver : Driver}
    {name : String}
    {table : Table}
    (found : (loadTable driver name).Finds table) :
    LoadsTable driver name table := by
  obtain ⟨columns, foundColumns, found⟩ := finds_bind_iff.1 found
  obtain ⟨position, foundPosition, found⟩ := finds_bind_iff.1 found
  obtain ⟨indexNames, -, found⟩ := finds_bind_iff.1 found
  obtain ⟨indexes, foundIndexes, found⟩ := finds_bind_iff.1 found
  obtain ⟨keyNames, -, found⟩ := finds_bind_iff.1 found
  obtain ⟨keys, foundKeys, made⟩ := finds_bind_iff.1 found
  obtain rfl := finds_pure_iff.1 made
  exact
    { name_eq := rfl
      columns := foundColumns
      autoIncrement := foundPosition
      index := by
        intro index member
        obtain ⟨indexName, -, loaded⟩ :=
          Result.exists_of_mem_right (finds_mapM_iff.1 foundIndexes) member
        exact ⟨indexName, loaded⟩
      foreignKey := by
        intro key member
        obtain ⟨keyName, -, loaded⟩ :=
          Result.exists_of_mem_right (finds_mapM_iff.1 foundKeys) member
        exact ⟨keyName, loaded⟩ }

/-- One step of the load: every table that is loaded is well formed. -/
theorem wellFormed_of_loadTable
    {driver : Driver}
    (hasColumns : driver.HasMySqlColumns)
    {name : String}
    {table : Table}
    (found : (loadTable driver name).Finds table) :
    table.WellFormed := by
  have loads := loadsTable_of_finds found
  obtain rfl := loads.name_eq
  have foundKey (key : ForeignKey) (member : key ∈ table.foreignKeys) :
      (∀ place ∈ key.columns, place < table.columns.length) ∧
        key.columns.length = key.targetColumns.length := by
    obtain ⟨keyName, loaded⟩ := loads.foreignKey key member
    exact finds_loadForeignKey loaded
  exact
    { position_eq := fun place inside =>
        (finds_loadColumns hasColumns loads.columns place inside).1
      owner_eq := fun place inside =>
        (finds_loadColumns hasColumns loads.columns place inside).2
      autoIncrement_lt := finds_loadAutoIncrement loads.autoIncrement
      index_lt := by
        intro index member
        obtain ⟨indexName, loaded⟩ := loads.index index member
        exact finds_loadIndex loaded
      foreignKey_lt := fun key member => (foundKey key member).1
      length_eq := fun key member => (foundKey key member).2 }

/-- Every table of a schema that is loaded has been loaded by its name. -/
theorem loadsTable_of_loadSchema
    {driver : Driver}
    {schema : Schema}
    (found : (loadSchema driver).Finds schema)
    (table : Table)
    (member : table ∈ schema.tables) :
    LoadsTable driver table.name table := by
  obtain ⟨tables, foundTables, checking⟩ := finds_bind_iff.1 found
  obtain ⟨_, -, made⟩ := finds_bind_iff.1 checking
  obtain rfl := finds_pure_iff.1 made
  obtain ⟨names, -, traversed⟩ := finds_bind_iff.1 foundTables
  obtain ⟨name, -, foundTable⟩ :=
    Result.exists_of_mem_right (finds_mapM_iff.1 traversed) member
  have loads := loadsTable_of_finds foundTable
  exact loads.name_eq ▸ loads

/-! ## Foreign keys -/

/-- The check of a foreign key passes exactly if its target is there with all
columns. -/
theorem checkForeignKey_eq_ok_iff
    {schema : Schema}
    {table : String}
    {key : ForeignKey} :
    checkForeignKey schema table key = .ok () ↔ key.LeadsInto schema := by
  unfold checkForeignKey ForeignKey.LeadsInto
  cases schema.table? key.targetTable with
  | none => simp
  | some target =>
      have known (name : String) :
          (∃ column ∈ target.columns, column.name = name) ↔
            (target.column? name).isNone = false := by
        simp [Table.column?]
      simp only [Option.some.injEq, exists_eq_left', known]
      split
      next allKnown =>
        have noneUnknown := List.find?_eq_none.1 allKnown
        simpa only [Bool.not_eq_true, true_iff] using noneUnknown
      next missing absent =>
        have member := List.mem_of_find?_eq_some absent
        have unknown := List.find?_some absent
        simp only [reduceCtorEq, false_iff]
        intro allThere
        rw [allThere missing member] at unknown
        exact Bool.false_ne_true unknown

/-- A schema passes the check when all of its foreign keys lead into it. -/
theorem checkForeignKeys_eq_ok_iff {schema : Schema} :
    checkForeignKeys schema = .ok () ↔
      ∀ table ∈ schema.tables, ∀ key ∈ table.foreignKeys,
        key.LeadsInto schema := by
  simp only [checkForeignKeys, Result.forM_eq_ok_iff, checkForeignKey_eq_ok_iff]

/-- After the check, every foreign key of every table leads somewhere. -/
theorem leadsInto_of_checkForeignKeys
    {schema : Schema}
    (checked : checkForeignKeys schema = .ok ())
    (table : Table)
    (member : table ∈ schema.tables)
    (key : ForeignKey)
    (owned : key ∈ table.foreignKeys) :
    key.LeadsInto schema :=
  checkForeignKeys_eq_ok_iff.1 checked table member key owned

/-- Whatever a connection answers, a schema that is loaded is sound. -/
theorem sound_of_loadSchema
    {σ : Type}
    {driver : Driver}
    (hasColumns : driver.HasMySqlColumns)
    (connection : Connection σ)
    (state : σ)
    {schema : Schema}
    (loaded : ((loadSchema driver).run.run connection state).1 = .ok schema)
    (table : Table)
    (member : table ∈ schema.tables) :
    table.WellFormed ∧
      (∀ index ∈ table.indexes,
        (table.columnsAt index.columns).map (·.position) = index.columns) ∧
      ∀ key ∈ table.foreignKeys,
        (table.columnsAt key.columns).map (·.position) = key.columns ∧
          key.LeadsInto schema := by
  obtain ⟨tables, found, checking⟩ := finds_bind_iff.1 (finds_of_run loaded)
  obtain ⟨_, checked, made⟩ := finds_bind_iff.1 checking
  obtain rfl := finds_pure_iff.1 made
  obtain ⟨names, -, foundTables⟩ := finds_bind_iff.1 found
  obtain ⟨name, -, foundTable⟩ :=
    Result.exists_of_mem_right (finds_mapM_iff.1 foundTables) member
  have wellFormed := wellFormed_of_loadTable hasColumns foundTable
  have keysLead :=
    leadsInto_of_checkForeignKeys (finds_ofExcept_iff.1 checked) table member
  refine ⟨wellFormed, ?_, ?_⟩
  · intro index owned
    exact wellFormed.map_position_columnsAt (wellFormed.index_lt index owned)
  · intro key owned
    exact ⟨
      wellFormed.map_position_columnsAt (wellFormed.foreignKey_lt key owned),
      keysLead key owned⟩

/-! ## A table that refers to itself -/

/-- Employees, most of whom are led by another one. -/
def staff : Table where
  name := "staff"
  columns :=
    [{ name := "id"
       position := 0
       dataType := .int64
       table := some "staff" },
      { name := "lead"
        position := 1
        dataType := .int64
        nullable := true
        table := some "staff" }]
  autoIncrement := some 0
  indexes :=
    [{ name := "PRIMARY", columns := [0], isPrimary := true, isUnique := true }]
  foreignKeys :=
    [{ name := "fk_lead"
       columns := [1]
       targetTable := "staff"
       targetColumns := ["id"] }]

/-- A connection whose answers change from call to call: rows are given out
one result after the other. -/
def staffConnection : Connection (List (List (List String))) where
  fetch _ _ results := (.ok ((results.headD []).map Row.ofTexts), results.tail)
  describe _ results :=
    (.ok
      [{ name := "id"
         scanType := .integer false .sixtyFour
         typeName := "BIGINT"
         nullable := some false },
        { name := "lead"
          scanType := .nullableInteger
          typeName := "BIGINT" }],
      results)

/-- The results of a load of the employees. -/
def staffResults : List (List (List String)) :=
  [[["company"]], [["staff"]],
    [["company"]], [["id"]],
    [["company"]], [["PRIMARY"]],
    [["company"]], [["0", "id", "1"]],
    [["company"]], [["fk_lead"]],
    [["company"]], [["lead", "1", "staff", "id"]]]

theorem checkForeignKeys_staff :
    checkForeignKeys (.ofTables [staff]) = .ok () := by
  have found : (Schema.ofTables [staff]).table? "staff" = some staff := by
    rw [Schema.table?_ofTables]
    rfl
  apply Result.forM_eq_ok_iff.2
  intro table member
  apply Result.forM_eq_ok_iff.2
  intro key owned
  obtain rfl := List.mem_singleton.1 member
  obtain rfl := List.mem_singleton.1 owned
  simp only [checkForeignKey, found]
  rfl

/-- The staff refer to themselves, and are loaded from answers that change from
call to call. -/
theorem loadSchema_staff :
    ((loadSchema (MySql.driver .mySql)).run.run staffConnection
      staffResults).1 = .ok (.ofTables [staff]) := by
  have tables :
      ((loadTables (MySql.driver .mySql)).run.run staffConnection
        staffResults).1 = .ok [staff] := by
    decide +kernel
  rw [loadSchema, ExceptT.run_bind, Dialogue.run_bind, tables]
  simp only
  rw [checkForeignKeys_staff]
  rfl

/-- The loaded table is sound, with a numbered column, an index and a foreign
key into itself. -/
theorem sound_staff :
    ((loadSchema (MySql.driver .mySql)).run.run staffConnection
      staffResults).1 = .ok (.ofTables [staff]) ∧
      staff.WellFormed ∧
        (∀ index ∈ staff.indexes,
          (staff.columnsAt index.columns).map (·.position) = index.columns) ∧
        ∀ key ∈ staff.foreignKeys,
          (staff.columnsAt key.columns).map (·.position) = key.columns ∧
            key.LeadsInto (.ofTables [staff]) :=
  ⟨loadSchema_staff,
    sound_of_loadSchema (MySql.hasMySqlColumns_driver .mySql) staffConnection
      staffResults loadSchema_staff staff List.mem_cons_self⟩

end Catalog
end TypedSql
