import Mathlib.Data.List.Nodup
import TypedSql.Proofs.Catalog.MySql.Description
import TypedSql.Proofs.Catalog.Script
import TypedSql.Proofs.Dialect
import TypedSql.Proofs.Text

/-!
# Answers of a described database

The script of a description answers every catalog query with the rows that the
description has for it.  Each query carries the mark of its own topic and of
no other one, and within a topic the parameters tell the answers apart, because
the names of tables and keys are distinct.
-/

namespace TypedSql
namespace Catalog
namespace MySql

/-! ## Topics -/

/-- What a row query asks for. -/
inductive Topic where
  | currentDatabase
  | tableNames
  | autoIncrement
  | indexNames
  | index
  | foreignKeyNames
  | foreignKey
  deriving DecidableEq

namespace Topic

/-- The text of the query. -/
def query : Topic → String
  | currentDatabase => currentDatabaseQuery
  | tableNames => tableNamesQuery
  | autoIncrement => autoIncrementQuery
  | indexNames => indexNamesQuery
  | index => indexQuery
  | foreignKeyNames => foreignKeyNamesQuery
  | foreignKey => foreignKeyQuery

/-- The fragment by which scripts recognise the query. -/
def mark : Topic → String
  | currentDatabase => Script.currentDatabaseMark
  | tableNames => Fixture.tableNamesMark
  | autoIncrement => Fixture.autoIncrementMark
  | indexNames => Fixture.indexNamesMark
  | index => Fixture.indexMark
  | foreignKeyNames => Fixture.foreignKeyNamesMark
  | foreignKey => Fixture.foreignKeyMark

set_option maxRecDepth 4000 in
/-- A query carries the mark of its own topic only. -/
theorem contains_mark (asked prepared : Topic) :
    Text.contains asked.query prepared.mark = decide (asked = prepared) := by
  cases asked <;> cases prepared <;>
    exact (Text.contains_ofList _ _).trans (by decide +kernel)

/-- No two topics are asked about with the same query. -/
theorem query_injective : Function.Injective query := by
  intro asked other same
  have marked := asked.contains_mark other
  rw [same, other.contains_mark other] at marked
  simpa using marked

end Topic

/-- An entry that answers a topic for some parameters. -/
def entryFor (topic : Topic) (params : List String) (rows : List Row) :
    RowScript where
  fragment := topic.mark
  params := some params
  answer := .ok rows

/-- An entry for a topic answers the query about this topic, with the parameters
of the entry, and no other catalog query. -/
theorem answers_entryFor_iff
    {asked topic : Topic}
    {wanted params : List String}
    {rows : List Row} :
    (entryFor topic params rows).answers asked.query wanted = true ↔
      asked = topic ∧ params = wanted := by
  simp only [RowScript.answers, entryFor, Topic.contains_mark, Bool.and_eq_true,
    decide_eq_true_eq, Option.all_some, beq_iff_eq]

/-- The entry that names the current database. -/
def databaseEntry (database : String) : RowScript where
  fragment := Topic.currentDatabase.mark
  answer := .ok [Row.ofTexts [database]]

/-- The entry for the database has no parameters, but its fragment occurs in one
catalog query only. -/
theorem answers_databaseEntry_iff
    {asked : Topic}
    {database : String}
    {wanted : List String} :
    (databaseEntry database).answers asked.query wanted = true ↔
      asked = .currentDatabase := by
  simp only [RowScript.answers, databaseEntry, Topic.contains_mark,
    Option.all_none, Bool.and_true, decide_eq_true_eq]

/-! ## The entries of a description -/

open Fixture (nameRows)

/-- The rows that a description has for a topic about one of its tables and
for the parameters behind the table's name. -/
inductive DescribedTable.Answers (table : DescribedTable) :
    Topic → List String → List Row → Prop where
  | autoIncrement :
      Answers table .autoIncrement [autoIncrementPattern]
        (nameRows table.autoIncrement.toList)
  | indexNames :
      Answers table .indexNames [] (nameRows (table.indexes.map (·.name)))
  | index {index : DescribedIndex} (owned : index ∈ table.indexes) :
      Answers table .index [index.name] index.rows
  | foreignKeyNames :
      Answers table .foreignKeyNames []
        (nameRows (table.foreignKeys.map (·.name)))
  | foreignKey {key : DescribedForeignKey} (owned : key ∈ table.foreignKeys) :
      Answers table .foreignKey [key.name] key.rows

/-- The rows that a description has for a topic and parameters. -/
inductive Description.Answers (description : Description) :
    Topic → List String → List Row → Prop where
  | tableNames :
      Answers description .tableNames [description.database]
        (nameRows (description.tables.map (·.name)))
  | ofTable
      {table : DescribedTable}
      (member : table ∈ description.tables)
      {topic : Topic}
      {params : List String}
      {rows : List Row}
      (answers : table.Answers topic params rows) :
      Answers description topic (description.database :: table.name :: params)
        rows

theorem Description.table_eq_of_name_eq
    (description : Description)
    {left right : DescribedTable}
    (leftMember : left ∈ description.tables)
    (rightMember : right ∈ description.tables)
    (sameName : left.name = right.name) :
    left = right :=
  List.inj_on_of_nodup_map description.tableNames_nodup leftMember rightMember
    sameName

/-- Keys of one table are told apart by their names. -/
theorem DescribedTable.Answers.unique
    {table : DescribedTable}
    {topic : Topic}
    {params : List String}
    {rows others : List Row}
    (first : table.Answers topic params rows)
    (second : table.Answers topic params others) :
    rows = others := by
  generalize same : params = wanted at second
  cases first with
  | autoIncrement => cases second with | autoIncrement => rfl
  | indexNames => cases second with | indexNames => rfl
  | index owned =>
      cases second with
      | index otherOwned =>
          rw [List.inj_on_of_nodup_map table.indexNames_nodup owned otherOwned
            (List.cons.inj same).1]
  | foreignKeyNames => cases second with | foreignKeyNames => rfl
  | foreignKey owned =>
      cases second with
      | foreignKey otherOwned =>
          rw [List.inj_on_of_nodup_map table.foreignKeyNames_nodup owned
            otherOwned (List.cons.inj same).1]

/-- Topic and parameters decide the rows. -/
theorem Description.Answers.unique
    {description : Description}
    {topic : Topic}
    {params : List String}
    {rows others : List Row}
    (first : description.Answers topic params rows)
    (second : description.Answers topic params others) :
    rows = others := by
  generalize same : params = wanted at second
  cases first with
  | tableNames =>
      cases second with
      | tableNames => rfl
      | ofTable _ answers => cases answers
  | ofTable member answers =>
      cases second with
      | tableNames => cases answers
      | ofTable otherMember otherAnswers =>
          injection same with _ same
          injection same with sameTable sameParams
          obtain rfl :=
            description.table_eq_of_name_eq member otherMember sameTable
          subst sameParams
          exact answers.unique otherAnswers

/-- The entries for a table, in the order in which they are added. -/
def DescribedTable.entries (database : String) (table : DescribedTable) :
    List RowScript :=
  [entryFor .autoIncrement [database, table.name, autoIncrementPattern]
      (nameRows table.autoIncrement.toList),
    entryFor .indexNames [database, table.name]
      (nameRows (table.indexes.map (·.name)))] ++
  table.indexes.map (fun index =>
    entryFor .index [database, table.name, index.name] index.rows) ++
  [entryFor .foreignKeyNames [database, table.name]
    (nameRows (table.foreignKeys.map (·.name)))] ++
  table.foreignKeys.map fun key =>
    entryFor .foreignKey [database, table.name, key.name] key.rows

/-- The entries for a database, in the order in which they are added. -/
def Description.entries (description : Description) : List RowScript :=
  [databaseEntry description.database,
    entryFor .tableNames [description.database]
      (nameRows (description.tables.map (·.name)))] ++
  description.tables.flatMap (·.entries description.database)

/-- The entries of a database answer what the description has rows for. -/
theorem Description.mem_entries
    {description : Description}
    {entry : RowScript}
    (member : entry ∈ description.entries) :
    entry = databaseEntry description.database ∨
      ∃ topic params rows,
        description.Answers topic params rows ∧
          entry = entryFor topic params rows := by
  simp only [entries, DescribedTable.entries, List.mem_append, List.mem_cons,
    List.not_mem_nil, or_false, List.mem_flatMap, List.mem_map] at member
  rcases member with
    (rfl | rfl) |
      ⟨table, present,
        ((((rfl | rfl) | ⟨index, owned, rfl⟩) | rfl) | ⟨key, owned, rfl⟩)⟩
  · exact .inl rfl
  · exact .inr ⟨_, _, _, .tableNames, rfl⟩
  · exact .inr ⟨_, _, _, .ofTable present .autoIncrement, rfl⟩
  · exact .inr ⟨_, _, _, .ofTable present .indexNames, rfl⟩
  · exact .inr ⟨_, _, _, .ofTable present (.index owned), rfl⟩
  · exact .inr ⟨_, _, _, .ofTable present .foreignKeyNames, rfl⟩
  · exact .inr ⟨_, _, _, .ofTable present (.foreignKey owned), rfl⟩

/-- Whatever the description has rows for is among its entries. -/
theorem Description.Answers.mem_entries
    {description : Description}
    {topic : Topic}
    {params : List String}
    {rows : List Row}
    (answers : description.Answers topic params rows) :
    entryFor topic params rows ∈ description.entries := by
  simp only [entries, DescribedTable.entries, List.mem_append, List.mem_cons,
    List.not_mem_nil, or_false, List.mem_flatMap, List.mem_map]
  cases answers with
  | tableNames => exact .inl (.inr rfl)
  | ofTable member answers =>
      refine .inr ⟨_, member, ?_⟩
      cases answers with
      | autoIncrement => exact .inl (.inl (.inl (.inl rfl)))
      | indexNames => exact .inl (.inl (.inl (.inr rfl)))
      | index owned => exact .inl (.inl (.inr ⟨_, owned, rfl⟩))
      | foreignKeyNames => exact .inl (.inr rfl)
      | foreignKey owned => exact .inr ⟨_, owned, rfl⟩

/-- What describes the columns of a table. -/
def DescribedTable.descriptionEntry
    (dialect : Dialect)
    (table : DescribedTable) :
    DescribeScript where
  query := Text.trim (columnsQuery (dialect.quote table.name))
  answer := .ok (table.columns.map (·.raw))

/-! ## Queries for columns -/

/-- The query for the columns of a table has no outer blanks. -/
theorem trim_columnsQuery_quote (dialect : Dialect) (table : String) :
    Text.trim (columnsQuery (dialect.quote table)) =
      columnsQuery (dialect.quote table) := by
  have characters :
      (columnsQuery (dialect.quote table)).toList =
        "SELECT * FROM ".toList ++
          Dialect.quoteMark :: Dialect.doubleMarks table.toList ++
            [Dialect.quoteMark] := by
    rw [columnsQuery, String.toList_append, dialect.quote_eq,
      String.toList_ofList, String.toList_ofList, List.append_assoc]
  have nonempty : (columnsQuery (dialect.quote table)).toList ≠ [] := by
    rw [characters]
    exact List.append_ne_nil_of_right_ne_nil _ (List.cons_ne_nil _ _)
  apply Text.trim_eq_self nonempty
  · simp only [characters]
    rfl
  · simp only [characters, List.getLast_append_singleton]
    rfl

/-! ## The script of a description -/

/-- Entries that are added item by item end up in reverse order in front of
the older ones. -/
theorem foldl_entries
    {α ε : Type}
    (field : Script → List ε)
    (add : Script → α → Script)
    (entries : α → List ε)
    (added : ∀ script item,
      field (add script item) = (entries item).reverse ++ field script)
    (items : List α)
    (script : Script) :
    field (items.foldl add script) =
      (items.flatMap entries).reverse ++ field script := by
  induction items generalizing script with
  | nil => rfl
  | cons item rest inductionHypothesis =>
      rw [List.foldl_cons, inductionHypothesis, added, List.flatMap_cons,
        List.reverse_append, List.append_assoc]

/-- A table puts its entries in front of those of the script, the last one
first. -/
theorem DescribedTable.rows_addTo
    (database : String)
    (dialect : Dialect)
    (script : Script)
    (table : DescribedTable) :
    (table.addTo database dialect script).rows =
      (table.entries database).reverse ++ script.rows := by
  have indexRows := foldl_entries Script.rows
    (fun script (index : DescribedIndex) =>
      index.addTo database table.name script)
    (fun index =>
      [entryFor .index [database, table.name, index.name] index.rows])
    (fun _ _ => rfl) table.indexes
  have foreignKeyRows := foldl_entries Script.rows
    (fun script (key : DescribedForeignKey) =>
      key.addTo database table.name script)
    (fun key =>
      [entryFor .foreignKey [database, table.name, key.name] key.rows])
    (fun _ _ => rfl) table.foreignKeys
  unfold DescribedTable.addTo DescribedTable.entries
  rw [foreignKeyRows, Script.onQueryWith]
  simp only
  rw [indexRows, ← List.map_eq_flatMap, ← List.map_eq_flatMap]
  simp only [List.reverse_append, List.append_assoc]
  rfl

/-- Row entries leave the descriptions as they are. -/
theorem descriptions_foldl
    {α : Type}
    (add : Script → α → Script)
    (kept : ∀ script item, (add script item).descriptions = script.descriptions)
    (items : List α)
    (script : Script) :
    (items.foldl add script).descriptions = script.descriptions := by
  induction items generalizing script with
  | nil => rfl
  | cons item rest inductionHypothesis =>
      rw [List.foldl_cons, inductionHypothesis, kept]

theorem DescribedTable.descriptions_addTo
    (database : String)
    (dialect : Dialect)
    (script : Script)
    (table : DescribedTable) :
    (table.addTo database dialect script).descriptions =
      [table.descriptionEntry dialect].reverse ++ script.descriptions := by
  have indexesKeep := descriptions_foldl
    (fun script (index : DescribedIndex) =>
      index.addTo database table.name script)
    (fun _ _ => rfl) table.indexes
  have foreignKeysKeep := descriptions_foldl
    (fun script (key : DescribedForeignKey) =>
      key.addTo database table.name script)
    (fun _ _ => rfl) table.foreignKeys
  unfold DescribedTable.addTo
  rw [foreignKeysKeep, Script.onQueryWith]
  simp only
  rw [indexesKeep]
  rfl

theorem Description.rows_addTo
    (description : Description)
    (dialect : Dialect)
    (script : Script) :
    (description.addTo dialect script).rows =
      description.entries.reverse ++ script.rows := by
  unfold Description.addTo Description.entries
  rw [foldl_entries Script.rows _ _
      (fun script table =>
        table.rows_addTo description.database dialect script),
    List.reverse_append, List.append_assoc]
  rfl

/-- Each table is described once, and later tables come first. -/
theorem Description.descriptions_addTo
    (description : Description)
    (dialect : Dialect)
    (script : Script) :
    (description.addTo dialect script).descriptions =
      (description.tables.map (·.descriptionEntry dialect)).reverse ++
        script.descriptions := by
  unfold Description.addTo
  rw [foldl_entries Script.descriptions _
      (fun table => [table.descriptionEntry dialect])
      (fun script table =>
        table.descriptions_addTo description.database dialect script),
    ← List.map_eq_flatMap]
  rfl

/-- The script answers what the description has rows for. -/
theorem Description.Answers.fetch_addTo
    {description : Description}
    {topic : Topic}
    {params : List String}
    {rows : List Row}
    (answers : description.Answers topic params rows)
    (dialect : Dialect)
    (script : Script) :
    (description.addTo dialect script).fetch topic.query params = .ok rows := by
  have notDatabase : topic ≠ .currentDatabase := by
    rintro rfl
    cases answers with
    | ofTable _ answers => cases answers
  apply Script.fetch_of_unique (description.rows_addTo dialect script)
    (List.mem_reverse.2 answers.mem_entries)
  · exact answers_entryFor_iff.2 ⟨rfl, rfl⟩
  · intro other member fits
    rcases Description.mem_entries (List.mem_reverse.1 member) with
      rfl | ⟨otherTopic, otherParams, otherRows, otherAnswers, rfl⟩
    · exact absurd (answers_databaseEntry_iff.1 fits) notDatabase
    · obtain ⟨rfl, rfl⟩ := answers_entryFor_iff.1 fits
      rw [answers.unique otherAnswers]

/-- The script names the database. -/
theorem Description.fetch_currentDatabase_addTo
    (description : Description)
    (dialect : Dialect)
    (script : Script) :
    (description.addTo dialect script).fetch Topic.currentDatabase.query [] =
      .ok [Row.ofTexts [description.database]] := by
  have present :
      databaseEntry description.database ∈ description.entries.reverse :=
    List.mem_reverse.2 List.mem_cons_self
  apply Script.fetch_of_unique (description.rows_addTo dialect script) present
  · exact answers_databaseEntry_iff.2 rfl
  · intro other member fits
    rcases Description.mem_entries (List.mem_reverse.1 member) with
      rfl | ⟨otherTopic, otherParams, otherRows, otherAnswers, rfl⟩
    · rfl
    · obtain ⟨rfl, -⟩ := answers_entryFor_iff.1 fits
      cases otherAnswers with
      | ofTable _ answers => cases answers

/-- The script describes the columns of a table, since no other table is
quoted alike. -/
theorem Description.describe_addTo
    (description : Description)
    (dialect : Dialect)
    (script : Script)
    {table : DescribedTable}
    (member : table ∈ description.tables) :
    (description.addTo dialect script).describe
        (columnsQuery (dialect.quote table.name)) =
      .ok (table.columns.map (·.raw)) := by
  apply Script.describe_of_unique
    (description.descriptions_addTo dialect script)
    (List.mem_reverse.2 (List.mem_map_of_mem member))
  · rfl
  · intro other present same
    obtain ⟨otherTable, otherMember, rfl⟩ :=
      List.mem_map.1 (List.mem_reverse.1 present)
    simp only [DescribedTable.descriptionEntry, trim_columnsQuery_quote] at same
    rw [description.table_eq_of_name_eq otherMember member
      (dialect.quote_injective (columnsQuery_injective same))]

end MySql
end Catalog
end TypedSql
