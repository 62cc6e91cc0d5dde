import TypedSql.Proofs.Catalog.MySql.Completeness
import TypedSql.Proofs.Dialect
import TypedSql.Proofs.Directive.Builtin

/-!
# Column lists

What a wildcard stands for can be read back: the list of all columns of its
table, each behind the qualifier, in the order in which the table has them.
Names may hold marks, dots, commas and blanks, since all of these are read as
part of a quoted name.  The columns of a table that was loaded are those that
the database described for it.
-/

namespace TypedSql
namespace Directive

open Dialect (quoteMark readIdentifier readIdentifier_eq_some_iff)

/-! ## Reading -/

/-- The qualified name at the start of a text: two quoted identifiers with a
dot between them. -/
def readItem (text : List Char) : Option ((String × String) × List Char) := do
  let (qualifier, rest) ← readIdentifier text
  let rest ← Text.dropStart ['.'] rest
  let (name, rest) ← readIdentifier rest
  pure ((qualifier, name), rest)

/-- Reading a qualified name undoes writing it. -/
theorem readItem_eq_some_iff
    (dialect : Dialect)
    {text rest : List Char}
    {item : String × String} :
    readItem text = some (item, rest) ↔
      text =
          (dialect.quote item.1).toList ++
            '.' :: ((dialect.quote item.2).toList ++ rest) ∧
        rest.head? ≠ some quoteMark := by
  obtain ⟨qualifier, name⟩ := item
  unfold readItem
  simp only [Option.bind_eq_bind, Option.bind_eq_some_iff, Prod.exists,
    readIdentifier_eq_some_iff dialect, Text.dropStart_eq_some_iff]
  constructor
  · rintro ⟨_, _, ⟨rfl, -⟩, _, rfl, _, _, ⟨rfl, ends⟩, ⟨⟩⟩
    exact ⟨rfl, ends⟩
  · rintro ⟨rfl, ends⟩
    have dotted (others : List Char) :
        ('.' :: others).head? ≠ some quoteMark := by
      intro same
      exact absurd (Option.some.inj same) (by decide)
    exact ⟨qualifier, _, ⟨rfl, dotted _⟩, _, rfl, name, rest, ⟨rfl, ends⟩, rfl⟩

/-- Qualified names with a comma and a blank between them. -/
def readItems (text : List Char) : Option (List (String × String)) :=
  match _read : readItem text with
  | none => none
  | some (item, rest) =>
    if rest.isEmpty then
      some [item]
    else
      match _more : Text.dropStart ", ".toList rest with
      | none => none
      | some others => (readItems others).map (item :: ·)
termination_by text.length
decreasing_by
  obtain ⟨split, -⟩ := (readItem_eq_some_iff .mySql).1 _read
  have separated := Text.dropStart_eq_some_iff.1 _more
  rw [split, separated]
  simp only [List.length_append, List.length_cons]
  omega

theorem readItems_nil : readItems [] = none := by
  rw [readItems]
  rfl

theorem readItems_of_end
    {text : List Char}
    {item : String × String}
    (read : readItem text = some (item, [])) :
    readItems text = some [item] := by
  rw [readItems]
  split
  next failed => cases failed.symm.trans read
  next found =>
    cases found.symm.trans read
    rfl

theorem readItems_of_separator
    {text rest : List Char}
    {item : String × String}
    (read : readItem text = some (item, ", ".toList ++ rest)) :
    readItems text = (readItems rest).map (item :: ·) := by
  have more : Text.dropStart ", ".toList (", ".toList ++ rest) = some rest :=
    Text.dropStart_eq_some_iff.2 rfl
  rw [readItems]
  split
  next failed => cases failed.symm.trans read
  next found =>
    cases found.symm.trans read
    rw [if_neg (by simp)]
    split
    next missing => cases missing.symm.trans more
    next separated =>
      cases separated.symm.trans more
      rfl

/-! ## Writing -/

/-- A qualified name as it is written. -/
def itemText (dialect : Dialect) (item : String × String) : String :=
  dialect.quote item.1 ++ "." ++ dialect.quote item.2

/-- A written item is read back up to its last mark, whatever marks and
separators the names contain. -/
theorem readItem_itemText
    (dialect : Dialect)
    (item : String × String)
    {rest : List Char}
    (ends : rest.head? ≠ some quoteMark) :
    readItem ((itemText dialect item).toList ++ rest) = some (item, rest) := by
  refine (readItem_eq_some_iff dialect).2 ⟨?_, ends⟩
  simp [itemText, String.toList_append]

/-- Written one after the other, qualified names are read as they are. -/
theorem readItems_intercalate
    (dialect : Dialect)
    {items : List (String × String)}
    (nonempty : items ≠ []) :
    readItems (", ".intercalate (items.map (itemText dialect))).toList =
      some items := by
  induction items with
  | nil => exact absurd rfl nonempty
  | cons item rest inductionHypothesis =>
      cases rest with
      | nil =>
          have ends : ([] : List Char).head? ≠ some quoteMark := nofun
          have read := readItem_itemText dialect item ends
          rw [List.append_nil] at read
          rw [List.map_singleton, String.intercalate_singleton]
          exact readItems_of_end read
      | cons next others =>
          have later := inductionHypothesis (List.cons_ne_nil next others)
          rw [List.map_cons] at later
          rw [List.map_cons, List.map_cons, String.intercalate_cons_cons,
            String.toList_append, String.toList_append, List.append_assoc]
          have comma (text : List Char) :
              (", ".toList ++ text).head? ≠ some quoteMark := by
            rw [List.head?_append_of_ne_nil _ (by decide)]
            decide +kernel
          rw [readItems_of_separator
            (readItem_itemText dialect item (comma _)), later]
          rfl

/-- The qualified names of a list, which may be empty. -/
def readColumnList (text : String) : Option (List (String × String)) :=
  if text = "" then some [] else readItems text.toList

/-- The column list of a table is read as the columns that it was written
for. -/
theorem readColumnList_columnList
    (dialect : Dialect)
    (qualifier : String)
    (table : Table) :
    readColumnList (columnList dialect qualifier table) =
      some (table.columns.map fun column => (qualifier, column.name)) := by
  have written :
      columnList dialect qualifier table =
        ", ".intercalate
          ((table.columns.map fun column => (qualifier, column.name)).map
            (itemText dialect)) := by
    rw [List.map_map]
    rfl
  rw [written]
  generalize table.columns.map (fun column => (qualifier, column.name)) = items
  cases items with
  | nil => rfl
  | cons item rest =>
      have read := readItems_intercalate dialect (List.cons_ne_nil item rest)
      have someText :
          ", ".intercalate ((item :: rest).map (itemText dialect)) ≠ "" := by
        intro empty
        rw [empty, String.toList_empty, readItems_nil] at read
        cases read
      rw [readColumnList, if_neg someText, read]

end Directive

/-! ## Loaded columns -/

namespace Catalog

variable
  {dialect : Dialect}
  {script : Script}

/-- The columns of a loaded table are those that are described for the name
under which it was loaded. -/
theorem map_name_of_loadTable
    {name : String}
    {table : Table}
    (loaded :
      script.result (loadTable (MySql.driver dialect) name) = .ok table) :
    table.name = name ∧
      ∃ described,
        script.describe (columnsQuery (dialect.quote name)) = .ok described ∧
          table.columns.map (·.name) = described.map (·.name) := by
  simp only [loadTable, Script.result_bind, Result.bind_eq_ok_iff] at loaded
  obtain ⟨columns, asked, _, -, _, -, _, -, _, -, _, -, made⟩ := loaded
  cases made
  simp only [loadColumns, MySql.driver, classifyQuery, Script.result_bind,
    Result.bind_eq_ok_iff] at asked
  obtain ⟨columns, ⟨described, answered, classified⟩, made⟩ := asked
  cases made
  refine ⟨rfl, described, answered, ?_⟩
  rw [← MySql.map_name_of_classifyAll classified, List.map_map]
  rfl

/-- The columns of a table of a schema that was loaded from a script are those
that the script describes for the name of the table. -/
theorem map_name_of_loadSchema
    {schema : Schema}
    (loaded :
      ((loadSchema (MySql.driver dialect)).run.run Script.connection
        script).1 = .ok schema)
    {name : String}
    {table : Table}
    (known : schema.table? name = some table) :
    ∃ described,
      script.describe (columnsQuery (dialect.quote name)) = .ok described ∧
        table.columns.map (·.name) = described.map (·.name) := by
  rw [Script.fst_run_connection] at loaded
  obtain ⟨tables, found, -, rfl⟩ := MySql.result_loadSchema_eq_ok_iff.1 loaded
  simp only [loadTables, Script.result_bind, Script.result_mapM,
    Result.bind_eq_ok_iff, Result.mapM_eq_ok_iff] at found
  obtain ⟨names, -, each⟩ := found
  rw [Schema.table?_ofTables] at known
  obtain ⟨listed, -, loadedTable⟩ :=
    Result.exists_of_mem_right each
      (List.mem_reverse.1 (List.mem_of_find?_eq_some known))
  obtain ⟨rfl, described⟩ := map_name_of_loadTable loadedTable
  have named := List.find?_some known
  rwa [← beq_iff_eq.1 named]

end Catalog

/-! ## Wildcards -/

namespace Directive

open Catalog (Script columnsQuery loadSchema)
open Template (Element Node)

/-- A wildcard that names a table becomes, for the final query and for the
probe, a text that reads back as the columns of this table, in their order,
each behind the alias, if there is one, or else behind the name of the table.
If the schema was loaded, these are the columns that were described for the
table. -/
theorem wildcard_lists_columns
    (scope : Scope)
    {element : Element Node}
    {name : String}
    {table : Table}
    (named : element.attribute? "table" = some name)
    (nonempty : name ≠ "")
    (known : scope.schema.table? name = some table)
    (draft : Draft) :
    ∃ directive text,
      (wildcard.configure scope (.element element)).run.run draft =
          (.ok (), { draft with directive }) ∧
        directive.final = .ok text ∧
        directive.probe = .ok text ∧
        readColumnList text =
          some (table.columns.map fun column =>
            (((element.attribute? "as").filter (· ≠ "")).getD name,
              column.name)) ∧
        ∀ (dialect : Dialect) (script : Script),
          ((loadSchema (Catalog.MySql.driver dialect)).run.run
              Script.connection script).1 = .ok scope.schema →
            ∃ described,
              script.describe (columnsQuery (dialect.quote name)) =
                  .ok described ∧
                (readColumnList text).map (·.map (·.2)) =
                  some (described.map (·.name)) := by
  have written := wildcardText_eq_ok_iff.2
    ⟨name, table, ⟨named, nonempty⟩, known, rfl⟩
  have decoded := readColumnList_columnList scope.dialect
    (((element.attribute? "as").filter (· ≠ "")).getD name) table
  refine ⟨.ofTexts _ _, _, ?_, rfl, rfl, decoded, ?_⟩
  · rw [wildcard, run_liftM_bind, written]
    rfl
  · intro dialect script loaded
    obtain ⟨described, asked, same⟩ :=
      Catalog.map_name_of_loadSchema loaded known
    refine ⟨described, asked, ?_⟩
    rw [decoded, ← same, Option.map_some, List.map_map]
    rfl

/-- A database whose names are full of marks and separators. -/
def separators : Catalog.MySql.Description where
  database := "app"
  tables :=
    [{ name := "a\x60.b"
       columns :=
         [⟨Catalog.MySql.rawColumn "x\x60, \x60y" "INT" none, .int32, by rfl⟩,
           ⟨Catalog.MySql.rawColumn "\x60" "INT" none, .int32, by rfl⟩]
       autoIncrement := none
       indexes := []
       foreignKeys := []
       autoIncrement_mem := by simp
       indexNames_nodup := List.nodup_nil
       index_mem := by simp
       foreignKeyNames_nodup := List.nodup_nil
       foreignKey_mem := by simp }]
  database_ne := by decide
  tableNames_nodup := by simp
  target_mem := by simp

/-- An element for the table of a name. -/
def wildcardOf (name : String) : Element Node where
  tag := "wc"
  attributes := .insert ∅ "table" name
  children := []
  position := .start

/-- Both columns are read back under the name of their table, and they are those
that the connection describes. -/
theorem wildcard_lists_separators :
    ∃ directive text,
      (wildcard.configure ⟨"Q", separators.schema, .tiDb⟩
              (.element (wildcardOf "a\x60.b"))).run.run
            ⟨wildcard.fresh, []⟩ =
          (.ok (), ⟨directive, []⟩) ∧
        directive.final = .ok text ∧
        directive.probe = .ok text ∧
        readColumnList text =
          some [("a\x60.b", "x\x60, \x60y"), ("a\x60.b", "\x60")] ∧
        ∃ described,
          (separators.addTo .mariaDb {}).describe
                (columnsQuery (Dialect.mariaDb.quote "a\x60.b")) =
              .ok described ∧
            (readColumnList text).map (·.map (·.2)) =
              some (described.map (·.name)) := by
  have named :
      (wildcardOf "a\x60.b").attribute? "table" = some "a\x60.b" := by
    decide +kernel
  have unqualified :
      (((wildcardOf "a\x60.b").attribute? "as").filter (· ≠ "")).getD
          "a\x60.b" =
        "a\x60.b" := by
    decide +kernel
  have known :
      separators.schema.table? "a\x60.b" =
        some (separators.tables.head (by decide)).inSchema := by
    rw [Catalog.MySql.Description.schema, Schema.table?_ofTables]
    rfl
  have loaded :
      ((loadSchema (Catalog.MySql.driver .mariaDb)).run.run Script.connection
          (separators.addTo .mariaDb {})).1 =
        .ok separators.schema :=
    (separators.loadSchema_addTo_eq_ok_iff .mariaDb {} _).2
      ⟨by decide, rfl⟩
  obtain ⟨directive, text, configured, final, probe, read, described⟩ :=
    wildcard_lists_columns ⟨"Q", separators.schema, .tiDb⟩ named (by decide)
      known ⟨wildcard.fresh, []⟩
  rw [unqualified] at read
  exact ⟨directive, text, configured, final, probe, read,
    described .mariaDb (separators.addTo .mariaDb {}) loaded⟩

/-- A table whose name is empty. -/
def nameless : Table where
  name := ""
  columns := [{ name := "id", position := 0, dataType := .int64 }]

/-- An empty name is as good as none, also where there is a table of that name:
the wildcard is refused, and it is left without the columns of the table. -/
theorem wildcard_refuses_empty_name :
    (wildcardOf "").attribute? "table" = some "" ∧
      (Schema.ofTables [nameless]).table? "" = some nameless ∧
      (wildcard.configure ⟨"S", .ofTables [nameless], .mySql⟩
              (.element (wildcardOf ""))).run.run
            ⟨wildcard.fresh, []⟩ =
          (.error (.missingAttribute "wc" "table" "S"),
            ⟨wildcard.fresh, []⟩) ∧
      wildcard.fresh.final = .ok "" ∧
      readColumnList "" ≠
        some (nameless.columns.map fun column => ("", column.name)) := by
  have named : (wildcardOf "").attribute? "table" = some "" := by
    decide +kernel
  have known : (Schema.ofTables [nameless]).table? "" = some nameless := by
    rw [Schema.table?_ofTables]
    rfl
  have refused :
      wildcardText ⟨"S", .ofTables [nameless], .mySql⟩
          (.element (wildcardOf "")) =
        .error (.missingAttribute "wc" "table" "S") :=
    rfl
  refine ⟨named, known, ?_, rfl, nofun⟩
  rw [wildcard, run_liftM_bind, refused]

end Directive
end TypedSql
