import TypedSql.Catalog.MySql.InformationSchema
import TypedSql.Catalog.SchemaLoad
import TypedSql.Proofs.Result

/-!
# Refusals

What a load makes of the answers that it got may be refused: because a value
is missing or malformed, because no canonical type fits, or because names lead
nowhere.  None of these refusals is a failure of the connection or of a query,
so the class of an error tells whether the database or its catalog is at fault.
-/

namespace TypedSql
namespace Catalog

open Result (failsWithin_error failsWithin_forM failsWithin_mapM failsWithin_ok)

variable {α : Type}

/-- A result that, if it is an error, is not one of the connection or of a
query. -/
abbrev RefusesOnly (result : Except Error α) : Prop :=
  Result.FailsWithin (fun failure => failure.kind ≠ .io) result

/-- An inconsistency is a refusal, whatever its cause. -/
theorem refusesOnly_inconsistent (cause : Inconsistency) :
    RefusesOnly (.error (.inconsistent cause) : Except Error α) :=
  failsWithin_error nofun

/-! ## Rows -/

/-- A missing value is refused. -/
theorem Row.refusesOnly_text (row : Row) (place : Nat) (what : String) :
    RefusesOnly (row.text place what) := by
  unfold Row.text
  split
  next value _ => exact failsWithin_ok value
  next => exact refusesOnly_inconsistent _

theorem Row.refusesOnly_number (row : Row) (place : Nat) (what : String) :
    RefusesOnly (row.number place what) := by
  unfold Row.number Row.read
  apply (row.refusesOnly_text place what).bind
  intro value
  split
  next number _ => exact failsWithin_ok number
  next => exact refusesOnly_inconsistent _

theorem refusesOnly_expectNextOrdinal
    (previous current : Nat)
    (what : String) :
    RefusesOnly (expectNextOrdinal previous current what) := by
  unfold expectNextOrdinal
  split
  next => exact failsWithin_ok ()
  next => exact refusesOnly_inconsistent _

/-! ## Catalog queries -/

namespace MySql

/-- Having no database selected is a failure of the answer and not of the round
trip. -/
theorem refusesOnly_databaseOfRows (rows : List Row) :
    RefusesOnly (databaseOfRows rows) := by
  unfold databaseOfRows
  split
  next name _ =>
    split
    next => exact failsWithin_error nofun
    next => exact failsWithin_ok name
  next => exact failsWithin_error nofun

theorem refusesOnly_namesOfRows (what : String) (rows : List Row) :
    RefusesOnly (namesOfRows what rows) :=
  failsWithin_mapM (fun row => row.refusesOnly_text 0 what) rows

/-- The rows of an index are refused for one of their values or for their
order. -/
theorem refusesOnly_indexParts (previous : Nat) (rows : List Row) :
    RefusesOnly (indexParts previous rows) := by
  induction rows generalizing previous with
  | nil => exact failsWithin_ok []
  | cons row rest inductionHypothesis =>
      apply (row.refusesOnly_number 0 _).bind
      intro nonUnique
      apply (row.refusesOnly_text 1 _).bind
      intro column
      apply (row.refusesOnly_number 2 _).bind
      intro ordinal
      apply (refusesOnly_expectNextOrdinal previous ordinal _).bind
      intro _
      apply (inductionHypothesis ordinal).bind
      intro parts
      exact failsWithin_ok _

/-- An index without rows is refused as well. -/
theorem refusesOnly_indexOfRows (table index : String) (rows : List Row) :
    RefusesOnly (indexOfRows table index rows) := by
  apply (refusesOnly_indexParts 0 rows).bind
  intro parts
  split
  next => exact failsWithin_error nofun
  next last => exact failsWithin_ok _

theorem refusesOnly_expectSameTarget
    (table key : String)
    (target : Option String)
    (found : String) :
    RefusesOnly (foreignKeyParts.expectSameTarget table key target found) := by
  unfold foreignKeyParts.expectSameTarget
  split
  next => exact failsWithin_ok ()
  next known =>
    split
    next => exact failsWithin_ok ()
    next => exact refusesOnly_inconsistent _

/-- The rows of a foreign key are refused for one of their values, for their
order, or for a second target. -/
theorem refusesOnly_foreignKeyParts
    (table key : String)
    (previous : Nat)
    (target : Option String)
    (rows : List Row) :
    RefusesOnly (foreignKeyParts table key previous target rows) := by
  induction rows generalizing previous target with
  | nil => exact failsWithin_ok []
  | cons row rest inductionHypothesis =>
      apply (row.refusesOnly_text 0 _).bind
      intro column
      apply (row.refusesOnly_number 1 _).bind
      intro ordinal
      apply (row.refusesOnly_text 2 _).bind
      intro targetTable
      apply (row.refusesOnly_text 3 _).bind
      intro targetColumn
      apply (refusesOnly_expectNextOrdinal previous ordinal _).bind
      intro _
      apply (refusesOnly_expectSameTarget table key target targetTable).bind
      intro _
      apply (inductionHypothesis ordinal (some targetTable)).bind
      intro parts
      exact failsWithin_ok _

theorem refusesOnly_foreignKeyOfRows (table key : String) (rows : List Row) :
    RefusesOnly (foreignKeyOfRows table key rows) := by
  apply (refusesOnly_foreignKeyParts table key 0 none rows).bind
  intro parts
  split
  next => exact failsWithin_error nofun
  next first => exact failsWithin_ok _

/-- A column is refused if its type is not known. -/
theorem refusesOnly_classify (column : RawColumn) :
    RefusesOnly (classify column) := by
  rw [classify]
  split
  all_goals first
    | exact failsWithin_ok _
    | exact failsWithin_error nofun

theorem refusesOnly_classifyAll (described : List RawColumn) :
    RefusesOnly (classifyAll described) := by
  apply failsWithin_mapM
  rintro ⟨column, position⟩
  apply (refusesOnly_classify column).bind
  intro dataType
  exact failsWithin_ok _

end MySql

/-! ## Names that lead somewhere -/

/-- A name is refused if the table has no such column. -/
theorem refusesOnly_resolveColumn
    (table : String)
    (columns : List Column)
    (owner : ColumnOwner)
    (column : String) :
    RefusesOnly (resolveColumn table columns owner column) := by
  unfold resolveColumn
  split
  next position _ => exact failsWithin_ok position
  next => exact refusesOnly_inconsistent _

theorem IndexDefinition.refusesOnly_resolve
    (definition : IndexDefinition)
    (table : String)
    (columns : List Column)
    (name : String) :
    RefusesOnly (definition.resolve table columns name) := by
  apply (failsWithin_mapM
    (refusesOnly_resolveColumn table columns (.index name)) _).bind
  intro positions
  exact failsWithin_ok _

/-- A foreign key is refused for unequal numbers of columns, or for a column
that the table does not have. -/
theorem ForeignKeyDefinition.refusesOnly_resolve
    (definition : ForeignKeyDefinition)
    (table : String)
    (columns : List Column)
    (name : String) :
    RefusesOnly (definition.resolve table columns name) := by
  unfold ForeignKeyDefinition.resolve
  split
  next => exact refusesOnly_inconsistent _
  next =>
    apply (failsWithin_mapM
      (refusesOnly_resolveColumn table columns (.foreignKey name)) _).bind
    intro positions
    exact failsWithin_ok _

/-- A foreign key is refused if it leads nowhere. -/
theorem refusesOnly_checkForeignKey
    (schema : Schema)
    (table : String)
    (key : ForeignKey) :
    RefusesOnly (checkForeignKey schema table key) := by
  unfold checkForeignKey
  split
  next => exact refusesOnly_inconsistent _
  next target _ =>
    split
    next => exact failsWithin_ok ()
    next missing _ => exact refusesOnly_inconsistent _

/-- All refusals of a load are those of its parts. -/
theorem refusesOnly_checkForeignKeys (schema : Schema) :
    RefusesOnly (checkForeignKeys schema) := by
  apply failsWithin_forM
  intro table
  apply failsWithin_forM
  exact refusesOnly_checkForeignKey schema table.name

end Catalog
end TypedSql
