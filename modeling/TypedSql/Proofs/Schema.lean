import TypedSql.Proofs.Result
import TypedSql.Schema

/-!
# Finding tables

The index of a schema by names agrees with its list of tables: a table is
found by a name exactly when it is the last one of that name.  When no two
tables share a name, the order of the list has no part in this.

A filter derives the index anew from the tables that are left, so the agreement
is kept by any number of filters.  If a filter takes the last table of a name
away, the one before it is found.
-/

namespace TypedSql
namespace Schema

/-- Looking up a name while the index is built: the tables that are still to
come count before those that `positions` knows of. -/
theorem lookup_indexNames
    (before tables : List Table)
    (positions : Std.HashMap String Nat)
    (name : String) :
    (indexNames tables before.length positions)[name]?.bind
        ((before ++ tables)[·]?) =
      (tables.reverse.find? (·.name == name)).or
        (positions[name]?.bind ((before ++ tables)[·]?)) := by
  induction tables generalizing before positions with
  | nil => rfl
  | cons table rest inductionHypothesis =>
      have later := inductionHypothesis (before ++ [table])
        (positions.insert table.name before.length)
      rw [List.length_append, List.length_singleton, List.append_assoc,
        List.singleton_append] at later
      rw [indexNames, later, List.reverse_cons, List.find?_append,
        Option.or_assoc, Std.HashMap.getElem?_insert]
      by_cases same : table.name = name <;> simp [same]

/-- The last table of a name is found. -/
theorem table?_ofTables (tables : List Table) (name : String) :
    (ofTables tables).table? name = tables.reverse.find? (·.name == name) := by
  have found := lookup_indexNames [] tables ∅ name
  simpa [table?, ofTables] using found

/-- Tables that are told apart by their names are found by them. -/
theorem table?_ofTables_eq_some_iff
    {tables : List Table}
    (distinct : ∀ left ∈ tables, ∀ right ∈ tables,
      left.name = right.name → left = right)
    {name : String}
    {table : Table} :
    (ofTables tables).table? name = some table ↔
      table ∈ tables ∧ table.name = name := by
  rw [table?_ofTables]
  exact Result.find?_reverse_eq_some_iff distinct

/-! ## Restricted schemas -/

/-- A table is the last one of a name in a list. -/
def IsLast (tables : List Table) (name : String) (table : Table) : Prop :=
  ∃ before after,
    tables = before ++ table :: after ∧
      table.name = name ∧ ∀ later ∈ after, later.name ≠ name

/-- The lookup finds the last of the tables that have a name. -/
theorem table?_ofTables_eq_some_iff_isLast
    {tables : List Table}
    {name : String}
    {table : Table} :
    (ofTables tables).table? name = some table ↔ IsLast tables name table := by
  rw [table?_ofTables, Result.find?_reverse_eq_some_iff_isLast]
  simp only [beq_iff_eq]
  rfl

theorem table?_ofTables_eq_none_iff
    {tables : List Table}
    {name : String} :
    (ofTables tables).table? name = none ↔
      ∀ table ∈ tables, table.name ≠ name := by
  rw [table?_ofTables, List.find?_eq_none]
  simp

/-- Every position that is known for a name is that of a table of this
name. -/
def Locates (positions : Std.HashMap String Nat) (tables : List Table) : Prop :=
  ∀ (name : String) (position : Nat),
    positions[name]? = some position →
      ∃ table, tables[position]? = some table ∧ table.name = name

/-- Entering the names of some more tables extends the index to these. -/
theorem locates_indexNames
    (before tables : List Table)
    (positions : Std.HashMap String Nat)
    (located : Locates positions (before ++ tables)) :
    Locates (indexNames tables before.length positions)
      (before ++ tables) := by
  induction tables generalizing before positions with
  | nil => exact located
  | cons table rest inductionHypothesis =>
      have inserted :
          Locates (positions.insert table.name before.length)
            (before ++ table :: rest) := by
        intro name position found
        rw [Std.HashMap.getElem?_insert] at found
        split at found
        next same =>
          cases found
          exact ⟨table, by simp, beq_iff_eq.1 same⟩
        next => exact located name position found
      have later := inductionHypothesis (before ++ [table])
        (positions.insert table.name before.length)
      rw [List.length_append, List.length_singleton, List.append_assoc,
        List.singleton_append] at later
      exact later inserted

/-- The index of a schema is sound for the list of its tables. -/
theorem locates_ofTables (tables : List Table) :
    Locates (ofTables tables).positions tables := by
  apply locates_indexNames []
  intro name position found
  simp at found

/-- Restricting a schema indexes the tables that are kept anew. -/
theorem filter_ofTables (keep : Table → Bool) (tables : List Table) :
    (ofTables tables).filter keep = ofTables (tables.filter keep) :=
  rfl

/-- Schemas are compared by their tables; the index does not count. -/
theorem beq_iff_tables_eq {left right : Schema} :
    (left == right) = true ↔ left.tables = right.tables :=
  beq_iff_eq (a := left.tables)

/-- The schema of some tables, to which filters are applied one after the
other. -/
def restricted
    (tables : List Table)
    (filters : List (Table → Bool)) :
    Schema :=
  filters.foldl (fun schema keep => schema.filter keep) (ofTables tables)

/-- Filters leave the schema of the tables that all of them accept. -/
theorem restricted_eq_ofTables
    (tables : List Table)
    (filters : List (Table → Bool)) :
    restricted tables filters =
      ofTables (tables.filter fun table => filters.all (· table)) := by
  induction filters generalizing tables with
  | nil =>
      simp only [List.all_nil, List.filter_true]
      rfl
  | cons keep rest inductionHypothesis =>
      calc
        restricted tables (keep :: rest)
          = restricted (tables.filter keep) rest := rfl
        _ = ofTables ((tables.filter keep).filter fun table =>
              rest.all (· table)) := inductionHypothesis _
        _ = ofTables (tables.filter fun table =>
              (keep :: rest).all (· table)) := by
          rw [List.filter_filter]
          simp only [List.all_cons, Bool.and_comm]

/-- The index of a schema agrees with its tables. -/
structure AgreesWithTables (schema : Schema) : Prop where
  /-- No position is out of range, or that of another table. -/
  located : Locates schema.positions schema.tables
  absent_iff
    (name : String) :
    schema.table? name = none ↔ ∀ table ∈ schema.tables, table.name ≠ name
  found_iff
    (name : String)
    (table : Table) :
    schema.table? name = some table ↔ IsLast schema.tables name table
  /-- A filter keeps the tables that it accepts, in order. -/
  kept (keep : Table → Bool) :
    (schema.filter keep).tables = schema.tables.filter keep
  /-- Two filters are the same as one that accepts what both accept. -/
  fused (first second : Table → Bool) :
    (schema.filter first).filter second =
      schema.filter fun table => first table && second table
  /-- Schemas that are alike find the same tables. -/
  alike
    (tables : List Table)
    (filters : List (Table → Bool))
    (same : (schema == restricted tables filters) = true)
    (name : String) :
    schema.table? name = (restricted tables filters).table? name

theorem agreesWithTables_ofTables (tables : List Table) :
    AgreesWithTables (ofTables tables) where
  located := locates_ofTables tables
  absent_iff _ := table?_ofTables_eq_none_iff
  found_iff _ _ := table?_ofTables_eq_some_iff_isLast
  kept _ := rfl
  fused first second := by
    rw [filter_ofTables, filter_ofTables, filter_ofTables, List.filter_filter]
    simp only [Bool.and_comm]
  alike others filters same name := by
    rw [restricted_eq_ofTables] at same ⊢
    rw [beq_iff_tables_eq, tables_ofTables, tables_ofTables] at same
    rw [same]

/-- The index of a schema agrees with its tables, whatever filters the schema
has gone through. -/
theorem agreesWithTables_restricted
    (tables : List Table)
    (filters : List (Table → Bool)) :
    AgreesWithTables (restricted tables filters) := by
  rw [restricted_eq_ofTables]
  exact agreesWithTables_ofTables _

end Schema
end TypedSql
