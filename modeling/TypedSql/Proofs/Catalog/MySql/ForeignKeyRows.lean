import TypedSql.Proofs.Catalog.MySql.RoundTrips
import TypedSql.Proofs.Catalog.Row

/-!
# Rows of a foreign key

A foreign key is read from its rows exactly if there are some and each of them
is sound at its place: it has a column, the place counted from one as its
ordinal, and a column of one and the same table that it refers to.  Otherwise
the first row that is not sound decides the error, and in it the first value
that breaks a rule.

The table that the loop expects is the one that the first row refers to, and
the ordinal that it carries is the number of rows behind it.  So each step
depends on its own row, its place and the first row only.
-/

namespace TypedSql
namespace Catalog
namespace MySql

variable {table key : String}

/-! ## One row -/

/-- One row of a foreign key, of which `place` rows have been read before, and
whose rows refer to the table `expected`, if one is known. -/
def readForeignKeyRow
    (table key : String)
    (expected : Option String)
    (row : Row)
    (place : Nat) :
    Except Error ForeignKeyPart := do
  let column ← row.text 0 "COLUMN_NAME"
  let ordinal ← row.number 1 "ORDINAL_POSITION"
  let targetTable ← row.text 2 "REFERENCED_TABLE_NAME"
  let targetColumn ← row.text 3 "REFERENCED_COLUMN_NAME"
  expectNextOrdinal place ordinal "ORDINAL_POSITION"
  foreignKeyParts.expectSameTarget table key expected targetTable
  pure { column, targetTable, targetColumn }

/-- A row that the catalog may have at a place of a foreign key into a
table. -/
structure IsForeignKeyRow (target : String) (place : Nat) (row : Row) :
    Prop where
  column : (row.get? 0).isSome
  ordinal : row.number? 1 = some (place + 1)
  target : row.get? 2 = some target
  targetColumn : (row.get? 3).isSome

/-- The first value that breaks a rule in a row at a place of a foreign key,
whose rows refer to the table `expected`, if one is known. -/
inductive ForeignKeyRowFault
    (table key : String)
    (expected : Option String)
    (place : Nat)
    (row : Row) :
    Inconsistency → Prop where
  | column (null : row.get? 0 = none) :
      ForeignKeyRowFault table key expected place row
        (.unexpectedNull "COLUMN_NAME")
  | ordinal
      (column : (row.get? 0).isSome)
      {cause : Inconsistency}
      (lacks : row.LacksNumber 1 "ORDINAL_POSITION" cause) :
      ForeignKeyRowFault table key expected place row cause
  | target
      (column : (row.get? 0).isSome)
      (ordinal : (row.number? 1).isSome)
      (null : row.get? 2 = none) :
      ForeignKeyRowFault table key expected place row
        (.unexpectedNull "REFERENCED_TABLE_NAME")
  | targetColumn
      (column : (row.get? 0).isSome)
      (ordinal : (row.number? 1).isSome)
      (target : (row.get? 2).isSome)
      (null : row.get? 3 = none) :
      ForeignKeyRowFault table key expected place row
        (.unexpectedNull "REFERENCED_COLUMN_NAME")
  | order
      (column : (row.get? 0).isSome)
      (target : (row.get? 2).isSome)
      (targetColumn : (row.get? 3).isSome)
      {current : Nat}
      (numbered : row.number? 1 = some current)
      (differs : current ≠ place + 1) :
      ForeignKeyRowFault table key expected place row
        (.badOrdinal "ORDINAL_POSITION" place current)
  | otherTarget
      (column : (row.get? 0).isSome)
      (ordinal : row.number? 1 = some (place + 1))
      (targetColumn : (row.get? 3).isSome)
      {known found : String}
      (known_eq : expected = some known)
      (found_eq : row.get? 2 = some found)
      (differs : known ≠ found) :
      ForeignKeyRowFault table key expected place row
        (.twoTargets key table known found)

/-- What a row of a foreign key stands for. -/
def foreignKeyPartOf (row : Row) : ForeignKeyPart where
  column := (row.get? 0).getD ""
  targetTable := (row.get? 2).getD ""
  targetColumn := (row.get? 3).getD ""

variable {expected : Option String} {place : Nat} {row : Row}

/-- A row may refer to any table as long as none is expected, and to the
expected one from then on. -/
theorem expectSameTarget_eq_ok_iff {found : String} {value : Unit} :
    foreignKeyParts.expectSameTarget table key expected found = .ok value ↔
      ∀ known ∈ expected, known = found := by
  cases expected with
  | none => simp [foreignKeyParts.expectSameTarget]
  | some known => simp [foreignKeyParts.expectSameTarget]

theorem expectSameTarget_eq_error_iff {found : String} {failure : Error} :
    foreignKeyParts.expectSameTarget table key expected found =
        .error failure ↔
      ∃ known,
        expected = some known ∧ known ≠ found ∧
          failure = .inconsistent (.twoTargets key table known found) := by
  cases expected with
  | none => simp [foreignKeyParts.expectSameTarget]
  | some known =>
      by_cases same : known = found
      · simp [foreignKeyParts.expectSameTarget, same]
      · simp only [foreignKeyParts.expectSameTarget, if_neg same,
          Except.error.injEq, Option.some.injEq, exists_eq_left']
        exact ⟨fun equal => ⟨same, equal.symm⟩, fun other => other.2.symm⟩

/-- A table is the expected one if it is expected as soon as nothing else
is. -/
theorem expectSameTarget_or (expected : Option String) (found : String) :
    foreignKeyParts.expectSameTarget table key (expected.or (some found))
        found =
      foreignKeyParts.expectSameTarget table key expected found := by
  cases expected with
  | none => simp [foreignKeyParts.expectSameTarget]
  | some known => rfl

/-- A row is read exactly if it is sound for some table, which is the expected
one if there is such. -/
theorem readForeignKeyRow_eq_ok_iff {part : ForeignKeyPart} :
    readForeignKeyRow table key expected row place = .ok part ↔
      (∃ target,
        IsForeignKeyRow target place row ∧
          ∀ known ∈ expected, known = target) ∧
        part = foreignKeyPartOf row := by
  simp only [readForeignKeyRow, Result.bind_eq_ok_iff, Row.number_eq_ok_iff,
    Row.text_eq_ok_iff, expectNextOrdinal_eq_ok_iff,
    expectSameTarget_eq_ok_iff]
  constructor
  · rintro ⟨column, named, _, ordinal, target, refers, targetColumn, leads, _,
      rfl, _, same, ⟨⟩⟩
    refine ⟨⟨target, ?_, same⟩, ?_⟩
    · exact ⟨by rw [named]; rfl, ordinal, refers, by rw [leads]; rfl⟩
    · simp [foreignKeyPartOf, named, refers, leads]
  · rintro ⟨⟨target, sound, same⟩, rfl⟩
    obtain ⟨column, named⟩ := Option.isSome_iff_exists.1 sound.column
    obtain ⟨targetColumn, leads⟩ :=
      Option.isSome_iff_exists.1 sound.targetColumn
    refine ⟨column, named, _, sound.ordinal, target, sound.target,
      targetColumn, leads, (), rfl, (), same, ?_⟩
    rw [foreignKeyPartOf, named, sound.target, leads]
    rfl

/-- A row is refused for the first of its values that breaks a rule.  Values are
looked at from left to right, then the order and the table are checked. -/
theorem readForeignKeyRow_eq_error_iff {failure : Error} :
    readForeignKeyRow table key expected row place = .error failure ↔
      ∃ cause,
        ForeignKeyRowFault table key expected place row cause ∧
          failure = .inconsistent cause := by
  simp only [readForeignKeyRow, Result.bind_eq_error_iff,
    Row.number_eq_error_iff, Row.number_eq_ok_iff, Row.text_eq_error_iff,
    Row.text_eq_ok_iff, expectNextOrdinal_eq_error_iff,
    expectNextOrdinal_eq_ok_iff, expectSameTarget_eq_error_iff]
  constructor
  · rintro (⟨null, rfl⟩ | ⟨_, column, later⟩)
    · exact ⟨_, .column null, rfl⟩
    have named : (row.get? 0).isSome := by rw [column]; rfl
    rcases later with ⟨cause, lacks, rfl⟩ | ⟨_, ordinal, later⟩
    · exact ⟨cause, .ordinal named lacks, rfl⟩
    have numbered : (row.number? 1).isSome := by rw [ordinal]; rfl
    rcases later with ⟨null, rfl⟩ | ⟨found, target, later⟩
    · exact ⟨_, .target named numbered null, rfl⟩
    have refers : (row.get? 2).isSome := by rw [target]; rfl
    rcases later with ⟨null, rfl⟩ | ⟨_, targetColumn, later⟩
    · exact ⟨_, .targetColumn named numbered refers null, rfl⟩
    have leads : (row.get? 3).isSome := by rw [targetColumn]; rfl
    rcases later with ⟨differs, rfl⟩ | ⟨_, rfl, later⟩
    · exact ⟨_, .order named refers leads ordinal differs, rfl⟩
    rcases later with ⟨known, expects, differs, rfl⟩ | ⟨_, _, ⟨⟩⟩
    exact ⟨_, .otherTarget named ordinal leads expects target differs, rfl⟩
  · rintro ⟨_, fault, rfl⟩
    cases fault with
    | column null => exact .inl ⟨null, rfl⟩
    | ordinal column lacks =>
        obtain ⟨_, named⟩ := Option.isSome_iff_exists.1 column
        exact .inr ⟨_, named, .inl ⟨_, lacks, rfl⟩⟩
    | target column ordinal null =>
        obtain ⟨_, named⟩ := Option.isSome_iff_exists.1 column
        obtain ⟨_, numbered⟩ := Option.isSome_iff_exists.1 ordinal
        exact .inr ⟨_, named, .inr ⟨_, numbered, .inl ⟨null, rfl⟩⟩⟩
    | targetColumn column ordinal target null =>
        obtain ⟨_, named⟩ := Option.isSome_iff_exists.1 column
        obtain ⟨_, numbered⟩ := Option.isSome_iff_exists.1 ordinal
        obtain ⟨_, refers⟩ := Option.isSome_iff_exists.1 target
        exact .inr ⟨_, named, .inr ⟨_, numbered, .inr ⟨_, refers,
          .inl ⟨null, rfl⟩⟩⟩⟩
    | order column target targetColumn numbered differs =>
        obtain ⟨_, named⟩ := Option.isSome_iff_exists.1 column
        obtain ⟨_, refers⟩ := Option.isSome_iff_exists.1 target
        obtain ⟨_, leads⟩ := Option.isSome_iff_exists.1 targetColumn
        exact .inr ⟨_, named, .inr ⟨_, numbered, .inr ⟨_, refers,
          .inr ⟨_, leads, .inl ⟨differs, rfl⟩⟩⟩⟩⟩
    | otherTarget column ordinal targetColumn known_eq found_eq differs =>
        obtain ⟨_, named⟩ := Option.isSome_iff_exists.1 column
        obtain ⟨_, leads⟩ := Option.isSome_iff_exists.1 targetColumn
        exact .inr ⟨_, named, .inr ⟨_, ordinal, .inr ⟨_, found_eq,
          .inr ⟨_, leads, .inr ⟨(), rfl,
            .inl ⟨_, known_eq, differs, rfl⟩⟩⟩⟩⟩⟩

/-! ## All rows -/

/-- The table that the first of some rows refers to. -/
def leadingTarget (rows : List Row) : Option String :=
  rows.head?.bind (·.get? 2)

/-- The rows of a foreign key expect the table that is known, or else the one
that the first of them refers to. -/
theorem foreignKeyParts_eq_mapM
    (previous : Nat)
    (expected : Option String)
    (rows : List Row) :
    foreignKeyParts table key previous expected rows =
      (rows.zipIdx previous).mapM fun (row, place) =>
        readForeignKeyRow table key (expected.or (leadingTarget rows)) row
          place := by
  induction rows generalizing previous expected with
  | nil => rfl
  | cons row rest inductionHypothesis =>
      rw [foreignKeyParts, List.zipIdx_cons, List.mapM_cons]
      simp only [readForeignKeyRow, bind_assoc, pure_bind]
      apply bind_congr
      intro column
      apply bind_congr
      intro ordinal
      apply Result.bind_congr_of_ok
      intro found refers
      have leads : leadingTarget (row :: rest) = some found :=
        Row.text_eq_ok_iff.1 refers
      apply bind_congr
      intro targetColumn
      apply Result.bind_congr_of_ok
      intro _ checked
      -- The ordinal that the loop goes on with is the next place.
      rw [expectNextOrdinal_eq_ok_iff.1 checked, leads, expectSameTarget_or]
      apply Result.bind_congr_of_ok
      intro _ same
      -- Behind the check the rest of the rows expects the table of this one.
      have expects : expected.or (some found) = some found := by
        cases expected with
        | none => rfl
        | some known => rw [expectSameTarget_eq_ok_iff.1 same known rfl]; rfl
      rw [inductionHypothesis, expects, Option.some_or]
      rfl

/-- Rows refer to the table that the first one refers to if they refer to one
table. -/
theorem forall_isForeignKeyRow_iff {rows : List Row} :
    (∀ place row, rows[place]? = some row →
      ∃ target,
        IsForeignKeyRow target place row ∧
          ∀ known ∈ leadingTarget rows, known = target) ↔
      ∃ target, ∀ place row, rows[place]? = some row →
        IsForeignKeyRow target place row := by
  constructor
  · intro each
    refine ⟨(leadingTarget rows).getD "", ?_⟩
    intro place row present
    have nonempty := List.ne_nil_of_mem (List.mem_of_getElem? present)
    obtain ⟨first, others, rfl⟩ := List.exists_cons_of_ne_nil nonempty
    obtain ⟨_, leads, -⟩ := each 0 first rfl
    have leading : leadingTarget (first :: others) = _ := leads.target
    obtain ⟨target, sound, same⟩ := each place row present
    rw [leading, Option.getD_some, same _ leading]
    exact sound
  · rintro ⟨target, each⟩ place row present
    refine ⟨target, each place row present, ?_⟩
    intro known leading
    obtain ⟨first, leads, refers⟩ := Option.bind_eq_some_iff.1 leading
    rw [List.head?_eq_getElem?] at leads
    exact Option.some.inj (refers.symm.trans (each 0 first leads).target)

/-- All rows are read exactly if they are sound for one and the same table. -/
theorem foreignKeyParts_eq_ok_iff
    {rows : List Row}
    {parts : List ForeignKeyPart} :
    foreignKeyParts table key 0 none rows = .ok parts ↔
      (∃ target, ∀ place row, rows[place]? = some row →
        IsForeignKeyRow target place row) ∧
        parts = rows.map foreignKeyPartOf := by
  rw [foreignKeyParts_eq_mapM, ← forall_isForeignKeyRow_iff]
  exact Result.mapM_zipIdx_eq_ok_iff fun _ _ _ => readForeignKeyRow_eq_ok_iff

/-- Rows that come later have no say in the table that is expected. -/
theorem leadingTarget_append
    {before : List Row}
    (nonempty : before ≠ [])
    (behind : List Row) :
    leadingTarget (before ++ behind) = leadingTarget before := by
  rw [leadingTarget, List.head?_append_of_ne_nil _ nonempty]
  rfl

/-- A first row is read as if no table was expected. -/
theorem readForeignKeyRow_append
    (before : List Row)
    (row : Row)
    (after : List Row)
    (place : Nat) :
    readForeignKeyRow table key (leadingTarget (before ++ row :: after)) row
        place =
      readForeignKeyRow table key (leadingTarget before) row place := by
  cases before with
  | nil =>
      -- The table that is expected is the row's own one, if it has one.
      unfold readForeignKeyRow
      apply bind_congr
      intro column
      apply bind_congr
      intro ordinal
      apply Result.bind_congr_of_ok
      intro found refers
      have leads : leadingTarget (row :: after) = some found :=
        Row.text_eq_ok_iff.1 refers
      have alone :
          foreignKeyParts.expectSameTarget table key (some found) found =
            foreignKeyParts.expectSameTarget table key none found :=
        expectSameTarget_or none found
      rw [List.nil_append, leads]
      simp only [alone]
      rfl
  | cons first others => rfl

/-- The rows are refused for the first one at fault.  Those before it are sound
for one table, which this one is held against. -/
theorem foreignKeyParts_eq_error_iff
    {rows : List Row}
    {failure : Error} :
    foreignKeyParts table key 0 none rows = .error failure ↔
      ∃ before row after cause,
        rows = before ++ row :: after ∧
          (∃ target, ∀ place other, before[place]? = some other →
            IsForeignKeyRow target place other) ∧
          ForeignKeyRowFault table key (leadingTarget before) before.length row
            cause ∧
          failure = .inconsistent cause := by
  simp only [foreignKeyParts_eq_mapM, Result.mapM_zipIdx_eq_error_iff,
    Option.none_or, ← forall_isForeignKeyRow_iff]
  constructor
  · rintro ⟨before, row, after, rfl, succeeded, failed⟩
    rw [readForeignKeyRow_append] at failed
    obtain ⟨cause, fault, rfl⟩ := readForeignKeyRow_eq_error_iff.1 failed
    refine ⟨before, row, after, cause, rfl, ?_, fault, rfl⟩
    intro place other present
    have nonempty := List.ne_nil_of_mem (List.mem_of_getElem? present)
    obtain ⟨_, read⟩ := succeeded place other present
    rw [leadingTarget_append nonempty] at read
    exact (readForeignKeyRow_eq_ok_iff.1 read).1
  · rintro ⟨before, row, after, cause, rfl, sound, fault, rfl⟩
    refine ⟨before, row, after, rfl, ?_, ?_⟩
    · intro place other present
      have nonempty := List.ne_nil_of_mem (List.mem_of_getElem? present)
      rw [leadingTarget_append nonempty]
      exact ⟨_, readForeignKeyRow_eq_ok_iff.2
        ⟨sound place other present, rfl⟩⟩
    · rw [readForeignKeyRow_append]
      exact readForeignKeyRow_eq_error_iff.2 ⟨cause, fault, rfl⟩

/-! ## Ordinals of 32 bits -/

/-- `foreignKeyParts` with ordinals of 32 bits. -/
def foreignKeyPartsInWords
    (table key : String)
    (previous : Nat)
    (expected : Option String) :
    List Row → ExceptT Error Option (List ForeignKeyPart)
  | [] => pure []
  | row :: rest => do
    let column ← row.text 0 "COLUMN_NAME"
    let ordinal ← row.number 1 "ORDINAL_POSITION"
    let targetTable ← row.text 2 "REFERENCED_TABLE_NAME"
    let targetColumn ← row.text 3 "REFERENCED_COLUMN_NAME"
    expectNextWord previous ordinal "ORDINAL_POSITION"
    foreignKeyParts.expectSameTarget table key expected targetTable
    let parts ←
      foreignKeyPartsInWords table key ordinal (some targetTable) rest
    pure ({ column, targetTable, targetColumn } :: parts)

/-- No sum overflows as long as the rows are not more than the ordinals. -/
theorem run_foreignKeyPartsInWords
    {previous : Nat}
    {rows : List Row}
    (fits : previous + rows.length < Text.valueCount 32) :
    (foreignKeyPartsInWords table key previous expected rows).run =
      some (foreignKeyParts table key previous expected rows) := by
  induction rows generalizing previous expected with
  | nil => rfl
  | cons row rest inductionHypothesis =>
      rw [List.length_cons] at fits
      have sumFits : previous + 1 < Text.valueCount 32 := by omega
      apply Result.run_bind_eq_some rfl
      intro column _
      apply Result.run_bind_eq_some rfl
      intro ordinal _
      apply Result.run_bind_eq_some rfl
      intro targetTable _
      apply Result.run_bind_eq_some rfl
      intro targetColumn _
      rw [expectNextWord, if_pos sumFits]
      apply Result.run_bind_eq_some rfl
      intro _ checked
      obtain rfl := expectNextOrdinal_eq_ok_iff.1 checked
      apply Result.run_bind_eq_some rfl
      intro _ _
      apply Result.run_bind_eq_some (inductionHypothesis (by omega))
      intro parts _
      rfl

/-! ## Whole foreign keys -/

/-- What becomes of the rows of a foreign key. -/
structure ReadsForeignKey
    (table name : String)
    (rows : List Row)
    (result : Except Error ForeignKeyDefinition) :
    Prop where
  /-- A foreign key is read if there are rows and each one is sound at its
  place, for one and the same table that they refer to. -/
  ok_iff :
    (∃ definition, result = .ok definition) ↔
      rows ≠ [] ∧
        ∃ target, ∀ place row, rows[place]? = some row →
          IsForeignKeyRow target place row
  /-- The columns of the key are those of all its rows. -/
  columns_eq
      {definition : ForeignKeyDefinition}
      (read : result = .ok definition) :
    definition.columns.map some = rows.map (·.get? 0)
  target_eq
      {definition : ForeignKeyDefinition}
      (read : result = .ok definition)
      {row : Row}
      (member : row ∈ rows) :
    row.get? 2 = some definition.targetTable
  /-- The columns that the key refers to are those of all its rows. -/
  targetColumns_eq
      {definition : ForeignKeyDefinition}
      (read : result = .ok definition) :
    definition.targetColumns.map some = rows.map (·.get? 3)
  missing (empty : rows = []) :
    result = .error (.foreignKeyNotFound table name)
  /-- The first row that is not sound is refused. -/
  error_iff (nonempty : rows ≠ []) {failure : Error} :
    result = .error failure ↔
      ∃ before row after cause,
        rows = before ++ row :: after ∧
          (∃ target, ∀ place other, before[place]? = some other →
            IsForeignKeyRow target place other) ∧
          ForeignKeyRowFault table name (leadingTarget before) before.length
            row cause ∧
          failure = .inconsistent cause
  /-- The rows are read in the same way if ordinals have 32 bits, and then no
  sum of an ordinal overflows. -/
  words_eq :
    (foreignKeyPartsInWords table name 0 none rows).run =
      some (foreignKeyParts table name 0 none rows)

/-- A foreign key is read exactly if there is a row, and all rows are sound for
one table. -/
theorem foreignKeyOfRows_eq_ok_iff
    {rows : List Row}
    {definition : ForeignKeyDefinition} :
    foreignKeyOfRows table key rows = .ok definition ↔
      (∃ target, ∀ place row, rows[place]? = some row →
        IsForeignKeyRow target place row) ∧
        ∃ first,
          rows.head? = some first ∧
            definition =
              { columns := rows.map fun row => (foreignKeyPartOf row).column
                targetTable := (foreignKeyPartOf first).targetTable
                targetColumns :=
                  rows.map fun row => (foreignKeyPartOf row).targetColumn } := by
  simp only [foreignKeyOfRows, Result.bind_eq_ok_iff, foreignKeyParts_eq_ok_iff]
  constructor
  · rintro ⟨_, ⟨sound, rfl⟩, built⟩
    rw [List.head?_map] at built
    cases found : rows.head? with
    | none => simp [found] at built
    | some first =>
        rw [found] at built
        cases built
        exact ⟨sound, first, rfl, by simp only [List.map_map]; rfl⟩
  · rintro ⟨sound, first, found, rfl⟩
    refine ⟨_, ⟨sound, rfl⟩, ?_⟩
    simp only [List.head?_map, found, List.map_map]
    rfl

/-- Once there is a row, only the rows can be at fault. -/
theorem foreignKeyOfRows_eq_error_iff
    {rows : List Row}
    (nonempty : rows ≠ [])
    {failure : Error} :
    foreignKeyOfRows table key rows = .error failure ↔
      foreignKeyParts table key 0 none rows = .error failure := by
  rw [foreignKeyOfRows, Result.bind_eq_error_iff, or_iff_left]
  rintro ⟨_, read, missing⟩
  obtain ⟨-, rfl⟩ := foreignKeyParts_eq_ok_iff.1 read
  rw [List.head?_map, List.head?_eq_some_head nonempty] at missing
  cases missing

/-- Rows that are few enough to be numbered in 32 bits are read as the rules for
foreign keys say. -/
theorem readsForeignKey_foreignKeyOfRows
    (table name : String)
    {rows : List Row}
    (few : rows.length < Text.valueCount 32) :
    ReadsForeignKey table name rows (foreignKeyOfRows table name rows) where
  ok_iff := by
    simp only [foreignKeyOfRows_eq_ok_iff]
    constructor
    · rintro ⟨_, sound, first, found, -⟩
      refine ⟨?_, sound⟩
      rintro rfl
      cases found
    · rintro ⟨nonempty, sound⟩
      exact ⟨_, sound, _, List.head?_eq_some_head nonempty, rfl⟩
  columns_eq read := by
    obtain ⟨⟨_, sound⟩, _, -, rfl⟩ := foreignKeyOfRows_eq_ok_iff.1 read
    apply Row.map_some_get?
    intro row member
    obtain ⟨place, present⟩ := List.mem_iff_getElem?.1 member
    exact (sound place row present).column
  target_eq read row member := by
    obtain ⟨⟨target, sound⟩, first, leads, rfl⟩ :=
      foreignKeyOfRows_eq_ok_iff.1 read
    rw [List.head?_eq_getElem?] at leads
    obtain ⟨place, present⟩ := List.mem_iff_getElem?.1 member
    rw [(sound place row present).target, foreignKeyPartOf,
      (sound 0 first leads).target]
    rfl
  targetColumns_eq read := by
    obtain ⟨⟨_, sound⟩, _, -, rfl⟩ := foreignKeyOfRows_eq_ok_iff.1 read
    apply Row.map_some_get?
    intro row member
    obtain ⟨place, present⟩ := List.mem_iff_getElem?.1 member
    exact (sound place row present).targetColumn
  missing empty := by
    rw [empty]
    rfl
  error_iff nonempty :=
    (foreignKeyOfRows_eq_error_iff nonempty).trans foreignKeyParts_eq_error_iff
  words_eq := run_foreignKeyPartsInWords (by rw [Nat.zero_add]; exact few)

end MySql
end Catalog
end TypedSql
