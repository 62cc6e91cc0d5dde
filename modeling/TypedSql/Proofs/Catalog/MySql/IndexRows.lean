import TypedSql.Proofs.Catalog.MySql.RoundTrips
import TypedSql.Proofs.Catalog.Row
import TypedSql.Proofs.Catalog.Soundness

/-!
# Rows of an index

An index is read from its rows exactly if there are some and each of them is
sound at its place: it has a flag and a column, and its ordinal is the place
counted from one.  Otherwise the first row that is not sound decides the
error, and in it the first value that breaks a rule.

The ordinal that the loop carries is the number of rows behind it.  So each
step knows its place without the others, and the next ordinal stays among the
numbers of the catalog as long as the rows are not more than these.
-/

namespace TypedSql
namespace Catalog
namespace MySql

/-! ## One row -/

/-- One row of an index, of which `place` rows have been read before. -/
def readIndexRow (row : Row) (place : Nat) : Except Error IndexPart := do
  let nonUnique ← row.number 0 "NON_UNIQUE"
  let column ← row.text 1 "COLUMN_NAME"
  let ordinal ← row.number 2 "SEQ_IN_INDEX"
  expectNextOrdinal place ordinal "SEQ_IN_INDEX"
  pure { column, allowsRepeats := nonUnique ≠ 0 }

/-- A row that the catalog may have at a place of an index. -/
structure IsIndexRow (place : Nat) (row : Row) : Prop where
  flag : (row.number? 0).isSome
  column : (row.get? 1).isSome
  ordinal : row.number? 2 = some (place + 1)

/-- The first value that breaks a rule in a row at a place of an index. -/
inductive IndexRowFault (place : Nat) (row : Row) : Inconsistency → Prop where
  | flag
      {cause : Inconsistency}
      (lacks : row.LacksNumber 0 "NON_UNIQUE" cause) :
      IndexRowFault place row cause
  | column
      (flag : (row.number? 0).isSome)
      (null : row.get? 1 = none) :
      IndexRowFault place row (.unexpectedNull "COLUMN_NAME")
  | ordinal
      (flag : (row.number? 0).isSome)
      (column : (row.get? 1).isSome)
      {cause : Inconsistency}
      (lacks : row.LacksNumber 2 "SEQ_IN_INDEX" cause) :
      IndexRowFault place row cause
  | order
      (flag : (row.number? 0).isSome)
      (column : (row.get? 1).isSome)
      {current : Nat}
      (numbered : row.number? 2 = some current)
      (differs : current ≠ place + 1) :
      IndexRowFault place row (.badOrdinal "SEQ_IN_INDEX" place current)

/-- What a row of an index stands for. -/
def indexPartOf (row : Row) : IndexPart where
  column := (row.get? 1).getD ""
  allowsRepeats := (row.number? 0).getD 0 ≠ 0

variable {place : Nat} {row : Row}

/-- A row is read exactly if it is sound at its place. -/
theorem readIndexRow_eq_ok_iff {part : IndexPart} :
    readIndexRow row place = .ok part ↔
      IsIndexRow place row ∧ part = indexPartOf row := by
  simp only [readIndexRow, Result.bind_eq_ok_iff, Row.number_eq_ok_iff,
    Row.text_eq_ok_iff, expectNextOrdinal_eq_ok_iff]
  constructor
  · rintro ⟨nonUnique, flag, column, named, _, ordinal, _, rfl, ⟨⟩⟩
    refine ⟨⟨by rw [flag]; rfl, by rw [named]; rfl, ordinal⟩, ?_⟩
    rw [indexPartOf, flag, named]
    rfl
  · rintro ⟨sound, rfl⟩
    obtain ⟨nonUnique, flag⟩ := Option.isSome_iff_exists.1 sound.flag
    obtain ⟨column, named⟩ := Option.isSome_iff_exists.1 sound.column
    refine ⟨nonUnique, flag, column, named, _, sound.ordinal, (), rfl, ?_⟩
    rw [indexPartOf, flag, named]
    rfl

/-- A row is refused for the first of its values that breaks a rule. -/
theorem readIndexRow_eq_error_iff {failure : Error} :
    readIndexRow row place = .error failure ↔
      ∃ cause,
        IndexRowFault place row cause ∧ failure = .inconsistent cause := by
  simp only [readIndexRow, Result.bind_eq_error_iff, Row.number_eq_error_iff,
    Row.number_eq_ok_iff, Row.text_eq_error_iff, Row.text_eq_ok_iff,
    expectNextOrdinal_eq_error_iff]
  constructor
  · rintro (⟨cause, lacks, rfl⟩ | ⟨_, flag, later⟩)
    · exact ⟨cause, .flag lacks, rfl⟩
    have flagged : (row.number? 0).isSome := by rw [flag]; rfl
    rcases later with ⟨null, rfl⟩ | ⟨_, column, later⟩
    · exact ⟨_, .column flagged null, rfl⟩
    have named : (row.get? 1).isSome := by rw [column]; rfl
    rcases later with ⟨cause, lacks, rfl⟩ | ⟨_, ordinal, later⟩
    · exact ⟨cause, .ordinal flagged named lacks, rfl⟩
    rcases later with ⟨differs, rfl⟩ | ⟨_, _, ⟨⟩⟩
    exact ⟨_, .order flagged named ordinal differs, rfl⟩
  · rintro ⟨_, fault, rfl⟩
    cases fault with
    | flag lacks => exact .inl ⟨_, lacks, rfl⟩
    | column flag null =>
        obtain ⟨nonUnique, flagged⟩ := Option.isSome_iff_exists.1 flag
        exact .inr ⟨nonUnique, flagged, .inl ⟨null, rfl⟩⟩
    | ordinal flag column lacks =>
        obtain ⟨nonUnique, flagged⟩ := Option.isSome_iff_exists.1 flag
        obtain ⟨name, named⟩ := Option.isSome_iff_exists.1 column
        exact .inr ⟨nonUnique, flagged,
          .inr ⟨name, named, .inl ⟨_, lacks, rfl⟩⟩⟩
    | order flag column numbered differs =>
        obtain ⟨nonUnique, flagged⟩ := Option.isSome_iff_exists.1 flag
        obtain ⟨name, named⟩ := Option.isSome_iff_exists.1 column
        exact .inr ⟨nonUnique, flagged,
          .inr ⟨name, named, .inr ⟨_, numbered, .inl ⟨differs, rfl⟩⟩⟩⟩

/-! ## All rows -/

/-- Behind the check of a row, its ordinal is the number of rows so far. -/
theorem indexParts_eq_mapM (previous : Nat) (rows : List Row) :
    indexParts previous rows =
      (rows.zipIdx previous).mapM fun (row, place) =>
        readIndexRow row place := by
  induction rows generalizing previous with
  | nil => rfl
  | cons row rest inductionHypothesis =>
      rw [indexParts, List.zipIdx_cons, List.mapM_cons,
        ← inductionHypothesis (previous + 1)]
      simp only [readIndexRow, bind_assoc, pure_bind]
      apply bind_congr
      intro nonUnique
      apply bind_congr
      intro column
      apply bind_congr
      intro ordinal
      apply Result.bind_congr_of_ok
      intro _ checked
      -- The ordinal that the loop goes on with is the next place.
      rw [expectNextOrdinal_eq_ok_iff.1 checked]

/-- All rows are read exactly if each is sound at its place. -/
theorem indexParts_eq_ok_iff {rows : List Row} {parts : List IndexPart} :
    indexParts 0 rows = .ok parts ↔
      (∀ place row, rows[place]? = some row → IsIndexRow place row) ∧
        parts = rows.map indexPartOf := by
  rw [indexParts_eq_mapM]
  exact Result.mapM_zipIdx_eq_ok_iff fun _ _ _ => readIndexRow_eq_ok_iff

/-- The rows are refused for the first one that is not sound at its place. -/
theorem indexParts_eq_error_iff {rows : List Row} {failure : Error} :
    indexParts 0 rows = .error failure ↔
      ∃ before row after cause,
        rows = before ++ row :: after ∧
          (∀ place other, before[place]? = some other →
            IsIndexRow place other) ∧
          IndexRowFault before.length row cause ∧
          failure = .inconsistent cause := by
  simp only [indexParts_eq_mapM, Result.mapM_zipIdx_eq_error_iff,
    readIndexRow_eq_ok_iff, readIndexRow_eq_error_iff, exists_and_left,
    exists_eq, and_true]

/-! ## Ordinals of 32 bits -/

/-- `indexParts` with ordinals of 32 bits. -/
def indexPartsInWords (previous : Nat) :
    List Row → ExceptT Error Option (List IndexPart)
  | [] => pure []
  | row :: rest => do
    let nonUnique ← row.number 0 "NON_UNIQUE"
    let column ← row.text 1 "COLUMN_NAME"
    let ordinal ← row.number 2 "SEQ_IN_INDEX"
    expectNextWord previous ordinal "SEQ_IN_INDEX"
    let parts ← indexPartsInWords ordinal rest
    pure ({ column, allowsRepeats := nonUnique ≠ 0 } :: parts)

/-- No sum overflows as long as the rows are not more than the ordinals. -/
theorem run_indexPartsInWords
    {previous : Nat}
    {rows : List Row}
    (fits : previous + rows.length < Text.valueCount 32) :
    (indexPartsInWords previous rows).run =
      some (indexParts previous rows) := by
  induction rows generalizing previous with
  | nil => rfl
  | cons row rest inductionHypothesis =>
      rw [List.length_cons] at fits
      have sumFits : previous + 1 < Text.valueCount 32 := by omega
      apply Result.run_bind_eq_some rfl
      intro nonUnique _
      apply Result.run_bind_eq_some rfl
      intro column _
      apply Result.run_bind_eq_some rfl
      intro ordinal _
      rw [expectNextWord, if_pos sumFits]
      apply Result.run_bind_eq_some rfl
      intro _ checked
      obtain rfl := expectNextOrdinal_eq_ok_iff.1 checked
      apply Result.run_bind_eq_some (inductionHypothesis (by omega))
      intro parts _
      rfl

/-! ## Whole indexes -/

/-- What becomes of the rows of an index. -/
structure ReadsIndex
    (table name : String)
    (rows : List Row)
    (result : Except Error IndexDefinition) :
    Prop where
  /-- An index is read if there are rows and each one is sound at its place. -/
  ok_iff :
    (∃ definition, result = .ok definition) ↔
      rows ≠ [] ∧ ∀ place row, rows[place]? = some row → IsIndexRow place row
  /-- The columns of the index are those of all its rows. -/
  columns_eq
      {definition : IndexDefinition}
      (read : result = .ok definition) :
    definition.columns.map some = rows.map (·.get? 1)
  isPrimary_iff
      {definition : IndexDefinition}
      (read : result = .ok definition) :
    definition.isPrimary = true ↔ name = "PRIMARY"
  missing (empty : rows = []) : result = .error (.indexNotFound table name)
  /-- The first row that is not sound is refused. -/
  error_iff (nonempty : rows ≠ []) {failure : Error} :
    result = .error failure ↔
      ∃ before row after cause,
        rows = before ++ row :: after ∧
          (∀ place other, before[place]? = some other →
            IsIndexRow place other) ∧
          IndexRowFault before.length row cause ∧
          failure = .inconsistent cause
  /-- The rows are read in the same way if ordinals have 32 bits, and then no
  sum of an ordinal overflows. -/
  words_eq : (indexPartsInWords 0 rows).run = some (indexParts 0 rows)

/-- An index is read exactly if there is a row and all rows are sound.  Its
columns are those of all rows, its uniqueness is that of the last one. -/
theorem indexOfRows_eq_ok_iff
    {table name : String}
    {rows : List Row}
    {definition : IndexDefinition} :
    indexOfRows table name rows = .ok definition ↔
      (∀ place row, rows[place]? = some row → IsIndexRow place row) ∧
        ∃ last,
          rows.getLast? = some last ∧
            definition =
              { columns := rows.map fun row => (indexPartOf row).column
                isPrimary := name == primaryIndexName
                isUnique := !(indexPartOf last).allowsRepeats } := by
  simp only [indexOfRows, Result.bind_eq_ok_iff, indexParts_eq_ok_iff]
  constructor
  · rintro ⟨_, ⟨sound, rfl⟩, built⟩
    rw [List.getLast?_map] at built
    cases found : rows.getLast? with
    | none => simp [found] at built
    | some last =>
        rw [found] at built
        cases built
        exact ⟨sound, last, rfl, by rw [List.map_map]; rfl⟩
  · rintro ⟨sound, last, found, rfl⟩
    refine ⟨_, ⟨sound, rfl⟩, ?_⟩
    rw [List.getLast?_map, found, List.map_map]
    rfl

/-- Once there is a row, only the rows can be at fault. -/
theorem indexOfRows_eq_error_iff
    {table name : String}
    {rows : List Row}
    (nonempty : rows ≠ [])
    {failure : Error} :
    indexOfRows table name rows = .error failure ↔
      indexParts 0 rows = .error failure := by
  rw [indexOfRows, Result.bind_eq_error_iff, or_iff_left]
  rintro ⟨_, read, missing⟩
  obtain ⟨-, rfl⟩ := indexParts_eq_ok_iff.1 read
  rw [List.getLast?_map, List.getLast?_eq_some_getLast nonempty] at missing
  cases missing

/-- Rows that are few enough to be numbered in 32 bits are read as the rules for
indexes say. -/
theorem readsIndex_indexOfRows
    (table name : String)
    {rows : List Row}
    (few : rows.length < Text.valueCount 32) :
    ReadsIndex table name rows (indexOfRows table name rows) where
  ok_iff := by
    simp only [indexOfRows_eq_ok_iff]
    constructor
    · rintro ⟨_, sound, last, found, -⟩
      refine ⟨?_, sound⟩
      rintro rfl
      cases found
    · rintro ⟨nonempty, sound⟩
      exact ⟨_, sound, _, List.getLast?_eq_some_getLast nonempty, rfl⟩
  columns_eq read := by
    obtain ⟨sound, _, -, rfl⟩ := indexOfRows_eq_ok_iff.1 read
    apply Row.map_some_get?
    intro row member
    obtain ⟨place, present⟩ := List.mem_iff_getElem?.1 member
    exact (sound place row present).column
  isPrimary_iff read := by
    obtain ⟨-, _, -, rfl⟩ := indexOfRows_eq_ok_iff.1 read
    exact beq_iff_eq
  missing empty := by
    rw [empty]
    rfl
  error_iff nonempty :=
    (indexOfRows_eq_error_iff nonempty).trans indexParts_eq_error_iff
  words_eq := run_indexPartsInWords (by rw [Nat.zero_add]; exact few)

variable {σ : Type}

/-- An index is read exactly if the rows that answer the query for it carry
contiguous ordinals. -/
theorem readsIndex_of_answered
    {dialect : Dialect}
    {connection : Connection σ}
    {state : σ}
    {table name : String}
    {params : List String}
    {rows : List Row}
    (answered :
      .fetched indexQuery params (.ok rows) ∈
        ((driver dialect).index table name).run.exchanges connection state)
    (few : rows.length < Text.valueCount 32) :
    ReadsIndex table name rows
      (((driver dialect).index table name).run.run connection state).1 := by
  have differs : indexQuery ≠ currentDatabaseQuery :=
    Topic.query_injective.ne (nofun : Topic.index ≠ .currentDatabase)
  have read := run_ask_of_answered differs answered
  rw [driver, read]
  exact readsIndex_indexOfRows table name few

/-! ## An index of two columns -/

/-- The rows of a unique index of the employees. -/
def leadersRows : List Row :=
  [.ofTexts ["0", "lead", "1"], .ofTexts ["0", "id", "2"]]

/-- The results of the queries for this index. -/
def leadersResults : List (List (List String)) :=
  [[["company"]], [["0", "lead", "1"], ["0", "id", "2"]]]

/-- An index of two columns is read from its two rows. -/
theorem readsIndex_leaders :
    .fetched indexQuery ["company", "staff", "leaders"] (.ok leadersRows) ∈
        ((driver .mySql).index "staff" "leaders").run.exchanges
          staffConnection leadersResults ∧
      leadersRows.length < Text.valueCount 32 ∧
        ReadsIndex "staff" "leaders" leadersRows
          (((driver .mySql).index "staff" "leaders").run.run staffConnection
            leadersResults).1 :=
  have answered :
      .fetched indexQuery ["company", "staff", "leaders"] (.ok leadersRows) ∈
        ((driver .mySql).index "staff" "leaders").run.exchanges
          staffConnection leadersResults :=
    List.mem_cons_of_mem _ List.mem_cons_self
  have few : leadersRows.length < Text.valueCount 32 := by decide
  ⟨answered, few, readsIndex_of_answered answered few⟩

end MySql
end Catalog
end TypedSql
