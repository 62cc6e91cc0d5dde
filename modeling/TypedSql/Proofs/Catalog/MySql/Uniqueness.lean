import TypedSql.Proofs.Catalog.MySql.IndexRows

/-!
# Uniqueness of an index

Every row of an index tells whether the index allows repeated values.  The
rows are not compared with each other, and the last of them decides.  So the
index that is read agrees with all of its rows exactly if these agree with each
other; rows that do not are read all the same.
-/

namespace TypedSql
namespace Catalog
namespace MySql

/-- A row tells that its index does not allow repeated values. -/
def TellsUnique (row : Row) : Prop :=
  row.number? 0 = some 0

instance (row : Row) : Decidable (TellsUnique row) :=
  inferInstanceAs (Decidable (row.number? 0 = some 0))

/-- All rows tell the same about repeated values. -/
def AgreeOnUniqueness (rows : List Row) : Prop :=
  ∀ first ∈ rows, ∀ second ∈ rows, TellsUnique first ↔ TellsUnique second

/-- An index tells the same about repeated values as a row does. -/
def Reflects (definition : IndexDefinition) (row : Row) : Prop :=
  definition.isUnique = true ↔ TellsUnique row

/-- How the uniqueness of an index stands to the rows it was read from. -/
structure ReflectsLast
    (definition : IndexDefinition)
    (rows : List Row) :
    Prop where
  /-- The last row decides. -/
  last : ∃ last, rows.getLast? = some last ∧ Reflects definition last
  /-- The index agrees with every row exactly if the rows agree. -/
  all_iff : (∀ row ∈ rows, Reflects definition row) ↔ AgreeOnUniqueness rows

/-- A sound row tells that the index is unique if its first value is zero. -/
theorem not_allowsRepeats_indexPartOf_iff
    {place : Nat}
    {row : Row}
    (sound : IsIndexRow place row) :
    (!(indexPartOf row).allowsRepeats) = true ↔ TellsUnique row := by
  obtain ⟨nonUnique, flag⟩ := Option.isSome_iff_exists.1 sound.flag
  simp [indexPartOf, TellsUnique, flag]

/-- What agrees with one of the rows agrees with all of them as soon as the
rows agree. -/
theorem forall_reflects_iff
    {definition : IndexDefinition}
    {rows : List Row}
    {row : Row}
    (member : row ∈ rows)
    (reflects : Reflects definition row) :
    (∀ other ∈ rows, Reflects definition other) ↔ AgreeOnUniqueness rows := by
  constructor
  · intro all first firstMember second secondMember
    exact (all first firstMember).symm.trans (all second secondMember)
  · intro agree other otherMember
    exact reflects.trans (agree row member other otherMember)

/-- Each row overrides what the rows before it have told, so the last one
decides. -/
theorem reflectsLast_of_indexOfRows
    {table name : String}
    {rows : List Row}
    {definition : IndexDefinition}
    (read : indexOfRows table name rows = .ok definition) :
    ReflectsLast definition rows := by
  obtain ⟨sound, last, found, rfl⟩ := indexOfRows_eq_ok_iff.1 read
  have member : last ∈ rows := List.mem_of_getLast? found
  obtain ⟨place, present⟩ := List.mem_iff_getElem?.1 member
  have reflects := not_allowsRepeats_indexPartOf_iff (sound place last present)
  exact
    { last := ⟨last, found, reflects⟩
      all_iff := forall_reflects_iff member reflects }

variable {σ : Type}

/-- An index that was read is unique if the last row of the answer tells so,
and it agrees with all rows exactly if these agree with each other. -/
theorem reflectsLast_of_answered
    {dialect : Dialect}
    {connection : Connection σ}
    {state : σ}
    {table name : String}
    {params : List String}
    {rows : List Row}
    (answered :
      .fetched indexQuery params (.ok rows) ∈
        ((driver dialect).index table name).run.exchanges connection state)
    {definition : IndexDefinition}
    (read :
      (((driver dialect).index table name).run.run connection state).1 =
        .ok definition) :
    ReflectsLast definition rows := by
  have differs : indexQuery ≠ currentDatabaseQuery :=
    Topic.query_injective.ne (nofun : Topic.index ≠ .currentDatabase)
  apply reflectsLast_of_indexOfRows
  rw [← read, driver, run_ask_of_answered differs answered]

/-! ## Rows that disagree -/

/-- Rows of an index of the employees, of which only the last tells that it is
unique. -/
def disagreeingRows : List Row :=
  [.ofTexts ["1", "lead", "1"], .ofTexts ["0", "id", "2"]]

/-- The results of the queries for this index. -/
def disagreeingResults : List (List (List String)) :=
  [[["company"]], [["1", "lead", "1"], ["0", "id", "2"]]]

/-- The index that is read from them. -/
def disagreeingIndex : IndexDefinition where
  columns := ["lead", "id"]
  isPrimary := false
  isUnique := true

/-- Of two rows that disagree, the second one is believed. -/
theorem reflectsLast_disagreeing :
    .fetched indexQuery ["company", "staff", "leaders"] (.ok disagreeingRows) ∈
        ((driver .mySql).index "staff" "leaders").run.exchanges
          staffConnection disagreeingResults ∧
      (((driver .mySql).index "staff" "leaders").run.run staffConnection
          disagreeingResults).1 = .ok disagreeingIndex ∧
        ReflectsLast disagreeingIndex disagreeingRows :=
  have answered :
      .fetched indexQuery ["company", "staff", "leaders"]
          (.ok disagreeingRows) ∈
        ((driver .mySql).index "staff" "leaders").run.exchanges
          staffConnection disagreeingResults :=
    List.mem_cons_of_mem _ List.mem_cons_self
  have read :
      (((driver .mySql).index "staff" "leaders").run.run staffConnection
        disagreeingResults).1 = .ok disagreeingIndex := by
    decide +kernel
  ⟨answered, read, reflectsLast_of_answered answered read⟩

/-- Rows that disagree are read, as an index that contradicts one of them. -/
theorem exists_not_reflects :
    .fetched indexQuery ["company", "staff", "leaders"] (.ok disagreeingRows) ∈
        ((driver .mySql).index "staff" "leaders").run.exchanges
          staffConnection disagreeingResults ∧
      (((driver .mySql).index "staff" "leaders").run.run staffConnection
          disagreeingResults).1 = .ok disagreeingIndex ∧
        ∃ row ∈ disagreeingRows, ¬Reflects disagreeingIndex row := by
  refine ⟨List.mem_cons_of_mem _ List.mem_cons_self, by decide +kernel,
    _, List.mem_cons_self, ?_⟩
  unfold Reflects
  decide +kernel

end MySql
end Catalog
end TypedSql
