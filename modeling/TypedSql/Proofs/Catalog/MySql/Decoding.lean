import TypedSql.Proofs.Catalog.MySql.Description
import TypedSql.Proofs.Catalog.MySql.ForeignKeyRows
import TypedSql.Proofs.Catalog.MySql.IndexRows
import TypedSql.Proofs.Text

/-!
# Reading keys back from their rows

The rows that are written for an index or a foreign key are read as what they
were written for.  The one way to fail is an ordinal that the numbers of the
catalog cannot hold, so a key is read back exactly when it has fewer columns
than there are such numbers.
-/

namespace TypedSql
namespace Catalog

/-! ## Values of written rows -/

namespace Row

theorem get?_ofTexts (texts : List String) (place : Nat) :
    (ofTexts texts).get? place = texts[place]? := by
  rw [get?, ofTexts, List.getElem?_map]
  cases texts[place]? <;> rfl

theorem text_ofTexts
    {texts : List String}
    {place : Nat}
    {value : String}
    (there : texts[place]? = some value)
    (what : String) :
    (ofTexts texts).text place what = .ok value := by
  rw [text, get?_ofTexts, there]

/-- A written number is read back exactly if the catalog can hold it. -/
theorem number?_ofTexts
    {texts : List String}
    {place number : Nat}
    (there : texts[place]? = some (toString number)) :
    (ofTexts texts).number? place =
      if number < Text.valueCount 32 then some number else none := by
  rw [number?, get?_ofTexts, there, Option.bind_some, Text.trim_toString,
    Text.readUnsigned_toString]

end Row

section Ordinals

variable {α : Type} {items : List α}

/-- What is written for an item carries the item's place, counted from one. -/
theorem getElem?_map_zipIdx_one (write : α → Nat → Row) (place : Nat) :
    ((items.zipIdx 1).map fun (item, ordinal) => write item ordinal)[place]? =
      items[place]?.map fun item => write item (place + 1) := by
  rw [List.getElem?_map, List.getElem?_zipIdx, Option.map_map, Nat.add_comm 1]
  rfl

/-- What is read from the rows of some items does not depend on ordinals. -/
theorem map_map_zipIdx_one
    {β : Type}
    {write : α → Nat → Row}
    {read : Row → β}
    {image : α → β}
    (each : ∀ item ordinal, read (write item ordinal) = image item) :
    ((items.zipIdx 1).map fun (item, ordinal) => write item ordinal).map read =
      items.map image := by
  rw [List.map_map]
  calc
    (items.zipIdx 1).map _
      = (items.zipIdx 1).map (image ∘ Prod.fst) :=
        List.map_congr_left fun entry _ => each entry.1 entry.2
    _ = items.map image := by rw [← List.map_map, List.zipIdx_map_fst]

/-- All ordinals of some items stay below a bound if their number does. -/
theorem ordinals_lt_iff (nonempty : items ≠ []) {bound : Nat} :
    (∀ place item, items[place]? = some item → place + 1 < bound) ↔
      items.length < bound := by
  have positive := List.length_pos_of_ne_nil nonempty
  constructor
  · intro each
    have last : items[items.length - 1]? = some (items.getLast nonempty) := by
      rw [← List.getLast?_eq_getElem?, List.getLast?_eq_some_getLast nonempty]
    have fits := each _ _ last
    omega
  · intro fits place item present
    have inside := (List.getElem?_eq_some_iff.1 present).1
    omega

end Ordinals

namespace MySql

/-! ## Rows of indexes -/

/-- The row that is written for a column of an index is sound at its place, as
far as its ordinal is a number of the catalog. -/
theorem isIndexRow_indexRow_iff
    {isUnique : Bool}
    {column : String}
    {place : Nat} :
    IsIndexRow place (indexRow isUnique column (place + 1)) ↔
      place + 1 < Text.valueCount 32 := by
  have ordinal :
      (indexRow isUnique column (place + 1)).number? 2 =
        if place + 1 < Text.valueCount 32 then some (place + 1) else none :=
    Row.number?_ofTexts rfl
  constructor
  · intro sound
    by_contra tooGreat
    rw [if_neg tooGreat, sound.ordinal] at ordinal
    cases ordinal
  · intro fits
    rw [if_pos fits] at ordinal
    have flag : ((indexRow isUnique column (place + 1)).number? 0).isSome := by
      cases isUnique <;> rfl
    exact ⟨flag, rfl, ordinal⟩

/-- Of such a row, the column and the uniqueness are kept. -/
theorem indexPartOf_indexRow
    (isUnique : Bool)
    (column : String)
    (ordinal : Nat) :
    indexPartOf (indexRow isUnique column ordinal) =
      { column, allowsRepeats := !isUnique } := by
  cases isUnique <;> rfl

/-- An index as the catalog describes it. -/
def DescribedIndex.definition (index : DescribedIndex) : IndexDefinition where
  columns := index.columns
  isPrimary := index.name == primaryIndexName
  isUnique := index.isUnique

/-- All rows of an index are sound if the last one is, which has the greatest
ordinal. -/
theorem DescribedIndex.isIndexRow_rows_iff (index : DescribedIndex) :
    (∀ place row, index.rows[place]? = some row → IsIndexRow place row) ↔
      index.columns.length < Text.valueCount 32 := by
  rw [← ordinals_lt_iff index.nonempty]
  simp only [rows, getElem?_map_zipIdx_one (indexRow index.isUnique),
    Option.map_eq_some_iff]
  constructor
  · intro sound place column present
    exact isIndexRow_indexRow_iff.1 (sound place _ ⟨column, present, rfl⟩)
  · rintro fit place _ ⟨column, present, rfl⟩
    exact isIndexRow_indexRow_iff.2 (fit place column present)

theorem DescribedIndex.map_column_rows (index : DescribedIndex) :
    (index.rows.map fun row => (indexPartOf row).column) = index.columns := by
  have columns :
      (index.rows.map fun row => (indexPartOf row).column) =
        index.columns.map id :=
    map_map_zipIdx_one fun column ordinal => by
      rw [indexPartOf_indexRow]
      rfl
  rw [columns, List.map_id]

/-- Every row of an index tells whether the index is unique. -/
theorem DescribedIndex.allowsRepeats_of_mem_rows
    {index : DescribedIndex}
    {row : Row}
    (member : row ∈ index.rows) :
    (indexPartOf row).allowsRepeats = !index.isUnique := by
  obtain ⟨⟨column, ordinal⟩, -, rfl⟩ := List.mem_map.1 member
  rw [indexPartOf_indexRow]

/-- An index is read back exactly if its ordinals are among the catalog's
numbers. -/
theorem DescribedIndex.indexOfRows_rows_iff
    (index : DescribedIndex)
    (table : String)
    (definition : IndexDefinition) :
    indexOfRows table index.name index.rows = .ok definition ↔
      index.columns.length < Text.valueCount 32 ∧
        definition = index.definition := by
  have nonempty : index.rows ≠ [] := by
    have rowed := index.nonempty
    rw [← index.map_column_rows, Ne, List.map_eq_nil_iff] at rowed
    exact rowed
  have isLast := List.getLast?_eq_some_getLast nonempty
  have repeats := allowsRepeats_of_mem_rows (List.getLast_mem nonempty)
  rw [indexOfRows_eq_ok_iff, index.isIndexRow_rows_iff]
  apply and_congr_right'
  simp only [isLast, Option.some.injEq, exists_eq_left', repeats,
    index.map_column_rows, Bool.not_not]
  rfl

/-! ## Rows of foreign keys -/

/-- The row that is written for a column of a foreign key is sound at its place,
as far as its ordinal is a number of the catalog. -/
theorem isForeignKeyRow_foreignKeyRow_iff
    {target : String}
    {link : String × String}
    {place : Nat} :
    IsForeignKeyRow target place (foreignKeyRow target link (place + 1)) ↔
      place + 1 < Text.valueCount 32 := by
  have ordinal :
      (foreignKeyRow target link (place + 1)).number? 1 =
        if place + 1 < Text.valueCount 32 then some (place + 1) else none :=
    Row.number?_ofTexts rfl
  constructor
  · intro sound
    by_contra tooGreat
    rw [if_neg tooGreat, sound.ordinal] at ordinal
    cases ordinal
  · intro fits
    rw [if_pos fits] at ordinal
    exact ⟨rfl, ordinal, rfl, rfl⟩

/-- A foreign key as the catalog describes it. -/
def DescribedForeignKey.definition (key : DescribedForeignKey) :
    ForeignKeyDefinition where
  columns := key.links.map (·.1)
  targetTable := key.targetTable
  targetColumns := key.links.map (·.2)

/-- All rows of a foreign key are sound if the last one is; they refer to one
table anyway. -/
theorem DescribedForeignKey.isForeignKeyRow_rows_iff
    (key : DescribedForeignKey) :
    (∃ target, ∀ place row, key.rows[place]? = some row →
      IsForeignKeyRow target place row) ↔
      key.links.length < Text.valueCount 32 := by
  rw [← ordinals_lt_iff key.nonempty]
  simp only [rows, getElem?_map_zipIdx_one (foreignKeyRow key.targetTable),
    Option.map_eq_some_iff]
  constructor
  · rintro ⟨target, sound⟩ place link present
    have row := sound place _ ⟨link, present, rfl⟩
    obtain rfl : key.targetTable = target := Option.some.inj row.target
    exact isForeignKeyRow_foreignKeyRow_iff.1 row
  · intro fit
    refine ⟨key.targetTable, ?_⟩
    rintro place _ ⟨link, present, rfl⟩
    exact isForeignKeyRow_foreignKeyRow_iff.2 (fit place link present)

/-- A foreign key is read back exactly if its ordinals are among the catalog's
numbers. -/
theorem DescribedForeignKey.foreignKeyOfRows_rows_iff
    (key : DescribedForeignKey)
    (table : String)
    (definition : ForeignKeyDefinition) :
    foreignKeyOfRows table key.name key.rows = .ok definition ↔
      key.links.length < Text.valueCount 32 ∧ definition = key.definition := by
  have columns :
      (key.rows.map fun row => (foreignKeyPartOf row).column) =
        key.links.map (·.1) :=
    map_map_zipIdx_one fun _ _ => rfl
  have targetColumns :
      (key.rows.map fun row => (foreignKeyPartOf row).targetColumn) =
        key.links.map (·.2) :=
    map_map_zipIdx_one fun _ _ => rfl
  obtain ⟨link, links, split⟩ := List.exists_cons_of_ne_nil key.nonempty
  have first :
      key.rows.head? = some (foreignKeyRow key.targetTable link 1) := by
    rw [rows, split]
    rfl
  rw [foreignKeyOfRows_eq_ok_iff, key.isForeignKeyRow_rows_iff]
  apply and_congr_right'
  simp only [first, Option.some.injEq, exists_eq_left', columns, targetColumns]
  rfl

end MySql
end Catalog
end TypedSql
