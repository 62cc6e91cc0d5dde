import TypedSql.Catalog.Row
import TypedSql.Proofs.Result

/-!
# Values of catalog rows

When a value of a row can be read, and what is wrong with the row when it
cannot.  Ordinals are compared with sums, which stay among the numbers of the
catalog only as long as there are few rows.
-/

namespace TypedSql
namespace Catalog

namespace Row

variable {row : Row} {place : Nat} {what : String} {failure : Error}

theorem text_eq_ok_iff {value : String} :
    row.text place what = .ok value ↔ row.get? place = some value := by
  rw [text]
  cases row.get? place <;> simp

/-- A missing value is reported by the name of its column. -/
theorem text_eq_error_iff :
    row.text place what = .error failure ↔
      row.get? place = none ∧
        failure = .inconsistent (.unexpectedNull what) := by
  rw [text]
  cases row.get? place <;> simp [eq_comm]

/-- The number at a place of a row, if one is written there. -/
def number? (row : Row) (place : Nat) : Option Nat :=
  (row.get? place).bind fun value => Text.readUnsigned 32 (Text.trim value)

/-- What is wrong with a place of a row at which there is no number. -/
inductive LacksNumber (row : Row) (place : Nat) (what : String) :
    Inconsistency → Prop where
  | absent (null : row.get? place = none) :
      LacksNumber row place what (.unexpectedNull what)
  | malformed
      {value : String}
      (present : row.get? place = some value)
      (unread : Text.readUnsigned 32 (Text.trim value) = none) :
      LacksNumber row place what (.malformed what value)

theorem number_eq_ok_iff {number : Nat} :
    row.number place what = .ok number ↔ row.number? place = some number := by
  rw [Row.number, read, Result.bind_eq_ok_iff, number?, Option.bind_eq_some_iff]
  apply exists_congr
  intro value
  rw [text_eq_ok_iff]
  cases Text.readUnsigned 32 (Text.trim value) <;> simp

/-- The cause tells a missing value from one that is no number. -/
theorem number_eq_error_iff :
    row.number place what = .error failure ↔
      ∃ cause,
        row.LacksNumber place what cause ∧ failure = .inconsistent cause := by
  rw [Row.number, read, Result.bind_eq_error_iff, text_eq_error_iff]
  constructor
  · rintro (⟨null, rfl⟩ | ⟨value, present, failed⟩)
    · exact ⟨_, .absent null, rfl⟩
    · split at failed
      next => cases failed
      next unread =>
        cases failed
        exact ⟨_, .malformed (text_eq_ok_iff.1 present) unread, rfl⟩
  · rintro ⟨_, lacks, rfl⟩
    cases lacks with
    | absent null => exact .inl ⟨null, rfl⟩
    | malformed present unread =>
        refine .inr ⟨_, text_eq_ok_iff.2 present, ?_⟩
        rw [unread]

/-- Of rows that all have a value at a place, none is left out. -/
theorem map_some_get?
    {rows : List Row}
    (present : ∀ row ∈ rows, (row.get? place).isSome) :
    (rows.map fun row => (row.get? place).getD "").map some =
      rows.map (·.get? place) := by
  rw [List.map_map]
  apply List.map_congr_left
  intro row member
  obtain ⟨value, found⟩ := Option.isSome_iff_exists.1 (present row member)
  rw [Function.comp, found, Option.getD_some]

end Row

section Ordinals

variable {previous current : Nat} {what : String}

theorem expectNextOrdinal_eq_ok_iff {value : Unit} :
    expectNextOrdinal previous current what = .ok value ↔
      current = previous + 1 := by
  unfold expectNextOrdinal
  split <;> simp [*]

/-- Any other ordinal than the next one is reported, together with the one
before it. -/
theorem expectNextOrdinal_eq_error_iff {failure : Error} :
    expectNextOrdinal previous current what = .error failure ↔
      current ≠ previous + 1 ∧
        failure = .inconsistent (.badOrdinal what previous current) := by
  unfold expectNextOrdinal
  split <;> simp [*, eq_comm]

/-- Expect the next ordinal among numbers of 32 bits; there is no result when
the sum that it is compared with is not one of them. -/
def expectNextWord
    (previous current : Nat)
    (what : String) :
    ExceptT Error Option Unit :=
  if previous + 1 < Text.valueCount 32 then
    liftM (expectNextOrdinal previous current what)
  else
    .mk none

end Ordinals

end Catalog
end TypedSql
