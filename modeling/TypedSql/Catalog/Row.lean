import TypedSql.Catalog.Error
import TypedSql.Text.Blank
import TypedSql.Text.Number

/-!
# Rows of catalog queries

Every value of a catalog row is text or NULL.  Reading a value names what it
stands for, so that a missing or malformed one can be reported.  Sequences of
ordinals in catalog rows start at one and have no gaps.
-/

namespace TypedSql
namespace Catalog

/-- One row of a query result. -/
structure Row where
  values : List (Option String)
  deriving DecidableEq, Repr

namespace Row

/-- A row without NULL values. -/
def ofTexts (texts : List String) : Row :=
  ⟨texts.map some⟩

/-- The number of values. -/
def size (row : Row) : Nat :=
  row.values.length

/-- Whether the row has no values. -/
def isEmpty (row : Row) : Bool :=
  row.values.isEmpty

/-- The text at a place that is there and not NULL. -/
def get? (row : Row) (place : Nat) : Option String :=
  row.values[place]?.join

/-- The text at a place where there must be one. -/
def text (row : Row) (place : Nat) (what : String) : Except Error String :=
  match row.get? place with
  | some value => .ok value
  | none => .error (.inconsistent (.unexpectedNull what))

/-- The value at a place, read from its text without the outer blanks. -/
def read
    {α : Type}
    (decode : String → Option α)
    (row : Row)
    (place : Nat)
    (what : String) :
    Except Error α := do
  let value ← row.text place what
  match decode (Text.trim value) with
  | some result => .ok result
  | none => .error (.inconsistent (.malformed what value))

/-- The catalog's numbers are unsigned and have 32 bits. -/
def number : Row → Nat → String → Except Error Nat :=
  read (Text.readUnsigned 32)

end Row

/-- Ordinals follow each other without gaps. -/
def expectNextOrdinal
    (previous current : Nat)
    (what : String) :
    Except Error Unit :=
  if current = previous + 1 then
    .ok ()
  else
    .error (.inconsistent (.badOrdinal what previous current))

end Catalog
end TypedSql
