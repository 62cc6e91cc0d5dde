/-!
# Positions in a document

Lines and columns count from one.  A line feed ends a line; every other
character, carriage returns included, takes up one column.
-/

namespace TypedSql
namespace Markup

/-- A line and a column. -/
structure Position where
  line : Nat
  column : Nat
  deriving DecidableEq, Repr

namespace Position

/-- The first position of a document. -/
def start : Position := ⟨1, 1⟩

/-- The position behind one character. -/
def next (position : Position) (c : Char) : Position :=
  if c = '\n' then
    ⟨position.line + 1, 1⟩
  else
    ⟨position.line, position.column + 1⟩

/-- The position behind a text. -/
def advance (position : Position) (text : List Char) : Position :=
  text.foldl next position

theorem advance_append
    (position : Position)
    (first second : List Char) :
    position.advance (first ++ second) =
      (position.advance first).advance second :=
  List.foldl_append

end Position
end Markup
end TypedSql
