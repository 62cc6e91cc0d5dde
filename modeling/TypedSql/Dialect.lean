/-!
# SQL dialects

The members of the MySQL family and how they write an identifier inside SQL
text: between backticks, every backtick of the identifier doubled.
-/

namespace TypedSql

/-- A member of the MySQL family. -/
inductive Dialect where
  | mySql
  | tiDb
  | mariaDb
  deriving DecidableEq, Repr

namespace Dialect

/-- The lowercase name, under which the dialect's driver is registered. -/
def name : Dialect → String
  | mySql => "mysql"
  | tiDb => "tidb"
  | mariaDb => "mariadb"

/-- The mark at both ends of a quoted identifier. -/
def quoteMark : Char := '\x60'

/-- The characters of an identifier with every quote mark doubled. -/
def doubleMarks (identifier : List Char) : List Char :=
  identifier.flatMap fun c => if c = quoteMark then [c, c] else [c]

/-- An identifier as it is written inside SQL text. -/
def quote : Dialect → String → String
  | mySql, identifier | tiDb, identifier | mariaDb, identifier =>
    String.ofList (quoteMark :: doubleMarks identifier.toList ++ [quoteMark])

@[simp] theorem doubleMarks_nil : doubleMarks [] = [] :=
  rfl

theorem doubleMarks_cons (c : Char) (rest : List Char) :
    doubleMarks (c :: rest) =
      (if c = quoteMark then [c, c] else [c]) ++ doubleMarks rest :=
  rfl

/-- All dialects of the family quote alike. -/
theorem quote_eq (dialect : Dialect) (identifier : String) :
    dialect.quote identifier =
      String.ofList
        (quoteMark :: doubleMarks identifier.toList ++ [quoteMark]) := by
  cases dialect <;> rfl

end Dialect
end TypedSql
