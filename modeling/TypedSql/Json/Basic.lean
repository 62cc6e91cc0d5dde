/-!
# JSON values

Values of the JSON data format.  An object keeps its fields in the order in
which they are written, repeated names included, and a number keeps the text
of its literal, so that nothing is lost between reading and writing.
-/

namespace TypedSql

/-- A JSON value. -/
inductive Json where
  | null
  | bool (value : Bool)
  | number (literal : String)
  | text (value : String)
  | list (items : List Json)
  | object (fields : List (String × Json))
  deriving Inhabited

namespace Json

/-- A natural number. -/
def ofNat (n : Nat) : Json :=
  .number (toString n)

/-- A list of texts. -/
def texts (values : List String) : Json :=
  .list (values.map .text)

/-- A list of natural numbers. -/
def naturals (values : List Nat) : Json :=
  .list (values.map ofNat)

/-- A value that may be absent, which is written as null. -/
def optional {α : Type} (write : α → Json) : Option α → Json
  | none => .null
  | some value => write value

end Json
end TypedSql
