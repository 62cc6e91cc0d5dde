import TypedSql.Catalog.RawColumn
import TypedSql.Catalog.Error
import TypedSql.Schema

/-!
# Column types of the MySQL family

The type name that the server renders for a column decides how the column
decodes, and the decoded type, the type name and the field flags together
decide its canonical type.

| decoded type       | type name       | canonical type           |
|--------------------|-----------------|--------------------------|
| float              | any             | same width               |
| nullable float     | FLOAT, DOUBLE   | float32, float64         |
| 8-bit signed       | display width 1 | bool                     |
| integer            | any             | same sign and width      |
| nullable integer   | integer names   | bool or the name's width |
| nullable time      | any             | time                     |
| bytes              | BIT, JSON       | bit, json                |
| bytes              | any other       | string                   |

Everything else is refused.
-/

namespace TypedSql
namespace Catalog
namespace MySql

/-- What a type name says of a column. -/
inductive TypeFamily where
  | integer (width : IntegerWidth)
  | float
  | double
  | temporal
  | bit
  | json
  /-- The type of a bare NULL. -/
  | null
  /-- Everything that is read as text or bytes. -/
  | textual
  deriving DecidableEq, Repr

namespace TypeFamily

/-- The family of a type name without its unsigned mark.  There is no 24-bit
canonical type, so `MEDIUMINT` counts as 32 bits wide. -/
def ofName : String → TypeFamily
  | "TINYINT" => integer .eight
  | "SMALLINT" | "YEAR" => integer .sixteen
  | "MEDIUMINT" | "INT" => integer .thirtyTwo
  | "BIGINT" => integer .sixtyFour
  | "FLOAT" => float
  | "DOUBLE" => double
  | "DATE" | "TIME" | "DATETIME" | "TIMESTAMP" => temporal
  | "BIT" => bit
  | "JSON" => json
  | "NULL" => null
  | _ => textual

/-- The type that a column of the family decodes into. -/
def scanType (family : TypeFamily) (unsigned nullable : Bool) : ScanType :=
  match family with
  | integer width =>
    if nullable then .nullableInteger else .integer unsigned width
  | float => if nullable then .nullableFloat else .float32
  | double => if nullable then .nullableFloat else .float64
  | temporal => .nullableTime
  | null => .unknown
  | bit | json | textual => .bytes

end TypeFamily

/-- The mark of an unsigned type in a rendered type name. -/
def unsignedMark : String := " UNSIGNED"

/-- Split a rendered type name into the bare name, whether it carries the
unsigned mark, and the display length.  An eight-bit integer of display length
one is rendered as `BOOLEAN`. -/
def splitTypeName (rendered : String) : String × Bool × Option Nat :=
  if rendered = "BOOLEAN" then
    ("TINYINT", false, some 1)
  else
    match unsignedMark.toList.isSuffixOf? rendered.toList with
    | some bare => (String.ofList bare, true, none)
    | none => (rendered, false, none)

/-- The signals of a column, from its rendered type name and what is known of
its unsigned flag.  Years are always unsigned. -/
def rawColumn
    (name rendered : String)
    (nullable : Option Bool)
    (unsignedFlag : Bool := false) :
    RawColumn :=
  let (bare, marked, length) := splitTypeName rendered
  let unsigned := unsignedFlag || marked || bare == "YEAR"
  { name
    scanType :=
      (TypeFamily.ofName bare).scanType unsigned (nullable.getD true)
    typeName := bare
    nullable
    field := some { unsigned, length } }

/-- The canonical type of a result column. -/
def classify (column : RawColumn) : Except Error CanonicalType :=
  let family := TypeFamily.ofName column.typeName
  match column.scanType, family with
  | .float32, _ | .nullableFloat, .float => .ok .float32
  | .float64, _ | .nullableFloat, .double => .ok .float64
  | .integer unsigned width, _ =>
    .ok (integerType unsigned width)
  | .nullableInteger, .integer width =>
    .ok (integerType column.isUnsigned width)
  | .nullableTime, _ => .ok .time
  | .bytes, .bit => .ok .bit
  | .bytes, .json => .ok .json
  | .bytes, _ => .ok .string
  | .nullableFloat, _ | .nullableInteger, _ | .unknown, _ =>
    .error
      (.unclassifiedColumn column.name column.scanType.text column.typeName)
where
  /-- A signed eight-bit integer of display length one is a truth value. -/
  integerType (unsigned : Bool) (width : IntegerWidth) : CanonicalType :=
    if !unsigned && width = .eight && column.length? = some 1 then
      .bool
    else
      .integer unsigned width

/-- Classify the columns of a result.  A column of unknown nullability may be
NULL. -/
def classifyAll (described : List RawColumn) : Except Error (List Column) :=
  described.zipIdx.mapM fun (column, position) => do
    let dataType ← classify column
    pure
      { name := column.name
        position
        dataType
        nullable := column.nullable.getD true }

end MySql
end Catalog
end TypedSql
