import TypedSql.CanonicalType
import TypedSql.Json.Basic

/-!
# Raw result columns

A connection reports each result column by low-level signals: the type that
the client library decodes it into, the type name that the server gives, and
nullability.  Some connections also know the unsigned flag and the display
length; the others leave them out.
-/

namespace TypedSql
namespace Catalog

/-- The type that a result column decodes into.  Columns that may be NULL
decode into wrappers, whose width only the type name tells. -/
inductive ScanType where
  | float32
  | float64
  | nullableFloat
  | integer (unsigned : Bool) (width : IntegerWidth)
  | nullableInteger
  | nullableTime
  | bytes
  | unknown
  deriving DecidableEq, Repr

namespace ScanType

/-- The name of the type in reports. -/
def label : ScanType → String
  | float32 => "Float32"
  | float64 => "Float64"
  | nullableFloat => "NullFloat"
  | integer false .eight => "Int8"
  | integer false .sixteen => "Int16"
  | integer false .thirtyTwo => "Int32"
  | integer false .sixtyFour => "Int64"
  | integer true .eight => "Uint8"
  | integer true .sixteen => "Uint16"
  | integer true .thirtyTwo => "Uint32"
  | integer true .sixtyFour => "Uint64"
  | nullableInteger => "NullInt"
  | nullableTime => "NullTime"
  | bytes => "RawBytes"
  | unknown => "Unknown"

/-- The type as it is shown in messages. -/
def text : ScanType → String
  | float32 => "f32"
  | float64 => "f64"
  | nullableFloat => "Option<f64>"
  | integer false .eight => "i8"
  | integer false .sixteen => "i16"
  | integer false .thirtyTwo => "i32"
  | integer false .sixtyFour => "i64"
  | integer true .eight => "u8"
  | integer true .sixteen => "u16"
  | integer true .thirtyTwo => "u32"
  | integer true .sixtyFour => "u64"
  | nullableInteger => "Option<i64>"
  | nullableTime => "Option<time>"
  | bytes => "bytes"
  | unknown => "unknown"

/-- Every scan type. -/
def all : List ScanType :=
  [float32, float64, nullableFloat] ++
    [.eight, .sixteen, .thirtyTwo, .sixtyFour].map (integer false) ++
    [.eight, .sixteen, .thirtyTwo, .sixtyFour].map (integer true) ++
    [nullableInteger, nullableTime, bytes, unknown]

theorem mem_all (type : ScanType) : type ∈ all := by
  rcases type with _ | _ | _ | ⟨unsigned, width⟩ | _ | _ | _ | _
  case integer => cases unsigned <;> cases width <;> decide
  all_goals decide

end ScanType

/-- What only some connections know of a field. -/
structure FieldFlags where
  /-- Whether the column is declared unsigned. -/
  unsigned : Bool := false
  /-- The declared display length. -/
  length : Option Nat := none
  deriving DecidableEq, Repr

/-- One result column as a connection reports it. -/
structure RawColumn where
  /-- The column's name, or its alias. -/
  name : String
  scanType : ScanType
  /-- The type name that the server reports. -/
  typeName : String
  nullable : Option Bool := none
  field : Option FieldFlags := none
  deriving DecidableEq, Repr

namespace RawColumn

/-- Whether the column is known to be unsigned. -/
def isUnsigned (column : RawColumn) : Bool :=
  column.field.any (·.unsigned)

/-- The display length, if it is known. -/
def length? (column : RawColumn) : Option Nat :=
  column.field.bind (·.length)

/-- The column with all of its signals. -/
def toJson (column : RawColumn) : Json :=
  .object
    [("name", .text column.name),
      ("scan_type", .text column.scanType.label),
      ("database_type_name", .text column.typeName),
      ("nullable", .optional .bool column.nullable),
      ("field", .optional writeFlags column.field)]
where
  writeFlags (flags : FieldFlags) : Json :=
    .object
      [("unsigned", .bool flags.unsigned),
        ("length", .optional .ofNat flags.length)]

end RawColumn
end Catalog
end TypedSql
