/-!
# Canonical types

The closed set of column types that schemas and results speak of.  Declared
lengths and precisions are not part of a canonical type.  The order of the
types is the order of their declaration.
-/

namespace TypedSql

/-- The width of an integer in bits. -/
inductive IntegerWidth where
  | eight
  | sixteen
  | thirtyTwo
  | sixtyFour
  deriving DecidableEq, Repr

/-- A column type that does not depend on the database engine. -/
inductive CanonicalType where
  | float32
  | float64
  | bool
  | int8
  | uint8
  | int16
  | uint16
  | int32
  | uint32
  | int64
  | uint64
  | time
  | bit
  | json
  | string
  deriving DecidableEq, Repr

/-- A name that no canonical type has. -/
structure UnknownCanonicalType where
  name : String
  deriving DecidableEq, Repr

/-- The unknown name in words. -/
def UnknownCanonicalType.message (unknown : UnknownCanonicalType) : String :=
  s!"Unknown canonical type: '{unknown.name}'"

namespace CanonicalType

/-- Every canonical type, in order. -/
def all : List CanonicalType :=
  [float32, float64, bool, int8, uint8, int16, uint16, int32, uint32, int64,
    uint64, time, bit, json, string]

/-- The name by which type maps and templates refer to the type. -/
def name : CanonicalType → String
  | float32 => "float32"
  | float64 => "float64"
  | bool => "bool"
  | int8 => "int8"
  | uint8 => "uint8"
  | int16 => "int16"
  | uint16 => "uint16"
  | int32 => "int32"
  | uint32 => "uint32"
  | int64 => "int64"
  | uint64 => "uint64"
  | time => "time"
  | bit => "bit"
  | json => "json"
  | string => "string"

instance : ToString CanonicalType := ⟨name⟩

/-- The type of a name, which must match exactly. -/
def ofName? (text : String) : Option CanonicalType :=
  all.find? fun type => type.name == text

/-- Read the name of a type. -/
def parse (text : String) : Except UnknownCanonicalType CanonicalType :=
  match ofName? text with
  | some type => .ok type
  | none => .error ⟨text⟩

/-- The place of the type in the order. -/
def ordinal (type : CanonicalType) : Nat :=
  all.idxOf type

/-- The integer type of a signedness and a width. -/
def integer (unsigned : Bool) : IntegerWidth → CanonicalType
  | .eight => if unsigned then uint8 else int8
  | .sixteen => if unsigned then uint16 else int16
  | .thirtyTwo => if unsigned then uint32 else int32
  | .sixtyFour => if unsigned then uint64 else int64

theorem mem_all (type : CanonicalType) : type ∈ all := by
  cases type <;> decide

theorem ofName?_name (type : CanonicalType) :
    ofName? type.name = some type := by
  cases type <;> decide

theorem name_of_ofName?
    {text : String}
    {type : CanonicalType}
    (found : ofName? text = some type) :
    type.name = text := by
  simpa using List.find?_some found

theorem ofName?_eq_none_iff {text : String} :
    ofName? text = none ↔ ∀ type : CanonicalType, type.name ≠ text := by
  constructor
  · rintro absent type rfl
    rw [ofName?_name] at absent
    cases absent
  · intro foreign
    cases known : ofName? text with
    | none => rfl
    | some type => exact absurd (name_of_ofName? known) (foreign type)

theorem name_injective
    {left right : CanonicalType}
    (equal : left.name = right.name) :
    left = right := by
  have found := ofName?_name left
  rw [equal, ofName?_name] at found
  exact (Option.some.inj found).symm

/-- The ordinal of a type is its place among all types. -/
theorem getElem?_ordinal (type : CanonicalType) :
    all[type.ordinal]? = some type := by
  cases type <;> decide

theorem ordinal_injective
    {left right : CanonicalType}
    (equal : left.ordinal = right.ordinal) :
    left = right := by
  have found := getElem?_ordinal left
  rw [equal, getElem?_ordinal] at found
  exact (Option.some.inj found).symm

instance : Ord CanonicalType where
  compare left right := compare left.ordinal right.ordinal

/-- Types are compared by their places among all types. -/
theorem compare_eq (left right : CanonicalType) :
    compare left right = compare left.ordinal right.ordinal :=
  rfl

instance : Std.TransOrd CanonicalType where
  eq_swap := Std.OrientedOrd.eq_swap (α := Nat)
  isLE_trans := Std.TransOrd.isLE_trans (α := Nat)

instance : Std.LawfulEqOrd CanonicalType where
  compare_self := Std.ReflOrd.compare_self (α := Nat)
  eq_of_compare equal :=
    ordinal_injective (Std.LawfulEqOrd.eq_of_compare equal)

end CanonicalType
end TypedSql
